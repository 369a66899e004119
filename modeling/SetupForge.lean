import SetupForge.Text.Blank
import SetupForge.Text.Word
import SetupForge.Text.LetterCase
import SetupForge.Text.Digit
import SetupForge.Text.Quoted
import SetupForge.Text.Search
import SetupForge.Text.Lines
import SetupForge.Text.Base64
import SetupForge.Text.Composed
import SetupForge.Text.Direction
import SetupForge.Text.Punycode
import SetupForge.Script.Section
import SetupForge.Pascal.Block
import SetupForge.Disk
import SetupForge.Journal
import SetupForge.Policy.Runtime
import SetupForge.Host
import SetupForge.Script.GeneratedCode
import SetupForge.Number.Read
import SetupForge.Value.Display
import SetupForge.Json.Read
import SetupForge.Settings.Resolve
import SetupForge.Settings.EnvFile
import SetupForge.Yaml.Cursor
import SetupForge.Yaml.PlainText
import SetupForge.Yaml.QuotedText
import SetupForge.Yaml.BlockText
import SetupForge.Yaml.Token
import SetupForge.Yaml.Layout
import SetupForge.Yaml.Scalar
import SetupForge.Yaml.Graph
import SetupForge.Yaml.Document
import SetupForge.Yaml.Assembly
import SetupForge.Yaml.Read
import SetupForge.Settings.File
import SetupForge.Settings.Check
import SetupForge.Digest.Sha256
import SetupForge.Digest.Checksum
import SetupForge.Deflate.Code
import SetupForge.Deflate.Inflate
import SetupForge.Deflate.Wrapped
import SetupForge.Address.Basic
import SetupForge.Address.Label
import SetupForge.Address.Login
import SetupForge.Address.Resolve
import SetupForge.Download.Coding
import SetupForge.Download.Server
import SetupForge.Download.Fetch
import SetupForge.Download.File
import SetupForge.Script.FileEntry
import SetupForge.Script.Sync
import SetupForge.Version.Timestamp
import SetupForge.Version.Replacement
import SetupForge.Version.Element
import SetupForge.Version.Project
import SetupForge.Version.Identity
import SetupForge.Version.Define
import SetupForge.Version.Stamp
import SetupForge.Build.ToolOutput
import SetupForge.Build.Tool
import SetupForge.Build.Project
import SetupForge.Build.Signing
import SetupForge.Build.SetupCompiler
import SetupForge.Build.SettingsPath
import SetupForge.Build.Publish
import SetupForge.Build.Run
import SetupForge.CommandLine.Grammar
import SetupForge.CommandLine.Arguments
import SetupForge.CommandLine.Command
import SetupForge.CommandLine.Execute
import SetupForge.Main
import SetupForge.Proofs.Pascal.BlockShape
import SetupForge.Proofs.Script.FilledLine
import SetupForge.Proofs.Script.GeneratedBlock
import SetupForge.Proofs.Cleanup.Sweep
import SetupForge.Proofs.Cleanup.Copies
import SetupForge.Proofs.Sync.Insertion
import SetupForge.Proofs.Sync.Generation
import SetupForge.Proofs.Sync.Resting
import SetupForge.Proofs.Sync.History
import SetupForge.Proofs.Sync.Repetition
import SetupForge.Proofs.Cleanup.Cuts
import SetupForge.Proofs.Cleanup.Headings
import SetupForge.Proofs.Script.SectionBody
import SetupForge.Proofs.Sync.Additions
import SetupForge.Proofs.Sync.LevelDrop
import SetupForge.Proofs.Sync.Declaration
import SetupForge.Proofs.Text.LineBreaks
import SetupForge.Proofs.Text.Encodings
import SetupForge.Proofs.Script.Saving
import SetupForge.Proofs.Disk.Tree
import SetupForge.Proofs.Disk.Jobs
import SetupForge.Proofs.Download.Kept
import SetupForge.Proofs.Sync.Report
import SetupForge.Proofs.Disk.Holding
import SetupForge.Proofs.Host.Works
import SetupForge.Proofs.Download.Work
import SetupForge.Proofs.Sync.Work
import SetupForge.Proofs.Version.Work
import SetupForge.Proofs.Build.Work
import SetupForge.Proofs.Build.Calls
import SetupForge.Proofs.Build.SavedScript
import SetupForge.Proofs.Build.Outcomes
import SetupForge.Proofs.Disk.Listing
import SetupForge.Proofs.Script.FilesBody
import SetupForge.Proofs.Sync.Launch
import SetupForge.Proofs.Sync.Copy
import SetupForge.Proofs.Sync.Delivery
import SetupForge.Proofs.Results
import SetupForge.Proofs.Text.Numerals
import SetupForge.Proofs.Settings.Lineage
import SetupForge.Proofs.Settings.Malformed
import SetupForge.Proofs.Host.Twins
import SetupForge.Proofs.Settings.Verdict
import SetupForge.Proofs.Build.Twins
import SetupForge.Proofs.Build.Secrecy
import SetupForge.Proofs.Build.Checks
import SetupForge.Proofs.Text.Decoding
import SetupForge.Proofs.Text.UnifiedBreaks
import SetupForge.Proofs.Script.Reloading
import SetupForge.Proofs.Disk.Contents
import SetupForge.Proofs.Path.Names
import SetupForge.Proofs.Download.Receipt
import SetupForge.Proofs.Download.Failing
import SetupForge.Proofs.Download.Inside
import SetupForge.Proofs.Disk.Folders
import SetupForge.Proofs.Download.Cache
import SetupForge.Proofs.Script.FilesOrder
import SetupForge.Proofs.Sync.Rebuilding
import SetupForge.Proofs.Script.Rereading
import SetupForge.Proofs.Script.FilesReread
import SetupForge.Proofs.Sync.Refiling
import SetupForge.Proofs.Sync.Provision
import SetupForge.Proofs.Pascal.Scanner
import SetupForge.Proofs.Pascal.BlockBalance
import SetupForge.Proofs.Cleanup.Leftovers
import SetupForge.Proofs.Cleanup.PastedValues
import SetupForge.Proofs.Script.SectionEdits
import SetupForge.Proofs.Script.TextAndLines
import SetupForge.Proofs.Script.FilledAtOnce
import SetupForge.Proofs.Script.InstallerNames
import SetupForge.Proofs.Settings.Options
import SetupForge.Proofs.Settings.Expansion
import SetupForge.Proofs.Settings.Spellings
import SetupForge.Proofs.Build.FreshUninstaller
import SetupForge.Proofs.Text.LeadingBlanks
import SetupForge.Proofs.Version.VersionLines
import SetupForge.Proofs.Text.LineFeeds
import SetupForge.Proofs.Version.Elements
import SetupForge.Proofs.Version.ProjectText
import SetupForge.Proofs.Version.IdentityPlaces
import SetupForge.Proofs.Version.StampedText
import SetupForge.Proofs.Version.Restamping
import SetupForge.Proofs.Script.PlainLines
import SetupForge.Proofs.Version.StampedScript
import SetupForge.Proofs.Version.Targets
import SetupForge.Proofs.Version.Listed
import SetupForge.Proofs.Version.TimeOrder
import SetupForge.Proofs.Version.DefinedVersion
import SetupForge.Proofs.Cleanup.Positions
import SetupForge.Proofs.Script.CreatedSections
