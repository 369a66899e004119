import SetupForge.Digest.Sha256
import SetupForge.Download.Fetch
import SetupForge.Policy.Runtime

/-! # Downloaded files

A download goes to a partial file beside its target, and takes the target's name when it is
complete. Its digest can be checked. Runtime installers are kept in a folder, so that each
is downloaded once.
-/

namespace SetupForge.Download

def fileNameField : String := "filename="

def dropQuotes (text : List Char) : List Char :=
  ((text.dropWhile (· = '"')).reverse.dropWhile (· = '"')).reverse

/-- The file name that a Content-Disposition header gives. -/
def nameOfDisposition? (header : String) : Option String :=
  let parts := (Text.splitOn ';' header.toList).map Text.trimChars
  match parts.find? fun part => fileNameField.toList.isPrefixOf (Text.lowerChars part) with
  | none => none
  | some part =>
      let value := dropQuotes (Text.trimChars ((part.dropWhile (· ≠ '=')).drop 1))
      if value.isEmpty then none else some (String.ofList value)

def nameOfAddress (address : String) : Except Failure String :=
  match Address.fileName? address with
  | some name => .ok name
  | none => .error .unreadableAddress

/-- The name under which a response is kept unless one is given. -/
def nameOf (response : Response) : Except Failure String :=
  match nameOfDisposition? ((response.header? "Content-Disposition").getD "") with
  | some name => .ok name
  | none => nameOfAddress (String.ofList response.address)

def partialSuffix : String := ".part"

def partialPath (target : Path) : Path := target.parent.child (target.fileName ++ partialSuffix)

structure SavedFile where
  path : Path
  digest : String
deriving DecidableEq, Repr

def tenthsText (tenths : Nat) : String := s!"{tenths / 10}.{tenths % 10}"

/-- Whether a digest is expected that differs from another; case does not matter. -/
def isOther (digest expected : String) : Bool :=
  !expected.isEmpty && Text.lower expected != digest

/-- Downloads a file into a folder, under a given name or its own. With a digest given, a file with
another one is removed. -/
def file (url : String) (folder : Path) (name expected : Option String) : Job SavedFile := do
  Job.makeFolder folder
  Job.note (.verbose "HTTP" s!"GET {url}")
  match ← fetch url with
  | .error reason => Job.fail (.network (.failed url reason))
  | .ok response => do
      Job.note (.verbose "HTTP" s!"Response: {response.status} {response.reasonText}")
      let name ←
        match name.filter fun name => !name.isEmpty with
        | some name => pure name
        | none => (nameOf response : Except Failure String)
      let target := folder.join (Path.ofString name)
      if target.fileName.isEmpty then Job.fail .emptyFileName
      else do
        let part := partialPath target
        Job.note (.debug "FILE" s!"Downloading to: {part}")
        Job.store part []
        match response.decoded with
        | .error reason => do
            Job.store part response.received
            Job.unlink part
            Job.fail (.network (.interrupted url reason))
        | .ok body => do
            Job.store part body
            let digest := Sha256.hex body
            Job.rename part target
            match expected.filter (isOther digest) with
            | some expected => do
                Job.unlink target
                Job.fail (.network (.wrongDigest target.fileName digest expected))
            | none => do
                let seconds := tenthsText (← get).downloadTenths
                Job.note
                  (.verbose "FILE" s!"Download complete: {target} ({digest}) in {seconds}s")
                pure ⟨target, digest⟩

/-- The installer of a .NET major version, downloaded if it is not kept already. -/
def installer (runtime : RuntimeSettings) (major : Int) : Job Path := do
  match runtime.installer? major with
  | none => do
      Job.requireText major
      Job.reject (.noRuntime major)
  | some installer => do
      let kept := runtime.resourceFolder.join (Path.ofString installer.fileName)
      if ← Job.hasPath kept then
        Job.note (.verbose "FILE" s!"Using cached runtime installer: {kept}")
        pure kept
      else do
        Job.note
          (.verbose "FILE" s!"Runtime installer not cached, downloading {installer.fileName}")
        let download ←
          file (runtime.urlFor major) runtime.resourceFolder (some installer.fileName) none
        pure download.path

end SetupForge.Download
