import SetupForge.Proofs.Build.Work
import SetupForge.Proofs.Host.Twins

/-! # Publishing on hosts that differ in their records

Every step of publishing goes the same way on twins. What a tool is told may differ between the two
runs as long as the log stays close, since a process does what the host says and not what it is
started with.
-/

namespace SetupForge

open Job

variable {likeness : Likeness}

/-! ## Tools -/

namespace Tool

def startNote (tool : String) (arguments : List String) : Note :=
  let command := " ".intercalate (tool :: arguments)
  .verbose "TOOL" s!"Running: {command}"

/-- What a process does was settled before it is started. -/
theorem alike_start (process twin : ProcessStart) :
    Alike likeness (start process) (start twin) := by
  refine alike_get_bind fun host other h => ?_
  have hrun : nextRun other = nextRun host := by rw [nextRun, nextRun, h.toolRuns]
  have hafter : (afterStart process host).Twins likeness (afterStart twin other) := by
    rw [afterStart, afterStart, hrun]
    exact (h.start _ _).applyWrites _
  rw [hrun]
  exact (alike_set hafter).bind fun _ => alike_pure _

theorem alike_run {tool : String} {arguments others : List String}
    (h : likeness.Admits (.note (startNote tool arguments)) (.note (startNote tool others)))
    (folder : Option Path) (limit : Option String) :
    Alike likeness (run tool arguments folder limit) (run tool others folder limit) := by
  refine (alike_say h).bind fun _ => (alike_start _ _).bind fun result => ?_
  cases result with
  | finished output problems code => exact (alike_notes _).bind fun _ => alike_pure _
  | missing => exact alike_fail _
  | timedOut seconds => exact alike_fail _
  | notStarted reason => exact alike_fail _

theorem alike_runChecked {tool : String} {arguments others : List String}
    (h : likeness.Admits (.note (startNote tool arguments)) (.note (startNote tool others)))
    (folder : Option Path) (success : ToolOutput.Success) (fault : PackagingFault) :
    Alike likeness (runChecked tool arguments folder success fault)
      (runChecked tool others folder success fault) := by
  refine (alike_run h folder none).bind fun lines => ?_
  split
  · exact alike_pure ()
  · exact alike_fail _

end Tool

/-! ## Paths and settings -/

namespace SettingsPath

theorem alike_required (field relative workingPath : String) (canCreate : Bool) :
    Alike likeness (required field relative workingPath canCreate)
      (required field relative workingPath canCreate) := by
  unfold required
  split
  · exact alike_reject _
  · refine alike_get_bind fun host other h => ?_
    rw [located_congr h.folder]
    have hpath : ∀ found : Bool, Alike likeness
        (if found then pure (located host relative workingPath)
          else Job.reject (.pathMissing field (located host relative workingPath)) : Job Path)
        (if found then pure (located host relative workingPath)
          else Job.reject (.pathMissing field (located host relative workingPath)) : Job Path) := by
      intro found
      cases found with
      | true => exact alike_pure _
      | false => exact alike_reject _
    cases canCreate with
    | true => exact (alike_pure true).bind hpath
    | false => exact (alike_hasPath _).bind hpath

theorem alike_optional (field relative workingPath : String) (canCreate : Bool) :
    Alike likeness (optional field relative workingPath canCreate)
      (optional field relative workingPath canCreate) := by
  unfold optional
  split
  · exact alike_pure none
  · exact (alike_required field relative workingPath canCreate).bind fun _ => alike_pure _

end SettingsPath

theorem Action.alike_signing (action : Action) :
    Alike likeness action.signing action.signing :=
  (SettingsPath.alike_optional _ _ _ _).bind fun _ => alike_pure _

/-! ## Stamping and building -/

namespace Stamping

theorem alike_readFileText (path : Path) :
    Alike likeness (readFileText path) (readFileText path) := by
  refine (alike_hasPath path).bind fun found => ?_
  cases found with
  | true => exact alike_readText path
  | false => exact alike_reject _

theorem alike_project (path : Path) (version : String) :
    Alike likeness (project path version) (project path version) := by
  refine (alike_readFileText path).bind fun text => ?_
  cases ProjectVersion.stamp path version text with
  | ok stamped => exact alike_store path _
  | error failure => exact alike_fail _

end Stamping

namespace Project

theorem alike_removeFolder (folder : Path) :
    Alike likeness (removeFolder folder) (removeFolder folder) := by
  refine (alike_isFolder folder).bind fun found => ?_
  cases found with
  | false => exact alike_pure []
  | true =>
      refine alike_get_bind fun host other h => ?_
      rw [h.disk, h.folder]
      cases host.disk.locate host.folder folder with
      | error cause => exact alike_pure []
      | ok location => exact (alike_set (h.withDisk _)).bind fun _ => alike_pure [folder]

theorem alike_removeFolders (folder : Path) (names : List String) :
    Alike likeness (removeFolders folder names) (removeFolders folder names) := by
  induction names with
  | nil => exact alike_pure []
  | cons name names ih =>
      exact (alike_removeFolder _).bind fun _ => ih.bind fun _ => alike_pure _

theorem alike_clean (project : Path) : Alike likeness (clean project) (clean project) := by
  refine (alike_isFolder project.parent).bind fun found => ?_
  cases found with
  | true => exact (alike_note _).bind fun _ => alike_removeFolders _ _
  | false => exact alike_pure []

theorem alike_restore (project : Path) : Alike likeness (restore project) (restore project) :=
  (alike_note _).bind fun _ => Tool.alike_runChecked (likeness.admits_self _) _ _ _

theorem alike_publish (project : Path) (level : BuildLevel) :
    Alike likeness (publish project level) (publish project level) :=
  (alike_note _).bind fun _ => Tool.alike_runChecked (likeness.admits_self _) _ _ _

end Project

/-! ## Signing -/

namespace Signing

def startNote (target : Path) (settings : SigningSettings) : Note :=
  Tool.startNote settings.tool.toString (signArguments target settings)

/-- Whether two settings sign in the same way, but for what the tool is told in order to sign. -/
structure Matches (likeness : Likeness) (settings other : SigningSettings) : Prop where
  tool : other.tool = settings.tool
  mode : other.mode = settings.mode
  timestampUrl : other.timestampUrl = settings.timestampUrl
  start (target : Path) :
    likeness.Admits (.note (startNote target settings)) (.note (startNote target other))

theorem alike_checkPath (path : Path) (fault : PackagingFault) :
    Alike likeness (checkPath path fault) (checkPath path fault) := by
  refine (alike_hasPath path).bind fun found => ?_
  cases found with
  | true => exact alike_pure _
  | false => exact alike_fail _

theorem alike_signAndVerify {settings other : SigningSettings}
    (h : Matches likeness settings other) (target : Path) :
    Alike likeness (signAndVerify target settings) (signAndVerify target other) := by
  have hsign := h.start target
  have htimestamp : timestampArguments target other = timestampArguments target settings := by
    rw [timestampArguments, timestampArguments, h.timestampUrl]
  rw [startNote, startNote, h.tool] at hsign
  rw [signAndVerify_eq, signAndVerify_eq, runSteps, runSteps, h.tool, h.mode, htimestamp]
  unfold runStep
  rw [h.tool]
  exact (alike_checkPath _ _).bind fun _ => (alike_checkPath _ _).bind fun _ =>
    (alike_note _).bind fun _ => (Tool.alike_runChecked hsign _ _ _).bind fun _ =>
      (Tool.alike_runChecked (likeness.admits_self _) _ _ _).bind fun _ =>
        (Tool.alike_runChecked (likeness.admits_self _) _ _ _).bind fun _ => alike_note _

end Signing

/-! ## Compiling -/

namespace SetupCompiler

theorem alike_scriptFolder (script : Path) :
    Alike likeness (scriptFolder script) (scriptFolder script) := by
  refine (alike_isFolder _).bind fun found => ?_
  cases found with
  | true => exact alike_pure _
  | false => exact alike_fail _

theorem alike_uninstallers (folder : Path) :
    Alike likeness (uninstallers folder) (uninstallers folder) :=
  (alike_fileNames folder).bind fun _ => alike_pure _

theorem alike_removeFiles (folder : Path) (names : List String) :
    Alike likeness (removeFiles folder names) (removeFiles folder names) := by
  induction names with
  | nil => exact alike_pure ()
  | cons name names ih => exact (alike_unlink _).bind fun _ => ih

theorem alike_removeUninstallers (script : Path) :
    Alike likeness (removeUninstallers script) (removeUninstallers script) :=
  (alike_scriptFolder script).bind fun folder => (alike_uninstallers folder).bind fun names =>
    (alike_removeFiles folder names).bind fun _ => alike_pure _

theorem alike_makeUninstaller (compiler script : Path) :
    Alike likeness (makeUninstaller compiler script) (makeUninstaller compiler script) := by
  refine (alike_scriptFolder script).bind fun folder => (alike_note _).bind fun _ =>
    (Tool.alike_run (likeness.admits_self _) none none).bind fun lines =>
      (alike_uninstallers folder).bind fun names => ?_
  cases names with
  | nil => exact alike_fail _
  | cons name names => exact (alike_note _).bind fun _ => alike_pure _

theorem alike_makeSetup (compiler script : Path) :
    Alike likeness (makeSetup compiler script) (makeSetup compiler script) :=
  (alike_note _).bind fun _ => Tool.alike_runChecked (likeness.admits_self _) _ _ _

end SetupCompiler

/-! ## Downloads -/

namespace Download

theorem alike_fetch (url : String) : Alike likeness (fetch url) (fetch url) := by
  unfold fetch
  cases Address.normal url with
  | error fault => exact alike_pure _
  | ok address =>
      refine (alike_lift _).bind fun request => alike_get_bind fun host other h => ?_
      have hfetched : fetchFuel other.web maxRedirections request =
          fetchFuel host.web maxRedirections request := by rw [h.web]
      rw [hfetched]
      generalize fetchFuel host.web maxRedirections request = fetched
      obtain ⟨result, requested⟩ := fetched
      dsimp only
      refine (alike_set (h.withRequested _)).bind fun _ => ?_
      cases result with
      | error failure => exact alike_fail failure
      | ok result => exact alike_pure _

theorem alike_file (url : String) (folder : Path) (name expected : Option String) :
    Alike likeness (file url folder name expected) (file url folder name expected) := by
  refine (alike_makeFolder folder).bind fun _ => (alike_note _).bind fun _ =>
    (alike_fetch url).bind fun result => ?_
  cases result with
  | error reason => exact alike_fail _
  | ok response =>
      refine (alike_note _).bind fun _ => ?_
      -- whether the name is given or comes from the response, the rest is the same
      dsimp only
      generalize name.filter (fun name => !name.isEmpty) = given?
      rcases given? with _ | given
      on_goal 1 => refine (alike_lift (nameOf response)).bind fun name => ?_
      on_goal 2 => refine (alike_pure given).bind fun name => ?_
      all_goals
        split
        · exact alike_fail _
        · refine (alike_note _).bind fun _ => (alike_store _ _).bind fun _ => ?_
          cases response.decoded with
          | error reason =>
              exact (alike_store _ _).bind fun _ => (alike_unlink _).bind fun _ => alike_fail _
          | ok body =>
              refine (alike_store _ _).bind fun _ => (alike_rename _ _).bind fun _ => ?_
              cases expected.filter (isOther (Sha256.hex body)) with
              | some expected => exact (alike_unlink _).bind fun _ => alike_fail _
              | none =>
                  refine alike_get_bind fun host other h => ?_
                  rw [h.downloadTenths]
                  exact (alike_note _).bind fun _ => alike_pure _

theorem alike_installer (runtime : RuntimeSettings) (major : Int) :
    Alike likeness (installer runtime major) (installer runtime major) := by
  unfold installer
  cases runtime.installer? major with
  | none => exact (alike_requireText major).bind fun _ => alike_reject _
  | some known =>
      refine (alike_hasPath _).bind fun kept => ?_
      cases kept with
      | true => exact (alike_note _).bind fun _ => alike_pure _
      | false => exact (alike_note _).bind fun _ => (alike_file _ _ _ _).bind fun _ => alike_pure _

end Download

/-! ## Syncing -/

namespace Sync

theorem alike_copyInstaller (goal : Goal) :
    Alike likeness (copyInstaller goal) (copyInstaller goal) := by
  have hcopied : Alike likeness (do
      let installer ← Download.installer goal.runtime goal.major
      Job.copy installer (goal.folder.child installer.fileName)
      Job.note (.verbose "FILES" s!"Copied runtime installer: {installer.fileName}")) (do
      let installer ← Download.installer goal.runtime goal.major
      Job.copy installer (goal.folder.child installer.fileName)
      Job.note (.verbose "FILES" s!"Copied runtime installer: {installer.fileName}")) :=
    (Download.alike_installer _ _).bind fun _ => (alike_copy _ _).bind fun _ => alike_note _
  refine hcopied.attempt.bind fun copied => ?_
  cases copied with
  | ok value => exact alike_pure ()
  | error failure =>
      dsimp only
      cases failure.reason? with
      | some reason => exact alike_note _
      | none => exact alike_fail _

theorem alike_rebuildFiles (goal : Goal) (lines : List String) :
    Alike likeness (rebuildFiles goal lines) (rebuildFiles goal lines) := by
  unfold rebuildFiles
  cases Section.body? FilesSection.sectionName lines with
  | none => exact (alike_note _).bind fun _ => alike_pure _
  | some before => exact (alike_fileNames _).bind fun _ => (alike_notes _).bind fun _ =>
      (alike_note _).bind fun _ => alike_pure _

theorem alike_files (goal : Goal) (lines : List String) :
    Alike likeness (files goal lines) (files goal lines) := by
  rw [files_eq]
  refine (alike_isFolder _).bind fun found => ?_
  cases found with
  | false => exact (alike_note _).bind fun _ => alike_pure _
  | true =>
      simp only [if_true]
      split
      · exact (alike_copyInstaller goal).bind fun _ => alike_rebuildFiles goal lines
      · exact alike_rebuildFiles goal lines

theorem alike_code (goal : Goal) (lines : List String) :
    Alike likeness (code goal lines) (code goal lines) := by
  unfold code edited
  refine (alike_notes _).bind fun _ => ?_
  cases (GeneratedCode.sync
    { major := goal.major, level := goal.level, runtime := goal.runtime } lines).failure with
  | some failure => exact alike_fail failure
  | none => exact alike_pure _

end Sync

/-! ## Publishing -/

namespace Publish

theorem alike_beginStep (number : Nat) (text : String) :
    Alike likeness (beginStep number text) (beginStep number text) := alike_note _

theorem alike_opening (action : Action) :
    Alike likeness (opening action) (opening action) := by
  have hplan : Alike likeness (plan action) (plan action) :=
    (SettingsPath.alike_required _ _ _ _).bind fun _ =>
      (SettingsPath.alike_required _ _ _ _).bind fun _ =>
        (SettingsPath.alike_required _ _ _ _).bind fun _ =>
          (SettingsPath.alike_required _ _ _ _).bind fun _ =>
            (SettingsPath.alike_required _ _ _ _).bind fun _ =>
              action.alike_signing.bind fun _ => alike_pure _
  have hrest : Alike likeness (do
      beginStep 1 "Validating paths..."
      let plan ← plan action
      beginStep 2 "Loading setup script..."
      pure (plan, Script.ofBytes (← Job.load plan.script))) (do
      beginStep 1 "Validating paths..."
      let plan ← plan action
      beginStep 2 "Loading setup script..."
      pure (plan, Script.ofBytes (← Job.load plan.script))) :=
    (alike_beginStep _ _).bind fun _ => hplan.bind fun _ => (alike_beginStep _ _).bind fun _ =>
      (alike_load _).bind fun _ => alike_pure _
  unfold opening
  cases lacksMajor action with
  | true => exact (alike_reject _).bind fun _ => hrest
  | false => exact hrest

theorem alike_stamp (action : Action) (plan : Plan) (lines : List String) :
    Alike likeness (stamp action plan lines) (stamp action plan lines) := by
  unfold stamp
  split
  · refine (alike_beginStep _ _).bind fun _ => alike_get_bind fun host other h => ?_
    rw [h.clock]
    exact (Stamping.alike_project _ _).bind fun _ => (alike_note _).bind fun _ => alike_pure _
  · exact (alike_beginStep _ _).bind fun _ => alike_pure _

def Plan.withSigning (plan : Plan) (signing : SigningSettings) : Plan := { plan with signing }

variable {signing other : SigningSettings}

theorem alike_preparing (h : Signing.Matches likeness signing other) (action : Action)
    (plan : Plan) (script : Script) :
    Alike likeness (preparing action (plan.withSigning signing) script)
      (preparing action (plan.withSigning other) script) := by
  have hbuild : Alike likeness (build action (plan.withSigning signing))
      (build action (plan.withSigning other)) :=
    (alike_beginStep _ _).bind fun _ => (Project.alike_clean _).bind fun _ =>
      (alike_beginStep _ _).bind fun _ => (Project.alike_restore _).bind fun _ =>
        (alike_beginStep _ _).bind fun _ => (Project.alike_publish _ _).bind fun _ =>
          (alike_beginStep _ _).bind fun _ => Signing.alike_signAndVerify h _
  have hsync : ∀ lines, Alike likeness (syncLines action (plan.withSigning signing) lines)
      (syncLines action (plan.withSigning other) lines) := fun lines =>
    (alike_beginStep _ _).bind fun _ => (Sync.alike_files _ lines).bind fun _ =>
      (alike_beginStep _ _).bind fun _ => Sync.alike_code _ _
  have hstamp : Alike likeness (stamp action (plan.withSigning signing) script.lines)
      (stamp action (plan.withSigning other) script.lines) :=
    alike_stamp action (plan.withSigning signing) script.lines
  exact hstamp.bind fun stamped => hbuild.bind fun _ => (hsync stamped.2).bind fun _ =>
    alike_pure _

theorem alike_finishing (h : Signing.Matches likeness signing other) (action : Action)
    (plan : Plan) (version : String) (script : Script) :
    Alike likeness (finishing action (plan.withSigning signing) version script)
      (finishing action (plan.withSigning other) version script) := by
  have hpackage : Alike likeness (package (plan.withSigning signing))
      (package (plan.withSigning other)) :=
    (alike_beginStep _ _).bind fun _ => (SetupCompiler.alike_removeUninstallers _).bind fun _ =>
      (alike_beginStep _ _).bind fun _ => (SetupCompiler.alike_makeUninstaller _ _).bind fun _ =>
        (alike_beginStep _ _).bind fun _ => (Signing.alike_signAndVerify h _).bind fun _ =>
          (alike_beginStep _ _).bind fun _ => (SetupCompiler.alike_makeSetup _ _).bind fun _ =>
            (alike_beginStep _ _).bind fun _ => (Signing.alike_signAndVerify h _).bind fun _ =>
              alike_pure _
  exact (alike_beginStep _ _).bind fun _ => (alike_store _ _).bind fun _ =>
    hpackage.bind fun _ => (alike_note _).bind fun _ => alike_pure _

end Publish

end SetupForge
