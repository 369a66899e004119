import SetupForge.Build.Publish
import SetupForge.Proofs.Sync.Work
import SetupForge.Proofs.Version.Work

/-! # What the steps of publishing do

The paths and settings of a plan follow from the action and the current folder alone. Every step
starts its own processes only, and touches the files that it is about.
-/

namespace SetupForge

open Job

variable {limits : Limits}

/-! ## Tools -/

namespace Tool

theorem allows_applyWrite {events : List Event} {host : Host} {write : Path × Option Bytes}
    (h : limits.Allows events host)
    (htouched : limits.touched (write.1.location limits.origin.folder)) :
    ∃ later, limits.Allows later (host.applyWrite write) := by
  obtain ⟨path, content?⟩ := write
  rw [← h.folder] at htouched
  cases content? with
  | some content =>
      have hspared : Disk.Spares limits.touched host.disk
          (host.disk.makeFolder host.folder path.parent).1 :=
        Disk.spares_makeFolder host.folder path.parent
      have hmade := h.change hspared
      unfold Host.applyWrite
      dsimp only
      split
      · rename_i disk hwrite
        exact ⟨_, hmade.change (Disk.spares_write hwrite htouched)⟩
      · exact ⟨_, hmade⟩
  | none =>
      unfold Host.applyWrite
      dsimp only
      split
      · rename_i disk hunlink
        exact ⟨_, h.change (Disk.spares_unlink hunlink htouched)⟩
      · exact ⟨_, h⟩

theorem allows_applyWrites {writes : List (Path × Option Bytes)}
    (htouched : ∀ write ∈ writes, limits.touched (write.1.location limits.origin.folder))
    {events : List Event} {host : Host} (h : limits.Allows events host) :
    ∃ later, limits.Allows later (writes.foldl Host.applyWrite host) := by
  induction writes generalizing events host with
  | nil => exact ⟨events, h⟩
  | cons write writes ih =>
      obtain ⟨middle, hmiddle⟩ := allows_applyWrite h (htouched write (by simp))
      exact ih (fun other hmem => htouched other (by simp [hmem])) hmiddle

/-- A process that is started uses up a run and does what the run says. -/
theorem allows_afterStart {process : ProcessStart} {events : List Event} {host : Host}
    (h : limits.Allows events host) (hmay : limits.may process) :
    ∃ later, limits.Allows later (afterStart process host) := by
  have hwrites : ∀ write ∈ (nextRun host).writes,
      limits.touched (write.1.location limits.origin.folder) := by
    unfold nextRun
    cases hruns : host.toolRuns with
    | nil => simp
    | cons run runs =>
        have hmem : run ∈ limits.origin.toolRuns.drop (Event.starts events).length := by
          rw [← h.toolRuns, hruns]
          exact List.mem_cons_self
        exact limits.writes run (List.mem_of_mem_drop hmem)
  have hstarted : limits.Allows (events ++ [.start process host.disk])
      { host with
        toolRuns := host.toolRuns.tail
        history := host.history ++ [.start process host.disk] } :=
    { folder := h.folder
      clock := h.clock
      history := by simp [h.history]
      toolRuns := by
        rw [h.toolRuns, List.tail_drop, Event.starts_append, Event.starts_start,
          List.length_append]
        rfl
      may := by
        intro start hstart
        rw [Event.starts_append, List.mem_append] at hstart
        rcases hstart with hold | hnew
        · exact h.may start hold
        · rw [Event.starts_start, List.mem_singleton] at hnew
          rw [hnew]
          exact hmay
      spared := by
        intro event hevent
        rcases List.mem_append.1 hevent with hold | hnew
        · exact h.spared event hold
        · rw [List.mem_singleton] at hnew
          rw [hnew]
          exact h.disk
      disk := h.disk }
  exact allows_applyWrites hwrites hstarted

theorem works_start {process : ProcessStart} (hmay : limits.may process) :
    Works limits (start process) fun _ => True := by
  intro host events hallows
  obtain ⟨later, hlater⟩ := allows_afterStart hallows hmay
  exact ⟨⟨later, hlater⟩, fun _ _ => trivial, fun _ h => nomatch h⟩

theorem works_run {tool : String} {arguments : List String} {folder : Option Path}
    (hmay : limits.may { tool, arguments, folder }) (limit : Option String) :
    Works limits (run tool arguments folder limit) fun _ => True := by
  refine (works_note _).bind fun _ _ => (works_start hmay).bind fun result _ => ?_
  split
  · exact works_fail_ordinary _ (by simp)
  · exact works_fail_ordinary _ (by simp)
  · exact works_fail_ordinary _ (by simp)
  · exact (works_notes _).bind fun _ _ => works_pure _ trivial

theorem works_runChecked {tool : String} {arguments : List String} {folder : Option Path}
    (hmay : limits.may { tool, arguments, folder }) (success : ToolOutput.Success)
    (fault : PackagingFault) :
    Works limits (runChecked tool arguments folder success fault) fun _ => True := by
  refine (works_run hmay none).bind fun lines _ => ?_
  split
  · exact works_pure _ trivial
  · exact works_fail_ordinary _ (by simp)

end Tool

/-! ## Paths and settings -/

namespace SettingsPath

theorem located_congr {host other : Host} (h : host.folder = other.folder)
    (relative workingPath : String) :
    located host relative workingPath = located other relative workingPath := by
  rw [located, located, Host.folderPath, Host.folderPath, h]

theorem works_required (field relative workingPath : String) (canCreate : Bool) :
    Works limits (required field relative workingPath canCreate) fun path =>
      path = located limits.origin relative workingPath := by
  unfold required
  split
  · exact works_reject _
  · refine works_get.bind fun host hhost => ?_
    have hpath : ∀ found : Bool, Works limits
        (if found then pure (located host relative workingPath)
          else Job.reject (.pathMissing field (located host relative workingPath)) : Job Path)
        fun path => path = located limits.origin relative workingPath := by
      intro found
      cases found with
      | true => exact works_pure _ (located_congr hhost.1 relative workingPath)
      | false => exact works_reject _
    cases canCreate with
    | true =>
        have htrue : Works limits (pure true : Job Bool) fun _ => True := works_pure true trivial
        exact htrue.bind fun found _ => hpath found
    | false => exact (works_hasPath _).bind fun found _ => hpath found

theorem works_optional (field relative workingPath : String) (canCreate : Bool) :
    Works limits (optional field relative workingPath canCreate) fun path? =>
      path? = if relative.isEmpty then none
        else some (located limits.origin relative workingPath) := by
  unfold optional
  split
  · exact works_pure _ rfl
  · exact (works_required field relative workingPath canCreate).bind fun path hpath =>
      works_pure _ (by rw [hpath])

end SettingsPath

namespace Action

def located (host : Host) (action : Action) (field : TextField) : Path :=
  SettingsPath.located host (action.text field) (action.text .workingPath)

theorem isAbsolute_located (host : Host) (action : Action) (field : TextField) :
    (action.located host field).isAbsolute = true := by
  unfold located SettingsPath.located Path.join
  split
  · assumption
  · rfl

def signingOn (host : Host) (action : Action) : SigningSettings :=
  let certificate :=
    if (action.text .certFilename).isEmpty then none
    else some (action.located host .certFilename)
  let base : SigningSettings :=
    { tool := Path.ofString (action.text .signToolFilename)
      certificate := (certificate.map Path.toString).getD ""
      password := action.text .certPassword
      thumbprint := action.text .shaThumbprint }
  let url := action.text .certTimestampUrl
  if url.isEmpty then base else { base with timestampUrl := url }

theorem works_signing (action : Action) :
    Works limits action.signing fun signing => signing = action.signingOn limits.origin := by
  refine (SettingsPath.works_optional _ _ _ _).bind fun certificate hcertificate => ?_
  refine works_pure _ ?_
  rw [hcertificate]
  rfl

theorem installers_runtime (action : Action) : action.runtime.installers = defaultInstallers := by
  unfold runtime
  dsimp only
  split <;> rfl

theorem isFileName_of_installer? {action : Action} {major : Int} {known : RuntimeInstaller}
    (h : action.runtime.installer? major = some known) : Path.IsFileName known.fileName := by
  have hmem : known ∈ action.runtime.installers := by
    simpa using List.mem_of_find?_eq_some h
  rw [action.installers_runtime] at hmem
  exact isFileName_of_mem_default known hmem

theorem family_runtime (action : Action) : action.runtime.family = runtimeFamily := by
  unfold runtime
  dsimp only
  split <;> rfl

end Action

/-! ## Projects -/

namespace Project

def restoreProcess (project : Path) : ProcessStart :=
  { tool := restoreTool, arguments := ["restore"], folder := some project.parent }

def publishProcess (project : Path) (level : BuildLevel) : ProcessStart :=
  { tool := publishTool, arguments := publishArguments project level }

theorem works_removeFolder {folder : Path}
    (h : ∀ place, folder.location limits.origin.folder <+: place → limits.touched place) :
    Works limits (removeFolder folder) fun _ => True := by
  refine (works_isFolder folder).bind fun found _ => ?_
  split
  · intro host events hallows
    rw [on_bind, on_get]
    dsimp only
    cases hlocate : host.disk.locate host.folder folder with
    | error cause => exact ⟨⟨events, hallows⟩, fun _ _ => trivial, fun _ h => nomatch h⟩
    | ok location =>
        have hlocation : location = folder.location limits.origin.folder := by
          rw [← hallows.folder]
          exact Disk.eq_location_of_locate hlocate
        have hspared : Disk.Spares limits.touched host.disk (host.disk.remove location) :=
          Disk.spares_remove_below fun place hunder => h place (hlocation ▸ hunder)
        have hremoved := hallows.change hspared
        exact ⟨⟨_, hremoved⟩, fun _ _ => trivial, fun _ h => nomatch h⟩
  · exact works_pure _ trivial

def MayClean (limits : Limits) (project : Path) : Prop :=
  ∀ name ∈ builtNames, ∀ place,
    (project.parent.child name).location limits.origin.folder <+: place → limits.touched place

theorem works_removeFolders {folder : Path} {names : List String}
    (h : ∀ name ∈ names, ∀ place,
      (folder.child name).location limits.origin.folder <+: place → limits.touched place) :
    Works limits (removeFolders folder names) fun _ => True := by
  induction names with
  | nil => exact works_pure _ trivial
  | cons name names ih =>
      refine (works_removeFolder (h name (by simp))).bind fun first _ => ?_
      exact (ih fun other hmem => h other (by simp [hmem])).bind fun rest _ => works_pure _ trivial

theorem works_clean {project : Path} (h : MayClean limits project) :
    Works limits (clean project) fun _ => True := by
  refine (works_isFolder _).bind fun found _ => ?_
  split
  · exact (works_note _).bind fun _ _ => works_removeFolders h
  · exact works_pure _ trivial

theorem works_restore {project : Path} (hmay : limits.may (restoreProcess project)) :
    Works limits (restore project) fun _ => True :=
  (works_note _).bind fun _ _ => Tool.works_runChecked hmay _ _

theorem works_publish {project : Path} {level : BuildLevel}
    (hmay : limits.may (publishProcess project level)) :
    Works limits (publish project level) fun _ => True :=
  (works_note _).bind fun _ _ => Tool.works_runChecked hmay _ _

end Project

/-! ## Signing -/

namespace Signing

def process (settings : SigningSettings) (arguments : List String) : ProcessStart :=
  { tool := settings.tool.toString, arguments }

def processes (target : Path) (settings : SigningSettings) : List ProcessStart :=
  [process settings (signArguments target settings),
    process settings (timestampArguments target settings),
    process settings (verifyArguments target)]

theorem works_runStep {settings : SigningSettings} {arguments : List String}
    (hmay : limits.may (process settings arguments)) (target : Path) (step : String)
    (success : ToolOutput.Success) :
    Works limits (runStep settings target step arguments success) fun _ => True :=
  Tool.works_runChecked hmay _ _

def checkPath (path : Path) (fault : PackagingFault) : Job Unit := do
  if !(← Job.hasPath path) then Job.fail (.packaging fault [])

def runSteps (target : Path) (settings : SigningSettings) : Job Unit := do
  Job.note (.verbose "SIGN" s!"Signing {target.fileName} ({settings.mode.name})")
  runStep settings target "sign" (signArguments target settings) .signed
  runStep settings target "timestamp" (timestampArguments target settings) .timestamped
  runStep settings target "verify" (verifyArguments target) .verified
  Job.note (.verbose "SIGN" s!"[OK] Signed and verified: {target.fileName}")

theorem checkPath_bind (path : Path) (fault : PackagingFault) (next : Job Unit) :
    (checkPath path fault >>= fun _ => next) =
      Job.hasPath path >>= fun found =>
        if !found then (Job.fail (.packaging fault []) : Job PUnit) >>= fun _ => next else next := by
  unfold checkPath
  rw [bind_assoc]
  refine bind_congr fun found => ?_
  cases found with
  | false => simp only [Bool.not_false, if_true]
  | true => simp only [Bool.not_true, Bool.false_eq_true, if_false, pure_bind]

theorem signAndVerify_eq (target : Path) (settings : SigningSettings) :
    signAndVerify target settings =
      checkPath settings.tool (.signToolMissing settings.tool) >>= fun _ =>
        checkPath target (.targetMissing target) >>= fun _ => runSteps target settings := by
  rw [checkPath_bind, checkPath_bind, signAndVerify, runSteps]

theorem works_checkPath (path : Path) (fault : PackagingFault) :
    Works limits (checkPath path fault) fun _ => True := by
  refine (works_hasPath _).bind fun found _ => ?_
  split
  · exact works_fail_ordinary _ (by simp)
  · exact works_pure _ trivial

theorem works_signAndVerify {target : Path} {settings : SigningSettings}
    (hmay : ∀ process ∈ processes target settings, limits.may process) :
    Works limits (signAndVerify target settings) fun _ => True := by
  simp only [processes, List.mem_cons, List.not_mem_nil, or_false, forall_eq_or_imp,
    forall_eq] at hmay
  obtain ⟨hsign, htimestamp, hverify⟩ := hmay
  rw [signAndVerify_eq]
  exact (works_checkPath _ _).bind fun _ _ => (works_checkPath _ _).bind fun _ _ =>
    (works_note _).bind fun _ _ => (works_runStep hsign _ _ _).bind fun _ _ =>
      (works_runStep htimestamp _ _ _).bind fun _ _ =>
        (works_runStep hverify _ _ _).bind fun _ _ => works_note _

end Signing

/-! ## Compiling -/

namespace SetupCompiler

def process (compiler script : Path) : ProcessStart :=
  { tool := compiler.toString, arguments := [script.toString] }

theorem works_scriptFolder (script : Path) :
    Works limits (scriptFolder script) fun folder => folder = script.parent := by
  refine (works_isFolder _).bind fun found _ => ?_
  split
  · exact works_pure _ rfl
  · exact works_fail_ordinary _ (by simp)

theorem works_removeFiles {folder : Path} {names : List String}
    (h : ∀ name ∈ names, limits.touched ((folder.child name).location limits.origin.folder)) :
    Works limits (removeFiles folder names) fun _ => True := by
  induction names with
  | nil => exact works_pure _ trivial
  | cons name names ih =>
      exact (works_unlink (h name (by simp))).bind fun _ _ =>
        ih fun other hmem => h other (by simp [hmem])

theorem mem_uninstallersAmong {names : List String} {name : String} :
    name ∈ uninstallersAmong names ↔ name ∈ names ∧ isUninstaller name = true := by
  rw [uninstallersAmong, (List.mergeSort_perm _ _).mem_iff, List.mem_filter]

theorem isUninstaller_of_mem {names : List String} {name : String}
    (h : name ∈ uninstallersAmong names) : isUninstaller name = true :=
  (mem_uninstallersAmong.1 h).2

theorem works_uninstallers (folder : Path) :
    Works limits (uninstallers folder) fun names => ∀ name ∈ names, isUninstaller name = true :=
  (works_fileNames folder).bind fun _ _ => works_pure _ fun _ => isUninstaller_of_mem

def MayRemove (limits : Limits) (script : Path) : Prop :=
  ∀ name, isUninstaller name = true →
    limits.touched ((script.parent.child name).location limits.origin.folder)

theorem works_removeUninstallers {script : Path} (h : MayRemove limits script) :
    Works limits (removeUninstallers script) fun _ => True := by
  refine (works_scriptFolder script).bind fun folder hfolder =>
    (works_uninstallers folder).bind fun names hnames => ?_
  refine (works_removeFiles fun name hname => ?_).bind fun _ _ => works_pure _ trivial
  rw [hfolder]
  exact h name (hnames name hname)

theorem works_makeUninstaller {compiler script : Path}
    (hmay : limits.may (process compiler script)) :
    Works limits (makeUninstaller compiler script) fun _ => True := by
  refine (works_scriptFolder script).bind fun folder _ => (works_note _).bind fun _ _ =>
    (Tool.works_run hmay none).bind fun lines _ =>
      (works_uninstallers folder).bind fun names _ => ?_
  split
  · exact works_fail_ordinary _ (by simp)
  · exact (works_note _).bind fun _ _ => works_pure _ trivial

theorem works_makeSetup {compiler script : Path} (hmay : limits.may (process compiler script)) :
    Works limits (makeSetup compiler script) fun _ => True :=
  (works_note _).bind fun _ _ => Tool.works_runChecked hmay _ _

end SetupCompiler

/-! ## Publishing -/

namespace Publish

/-- The plan of an action on a host, if all that it needs is there. -/
def planOn (host : Host) (action : Action) : Plan where
  project := action.located host .csharpProjectFilename
  program := action.located host .exeFilename
  setup := action.located host .setupFilename
  script := action.located host .innoScriptFilename
  compiler := action.located host .innoSetupCompilerFilename
  signing := action.signingOn host
  runtime := action.runtime

theorem works_beginStep (number : Nat) (text : String) :
    Works limits (beginStep number text) fun _ => True := works_note _

theorem works_plan (action : Action) :
    Works limits (plan action) fun plan => plan = planOn limits.origin action := by
  refine (SettingsPath.works_required _ _ _ _).bind fun project hproject =>
    (SettingsPath.works_required _ _ _ _).bind fun program hprogram =>
      (SettingsPath.works_required _ _ _ _).bind fun setup hsetup =>
        (SettingsPath.works_required _ _ _ _).bind fun script hscript =>
          (SettingsPath.works_required _ _ _ _).bind fun compiler hcompiler =>
            action.works_signing.bind fun signing hsigning => works_pure _ ?_
  rw [hproject, hprogram, hsetup, hscript, hcompiler, hsigning]
  rfl

def stampedOn (host : Host) (action : Action) (lines : List String) : String × List String :=
  if action.optionEnabled versionOption then
    (host.clock.version,
      (ScriptVersion.stamp (action.text .innoVersionVariable) host.clock.version lines).1)
  else ("", lines)

theorem works_stamp (h : limits.fails .notUtf8) {plan : Plan}
    (htouched : limits.touched (plan.project.location limits.origin.folder)) (action : Action)
    (lines : List String) :
    Works limits (stamp action plan lines) fun stamped =>
      stamped = stampedOn limits.origin action lines := by
  unfold stamp stampedOn
  split
  · refine (works_beginStep _ _).bind fun _ _ => works_get.bind fun host hhost => ?_
    dsimp only
    rw [hhost.2]
    exact (Stamping.works_project h limits.origin.clock.backslash_not_mem_version htouched).bind
      fun _ _ => (works_note _).bind fun _ _ => works_pure _ rfl
  · exact (works_beginStep _ _).bind fun _ _ => works_pure _ rfl

def buildProcesses (plan : Plan) (level : BuildLevel) : List ProcessStart :=
  Project.restoreProcess plan.project :: Project.publishProcess plan.project level ::
    Signing.processes plan.program plan.signing

theorem works_build {action : Action} {plan : Plan} (hclean : Project.MayClean limits plan.project)
    (hmay : ∀ process ∈ buildProcesses plan action.level, limits.may process) :
    Works limits (build action plan) fun _ => True := by
  simp only [buildProcesses, List.mem_cons, forall_eq_or_imp] at hmay
  obtain ⟨hrestore, hpublish, hsign⟩ := hmay
  exact (works_beginStep _ _).bind fun _ _ => (Project.works_clean hclean).bind fun _ _ =>
    (works_beginStep _ _).bind fun _ _ => (Project.works_restore hrestore).bind fun _ _ =>
      (works_beginStep _ _).bind fun _ _ => (Project.works_publish hpublish).bind fun _ _ =>
        (works_beginStep _ _).bind fun _ _ => Signing.works_signAndVerify hsign

def goal (action : Action) (plan : Plan) : Sync.Goal :=
  { major := action.major, level := action.level
    folder := plan.program.parent, runtime := plan.runtime }

theorem isUsual_goal {action : Action} {plan : Plan} (h : plan.runtime = action.runtime) :
    (goal action plan).target.IsUsual where
  catalog := rfl
  lenient := rfl
  installers := by
    have hruntime : (goal action plan).target.runtime = action.runtime := h
    rw [hruntime, action.installers_runtime]
  family := by
    have hruntime : (goal action plan).target.runtime = action.runtime := h
    rw [hruntime, action.family_runtime]

theorem works_syncLines {action : Action} {plan : Plan} (hdigits : limits.fails .tooManyDigits)
    (hruntime : plan.runtime = action.runtime) (hcopy : (goal action plan).MayCopy limits)
    (lines : List String) : Works limits (syncLines action plan lines) fun _ => True :=
  (works_beginStep _ _).bind fun _ _ => (Sync.works_files hcopy lines).bind fun result _ =>
    (works_beginStep _ _).bind fun _ _ =>
      (Sync.works_code hdigits (isUsual_goal hruntime) result.1).mono fun _ _ => trivial

/-- Packaging may start any process here, since the uninstaller is whatever was found. -/
theorem works_package {plan : Plan} (hremove : SetupCompiler.MayRemove limits plan.script)
    (hmay : ∀ process, limits.may process) : Works limits (package plan) fun _ => True :=
  (works_beginStep _ _).bind fun _ _ =>
    (SetupCompiler.works_removeUninstallers hremove).bind fun _ _ =>
      (works_beginStep _ _).bind fun _ _ =>
        (SetupCompiler.works_makeUninstaller (hmay _)).bind fun _ _ =>
          (works_beginStep _ _).bind fun _ _ =>
            (Signing.works_signAndVerify fun process _ => hmay process).bind fun _ _ =>
              (works_beginStep _ _).bind fun _ _ =>
                (SetupCompiler.works_makeSetup (hmay _)).bind fun _ _ =>
                  (works_beginStep _ _).bind fun _ _ =>
                    (Signing.works_signAndVerify fun process _ => hmay process).bind fun _ _ =>
                      works_pure _ trivial

/-! ## The run in three parts -/

/-- The steps that look for everything and load the script. -/
def opening (action : Action) : Job (Plan × Script) := do
  if lacksMajor action then
    Job.reject (.majorRequired action.displayName action.level)
  beginStep 1 "Validating paths..."
  let plan ← plan action
  beginStep 2 "Loading setup script..."
  pure (plan, Script.ofBytes (← Job.load plan.script))

/-- The steps that bring the lines of the script to their final form; also gives the version. -/
def preparing (action : Action) (plan : Plan) (script : Script) : Job (String × Script) := do
  let (version, lines) ← stamp action plan script.lines
  build action plan
  let lines ← syncLines action plan lines
  pure (version, { script with lines })

structure MayPrepare (limits : Limits) (action : Action) (plan : Plan) : Prop where
  notUtf8 : limits.fails .notUtf8
  digits : limits.fails .tooManyDigits
  runtime : plan.runtime = action.runtime
  project : limits.touched (plan.project.location limits.origin.folder)
  clean : Project.MayClean limits plan.project
  may : ∀ process ∈ buildProcesses plan action.level, limits.may process
  copy : (goal action plan).MayCopy limits

theorem mayCopy_of_touched {action : Action} {plan : Plan}
    (hruntime : plan.runtime = action.runtime) (htouched : ∀ location, limits.touched location)
    (hdownload : Sync.FailsAsDownload limits) : (goal action plan).MayCopy limits := by
  refine fun _ => ⟨hdownload, fun known hknown => ?_⟩
  have hgoal : (goal action plan).runtime = action.runtime := hruntime
  rw [hgoal] at hknown
  exact ⟨Action.isFileName_of_installer? hknown, fun _ _ => htouched _⟩

theorem mayPrepare_of_touched {action : Action} {plan : Plan}
    (hruntime : plan.runtime = action.runtime) (htouched : ∀ location, limits.touched location)
    (hmay : ∀ process, limits.may process) (hdownload : Sync.FailsAsDownload limits) :
    MayPrepare limits action plan where
  notUtf8 := hdownload.request .notUtf8 rfl
  digits := hdownload.digits
  runtime := hruntime
  project := htouched _
  clean _ _ _ _ := htouched _
  may _ _ := hmay _
  copy := mayCopy_of_touched hruntime htouched hdownload

theorem failsAsDownload_lax (origin : Host) (may : ProcessStart → Prop) :
    Sync.FailsAsDownload (.lax origin may) := ⟨fun _ _ => trivial, trivial⟩

theorem works_preparing {action : Action} {plan : Plan} (h : MayPrepare limits action plan)
    (script : Script) : Works limits (preparing action plan script) fun _ => True :=
  (works_stamp h.notUtf8 h.project action script.lines).bind fun stamped _ =>
    (works_build h.clean h.may).bind fun _ _ =>
      (works_syncLines h.digits h.runtime h.copy stamped.2).bind fun _ _ => works_pure _ trivial

def finishing (action : Action) (plan : Plan) (version : String) (script : Script) :
    Job Report := do
  beginStep 10 "Saving setup script..."
  Sync.saveScript plan.script script
  let uninstaller ← package plan
  Job.note (.verbose "BUILD" s!"[OK] Setup file created: {plan.setup.fileName}")
  pure { name := action.displayName, version, program := plan.program, uninstaller
         setup := plan.setup }

/-- What the opening steps give: the plan, and the script as it was. -/
structure IsOpened (limits : Limits) (action : Action) (opened : Plan × Script) : Prop where
  plan : opened.1 = planOn limits.origin action
  script {content : Bytes} :
    ¬ limits.touched (opened.1.script.location limits.origin.folder) →
      limits.origin.disk.Holds (opened.1.script.location limits.origin.folder) content →
      opened.2 = Script.ofBytes content

theorem works_opening (action : Action) :
    Works limits (opening action) (IsOpened limits action) := by
  have hrest : Works limits (do
      beginStep 1 "Validating paths..."
      let plan ← plan action
      beginStep 2 "Loading setup script..."
      pure (plan, Script.ofBytes (← Job.load plan.script))) (IsOpened limits action) := by
    refine (works_beginStep _ _).bind fun _ _ => (works_plan action).bind fun plan hplan =>
      (works_beginStep _ _).bind fun _ _ => (works_load _).bind fun bytes hbytes => ?_
    refine works_pure _ ⟨hplan, fun hfar hheld => ?_⟩
    rw [hbytes _ hfar hheld]
  have hlacking : Works limits
      (Job.reject (.majorRequired action.displayName action.level) : Job PUnit) fun _ => True :=
    works_reject _
  unfold opening
  cases lacksMajor action with
  | true => exact hlacking.bind fun _ _ => hrest
  | false => exact hrest

theorem run_eq (action : Action) :
    run action = opening action >>= fun opened => preparing action opened.1 opened.2 >>= fun
      prepared => finishing action opened.1 prepared.1 prepared.2 := by
  unfold run opening preparing finishing
  cases lacksMajor action with
  | true => simp only [if_true, bind_assoc, pure_bind]
  | false => simp only [Bool.false_eq_true, if_false, bind_assoc, pure_bind]

end Publish

end SetupForge
