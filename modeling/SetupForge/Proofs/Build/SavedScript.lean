import SetupForge.Proofs.Build.Work

/-! # The script on disk while publishing

Before the script is saved, its file has the bytes that were loaded. Saving writes the lines after
stamping and both syncs in one step, and nothing changes them later.
-/

namespace SetupForge

open Job

/-- Whether a host went on from another one through events that all found a file with some content,
and still has it. -/
structure HeldSince (origin after : Host) (events : List Event) (place : Location)
    (content : Bytes) : Prop where
  history : after.history = origin.history ++ events
  found : ∀ event ∈ events, event.disk.Holds place content
  disk : after.disk.Holds place content

namespace Limits

def sparing (origin : Host) (place : Location) (may : ProcessStart → Prop)
    (h : ∀ run ∈ origin.toolRuns, ∀ write ∈ run.writes,
      write.1.location origin.folder ≠ place) : Limits where
  origin := origin
  touched location := location ≠ place
  may := may
  fails _ := True
  writes := h
  ordinary _ _ := trivial

theorem Allows.heldSince {origin host : Host} {place : Location} {may : ProcessStart → Prop}
    {hwrites : ∀ run ∈ origin.toolRuns, ∀ write ∈ run.writes,
      write.1.location origin.folder ≠ place}
    {events : List Event} {content : Bytes}
    (h : (sparing origin place may hwrites).Allows events host)
    (hheld : origin.disk.Holds place content) : HeldSince origin host events place content where
  history := h.history
  found event hevent := h.spared event hevent place content (fun hne => hne rfl) hheld
  disk := h.disk place content (fun hne => hne rfl) hheld

end Limits

namespace Publish

/-! ## The steps before the script is saved -/

def building (action : Action) (plan : Plan) (lines : List String) : Job (String × List String) :=
  do
    let stamped ← stamp action plan lines
    build action plan
    beginStep 8 "Updating [Files]..."
    pure stamped

/-- The steps up to the sync of the files section, from the start. -/
def untilBuilt (action : Action) : Job ((Plan × Script) × String × List String) := do
  let opened ← opening action
  let stamped ← building action opened.1 opened.2.lines
  pure (opened, stamped)

/-- The steps before the script is saved, from the start. -/
def untilSynced (action : Action) : Job ((Plan × Script) × String × Script) := do
  let opened ← opening action
  let prepared ← preparing action opened.1 opened.2
  pure (opened, prepared)

def coding (action : Action) (plan : Plan) (script : Script) (version : String)
    (lines : List String) : Job (String × Script) := do
  beginStep 9 "Updating generated code..."
  let lines ← Sync.code (goal action plan) lines
  pure (version, { script with lines })

def syncing (action : Action) (plan : Plan) (script : Script) (stamped : String × List String) :
    Job (String × Script) := do
  let listed ← Sync.files (goal action plan) stamped.2
  coding action plan script stamped.1 listed.1

theorem preparing_eq (action : Action) (plan : Plan) (script : Script) :
    preparing action plan script =
      building action plan script.lines >>= syncing action plan script := by
  unfold preparing building syncLines
  simp only [bind_assoc, pure_bind]
  rfl

theorem untilSynced_eq (action : Action) :
    untilSynced action = untilBuilt action >>= fun built =>
      syncing action built.1.1 built.1.2 built.2 >>= fun prepared => pure (built.1, prepared) := by
  unfold untilSynced untilBuilt
  simp only [preparing_eq, bind_assoc, pure_bind]

theorem run_eq_untilSynced (action : Action) :
    run action = untilSynced action >>= fun synced =>
      finishing action synced.1.1 synced.2.1 synced.2.2 := by
  rw [run_eq, untilSynced]
  simp only [bind_assoc, pure_bind]

/-- Whether a script is what stamping and both syncs make of some loaded bytes. -/
def IsSynced (host : Host) (action : Action) (content : Bytes) (script : Script) : Prop :=
  let goal := goal action (planOn host action)
  let loaded := Script.ofBytes content
  let stamped := stampedOn host action loaded.lines
  let built := ((untilBuilt action).on host).2
  ∃ filed changed, ((Sync.files goal stamped.2).on built).1 = .ok (filed, changed) ∧
    script = { loaded with lines := (GeneratedCode.sync goal.target filed).lines }

def scriptPlace (host : Host) (action : Action) : Location :=
  (planOn host action).script.location host.folder

theorem isAbsolute_script (host : Host) (action : Action) :
    (planOn host action).script.isAbsolute = true := by
  rw [planOn]
  exact action.isAbsolute_located host .innoScriptFilename

/-- Whether nothing but saving writes the script of an action: no tool does, and it is neither the
project, nor something built, nor the installer's copy in the publish folder, nor an uninstaller. -/
structure IsBystander (host : Host) (action : Action) (place : Location) : Prop where
  tools : ∀ run ∈ host.toolRuns, ∀ write ∈ run.writes, write.1.location host.folder ≠ place
  project : (planOn host action).project.location host.folder ≠ place
  built : ∀ name ∈ Project.builtNames,
    ¬ ((planOn host action).project.parent.child name).location host.folder <+: place
  copy : action.level = .netInstallIncluded → ∀ known,
    action.runtime.installer? action.major = some known →
      let copy := (planOn host action).program.parent.child known.fileName
      copy.location host.folder ≠ place ∧
        (copy.child known.fileName).location host.folder ≠ place
  uninstaller : ∀ folder name, place = folder ++ [name] →
    SetupCompiler.isUninstaller name = false

/-- Whether the script of an action is not where a runtime installer is downloaded to. -/
def IsNoDownload (host : Host) (action : Action) (place : Location) : Prop :=
  action.level = .netInstallIncluded → ∀ known,
    action.runtime.installer? action.major = some known →
      ∀ name ∈ [known.fileName, known.fileName ++ Download.partialSuffix],
        (action.runtime.resourceFolder.child name).location host.folder ≠ place

variable {host : Host} {action : Action} {place : Location} {content : Bytes}

def sparingScript (host : Host) (action : Action) (place : Location)
    (h : IsBystander host action place) : Limits :=
  .sparing host place
    (· ≠ SetupCompiler.process (planOn host action).compiler (planOn host action).script) h.tools

@[simp] theorem sparingScript_origin (h : IsBystander host action place) :
    (sparingScript host action place h).origin = host := rfl

/-- The compiler gets one argument, and all tools before it get more or run in a folder. -/
theorem ne_compiler_of_mem_build {plan : Plan} {level : BuildLevel} {process : ProcessStart}
    (h : process ∈ buildProcesses plan level) :
    process ≠ SetupCompiler.process plan.compiler plan.script := by
  simp only [buildProcesses, Signing.processes, List.mem_cons, List.not_mem_nil, or_false] at h
  intro heq
  have hlength : process.arguments.length = 1 := by
    rw [heq]
    rfl
  have hfolder : process.folder = none := by
    rw [heq]
    rfl
  rcases h with rfl | rfl | rfl | rfl | rfl
  · cases hfolder
  · cases hlength
  · simp only [Signing.process, Signing.signArguments] at hlength
    split at hlength <;> cases hlength
  · cases hlength
  · cases hlength

theorem mayPrepare_sparingScript (h : IsBystander host action place)
    (hdownload : IsNoDownload host action place) :
    MayPrepare (sparingScript host action place h) action (planOn host action) where
  notUtf8 := trivial
  digits := trivial
  runtime := rfl
  project := h.project
  clean name hname location hunder := by
    rintro rfl
    exact h.built name hname hunder
  may process hprocess := ne_compiler_of_mem_build hprocess
  copy hlevel := by
    refine ⟨⟨fun _ _ => trivial, trivial⟩, fun known hknown => ?_⟩
    refine ⟨Action.isFileName_of_installer? hknown, fun path hpath => ?_⟩
    obtain ⟨hcopy, hinside⟩ := h.copy hlevel known hknown
    have hkept := hdownload hlevel known hknown
    simp only [Sync.Goal.copies, List.mem_cons, List.not_mem_nil, or_false] at hpath
    rcases hpath with rfl | rfl | rfl | rfl
    · exact hkept _ (by simp)
    · exact hkept _ (by simp)
    · exact hcopy
    · exact hinside

theorem works_building {limits : Limits} {plan : Plan} (h : MayPrepare limits action plan)
    (lines : List String) : Works limits (building action plan lines) fun stamped =>
      stamped = stampedOn limits.origin action lines :=
  (works_stamp h.notUtf8 h.project action lines).bind fun _ hstamped =>
    (works_build h.clean h.may).bind fun _ _ => (works_beginStep _ _).bind fun _ _ =>
      works_pure _ hstamped

theorem works_syncing {limits : Limits} {plan : Plan} (h : MayPrepare limits action plan)
    (script : Script) (stamped : String × List String) :
    Works limits (syncing action plan script stamped) fun _ => True :=
  (Sync.works_files h.copy _).bind fun _ _ => (works_beginStep _ _).bind fun _ _ =>
    (Sync.works_code h.digits (isUsual_goal h.runtime) _).bind fun _ _ => works_pure _ trivial

/-- The sync starts from the plan of the host and the lines that were loaded and stamped. -/
def IsBuilt (host : Host) (action : Action) (content : Bytes)
    (built : (Plan × Script) × String × List String) : Prop :=
  let loaded := Script.ofBytes content
  built.1 = (planOn host action, loaded) ∧ built.2 = stampedOn host action loaded.lines

theorem works_untilBuilt (h : IsBystander host action place)
    (hdownload : IsNoDownload host action place)
    (hplace : scriptPlace host action = place)
    (hheld : host.disk.Holds place content) :
    Works (sparingScript host action place h) (untilBuilt action)
      (IsBuilt host action content) := by
  refine (works_opening action).bind fun opened hopened => ?_
  have hplan : opened.1 = planOn host action := hopened.plan
  have hscript : opened.2 = Script.ofBytes content := by
    apply hopened.script
    · rw [hplan]
      exact fun hne => hne hplace
    · rw [hplan]
      rw [← hplace] at hheld
      exact hheld
  have hprepare := mayPrepare_sparingScript h hdownload
  rw [← hplan] at hprepare
  refine (works_building hprepare _).bind fun stamped hstamped => works_pure _ ⟨?_, ?_⟩
  · rw [← hplan, ← hscript]
  · rw [sparingScript_origin, hscript] at hstamped
    exact hstamped

theorem works_untilSynced (h : IsBystander host action place)
    (hdownload : IsNoDownload host action place)
    (hplace : scriptPlace host action = place)
    (hheld : host.disk.Holds place content) :
    Works (sparingScript host action place h) (untilSynced action) fun synced =>
      synced.1 = (planOn host action, Script.ofBytes content) := by
  rw [untilSynced_eq]
  refine (works_untilBuilt h hdownload hplace hheld).bind fun built hbuilt => ?_
  have hprepare := mayPrepare_sparingScript h hdownload
  have hplan : built.1.1 = planOn host action := by rw [hbuilt.1]
  rw [← hplan] at hprepare
  exact (works_syncing hprepare _ _).bind fun _ _ => works_pure _ hbuilt.1

theorem isSynced_of_untilSynced (h : IsBystander host action place)
    (hdownload : IsNoDownload host action place)
    (hplace : scriptPlace host action = place)
    (hheld : host.disk.Holds place content) {opened : Plan × Script} {version : String}
    {script : Script} {after : Host}
    (hrun : (untilSynced action).on host = (.ok (opened, version, script), after)) :
    IsSynced host action content script := by
  rw [untilSynced_eq] at hrun
  obtain ⟨built, middle, hbuilding, hrest⟩ := exists_of_on_bind hrun
  obtain ⟨prepared, synced, hsyncing, hlast⟩ := exists_of_on_bind hrest
  obtain ⟨-, hvalue, -⟩ :=
    works_untilBuilt h hdownload hplace hheld host [] (Limits.allows_origin _)
  rw [hbuilding] at hvalue
  obtain ⟨hopened, hstamped⟩ := hvalue built rfl
  obtain ⟨⟨filed, changed⟩, listed, hfiles, hrest⟩ := exists_of_on_bind hsyncing
  obtain ⟨-, begun, -, hrest⟩ := exists_of_on_bind hrest
  obtain ⟨lines, coded, hcode, hrest⟩ := exists_of_on_bind hrest
  have hworks : Works (.lax begun fun _ => True) (Sync.code (goal action built.1.1) filed) _ :=
    Sync.works_code trivial (isUsual_goal (by rw [hopened]; rfl)) filed
  obtain ⟨-, hlines, -⟩ := hworks begun [] (Limits.allows_origin _)
  rw [hcode] at hlines
  rw [on_pure, Prod.mk.injEq, Except.ok.injEq] at hrest hlast
  have hscript : script = { Script.ofBytes content with lines } := by
    have hprepared : prepared.2 = script := by rw [(Prod.mk.inj hlast.1).2]
    rw [← hprepared, ← hrest.1, hopened]
  rw [hopened, hstamped] at hfiles
  refine ⟨filed, changed, ?_, ?_⟩
  · have hhost : ((untilBuilt action).on host).2 = middle := by rw [hbuilding]
    rw [hhost, hfiles]
  · rw [hscript, hlines lines rfl, hopened]

/-! ## From the script that is saved on -/

theorem mayRemove_sparing {may : ProcessStart → Prop} {script : Path}
    {hwrites : ∀ run ∈ host.toolRuns, ∀ write ∈ run.writes,
      write.1.location host.folder ≠ place}
    (h : ∀ folder name, place = folder ++ [name] → SetupCompiler.isUninstaller name = false) :
    SetupCompiler.MayRemove (.sparing host place may hwrites) script := by
  intro name hname heq
  have hnot : SetupCompiler.isUninstaller ".." = false := by decide
  have hup : name ≠ ".." := by
    rintro rfl
    rw [hnot] at hname
    cases hname
  rw [Path.location_child, Disk.enter, if_neg hup] at heq
  rw [h _ name heq.symm] at hname
  cases hname

def packaging (action : Action) (plan : Plan) (version : String) : Job Report := do
  let uninstaller ← package plan
  Job.note (.verbose "BUILD" s!"[OK] Setup file created: {plan.setup.fileName}")
  pure { name := action.displayName, version, program := plan.program, uninstaller
         setup := plan.setup }

theorem finishing_eq (action : Action) (plan : Plan) (version : String) (script : Script) :
    finishing action plan version script =
      beginStep 10 "Saving setup script..." >>= fun _ =>
        Job.store plan.script script.toBytes >>= fun _ => packaging action plan version := rfl

theorem works_packaging {limits : Limits} {plan : Plan}
    (hremove : SetupCompiler.MayRemove limits plan.script)
    (hmay : ∀ process, limits.may process) (version : String) :
    Works limits (packaging action plan version) fun _ => True :=
  (works_package hremove hmay).bind fun _ _ => (works_note _).bind fun _ _ =>
    works_pure _ trivial

/-- Saving writes the whole script or nothing, and nothing changes it later. -/
theorem heldSince_finishing (action : Action) (plan : Plan)
    (habsolute : plan.script.isAbsolute = true)
    (hplace : plan.script.location host.folder = place)
    (hwrites : ∀ run ∈ host.toolRuns, ∀ write ∈ run.writes, write.1.location host.folder ≠ place)
    (h : ∀ folder name, place = folder ++ [name] → SetupCompiler.isUninstaller name = false)
    (version : String) (script : Script) :
    let ran := (finishing action plan version script).on host
    (∃ failure, ran.1 = .error failure ∧ ran.2.history = host.history ∧
        ran.2.disk = host.disk) ∨
      ∃ saved after, HeldSince (host.withDisk saved) ran.2 after place script.toBytes := by
  rw [finishing_eq, on_bind, beginStep, on_note]
  dsimp only
  generalize hnoted : ({ host with said := _ } : Host) = noted
  have hsame : noted.history = host.history ∧ noted.disk = host.disk ∧
      noted.folder = host.folder ∧ noted.toolRuns = host.toolRuns := by
    rw [← hnoted]
    exact ⟨rfl, rfl, rfl, rfl⟩
  obtain ⟨hhistory, hdisk, hfolder, hruns⟩ := hsame
  rw [on_bind]
  rcases on_store_cases plan.script script.toBytes noted with
    ⟨failure, hstore⟩ | ⟨saved, hwrite, hstore⟩
  · rw [hstore]
    exact Or.inl ⟨failure, rfl, hhistory, hdisk⟩
  · rw [hstore]
    dsimp only
    have hheld := Disk.holds_of_write habsolute hwrite
    rw [hfolder, hplace] at hheld
    have hspare : ∀ run ∈ (noted.withDisk saved).toolRuns, ∀ write ∈ run.writes,
        write.1.location (noted.withDisk saved).folder ≠ place := by
      have hstays : (noted.withDisk saved).folder = host.folder := hfolder
      have hleft : (noted.withDisk saved).toolRuns = host.toolRuns := hruns
      rw [hstays, hleft]
      exact hwrites
    have hworks : Works (.sparing (noted.withDisk saved) place (fun _ => True) hspare)
        (packaging action plan version) fun _ => True :=
      works_packaging (mayRemove_sparing h) (fun _ => trivial) version
    obtain ⟨⟨later, hallows⟩, -, -⟩ := hworks _ [] (Limits.allows_origin _)
    have hsince := hallows.heldSince hheld
    refine Or.inr ⟨saved, later, ?_, hsince.found, hsince.disk⟩
    have hsaving : (host.withDisk saved).history = (noted.withDisk saved).history := by
      rw [Host.withDisk, Host.withDisk, hhistory, hdisk]
    rw [hsaving]
    exact hsince.history

/-- What becomes of the script on disk. Before the script is saved, which is also when one of the
steps up to the syncs fails, every disk on the way has the bytes that were loaded, and the compiler
is not started. Saving fails and leaves these bytes, or it writes the script that stamping and both
syncs have made, which every later disk has, those that the compiler finds included. -/
def KeepsScriptWhole (host : Host) (action : Action) (content : Bytes) : Prop :=
  let plan := planOn host action
  let place := scriptPlace host action
  let early := (untilSynced action).on host
  let ran := (run action).on host
  ∃ before, HeldSince host early.2 before place content ∧
    (∀ start ∈ Event.starts before,
      start.1 ≠ SetupCompiler.process plan.compiler plan.script) ∧
    ((∃ failure, early.1 = .error failure ∧ ran = (.error failure, early.2)) ∨
      ∃ opened version script, early.1 = .ok (opened, version, script) ∧
        IsSynced host action content script ∧
        ((∃ failure, ran.1 = .error failure ∧ HeldSince host ran.2 before place content) ∨
          ∃ saved after, HeldSince (early.2.withDisk saved) ran.2 after place script.toBytes))

theorem run_keeps_script_whole (h : IsBystander host action (scriptPlace host action))
    (hdownload : IsNoDownload host action (scriptPlace host action))
    (hread : host.disk.read host.folder (planOn host action).script = .ok content) :
    KeepsScriptWhole host action content := by
  unfold KeepsScriptWhole
  intro plan place early ran
  have hheld : host.disk.Holds place content :=
    Disk.holds_of_read (isAbsolute_script host action) hread
  have hran : ran = (untilSynced action >>= fun synced =>
      finishing action synced.1.1 synced.2.1 synced.2.2).on host := by
    rw [← run_eq_untilSynced]
  obtain ⟨⟨before, hallows⟩, hopened, -⟩ :=
    works_untilSynced h hdownload rfl hheld host [] (Limits.allows_origin _)
  have hbefore : HeldSince host early.2 before place content := hallows.heldSince hheld
  refine ⟨before, hbefore, hallows.may, ?_⟩
  rw [on_bind] at hran
  cases hearly : (untilSynced action).on host with
  | mk result middle =>
      have hmiddle : early = (result, middle) := hearly
      rw [hmiddle] at hbefore ⊢
      rw [hearly] at hran hallows hopened
      cases result with
      | error failure => exact Or.inl ⟨failure, rfl, hran⟩
      | ok synced =>
          obtain ⟨opened, version, script⟩ := synced
          have hplan : opened = (plan, Script.ofBytes content) := hopened _ rfl
          have hsynced := isSynced_of_untilSynced h hdownload rfl hheld hearly
          refine Or.inr ⟨opened, version, script, rfl, hsynced, ?_⟩
          have hfolder : middle.folder = host.folder := hallows.folder
          have hwrites : ∀ run ∈ middle.toolRuns, ∀ write ∈ run.writes,
              write.1.location middle.folder ≠ place := by
            intro run hrun
            rw [hallows.toolRuns] at hrun
            rw [hfolder]
            exact h.tools run (List.mem_of_mem_drop hrun)
          have hplace : plan.script.location middle.folder = place := by
            rw [hfolder]
            rfl
          have hfinish := heldSince_finishing action plan (isAbsolute_script host action) hplace
            hwrites h.uninstaller version script
          rw [hplan] at hran
          rw [hran]
          rcases hfinish with ⟨failure, hfailure, hhistory, hdisk⟩ | hsaved
          · refine Or.inl ⟨failure, hfailure, ?_, hbefore.found, ?_⟩
            · rw [hhistory]
              exact hbefore.history
            · rw [hdisk]
              exact hbefore.disk
          · exact Or.inr hsaved

/-! ## Runs with a download that breaks off -/

def sampleAction (script : String) : Action where
  kind := .compileAndPublish
  text
    | .csharpProjectFilename => "app/App.csproj"
    | .exeFilename => "out/a.exe"
    | .setupFilename => "setup.exe"
    | .innoScriptFilename => script
    | .innoSetupCompilerFilename => "ISCC.exe"
    | .signToolFilename => "/signtool.exe"
    | .runtimeDownloadUrl => "http://h/r"
    | .runtimeResourceDir => "cache"
    | _ => ""
  major := 8
  level := .netInstallIncluded

def toolRun (output : String) (writes : List (Path × Option Bytes) := []) : ToolRun :=
  { result := .finished output "" 0, writes }

def signingRuns : List ToolRun :=
  [toolRun "Successfully signed: a", toolRun "Successfully timestamped: a",
    toolRun "Successfully verified: a"]

def sampleText : Bytes := "[Files]\r\n".toUTF8.toList

def sampleHost (place : Location) : Host where
  disk := ⟨[(["app"], .folder), (["app", "bin"], .folder), (["app", "App.csproj"], .file []),
    (["out"], .folder), (["cache"], .folder), (["ISCC.exe"], .file []),
    (["signtool.exe"], .file []), (place, .file sampleText)]⟩
  toolRuns :=
    [toolRun " Restored a",
      toolRun "Build succeeded.\n 0 Warning(s)\n 0 Error(s)" [(⟨.current, ["out", "a.exe"]⟩, some [])]]
      ++ signingRuns ++ [toolRun "" [(⟨.current, ["u.e32"]⟩, some [])]] ++ signingRuns ++
      [toolRun "Successful compile (1 s)" [(⟨.current, ["setup.exe"]⟩, some [])]] ++ signingRuns
  web := [("http://h/r", .interrupted "reset")]

def sampleInstaller : RuntimeInstaller := desktopRuntime 8 "8.0.23"

theorem installer?_sampleAction (script : String) :
    (sampleAction script).runtime.installer? (sampleAction script).major =
      some sampleInstaller := by
  have hmajor : (sampleAction script).major = 8 := rfl
  rw [RuntimeSettings.installer?, Action.installers_runtime, hmajor]
  decide

def partName : String := sampleInstaller.fileName ++ Download.partialSuffix

/-- Scripts with their locations. The second one stands in for the partial download, and its path
leads through a folder that does not outlast the build. -/
def samples : List (String × Location) :=
  [("setup.iss", ["setup.iss"]), ("app/bin/../../cache/" ++ partName, ["cache", partName])]

theorem isBystander_sample {sample : String × Location} (h : sample ∈ samples) :
    IsBystander (sampleHost sample.2) (sampleAction sample.1) sample.2 where
  tools := by
    revert sample
    decide
  project := by
    revert sample
    decide
  built := by
    revert sample
    decide
  copy _ known hknown := by
    rw [installer?_sampleAction, Option.some.injEq] at hknown
    rw [← hknown]
    revert sample
    decide
  uninstaller folder name hplace := by
    have hname : sample.2.getLast? = some name := by rw [hplace, List.getLast?_concat]
    have hall : ∀ sample ∈ samples,
        sample.2.getLast?.all (!SetupCompiler.isUninstaller ·) = true := by decide
    have hlast := hall sample h
    rw [hname] at hlast
    simpa using hlast

theorem scriptPlace_sample : ∀ sample ∈ samples,
    scriptPlace (sampleHost sample.2) (sampleAction sample.1) = sample.2 := by
  decide

theorem run_keeps_script_whole_setup :
    let host := sampleHost ["setup.iss"]
    let action := sampleAction "setup.iss"
    IsBystander host action (scriptPlace host action) ∧
      IsNoDownload host action (scriptPlace host action) ∧
      host.disk.read host.folder (planOn host action).script = .ok sampleText ∧
      KeepsScriptWhole host action sampleText := by
  intro host action
  have hmem : ("setup.iss", ["setup.iss"]) ∈ samples := List.mem_cons_self
  have hsample := isBystander_sample hmem
  have hplace := scriptPlace_sample ("setup.iss", ["setup.iss"]) hmem
  change scriptPlace host action = ["setup.iss"] at hplace
  have hbystander : IsBystander host action (scriptPlace host action) := by
    rw [hplace]
    exact hsample
  have hdownload : IsNoDownload host action (scriptPlace host action) := by
    intro _ known hknown
    rw [installer?_sampleAction, Option.some.injEq] at hknown
    rw [hplace, ← hknown]
    decide +kernel
  have hread : host.disk.read host.folder (planOn host action).script = .ok sampleText := by
    decide +kernel
  exact ⟨hbystander, hdownload, hread, run_keeps_script_whole hbystander hdownload hread⟩

/-- The steps up to the sync of the files section, that one included. -/
def untilListed (action : Action) :
    Job (((Plan × Script) × String × List String) × List String × Bool) := do
  let built ← untilBuilt action
  let listed ← Sync.files (goal action built.1.1) built.2.2
  pure (built, listed)

theorem run_eq_untilListed (action : Action) :
    run action = untilListed action >>= fun listed =>
      coding action listed.1.1.1 listed.1.1.2 listed.1.2.1 listed.2.1 >>= fun coded =>
        finishing action listed.1.1.1 coded.1 coded.2 := by
  rw [run_eq_untilSynced, untilSynced_eq, untilListed]
  simp only [syncing, bind_assoc, pure_bind]

theorem disk_coding (action : Action) (plan : Plan) (script : Script) (version : String)
    (lines : List String) (host : Host) :
    ((coding action plan script version lines).on host).2.disk = host.disk ∧
      ((coding action plan script version lines).on host).2.folder = host.folder := by
  have hedited : Sync.code (goal action plan) lines =
      Sync.edited (GeneratedCode.sync (goal action plan).target lines) := rfl
  rw [coding, hedited, Sync.edited]
  cases (GeneratedCode.sync (goal action plan).target lines).failure <;> exact ⟨rfl, rfl⟩

/-- Where the script cannot be written, the sync of its files section is the last that changes the
disk. -/
theorem disk_run_of_not_writable {cause : AccessCause} {listed : Host}
    {result : ((Plan × Script) × String × List String) × List String × Bool}
    (h : (untilListed action).on host = (.ok result, listed))
    (hwrite : listed.disk.writable listed.folder result.1.1.1.script = .error cause) :
    ((run action).on host).2.disk = listed.disk := by
  rw [run_eq_untilListed, on_bind, h]
  dsimp only
  rw [on_bind]
  have hcoding := disk_coding action result.1.1.1 result.1.1.2 result.1.2.1 result.2.1 listed
  cases hcoded : (coding action result.1.1.1 result.1.1.2 result.1.2.1 result.2.1).on listed with
  | mk coded middle =>
      rw [hcoded] at hcoding
      obtain ⟨hdisk, hfolder⟩ := hcoding
      cases coded with
      | error failure => exact hdisk
      | ok prepared =>
          dsimp only
          rw [finishing_eq, on_bind, beginStep, on_note]
          dsimp only
          rw [on_bind]
          rcases on_store_cases result.1.1.1.script prepared.2.toBytes _ with
            ⟨failure, hstore⟩ | ⟨saved, hsaved, -⟩
          · rw [hstore]
            exact hdisk
          · have hrefused : middle.disk.write middle.folder result.1.1.1.script
                prepared.2.toBytes = .error { cause, path := result.1.1.1.script } := by
              rw [hdisk, hfolder, Disk.write, hwrite]
            rw [hrefused] at hsaved
            cases hsaved

/-- A download that breaks off takes the script along that has the name of its partial file, and
where the script cannot be written after the build, nothing brings it back. -/
theorem script_lost_with_partial_download :
    let host := sampleHost ["cache", partName]
    let action := sampleAction ("app/bin/../../cache/" ++ partName)
    IsBystander host action (scriptPlace host action) ∧
      host.disk.read host.folder (planOn host action).script = .ok sampleText ∧
      ∀ content, ¬ ((run action).on host).2.disk.Holds (scriptPlace host action) content := by
  intro host action
  have hmem : ("app/bin/../../cache/" ++ partName, ["cache", partName]) ∈ samples :=
    List.mem_cons_of_mem _ List.mem_cons_self
  have hsample := isBystander_sample hmem
  have hplace := scriptPlace_sample ("app/bin/../../cache/" ++ partName, ["cache", partName]) hmem
  change scriptPlace host action = ["cache", partName] at hplace
  have hread : host.disk.read host.folder (planOn host action).script = .ok sampleText := by
    decide +kernel
  have hlisted : (match (untilListed action).on host with
      | (.ok result, listed) =>
          listed.disk.node? ["cache", partName] == none &&
            !(listed.disk.writable listed.folder result.1.1.1.script).isOk
      | (.error _, _) => false) = true := by
    decide +kernel
  rw [hplace]
  refine ⟨hsample, hread, fun content hheld => ?_⟩
  split at hlisted
  · rename_i result listed hrun
    rw [Bool.and_eq_true, beq_iff_eq] at hlisted
    obtain ⟨hgone, hrefused⟩ := hlisted
    cases hwrite : listed.disk.writable listed.folder result.1.1.1.script with
    | ok location =>
        rw [hwrite] at hrefused
        cases hrefused
    | error cause =>
        have hfile := hheld.file
        rw [disk_run_of_not_writable hrun hwrite, hgone] at hfile
        cases hfile
  · cases hlisted

end Publish

end SetupForge
