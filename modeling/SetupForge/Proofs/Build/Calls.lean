import SetupForge.Proofs.Build.Work
import SetupForge.Proofs.Disk.Listing

/-! # The processes of publishing

Publishing calls its tools in a fixed order. A call is made only after the one before it has passed,
and publishing succeeds exactly if the last call passes. All other steps start no process.
-/

namespace SetupForge

open Job

/-- A process, and whether what became of it lets the next one start. -/
structure Call where
  process : ProcessStart
  passes : ToolResult → Bool

namespace Call

def next (runs : List ToolRun) : ToolResult := (runs.headD ⟨.missing, []⟩).result

def AllPass : List Call → List ToolRun → Prop
  | [], _ => True
  | call :: calls, runs => call.passes (next runs) = true ∧ AllPass calls runs.tail

/-- The processes that are started on the way through some calls, and whether all calls pass. The
way can end before a call is made. -/
inductive Course : List Call → List ToolRun → List ProcessStart → (ends : Bool) → Prop where
  | done (runs : List ToolRun) : Course [] runs [] true
  | stopped (call : Call) (calls : List Call) (runs : List ToolRun) :
      Course (call :: calls) runs [] false
  | failed (call : Call) (calls : List Call) (runs : List ToolRun)
      (h : call.passes (next runs) = false) : Course (call :: calls) runs [call.process] false
  | passed (call : Call) {calls : List Call} {runs : List ToolRun}
      {processes : List ProcessStart} {ends : Bool} (h : call.passes (next runs) = true)
      (rest : Course calls runs.tail processes ends) :
      Course (call :: calls) runs (call.process :: processes) ends

namespace Course

variable {calls more : List Call} {runs : List ToolRun} {processes others : List ProcessStart}
variable {ends : Bool}

theorem isPrefix (h : Course calls runs processes ends) :
    processes <+: calls.map Call.process := by
  induction h with
  | done => exact List.prefix_refl _
  | stopped => exact List.nil_prefix
  | failed => simp
  | passed call _ _ ih => simpa using ih

/-- All calls but the last one that was made have passed. -/
theorem allPass_take (h : Course calls runs processes ends) :
    AllPass (calls.take (processes.length - 1)) runs := by
  induction h with
  | done => trivial
  | stopped => trivial
  | failed => trivial
  | passed call h rest ih =>
      rename_i calls runs processes ends
      cases processes with
      | nil => trivial
      | cons process processes => exact ⟨h, ih⟩

theorem ends_iff (h : Course calls runs processes ends) :
    ends = true ↔ processes.length = calls.length ∧ AllPass calls runs := by
  induction h with
  | done => simp [AllPass]
  | stopped => simp
  | failed call calls runs h => simp [AllPass, h]
  | passed call h rest ih => simp [AllPass, h, ih]

theorem append (h : Course calls runs processes true)
    (hmore : Course more (runs.drop processes.length) others ends) :
    Course (calls ++ more) runs (processes ++ others) ends := by
  generalize hends : true = first at h
  induction h with
  | done => exact hmore
  | stopped => cases hends
  | failed => cases hends
  | passed call hpass rest ih =>
      refine .passed call hpass (ih ?_ hends)
      rwa [List.drop_tail]

theorem append_of_false (h : Course calls runs processes false) (more : List Call) :
    Course (calls ++ more) runs processes false := by
  generalize hends : false = first at h
  induction h with
  | done => cases hends
  | stopped => exact .stopped _ _ _
  | failed call calls runs h => exact .failed _ _ _ h
  | passed call hpass rest ih => exact .passed call hpass (ih hends)

end Course

end Call

/-! ## Jobs that make calls -/

namespace Job

open Call

/-- Whether the processes that one host has started more than another are those of a way through
some calls. -/
structure Ran (calls : List Call) (before : Host) (made : List (ProcessStart × Disk))
    (ends : Bool) (after : Host) : Prop where
  starts : after.starts = before.starts ++ made
  toolRuns : after.toolRuns = before.toolRuns.drop made.length
  course : Course calls before.toolRuns (made.map (·.1)) ends

/-- Whether a job makes some calls and succeeds exactly if all of them pass. -/
def Pursues {α : Type} (calls : List Call) (job : Job α) : Prop :=
  ∀ host, ∃ made, Ran calls host made (job.on host).1.isOk (job.on host).2

def Still {α : Type} (job : Job α) : Prop :=
  ∀ host, (job.on host).2.starts = host.starts ∧ (job.on host).2.toolRuns = host.toolRuns

variable {α β : Type} {calls more : List Call}

theorem Still.of_works {job : Job α} {gives : Host → α → Prop}
    (h : ∀ origin, Works (.lax origin fun _ => False) job (gives origin)) : Still job := by
  intro host
  obtain ⟨⟨later, hallows⟩, -, -⟩ := h host host [] (Limits.allows_origin _)
  have hnone : Event.starts later = [] :=
    List.eq_nil_iff_forall_not_mem.2 fun start hstart => hallows.may start hstart
  have hstarts := hallows.starts_eq
  have hruns := hallows.toolRuns
  rw [hnone] at hstarts hruns
  exact ⟨hstarts.trans (List.append_nil _), hruns⟩

theorem Still.bind {job : Job α} {next : α → Job β} (h : Still job) (hcalls : calls ≠ [])
    (hnext : ∀ value, Pursues calls (next value)) : Pursues calls (job >>= next) := by
  intro host
  obtain ⟨hstarts, hruns⟩ := h host
  rw [on_bind]
  cases hrun : job.on host with
  | mk result middle =>
      rw [hrun] at hstarts hruns
      cases result with
      | error failure =>
          obtain ⟨call, rest, rfl⟩ := List.exists_cons_of_ne_nil hcalls
          exact ⟨[], by simpa using hstarts, by simpa using hruns, .stopped _ _ _⟩
      | ok value =>
          obtain ⟨made, hran⟩ := hnext value middle
          refine ⟨made, ?_, ?_, ?_⟩
          · rw [hran.starts, hstarts]
          · rw [hran.toolRuns, hruns]
          · rw [← hruns]
            exact hran.course

theorem Ran.trans {before middle after : Host} {made others : List (ProcessStart × Disk)}
    {ends : Bool} (h : Ran calls before made true middle)
    (h' : Ran more middle others ends after) :
    Ran (calls ++ more) before (made ++ others) ends after where
  starts := by rw [h'.starts, h.starts, List.append_assoc]
  toolRuns := by rw [h'.toolRuns, h.toolRuns, List.drop_drop, List.length_append]
  course := by
    rw [List.map_append]
    refine h.course.append ?_
    rw [List.length_map, ← h.toolRuns]
    exact h'.course

theorem Pursues.bind {job : Job α} {next : α → Job β} (h : Pursues calls job)
    (hnext : ∀ value, Pursues more (next value)) : Pursues (calls ++ more) (job >>= next) := by
  intro host
  obtain ⟨made, hran⟩ := h host
  rw [on_bind]
  cases hrun : job.on host with
  | mk result middle =>
      rw [hrun] at hran
      cases result with
      | error failure =>
          exact ⟨made, hran.starts, hran.toolRuns, hran.course.append_of_false more⟩
      | ok value =>
          obtain ⟨others, hothers⟩ := hnext value middle
          exact ⟨made ++ others, hran.trans hothers⟩

/-- Whether the first process that a job starts finds the disk that the job started on. If the job
starts none, it fails. -/
def FindsDisk {α : Type} (job : Job α) : Prop :=
  ∀ host, (job.on host).2.starts = host.starts ∧ (job.on host).1.isOk = false ∨
    ∃ process later, (job.on host).2.starts = host.starts ++ (process, host.disk) :: later

theorem Pursues.exists_starts_eq {job : Job α} (h : Pursues calls job) (host : Host) :
    ∃ later, (job.on host).2.starts = host.starts ++ later := by
  obtain ⟨made, hran⟩ := h host
  exact ⟨made, hran.starts⟩

theorem FindsDisk.bind {job : Job α} {next : α → Job β} (h : FindsDisk job)
    (hnext : ∀ value host, ∃ later, ((next value).on host).2.starts = host.starts ++ later) :
    FindsDisk (job >>= next) := by
  intro host
  rw [on_bind]
  have hfirst := h host
  cases hrun : job.on host with
  | mk result middle =>
      rw [hrun] at hfirst
      cases result with
      | error failure => exact hfirst
      | ok value =>
          obtain ⟨others, hothers⟩ := hnext value middle
          rcases hfirst with ⟨-, hok⟩ | ⟨process, later, hstarts⟩
          · simp [Except.isOk, Except.toBool] at hok
          · refine Or.inr ⟨process, later ++ others, ?_⟩
            rw [hothers, hstarts]
            simp

theorem FindsDisk.after {job : Job α} {next : α → Job β}
    (h : ∀ host, (job.on host).2.starts = host.starts ∧ (job.on host).2.disk = host.disk)
    (hnext : ∀ value, FindsDisk (next value)) : FindsDisk (job >>= next) := by
  intro host
  obtain ⟨hstarts, hdisk⟩ := h host
  rw [on_bind]
  cases hrun : job.on host with
  | mk result middle =>
      rw [hrun] at hstarts hdisk
      cases result with
      | error failure => exact Or.inl ⟨hstarts, rfl⟩
      | ok value =>
          rw [← hstarts, ← hdisk]
          exact hnext value middle

theorem FindsDisk.after_note {next : PUnit → Job β} (message : Note)
    (hnext : ∀ value, FindsDisk (next value)) : FindsDisk (note message >>= next) :=
  .after (fun _ => ⟨rfl, rfl⟩) hnext

theorem FindsDisk.eq_disk {job : Job α} {host : Host} {made : List (ProcessStart × Disk)}
    {ends : Bool} (h : FindsDisk job) (hran : Ran calls host made ends (job.on host).2)
    {start : ProcessStart × Disk} (hstart : made[0]? = some start) : start.2 = host.disk := by
  have hmade := hran.starts
  rcases h host with ⟨hnone, -⟩ | ⟨process, later, hsome⟩
  · rw [hnone, List.self_eq_append_right] at hmade
    rw [hmade] at hstart
    cases hstart
  · rw [hsome, List.append_cancel_left_eq] at hmade
    rw [← hmade] at hstart
    cases hstart
    rfl

theorem pursues_pure (value : α) : Pursues [] (pure value : Job α) := fun host =>
  ⟨[], by simp, by simp, .done _⟩

theorem pursues_note (message : Note) : Pursues [] (note message) := fun host =>
  ⟨[], by simp [Host.starts], by simp, .done _⟩

end Job

/-! ## Tools -/

namespace Tool

open Job Call

def lines? : ToolResult → Option (List String)
  | .finished output problems _ => some (outputLines output ++ outputLines problems)
  | _ => none

def finishes (result : ToolResult) : Bool := (lines? result).isSome

def succeeds (success : ToolOutput.Success) (result : ToolResult) : Bool :=
  (lines? result).any (ToolOutput.reports success)

@[simp] theorem on_start (process : ProcessStart) (host : Host) :
    (start process).on host = (.ok (nextRun host).result, afterStart process host) := rfl

theorem starts_applyWrite (host : Host) (write : Path × Option Bytes) :
    (host.applyWrite write).starts = host.starts ∧
      (host.applyWrite write).toolRuns = host.toolRuns := by
  have hchange : ∀ (host : Host) (disk : Disk), (host.withDisk disk).starts = host.starts := by
    intro host disk
    simp [Host.starts, Host.withDisk, Event.start?]
  obtain ⟨path, content?⟩ := write
  unfold Host.applyWrite
  cases content? with
  | some content =>
      dsimp only
      split
      · exact ⟨by rw [hchange, hchange], rfl⟩
      · exact ⟨hchange _ _, rfl⟩
  | none =>
      dsimp only
      split
      · exact ⟨hchange _ _, rfl⟩
      · exact ⟨rfl, rfl⟩

theorem starts_applyWrites (writes : List (Path × Option Bytes)) (host : Host) :
    (writes.foldl Host.applyWrite host).starts = host.starts ∧
      (writes.foldl Host.applyWrite host).toolRuns = host.toolRuns := by
  induction writes generalizing host with
  | nil => exact ⟨rfl, rfl⟩
  | cons write writes ih =>
      obtain ⟨hstarts, hruns⟩ := starts_applyWrite host write
      obtain ⟨hstarts', hruns'⟩ := ih (host.applyWrite write)
      exact ⟨hstarts'.trans hstarts, hruns'.trans hruns⟩

theorem starts_afterStart (process : ProcessStart) (host : Host) :
    (afterStart process host).starts = host.starts ++ [(process, host.disk)] ∧
      (afterStart process host).toolRuns = host.toolRuns.tail := by
  obtain ⟨hstarts, hruns⟩ := starts_applyWrites (nextRun host).writes
    { host with
      toolRuns := host.toolRuns.tail
      history := host.history ++ [.start process host.disk] }
  refine ⟨?_, hruns⟩
  rw [afterStart, hstarts]
  simp [Host.starts, Event.start?]

/-- A tool that runs starts one process, which finds the disk as it is, and gives its lines. -/
theorem on_run (tool : String) (arguments : List String) (folder : Option Path)
    (limit : Option String) (host : Host) :
    ((run tool arguments folder limit).on host).1.toOption = lines? (Call.next host.toolRuns) ∧
      ((run tool arguments folder limit).on host).2.starts =
        host.starts ++ [(⟨tool, arguments, folder⟩, host.disk)] ∧
      ((run tool arguments folder limit).on host).2.toolRuns = host.toolRuns.drop 1 := by
  unfold run
  dsimp only
  rw [on_bind, on_note]
  dsimp only
  generalize hnoted : ({ host with said := _ } : Host) = noted
  have hsame : noted.starts = host.starts ∧ noted.disk = host.disk ∧
      noted.toolRuns = host.toolRuns := by
    rw [← hnoted]
    exact ⟨rfl, rfl, rfl⟩
  obtain ⟨hstarts, hdisk, hruns⟩ := hsame
  obtain ⟨hstarts', hruns'⟩ := starts_afterStart ⟨tool, arguments, folder⟩ noted
  rw [hstarts, hdisk] at hstarts'
  rw [hruns, ← List.drop_one] at hruns'
  have hnext : (nextRun noted).result = Call.next host.toolRuns := by
    rw [← hruns]
    rfl
  rw [on_bind, on_start, hnext]
  dsimp only
  cases Call.next host.toolRuns with
  | finished output problems code => exact ⟨rfl, hstarts', hruns'⟩
  | missing => exact ⟨rfl, hstarts', hruns'⟩
  | timedOut seconds => exact ⟨rfl, hstarts', hruns'⟩
  | notStarted reason => exact ⟨rfl, hstarts', hruns'⟩

theorem isOk_eq_isSome {α ε : Type} (result : Except ε α) :
    result.isOk = result.toOption.isSome := by
  cases result <;> rfl

theorem pursues_run (tool : String) (arguments : List String) (folder : Option Path)
    (limit : Option String) :
    Pursues [⟨⟨tool, arguments, folder⟩, finishes⟩] (run tool arguments folder limit) := by
  intro host
  obtain ⟨hresult, hstarts, hruns⟩ := on_run tool arguments folder limit host
  refine ⟨[(⟨tool, arguments, folder⟩, host.disk)], hstarts, hruns, ?_⟩
  rw [isOk_eq_isSome, hresult]
  cases hfinishes : finishes (Call.next host.toolRuns) with
  | true =>
      rw [finishes] at hfinishes
      rw [hfinishes]
      exact .passed _ hfinishes (.done _)
  | false =>
      rw [finishes] at hfinishes
      rw [hfinishes]
      exact .failed _ _ _ hfinishes

theorem findsDisk_run (tool : String) (arguments : List String) (folder : Option Path)
    (limit : Option String) : FindsDisk (run tool arguments folder limit) := fun host =>
  Or.inr ⟨_, [], (on_run tool arguments folder limit host).2.1⟩

theorem findsDisk_runChecked (tool : String) (arguments : List String) (folder : Option Path)
    (success : ToolOutput.Success) (fault : PackagingFault) :
    FindsDisk (runChecked tool arguments folder success fault) := by
  refine (findsDisk_run tool arguments folder none).bind fun lines host => ⟨[], ?_⟩
  split <;> simp

theorem pursues_runChecked (tool : String) (arguments : List String) (folder : Option Path)
    (success : ToolOutput.Success) (fault : PackagingFault) :
    Pursues [⟨⟨tool, arguments, folder⟩, succeeds success⟩]
      (runChecked tool arguments folder success fault) := by
  intro host
  obtain ⟨hresult, hstarts, hruns⟩ := on_run tool arguments folder none host
  unfold runChecked
  rw [on_bind]
  cases hrun : (run tool arguments folder none).on host with
  | mk result after =>
      rw [hrun] at hresult hstarts hruns
      refine ⟨[(⟨tool, arguments, folder⟩, host.disk)], ?_⟩
      cases result with
      | error failure =>
          refine ⟨hstarts, hruns, .failed _ _ _ ?_⟩
          dsimp only
          rw [succeeds, ← hresult]
          rfl
      | ok lines =>
          have hpasses : succeeds success (Call.next host.toolRuns) =
              ToolOutput.reports success lines := by
            rw [succeeds, ← hresult]
            rfl
          dsimp only
          cases hreports : ToolOutput.reports success lines with
          | true =>
              exact ⟨hstarts, hruns, .passed _ (hpasses.trans hreports) (.done _)⟩
          | false =>
              exact ⟨hstarts, hruns, .failed _ _ _ (hpasses.trans hreports)⟩

end Tool

/-! ## The steps that call tools -/

namespace Project

open Job Tool

def restoreCall (project : Path) : Call := ⟨restoreProcess project, succeeds .restored⟩

def publishCall (project : Path) (level : BuildLevel) : Call :=
  ⟨publishProcess project level, succeeds .published⟩

theorem pursues_restore (project : Path) : Pursues [restoreCall project] (restore project) :=
  (pursues_note _).bind fun _ => pursues_runChecked _ _ _ _ _

theorem pursues_publish (project : Path) (level : BuildLevel) :
    Pursues [publishCall project level] (publish project level) :=
  (pursues_note _).bind fun _ => pursues_runChecked _ _ _ _ _

end Project

namespace Signing

open Job Tool

def calls (target : Path) (settings : SigningSettings) : List Call :=
  [⟨process settings (signArguments target settings), succeeds .signed⟩,
    ⟨process settings (timestampArguments target settings), succeeds .timestamped⟩,
    ⟨process settings (verifyArguments target), succeeds .verified⟩]

theorem pursues_runSteps (target : Path) (settings : SigningSettings) :
    Pursues (calls target settings) (runSteps target settings) :=
  (pursues_note _).bind fun _ => (pursues_runChecked _ _ _ _ _).bind fun _ =>
    (pursues_runChecked _ _ _ _ _).bind fun _ => (pursues_runChecked _ _ _ _ _).bind fun _ =>
      pursues_note _

theorem still_checkPath (path : Path) (fault : PackagingFault) : Still (checkPath path fault) :=
  .of_works fun _ => works_checkPath path fault

theorem pursues_signAndVerify (target : Path) (settings : SigningSettings) :
    Pursues (calls target settings) (signAndVerify target settings) := by
  rw [signAndVerify_eq]
  exact (still_checkPath _ _).bind (by simp [calls]) fun _ =>
    (still_checkPath _ _).bind (by simp [calls]) fun _ => pursues_runSteps target settings

theorem on_checkPath (path : Path) (fault : PackagingFault) (host : Host) :
    ((checkPath path fault).on host).2 = host := by
  have hpath : ((Job.hasPath path).on host).2 = host := by
    rw [on_hasPath_eq]
    split
    · cases host.status path <;> rfl
    · rfl
  unfold checkPath
  rw [on_bind]
  cases hrun : (Job.hasPath path).on host with
  | mk result after =>
      rw [hrun] at hpath
      cases result with
      | error failure => exact hpath
      | ok found => cases found <;> exact hpath

theorem findsDisk_signAndVerify (target : Path) (settings : SigningSettings) :
    FindsDisk (signAndVerify target settings) := by
  have hcheck : ∀ (path : Path) (fault : PackagingFault) (host : Host),
      ((checkPath path fault).on host).2.starts = host.starts ∧
        ((checkPath path fault).on host).2.disk = host.disk := by
    intro path fault host
    rw [on_checkPath]
    exact ⟨rfl, rfl⟩
  rw [signAndVerify_eq]
  refine .after (hcheck _ _) fun _ => .after (hcheck _ _) fun _ => .after_note _ fun _ => ?_
  exact (findsDisk_runChecked _ _ _ _ _).bind fun _ => Pursues.exists_starts_eq <|
    (pursues_runChecked _ _ _ _ _).bind fun _ =>
      (pursues_runChecked _ _ _ _ _).bind fun _ => pursues_note _

end Signing

namespace SetupCompiler

open Job Tool

/-- The first run of the compiler has to come to its end only. -/
def firstCall (compiler script : Path) : Call := ⟨process compiler script, finishes⟩

def secondCall (compiler script : Path) : Call := ⟨process compiler script, succeeds .compiled⟩

def runFirst (compiler script : Path) : Job (List String) := do
  let _ ← scriptFolder script
  Job.note (.verbose "INNO" "Compiling to produce the uninstaller...")
  Tool.run compiler.toString [script.toString] none none

def findUninstaller (script : Path) (lines : List String) : Job Path := do
  match ← uninstallers script.parent with
  | [] => Job.fail (.packaging .uninstallerMissing lines)
  | name :: _ => do
      Job.note (.verbose "INNO" s!"Uninstaller: {name}")
      pure (script.parent.child name)

theorem scriptFolder_bind {α : Type} (script : Path) (next : Path → Job α) :
    scriptFolder script >>= next = scriptFolder script >>= fun _ => next script.parent := by
  unfold scriptFolder
  rw [bind_assoc, bind_assoc]
  refine bind_congr fun found => ?_
  cases found <;> rfl

theorem makeUninstaller_eq (compiler script : Path) :
    makeUninstaller compiler script =
      runFirst compiler script >>= fun lines => findUninstaller script lines := by
  unfold makeUninstaller runFirst findUninstaller
  rw [scriptFolder_bind, bind_assoc]
  exact bind_congr fun _ => (bind_assoc _ _ _).symm

theorem pursues_runFirst (compiler script : Path) :
    Pursues [firstCall compiler script] (runFirst compiler script) :=
  (Still.of_works fun _ => works_scriptFolder script).bind (by simp) fun _ =>
    (pursues_note _).bind fun _ => pursues_run _ _ _ _

theorem works_runFirst {limits : Limits} {compiler script : Path}
    (hmay : limits.may (process compiler script)) :
    Works limits (runFirst compiler script) fun _ => True :=
  (works_scriptFolder script).bind fun _ _ => (works_note _).bind fun _ _ =>
    Tool.works_run hmay none

theorem pursues_makeSetup (compiler script : Path) :
    Pursues [secondCall compiler script] (makeSetup compiler script) :=
  (pursues_note _).bind fun _ => pursues_runChecked _ _ _ _ _

end SetupCompiler

/-! ## Publishing -/

namespace Publish

open Job

def buildCalls (plan : Plan) (level : BuildLevel) : List Call :=
  [Project.restoreCall plan.project, Project.publishCall plan.project level] ++
    Signing.calls plan.program plan.signing

def signingCalls (plan : Plan) (uninstaller : Path) : List Call :=
  Signing.calls uninstaller plan.signing ++
    (SetupCompiler.secondCall plan.compiler plan.script :: Signing.calls plan.setup plan.signing)

def calls (plan : Plan) (level : BuildLevel) (uninstaller : Path) : List Call :=
  (buildCalls plan level ++ [SetupCompiler.firstCall plan.compiler plan.script]) ++
    signingCalls plan uninstaller

theorem length_calls (plan : Plan) (level : BuildLevel) (uninstaller : Path) :
    (calls plan level uninstaller).length = 13 := rfl

theorem pursues_build (action : Action) (plan : Plan) :
    Pursues (buildCalls plan action.level) (build action plan) := by
  have hclean : Still (Project.clean plan.project) :=
    .of_works fun _ => Project.works_clean fun _ _ _ _ => trivial
  exact (pursues_note _).bind fun _ => hclean.bind (by simp) fun _ =>
    (pursues_note _).bind fun _ => (Project.pursues_restore _).bind fun _ =>
      (pursues_note _).bind fun _ => (Project.pursues_publish _ _).bind fun _ =>
        (pursues_note _).bind fun _ => Signing.pursues_signAndVerify _ _

/-- The steps that build the project, up to the first run of the compiler. -/
def compileFirst (action : Action) (plan : Plan) (script : Script) :
    Job (String × List String) := do
  let prepared ← preparing action plan script
  beginStep 10 "Saving setup script..."
  Sync.saveScript plan.script prepared.2
  beginStep 11 "Removing old uninstallers..."
  let _ ← SetupCompiler.removeUninstallers plan.script
  beginStep 12 "Creating uninstaller..."
  let lines ← SetupCompiler.runFirst plan.compiler plan.script
  pure (prepared.1, lines)

/-- The steps that sign the uninstaller, and make and sign the setup. -/
def signAll (plan : Plan) (uninstaller : Path) : Job Unit := do
  beginStep 13 "Signing uninstaller..."
  Signing.signAndVerify uninstaller plan.signing
  beginStep 14 "Compiling setup..."
  SetupCompiler.makeSetup plan.compiler plan.script
  beginStep 15 "Signing setup..."
  Signing.signAndVerify plan.setup plan.signing

def reporting (action : Action) (plan : Plan) (version : String) (uninstaller : Path) :
    Job Report := do
  Job.note (.verbose "BUILD" s!"[OK] Setup file created: {plan.setup.fileName}")
  pure { name := action.displayName, version, program := plan.program, uninstaller
         setup := plan.setup }

def concluding (action : Action) (plan : Plan) (version : String) (uninstaller : Path) :
    Job Report :=
  signAll plan uninstaller >>= fun _ => reporting action plan version uninstaller

theorem preparing_finishing_eq (action : Action) (plan : Plan) (script : Script) :
    (preparing action plan script >>= fun prepared =>
        finishing action plan prepared.1 prepared.2) =
      compileFirst action plan script >>= fun compiled =>
        SetupCompiler.findUninstaller plan.script compiled.2 >>= fun uninstaller =>
          concluding action plan compiled.1 uninstaller := by
  unfold finishing package compileFirst concluding signAll reporting
  simp only [SetupCompiler.makeUninstaller_eq, bind_assoc, pure_bind]

/-- Everything between the build and the first run of the compiler starts no process. -/
theorem pursues_compileFirst {action : Action} {plan : Plan}
    (hruntime : plan.runtime = action.runtime) (script : Script) :
    Pursues (buildCalls plan action.level ++
        [SetupCompiler.firstCall plan.compiler plan.script])
      (compileFirst action plan script) := by
  have hstamp : Still (stamp action plan script.lines) :=
    .of_works fun _ => works_stamp trivial trivial action script.lines
  have hsync : ∀ lines, Still (syncLines action plan lines) := fun lines =>
    .of_works fun _ => works_syncLines trivial hruntime
      (mayCopy_of_touched hruntime (fun _ => trivial) (failsAsDownload_lax _ _)) lines
  have hsave : ∀ script, Still (Sync.saveScript plan.script script) := fun script =>
    .of_works fun _ => Sync.works_saveScript trivial script
  have hremove : Still (SetupCompiler.removeUninstallers plan.script) :=
    .of_works fun _ => SetupCompiler.works_removeUninstallers fun _ _ => trivial
  unfold compileFirst preparing
  simp only [bind_assoc, pure_bind]
  refine hstamp.bind (by simp) fun stamped => (pursues_build action plan).bind fun _ => ?_
  refine (hsync stamped.2).bind (by simp) fun lines => (pursues_note _).bind fun _ => ?_
  refine (hsave _).bind (by simp) fun _ => (pursues_note _).bind fun _ => ?_
  refine hremove.bind (by simp) fun _ => (pursues_note _).bind fun _ => ?_
  exact (SetupCompiler.pursues_runFirst _ _).bind fun _ => pursues_pure _

theorem pursues_signAll (plan : Plan) (uninstaller : Path) :
    Pursues (signingCalls plan uninstaller) (signAll plan uninstaller) :=
  (pursues_note _).bind fun _ => (Signing.pursues_signAndVerify _ _).bind fun _ =>
    (pursues_note _).bind fun _ => (SetupCompiler.pursues_makeSetup _ _).bind fun _ =>
      (pursues_note _).bind fun _ => Signing.pursues_signAndVerify _ _

theorem pursues_reporting (action : Action) (plan : Plan) (version : String)
    (uninstaller : Path) : Pursues [] (reporting action plan version uninstaller) :=
  (pursues_note _).bind fun _ => pursues_pure _

theorem pursues_concluding (action : Action) (plan : Plan) (version : String)
    (uninstaller : Path) :
    Pursues (signingCalls plan uninstaller) (concluding action plan version uninstaller) := by
  have hcalls := (pursues_signAll plan uninstaller).bind fun _ =>
    pursues_reporting action plan version uninstaller
  rwa [List.append_nil] at hcalls

theorem findsDisk_concluding (action : Action) (plan : Plan) (version : String)
    (uninstaller : Path) : FindsDisk (concluding action plan version uninstaller) := by
  have hsign : FindsDisk (signAll plan uninstaller) :=
    .after_note _ fun _ => (Signing.findsDisk_signAndVerify _ _).bind fun _ =>
      Pursues.exists_starts_eq <|
        (pursues_note _).bind fun _ => (SetupCompiler.pursues_makeSetup _ _).bind fun _ =>
          (pursues_note _).bind fun _ => Signing.pursues_signAndVerify _ _
  exact hsign.bind fun _ =>
    (pursues_reporting action plan version uninstaller).exists_starts_eq

theorem eq_of_concluding {action : Action} {plan : Plan} {version : String} {uninstaller : Path}
    {host : Host} {report : Report}
    (h : ((concluding action plan version uninstaller).on host).1 = .ok report) :
    report = { name := action.displayName, version, program := plan.program, uninstaller
               setup := plan.setup } := by
  rw [concluding, on_bind] at h
  split at h
  · have hvalue : Except.ok _ = Except.ok report := h
    exact (Except.ok.inj hvalue).symm
  · cases h

/-! ## The whole run -/

theorem on_findUninstaller (script : Path) (lines : List String) (host : Host) :
    (∃ failure, (SetupCompiler.findUninstaller script lines).on host = (.error failure, host)) ∨
      ∃ names name rest said, host.fileNames script.parent = .ok names ∧
        SetupCompiler.uninstallersAmong names = name :: rest ∧
        (SetupCompiler.findUninstaller script lines).on host =
          (.ok (script.parent.child name), { host with said }) := by
  unfold SetupCompiler.findUninstaller SetupCompiler.uninstallers
  rw [bind_assoc, on_bind, on_fileNames]
  cases hnames : host.fileNames script.parent with
  | error fault => exact Or.inl ⟨_, rfl⟩
  | ok names =>
      dsimp only
      rw [pure_bind]
      cases hfound : SetupCompiler.uninstallersAmong names with
      | nil => exact Or.inl ⟨_, rfl⟩
      | cons name rest => exact Or.inr ⟨names, name, rest, _, rfl, hfound, rfl⟩

theorem folder_compileFirst {action : Action} {plan : Plan}
    (hruntime : plan.runtime = action.runtime) (script : Script) (host : Host) :
    ((compileFirst action plan script).on host).2.folder = host.folder := by
  have hworks : Works (.lax host fun _ => True) (compileFirst action plan script)
      fun _ => True := by
    have hprepare : MayPrepare (.lax host fun _ => True) action plan :=
      mayPrepare_of_touched hruntime (fun _ => trivial) (fun _ => trivial)
        (failsAsDownload_lax _ _)
    refine (works_preparing hprepare script).bind fun prepared _ => ?_
    refine (works_beginStep _ _).bind fun _ _ => ?_
    refine (Sync.works_saveScript trivial _).bind fun _ _ => (works_beginStep _ _).bind fun _ _ => ?_
    refine (SetupCompiler.works_removeUninstallers fun _ _ => trivial).bind fun _ _ => ?_
    exact (works_beginStep _ _).bind fun _ _ => (SetupCompiler.works_runFirst trivial).bind
      fun _ _ => works_pure _ trivial
  obtain ⟨⟨later, hallows⟩, -, -⟩ := hworks host [] (Limits.allows_origin _)
  exact hallows.folder

/-- Whether a path is that of the first uninstaller beside the script, as a disk has it. -/
def IsFirstUninstaller (host : Host) (plan : Plan) (disk : Disk) (uninstaller : Path) : Prop :=
  ∃ names name rest, { host with disk : Host }.fileNames plan.script.parent = .ok names ∧
    SetupCompiler.uninstallersAmong names = name :: rest ∧
      uninstaller = plan.script.parent.child name

theorem IsFirstUninstaller.of_folder {host other : Host} {plan : Plan} {disk : Disk}
    {uninstaller : Path} (hfolder : host.folder = other.folder)
    (h : IsFirstUninstaller other plan disk uninstaller) :
    IsFirstUninstaller host plan disk uninstaller := by
  obtain ⟨names, name, rest, hnames, hfirst⟩ := h
  refine ⟨names, name, rest, ?_, hfirst⟩
  rw [← hnames]
  apply Host.fileNames_congr
  · exact hfolder
  · rfl

/-- What remains to be done with a plan makes its calls. The seventh of them finds the uninstaller
that is signed. -/
theorem ran_preparing_finishing {action : Action} {plan : Plan}
    (hruntime : plan.runtime = action.runtime) (script : Script) (host : Host) :
    let ran := (preparing action plan script >>= fun prepared =>
      finishing action plan prepared.1 prepared.2).on host
    ∃ uninstaller made, Ran (calls plan action.level uninstaller) host made ran.1.isOk ran.2 ∧
      (∀ start, made[6]? = some start → IsFirstUninstaller host plan start.2 uninstaller) ∧
      ∀ report, ran.1 = .ok report → report.program = plan.program ∧
        report.uninstaller = uninstaller ∧ report.setup = plan.setup := by
  intro ran
  have hran : ran = (compileFirst action plan script >>= fun compiled =>
      SetupCompiler.findUninstaller plan.script compiled.2 >>= fun uninstaller =>
        concluding action plan compiled.1 uninstaller).on host := by
    rw [← preparing_finishing_eq]
  rw [hran, on_bind]
  obtain ⟨made, hfirst⟩ := pursues_compileFirst hruntime script host
  have hfolder := folder_compileFirst hruntime script host
  cases hrun : (compileFirst action plan script).on host with
  | mk result middle =>
      rw [hrun] at hfirst hfolder
      cases result with
      | error failure =>
          refine ⟨plan.script, made, ⟨hfirst.starts, hfirst.toolRuns,
            hfirst.course.append_of_false _⟩, ?_, fun report h => nomatch h⟩
          intro start hstart
          have hlength : made.length ≤ 6 := by
            have hle := hfirst.course.isPrefix.length_le
            rwa [List.length_map, List.length_map] at hle
          rw [List.getElem?_eq_none hlength] at hstart
          cases hstart
      | ok compiled =>
          have hlength : made.length = 6 := by
            have hends := (hfirst.course.ends_iff.1 rfl).1
            rwa [List.length_map] at hends
          dsimp only
          rw [on_bind]
          rcases on_findUninstaller plan.script compiled.2 middle with
            ⟨failure, hfind⟩ | ⟨names, name, rest, said, hnames, hfound, hfind⟩
          · rw [hfind]
            refine ⟨plan.script, made ++ [], hfirst.trans ⟨by simp, by simp, .stopped _ _ _⟩, ?_,
              fun report h => nomatch h⟩
            intro start hstart
            rw [List.append_nil, List.getElem?_eq_none hlength.le] at hstart
            cases hstart
          · rw [hfind]
            dsimp only
            generalize hnoted : ({ middle with said } : Host) = noted
            have hsame : Ran (buildCalls plan action.level ++
                [SetupCompiler.firstCall plan.compiler plan.script]) host made true noted ∧
                  noted.disk = middle.disk := by
              rw [← hnoted]
              exact ⟨⟨hfirst.starts, hfirst.toolRuns, hfirst.course⟩, rfl⟩
            obtain ⟨hfirst', hdisk⟩ := hsame
            obtain ⟨others, hothers⟩ :=
              pursues_concluding action plan compiled.1 (plan.script.parent.child name) noted
            refine ⟨_, made ++ others, hfirst'.trans hothers, ?_, ?_⟩
            · intro start hstart
              rw [List.getElem?_append_right hlength.le, hlength] at hstart
              have hfinds := findsDisk_concluding action plan compiled.1
                (plan.script.parent.child name)
              rw [hfinds.eq_disk hothers hstart, hdisk]
              have hfirst : IsFirstUninstaller middle plan middle.disk
                  (plan.script.parent.child name) := ⟨names, name, rest, hnames, hfound, rfl⟩
              exact hfirst.of_folder hfolder.symm
            · intro report hreport
              rw [eq_of_concluding hreport]
              exact ⟨rfl, rfl, rfl⟩

/-- Publishing starts its thirteen processes in order, each only after the one before it has passed,
and succeeds exactly if all of them have passed. What is signed as the uninstaller was found beside
the script after the compiler's first run. -/
theorem run_makes_calls (action : Action) (host : Host) :
    let plan := planOn host action
    let ran := (run action).on host
    ∃ uninstaller made,
      let planned := calls plan action.level uninstaller
      ran.2.starts = host.starts ++ made ∧ planned.length = 13 ∧
        made.map (·.1) <+: planned.map Call.process ∧
        Call.AllPass (planned.take (made.length - 1)) host.toolRuns ∧
        (∀ start, made[6]? = some start → IsFirstUninstaller host plan start.2 uninstaller) ∧
        ((∃ report, ran.1 = .ok report) ↔
          made.length = 13 ∧ Call.AllPass planned host.toolRuns) ∧
        ∀ report, ran.1 = .ok report → report.program = plan.program ∧
          report.uninstaller = uninstaller ∧ report.setup = plan.setup := by
  intro plan ran
  have hran : ∃ uninstaller made,
      Ran (calls plan action.level uninstaller) host made ran.1.isOk ran.2 ∧
        (∀ start, made[6]? = some start → IsFirstUninstaller host plan start.2 uninstaller) ∧
        ∀ report, ran.1 = .ok report → report.program = plan.program ∧
          report.uninstaller = uninstaller ∧ report.setup = plan.setup := by
    have hrun : ran = (opening action >>= fun opened =>
        preparing action opened.1 opened.2 >>= fun prepared =>
          finishing action opened.1 prepared.1 prepared.2).on host := by
      rw [← run_eq]
    have hstill : Still (opening action) := .of_works fun _ => works_opening action
    obtain ⟨hstarts, hruns⟩ := hstill host
    have hworks : Works (.lax host fun _ => True) (opening action) _ := works_opening action
    obtain ⟨⟨later, hallows⟩, hopened, -⟩ := hworks host [] (Limits.allows_origin _)
    rw [hrun, on_bind]
    cases hopen : (opening action).on host with
    | mk result middle =>
        rw [hopen] at hstarts hruns hallows hopened
        cases result with
        | error failure =>
            refine ⟨plan.script, [], ⟨by simpa using hstarts, by simpa using hruns,
              .stopped _ _ _⟩, ?_, fun report h => nomatch h⟩
            intro start hstart
            cases hstart
        | ok opened =>
            have hplan : opened.1 = plan := (hopened opened rfl).plan
            obtain ⟨uninstaller, made, hran, hfound, hreport⟩ :=
              ran_preparing_finishing (rfl : plan.runtime = action.runtime) opened.2 middle
            dsimp only
            rw [hplan]
            refine ⟨uninstaller, made, ⟨?_, ?_, ?_⟩, ?_, hreport⟩
            · rw [hran.starts, hstarts]
            · rw [hran.toolRuns, hruns]
            · rw [← hruns]
              exact hran.course
            · intro start hstart
              exact (hfound start hstart).of_folder hallows.folder.symm
  obtain ⟨uninstaller, made, hran, hfound, hreport⟩ := hran
  have htake := hran.course.allPass_take
  have hends := hran.course.ends_iff
  rw [List.length_map] at htake hends
  refine ⟨uninstaller, made, hran.starts, length_calls _ _ _, hran.course.isPrefix, htake, hfound,
    ?_, hreport⟩
  rw [length_calls] at hends
  rw [← hends]
  cases ran.1 with
  | error failure => simp [Except.isOk, Except.toBool]
  | ok report => simp [Except.isOk, Except.toBool]

end Publish

end SetupForge
