import SetupForge.Build.Run
import SetupForge.Proofs.Build.Work
import SetupForge.Proofs.Path.Names
import SetupForge.Settings.Check

/-! # What an action looks at before it starts

An action looks up its paths before it does anything else. What it needs is written down twice: in
the check of the settings, and in the steps that look the paths up. The two agree, except that the
disk can refuse to look up a path at all, which no check of the settings can know.
-/

namespace SetupForge

open Job

/-! ## Looking up paths -/

def Path.tooLong (path : Path) : AccessFault := { cause := .nameTooLong, path }

namespace Host

def Finds (host : Host) (path : Path) : Prop :=
  path.isUsable = true ∧ ∃ node, host.status path = .ok (some node)

/-- What is wrong with a path of a field at which something has to be. -/
def fault? (host : Host) (field : String) (path : Path) : Option Failure :=
  if path.isUsable then
    match host.status path with
    | .ok (some _) => none
    | .ok none => some (.settings (.pathMissing field path))
    | .error fault => some (.access fault)
  else some (.settings (.pathMissing field path))

variable {host : Host} {field : String} {path : Path}

theorem fault?_of_finds (h : host.Finds path) : host.fault? field path = none := by
  obtain ⟨husable, node, hstatus⟩ := h
  rw [fault?, if_pos husable, hstatus]

/-- Nothing else keeps the disk from looking. -/
theorem eq_tooLong_of_status {fault : AccessFault} (h : host.status path = .error fault) :
    fault = path.tooLong := by
  unfold status at h
  split at h
  · cases h
  · cases h
    rfl
  · cases h

theorem fault?_cases {failure : Failure} (h : host.fault? field path = some failure) :
    (∃ fault, failure = .settings fault) ∨
      host.status path = .error path.tooLong ∧ failure = .access path.tooLong := by
  unfold fault? at h
  split at h
  · split at h
    · cases h
    · cases h
      exact Or.inl ⟨_, rfl⟩
    · rename_i fault hstatus
      cases h
      obtain rfl := eq_tooLong_of_status hstatus
      exact Or.inr ⟨hstatus, rfl⟩
  · cases h
    exact Or.inl ⟨_, rfl⟩

end Host

theorem Action.located_said (action : Action) (host : Host) (said : List Utterance)
    (field : TextField) : action.located { host with said } field = action.located host field :=
  rfl

structure PathCheck where
  field : TextField
  /-- Whether the path can still be made. -/
  canCreate : Bool := false
  canBeUnset : Bool := false

namespace PathCheck

def fault? (host : Host) (action : Action) (check : PathCheck) : Option Failure :=
  if action.text check.field = "" then
    if check.canBeUnset then none else some (.settings (.fileNameMissing check.field.name))
  else if check.canCreate then none
  else host.fault? check.field.name (action.located host check.field)

/-- Whether an action needs something to be at the path of a field. -/
def IsNeeded (action : Action) (check : PathCheck) : Prop :=
  check.canCreate = false ∧ action.text check.field ≠ ""

variable {host : Host} {action : Action} {check : PathCheck}

theorem fault?_eq_none (hset : action.text check.field = "" → check.canBeUnset = true)
    (hfinds : check.IsNeeded action → host.Finds (action.located host check.field)) :
    check.fault? host action = none := by
  unfold fault?
  split
  · rename_i hempty
    rw [if_pos (hset hempty)]
  · rename_i hgiven
    split
    · rfl
    · rename_i hcreate
      exact Host.fault?_of_finds (hfinds ⟨by simpa using hcreate, hgiven⟩)

theorem fault?_cases {failure : Failure} (h : check.fault? host action = some failure) :
    (∃ fault, failure = .settings fault) ∨ check.IsNeeded action ∧
      host.status (action.located host check.field) =
          .error (action.located host check.field).tooLong ∧
        failure = .access (action.located host check.field).tooLong := by
  unfold fault? at h
  split at h
  · split at h
    · cases h
    · cases h
      exact Or.inl ⟨_, rfl⟩
  · rename_i hgiven
    split at h
    · cases h
    · rename_i hcreate
      exact (Host.fault?_cases h).imp id fun hrefused => ⟨⟨by simpa using hcreate, hgiven⟩, hrefused⟩

end PathCheck

namespace Job

/-- A lookup that finds nothing to object to goes on, and any other stops there. -/
theorem on_bind_of_elim {α β : Type} {job : Job α} {next : α → Job β} {host : Host}
    {fault? : Option Failure} {value : α}
    (h : job.on host = (fault?.elim (.ok value) .error, host)) :
    (job >>= next).on host =
      fault?.elim ((next value).on host) fun failure => (.error failure, host) := by
  rw [on_bind, h]
  cases fault? <;> rfl

theorem on_pure_elim {α : Type} (fault? : Option Failure) (value : α) (host : Host) :
    fault?.elim ((pure value : Job α).on host) (fun failure => (.error failure, host)) =
      (fault?.elim (.ok value) .error, host) := by
  cases fault? <;> rfl

end Job

namespace SettingsPath

variable (host : Host) (action : Action) (field : TextField)

theorem on_requiredField (canCreate : Bool) :
    (requiredField action field canCreate).on host =
      ((PathCheck.fault? host action ⟨field, canCreate, false⟩).elim
        (.ok (action.located host field)) .error, host) := by
  unfold requiredField required PathCheck.fault?
  by_cases hempty : action.text field = ""
  · simp only [hempty, String.isEmpty_iff, if_true, Bool.false_eq_true, if_false]
    rfl
  · simp only [hempty, String.isEmpty_iff, if_false]
    rw [on_bind, on_get]
    cases canCreate with
    | true => rfl
    | false =>
        have hlocated : located host (action.text field) (action.text .workingPath) =
            action.located host field := rfl
        simp only [Bool.false_eq_true, if_false, hlocated]
        rw [on_bind, hasPath, on_bind, on_status, Host.fault?]
        by_cases husable : (action.located host field).isUsable = true
        · rw [if_pos husable, if_pos husable]
          rcases host.status (action.located host field) with fault | (_ | node) <;> rfl
        · rw [if_neg husable, if_neg husable]
          rfl

theorem on_optionalField (canCreate : Bool) :
    (optionalField action field canCreate).on host =
      ((PathCheck.fault? host action ⟨field, canCreate, true⟩).elim
        (.ok (if action.text field = "" then none else some (action.located host field))) .error,
        host) := by
  have hrequired := on_requiredField host action field canCreate
  unfold optionalField optional
  by_cases hempty : action.text field = ""
  · simp only [PathCheck.fault?, hempty, String.isEmpty_iff, if_true]
    rfl
  · have hsame : PathCheck.fault? host action ⟨field, canCreate, true⟩ =
        PathCheck.fault? host action ⟨field, canCreate, false⟩ := by
      simp only [PathCheck.fault?, hempty, if_false]
    simp only [hempty, String.isEmpty_iff, if_false]
    rw [hsame, ← on_pure_elim]
    exact on_bind_of_elim hrequired

end SettingsPath

namespace ActionKind

def pathChecks : ActionKind → List PathCheck
  | .compileAndPublish =>
      [⟨.csharpProjectFilename, false, false⟩, ⟨.exeFilename, true, false⟩,
        ⟨.setupFilename, true, false⟩, ⟨.innoScriptFilename, false, false⟩,
        ⟨.innoSetupCompilerFilename, false, false⟩, ⟨.certFilename, false, true⟩]
  | .setPackageFiles => [⟨.inputFoldername, false, false⟩, ⟨.outputFilename, false, false⟩]
  | .setVersion =>
      [⟨.csharpProjectFilename, false, true⟩, ⟨.innoScriptFilename, false, true⟩,
        ⟨.wapManifestFilename, false, true⟩]
  | .none => []

/-- What the check of the settings asks for is what is looked up and cannot be left unset. -/
theorem requiredFields_eq (kind : ActionKind) :
    kind.requiredFields =
      (kind.pathChecks.filter fun check => !check.canBeUnset).map PathCheck.field := by
  cases kind <;> rfl

end ActionKind

namespace PathCheck

def firstFault? (host : Host) (action : Action) : List PathCheck → Option Failure
  | [] => none
  | check :: checks => (check.fault? host action).or (firstFault? host action checks)

variable {host : Host} {action : Action} {checks : List PathCheck}

theorem firstFault?_eq_none (h : ∀ check ∈ checks, check.fault? host action = none) :
    firstFault? host action checks = none := by
  induction checks with
  | nil => rfl
  | cons check checks ih =>
      rw [firstFault?, h check List.mem_cons_self, Option.none_or]
      exact ih fun other hmem => h other (List.mem_cons_of_mem _ hmem)

theorem exists_of_firstFault? {failure : Failure}
    (h : firstFault? host action checks = some failure) :
    ∃ check ∈ checks, check.fault? host action = some failure := by
  induction checks with
  | nil => cases h
  | cons check checks ih =>
      rcases Option.or_eq_some_iff.1 h with hfirst | ⟨-, hrest⟩
      · exact ⟨check, List.mem_cons_self, hfirst⟩
      · obtain ⟨other, hmem, hother⟩ := ih hrest
        exact ⟨other, List.mem_cons_of_mem _ hmem, hother⟩

/-- A required field that is unset is a fault wherever it stands. -/
theorem isSome_firstFault? {check : PathCheck} (hmem : check ∈ checks)
    (hrequired : check.canBeUnset = false) (hempty : action.text check.field = "") :
    (firstFault? host action checks).isSome = true := by
  induction checks with
  | nil => cases hmem
  | cons other checks ih =>
      rw [firstFault?, Option.isSome_or, Bool.or_eq_true]
      rcases List.mem_cons.1 hmem with rfl | hmem
      · left
        simp [fault?, hempty, hrequired]
      · exact Or.inr (ih hmem)

theorem firstFault?_said (host : Host) (said : List Utterance) (action : Action)
    (checks : List PathCheck) :
    firstFault? { host with said } action checks = firstFault? host action checks := by
  induction checks with
  | nil => rfl
  | cons check checks ih =>
      have hstatus : ∀ path, Host.status { host with said } path = host.status path :=
        fun _ => rfl
      have hcheck : check.fault? { host with said } action = check.fault? host action := by
        simp only [fault?, Host.fault?, action.located_said, hstatus]
      rw [firstFault?, firstFault?, ih, hcheck]

end PathCheck

namespace Job

/-- Two lookups after each other object to what either objects to. -/
theorem elim_elim {β : Type} (first? second? : Option Failure) (result : β)
    (stop : Failure → β) :
    first?.elim (second?.elim result stop) stop = (first?.or second?).elim result stop := by
  cases first? <;> rfl

end Job

/-! ## Publishing -/

theorem Action.on_signing (host : Host) (action : Action) :
    action.signing.on host =
      ((PathCheck.fault? host action ⟨.certFilename, false, true⟩).elim
        (.ok (action.signingOn host)) .error, host) := by
  unfold signing
  rw [on_bind_of_elim (SettingsPath.on_optionalField host action .certFilename false),
    ← on_pure_elim]
  congr 1
  simp only [signingOn, String.isEmpty_iff]

namespace Publish

theorem on_plan (host : Host) (action : Action) :
    (plan action).on host =
      ((PathCheck.firstFault? host action ActionKind.compileAndPublish.pathChecks).elim
        (.ok (planOn host action)) .error, host) := by
  unfold plan
  rw [on_bind_of_elim (SettingsPath.on_requiredField host action .csharpProjectFilename false),
    on_bind_of_elim (SettingsPath.on_requiredField host action .exeFilename true),
    on_bind_of_elim (SettingsPath.on_requiredField host action .setupFilename true),
    on_bind_of_elim (SettingsPath.on_requiredField host action .innoScriptFilename false),
    on_bind_of_elim (SettingsPath.on_requiredField host action .innoSetupCompilerFilename false),
    on_bind_of_elim (action.on_signing host)]
  simp only [elim_elim]
  rw [on_pure_elim]
  simp only [ActionKind.pathChecks, PathCheck.firstFault?, Option.or_none]
  rfl

theorem planOn_said (host : Host) (said : List Utterance) (action : Action) :
    planOn { host with said } action = planOn host action := by
  have hsigning : action.signingOn { host with said } = action.signingOn host := rfl
  simp only [planOn, action.located_said, hsigning]

def carryOut (action : Action) (plan : Plan) : Job Report := do
  beginStep 2 "Loading setup script..."
  let script := Script.ofBytes (← Job.load plan.script)
  let prepared ← preparing action plan script
  finishing action plan prepared.1 prepared.2

theorem run_of_lacksMajor {action : Action} (h : lacksMajor action = true) (host : Host) :
    (run action).on host =
      (.error (.settings (.majorRequired action.displayName action.level)), host) := by
  rw [run, h]
  rfl

theorem run_eq_carryOut {action : Action} (h : lacksMajor action = false) :
    run action = beginStep 1 "Validating paths..." >>= fun _ =>
      plan action >>= fun plan => carryOut action plan := by
  rw [run_eq, opening, h]
  simp only [Bool.false_eq_true, if_false, bind_assoc, pure_bind]
  rfl

end Publish

/-! ## Actions -/

namespace Action

def levelFault? (action : Action) : Option Failure :=
  if action.kind = .compileAndPublish ∧ Publish.lacksMajor action then
    some (.settings (.majorRequired action.displayName action.level))
  else none

def targetFault? (action : Action) : Option Failure :=
  if action.kind = .setVersion ∧ Check.hasStampTarget action = false then
    some (.settings (.nothingToStamp action.displayName))
  else none

/-- What keeps an action from starting its work on a host, if anything. -/
def fault? (host : Host) (action : Action) : Option Failure :=
  action.levelFault?.or
    ((PathCheck.firstFault? host action action.kind.pathChecks).or action.targetFault?)

def firstWords (action : Action) : List Utterance :=
  if action.kind = .compileAndPublish ∧ Publish.lacksMajor action = false then
    [.note (.step 1 Publish.stepCount "Validating paths...")]
  else []

def begun (host : Host) (action : Action) : Host :=
  { host with said := host.said ++ action.firstWords }

def located? (host : Host) (action : Action) (field : TextField) : Option Path :=
  if action.text field = "" then none else some (action.located host field)

def targetsOn (host : Host) (action : Action) : Stamping.Targets where
  project := action.located? host .csharpProjectFilename
  script := action.located? host .innoScriptFilename
  manifest := action.located? host .wapManifestFilename
  versionFile := action.located? host .versionFilename
  variableName := action.text .innoVersionVariable

/-- What an action does on a host when nothing keeps it from its work. -/
def work (host : Host) (action : Action) : Job (Option ActionReport) :=
  match action.kind with
  | .compileAndPublish => do
      return some (.published (← Publish.carryOut action (Publish.planOn host action)))
  | .setPackageFiles => do
      let script := action.located host .outputFilename
      return some (.listed script
        (← Sync.packageFiles (action.located host .inputFoldername) script))
  | .setVersion => do return some (.stamped (← Stamping.all (action.targetsOn host) none))
  | .none => pure none

variable {action : Action}

theorem begun_eq_self (h : action.kind ≠ .compileAndPublish) (host : Host) :
    action.begun host = host := by
  rw [begun, firstWords, if_neg (fun hboth => h hboth.1), List.append_nil]

theorem levelFault?_eq_none (h : action.kind ≠ .compileAndPublish) :
    action.levelFault? = none := if_neg fun hboth => h hboth.1

theorem targetFault?_eq_none (h : action.kind ≠ .setVersion) : action.targetFault? = none :=
  if_neg fun hboth => h hboth.1

theorem on_run_compileAndPublish (hkind : action.kind = .compileAndPublish) (host : Host) :
    action.run.on host = (action.fault? host).elim ((action.work host).on (action.begun host))
      fun failure => (.error failure, action.begun host) := by
  rw [fault?, targetFault?_eq_none (by simp [hkind]), Option.or_none]
  unfold run work
  simp only [hkind]
  cases hlacks : Publish.lacksMajor action with
  | true =>
      have hlevel : action.levelFault? =
          some (.settings (.majorRequired action.displayName action.level)) :=
        if_pos ⟨hkind, hlacks⟩
      have hsilent : action.begun host = host := by
        rw [begun, firstWords, if_neg (by simp [hlacks]), List.append_nil]
      rw [on_bind, Publish.run_of_lacksMajor hlacks, hlevel, hsilent]
      rfl
  | false =>
      have hlevel : action.levelFault? = none := if_neg (by simp [hlacks])
      have hstep : (Publish.beginStep 1 "Validating paths...").on host =
          (.ok (), action.begun host) := by
        rw [begun, firstWords, if_pos ⟨hkind, hlacks⟩]
        rfl
      have hplan := Publish.on_plan (action.begun host) action
      have hplanned : Publish.planOn (action.begun host) action = Publish.planOn host action :=
        Publish.planOn_said host _ action
      rw [hplanned, begun, PathCheck.firstFault?_said, ← begun] at hplan
      rw [Publish.run_eq_carryOut hlacks, hlevel, Option.none_or]
      simp only [bind_assoc]
      rw [on_bind, hstep]
      exact on_bind_of_elim hplan

theorem on_run_setPackageFiles (hkind : action.kind = .setPackageFiles) (host : Host) :
    action.run.on host = (action.fault? host).elim ((action.work host).on (action.begun host))
      fun failure => (.error failure, action.begun host) := by
  rw [fault?, begun_eq_self (by simp [hkind]), levelFault?_eq_none (by simp [hkind]),
    targetFault?_eq_none (by simp [hkind]), Option.none_or, Option.or_none]
  unfold run work runPackageFiles
  simp only [hkind, bind_assoc, pure_bind]
  rw [on_bind_of_elim (SettingsPath.on_requiredField host action .inputFoldername false),
    on_bind_of_elim (SettingsPath.on_requiredField host action .outputFilename false), elim_elim]
  simp only [ActionKind.pathChecks, PathCheck.firstFault?, Option.or_none]

theorem on_optionalField (host : Host) (action : Action) (field : TextField) (canCreate : Bool) :
    (SettingsPath.optionalField action field canCreate).on host =
      ((PathCheck.fault? host action ⟨field, canCreate, true⟩).elim
        (.ok (action.located? host field)) .error, host) :=
  SettingsPath.on_optionalField host action field canCreate

theorem isNone_targets (host : Host) (action : Action) :
    ((action.located? host .csharpProjectFilename).isNone &&
      (action.located? host .innoScriptFilename).isNone &&
      (action.located? host .wapManifestFilename).isNone) = !Check.hasStampTarget action := by
  have hnone : ∀ field, (action.located? host field).isNone = (action.text field).isEmpty := by
    intro field
    unfold located?
    by_cases hempty : action.text field = "" <;> simp [hempty]
  simp [hnone, Check.hasStampTarget, Bool.and_assoc]

theorem on_run_setVersion (hkind : action.kind = .setVersion) (host : Host) :
    action.run.on host = (action.fault? host).elim ((action.work host).on (action.begun host))
      fun failure => (.error failure, action.begun host) := by
  have hfile : (PathCheck.fault? host action ⟨.versionFilename, true, true⟩) = none :=
    PathCheck.fault?_eq_none (fun _ => rfl) fun h => nomatch h.1
  rw [fault?, begun_eq_self (by simp [hkind]), levelFault?_eq_none (by simp [hkind]),
    Option.none_or]
  unfold run work runVersion targetFault?
  simp only [hkind, bind_assoc, true_and]
  rw [on_bind_of_elim (action.on_optionalField host .csharpProjectFilename false),
    on_bind_of_elim (action.on_optionalField host .innoScriptFilename false),
    on_bind_of_elim (action.on_optionalField host .wapManifestFilename false),
    elim_elim, elim_elim, isNone_targets]
  simp only [ActionKind.pathChecks, PathCheck.firstFault?, Option.or_none, Option.or_assoc]
  cases Check.hasStampTarget action with
  | true =>
      simp only [Bool.not_true, Bool.false_eq_true, if_false, bind_assoc, pure_bind,
        reduceCtorEq, Option.or_none]
      rw [on_bind_of_elim (action.on_optionalField host .versionFilename true), hfile]
      rfl
  | false =>
      simp only [Bool.not_false, if_true, ← elim_elim]
      rfl

theorem on_run (action : Action) (host : Host) :
    action.run.on host = (action.fault? host).elim ((action.work host).on (action.begun host))
      fun failure => (.error failure, action.begun host) := by
  cases hkind : action.kind with
  | compileAndPublish => exact on_run_compileAndPublish hkind host
  | setPackageFiles => exact on_run_setPackageFiles hkind host
  | setVersion => exact on_run_setVersion hkind host
  | none =>
      rw [fault?, begun_eq_self (by simp [hkind]), levelFault?_eq_none (by simp [hkind]),
        targetFault?_eq_none (by simp [hkind])]
      unfold run work
      rw [hkind]
      rfl

/-! ## The check of the settings -/

theorem errors_runtimeFindings (action : Action) :
    (Check.runtimeFindings action).errors = [] ↔ Publish.lacksMajor action = false := by
  have hlacks : Check.lacksMajor action = Publish.lacksMajor action := rfl
  unfold Check.runtimeFindings
  rw [hlacks]
  cases Publish.lacksMajor action with
  | true => simp
  | false =>
      simp only [Bool.false_eq_true, if_false, iff_true]
      split <;> rfl

theorem errors_signingFindings (action : Action) : (Check.signingFindings action).errors = [] := by
  unfold Check.signingFindings
  split <;> rfl

/-- The check has nothing to object to if all that is required is set and neither level nor targets
are at fault. -/
theorem errors_check_eq_nil_iff (action : Action) :
    (Check.action action).errors = [] ↔ Check.missingFields action = [] ∧
      action.levelFault? = none ∧ action.targetFault? = none := by
  unfold Check.action levelFault? targetFault?
  cases hkind : action.kind with
  | compileAndPublish =>
      simp [Check.errors_append, errors_runtimeFindings, errors_signingFindings]
  | setVersion =>
      cases Check.hasStampTarget action <;> simp [Check.errors_append]
  | setPackageFiles => simp
  | none => simp

theorem isSome_fault? (h : (Check.action action).errors ≠ []) (host : Host) :
    (action.fault? host).isSome = true := by
  rw [fault?, Option.isSome_or, Option.isSome_or, Bool.or_eq_true, Bool.or_eq_true]
  by_contra hnone
  simp only [not_or, Option.not_isSome_iff_eq_none] at hnone
  obtain ⟨hlevel, hpaths, htargets⟩ := hnone
  refine h ((errors_check_eq_nil_iff action).2 ⟨?_, hlevel, htargets⟩)
  rw [Check.missingFields, List.filter_eq_nil_iff]
  intro field hfield hempty
  rw [ActionKind.requiredFields_eq, List.mem_map] at hfield
  obtain ⟨check, hcheck, rfl⟩ := hfield
  obtain ⟨hmem, hrequired⟩ := List.mem_filter.1 hcheck
  have hsome : (PathCheck.firstFault? host action action.kind.pathChecks).isSome = true :=
    PathCheck.isSome_firstFault? hmem (by simpa using hrequired) (String.isEmpty_iff.1 hempty)
  rw [hpaths] at hsome
  cases hsome

theorem fault?_cases {host : Host} {failure : Failure} (h : action.fault? host = some failure) :
    (∃ fault, failure = .settings fault) ∨
      ∃ check ∈ action.kind.pathChecks, check.IsNeeded action ∧
        host.status (action.located host check.field) =
            .error (action.located host check.field).tooLong ∧
          failure = .access (action.located host check.field).tooLong := by
  rcases Option.or_eq_some_iff.1 h with hlevel | ⟨-, hrest⟩
  · left
    unfold levelFault? at hlevel
    rw [Option.ite_none_right_eq_some, Option.some.injEq] at hlevel
    exact ⟨_, hlevel.2.symm⟩
  · rcases Option.or_eq_some_iff.1 hrest with hpath | ⟨-, htarget⟩
    · obtain ⟨check, hmem, hcheck⟩ := PathCheck.exists_of_firstFault? hpath
      exact (PathCheck.fault?_cases hcheck).imp id fun hrefused => ⟨check, hmem, hrefused⟩
    · left
      unfold targetFault? at htarget
      rw [Option.ite_none_right_eq_some, Option.some.injEq] at htarget
      exact ⟨_, htarget.2.symm⟩

theorem fault?_eq_none {host : Host} (h : (Check.action action).errors = [])
    (hfinds : ∀ check ∈ action.kind.pathChecks, check.IsNeeded action →
      host.Finds (action.located host check.field)) : action.fault? host = none := by
  obtain ⟨hmissing, hlevel, htargets⟩ := (errors_check_eq_nil_iff action).1 h
  rw [Check.missingFields, List.filter_eq_nil_iff, ActionKind.requiredFields_eq] at hmissing
  have hpaths : PathCheck.firstFault? host action action.kind.pathChecks = none := by
    refine PathCheck.firstFault?_eq_none fun check hmem => ?_
    refine PathCheck.fault?_eq_none (fun hempty => ?_) (hfinds check hmem)
    by_contra hrequired
    have hfield : check.field ∈
        (action.kind.pathChecks.filter fun check => !check.canBeUnset).map PathCheck.field :=
      List.mem_map_of_mem (List.mem_filter.2 ⟨hmem, by simpa using hrequired⟩)
    exact hmissing check.field hfield (String.isEmpty_iff.2 hempty)
  rw [fault?, hlevel, hpaths, htargets]
  rfl

/-- Where the check of the settings has something to object to, the action stops before its work and
changes nothing: at a fault of the settings, or at a path that the disk refuses to look up. Where it
has not, and all is there that the action needs, the work starts. -/
theorem run_agrees_with_check (action : Action) (host : Host) :
    ((Check.action action).errors ≠ [] → ∃ failure said,
      action.run.on host = (.error failure, { host with said := host.said ++ said }) ∧
        ((∃ fault, failure = .settings fault) ∨
          ∃ check ∈ action.kind.pathChecks, check.IsNeeded action ∧
            host.status (action.located host check.field) =
                .error (action.located host check.field).tooLong ∧
              failure = .access (action.located host check.field).tooLong)) ∧
    ((Check.action action).errors = [] →
      (∀ check ∈ action.kind.pathChecks, check.IsNeeded action →
        host.Finds (action.located host check.field)) →
      action.run.on host = (action.work host).on (action.begun host)) := by
  rw [on_run]
  constructor
  · intro herrors
    obtain ⟨failure, hfault⟩ := Option.isSome_iff_exists.1 (isSome_fault? herrors host)
    refine ⟨failure, action.firstWords, ?_, fault?_cases hfault⟩
    rw [hfault]
    rfl
  · intro herrors hfinds
    rw [fault?_eq_none herrors hfinds]
    rfl

def projectAction : Action where
  kind := .setVersion
  text field := if field = .csharpProjectFilename then "a.csproj" else ""

def projectHost : Host where
  disk := ⟨[(["a.csproj"], .file [])]⟩

theorem run_agrees_with_check_project :
    (Check.action projectAction).errors = [] ∧
      (∀ check ∈ projectAction.kind.pathChecks, check.IsNeeded projectAction →
        projectHost.Finds (projectAction.located projectHost check.field)) ∧
      projectAction.run.on projectHost =
        (projectAction.work projectHost).on (projectAction.begun projectHost) := by
  have herrors : (Check.action projectAction).errors = [] := by decide
  have hfinds : ∀ check ∈ projectAction.kind.pathChecks, check.IsNeeded projectAction →
      projectHost.Finds (projectAction.located projectHost check.field) := by
    intro check hmem hneeded
    have hfield : ∀ field, projectAction.text field ≠ "" → field = .csharpProjectFilename := by
      intro field hset
      by_contra hother
      exact hset (if_neg hother)
    rw [hfield check.field hneeded.2]
    exact ⟨by decide, .file [], by decide⟩
  exact ⟨herrors, hfinds, (run_agrees_with_check projectAction projectHost).2 herrors hfinds⟩

/-! ## A path that cannot be looked up -/

def repeated (count : Nat) : String := String.ofList (List.replicate count 'a')

def repeatedFolder (count : Nat) : Action where
  kind := .setPackageFiles
  text field := if field = .inputFoldername then repeated count else ""

theorem repeated_ne_empty {count : Nat} (h : 0 < count) : repeated count ≠ "" := by
  intro hempty
  have htext : (repeated count).toList = [] := by rw [hempty]; rfl
  rw [repeated, String.toList_ofList, List.replicate_eq_nil_iff] at htext
  omega

theorem located_repeatedFolder {count : Nat} (h : 1 < count) (host : Host) :
    (repeatedFolder count).located host .inputFoldername =
      host.folderPath.child (repeated count) := by
  have hname : Path.ofString (repeated count) = ⟨.current, [repeated count]⟩ := by
    refine Path.ofString_ofList (fun hmem => ?_) (fun hnil => ?_) fun hdot => ?_
    · exact absurd (List.eq_of_mem_replicate hmem) (by decide)
    · rw [List.replicate_eq_nil_iff] at hnil
      omega
    · have hlength := congrArg List.length hdot
      rw [List.length_replicate, List.length_singleton] at hlength
      omega
  have hset : (repeated count).isEmpty = false := by
    simpa using repeated_ne_empty (by omega)
  have htext : (repeatedFolder count).text .inputFoldername = repeated count := rfl
  have hplace : (repeatedFolder count).text .workingPath = "" := rfl
  have hunplaced : ("" : String).isEmpty = true := rfl
  rw [located, SettingsPath.located, htext, hplace, SettingsPath.absolute, hset, hunplaced,
    Bool.true_or, if_neg (by decide), if_pos rfl, hname]
  rfl

theorem status_repeatedFolder {count : Nat} (h : 1 < count)
    (hlong : Disk.longestName < (repeated count).utf8ByteSize) :
    Host.status {} ((repeatedFolder count).located {} .inputFoldername) =
      .error ((repeatedFolder count).located {} .inputFoldername).tooLong := by
  have hfollow : ∀ folder, Disk.follow {} folder [repeated count] = .error .nameTooLong := by
    intro folder
    rw [Disk.follow, if_pos hlong]
  rw [located_repeatedFolder h, Host.status, Disk.locate]
  split
  · rename_i location hlocate
    split at hlocate
    · cases hlocate
    · rw [Path.child, Host.folderPath, List.nil_append, hfollow] at hlocate
      cases hlocate
  · rfl
  · rename_i cause hcause hlocate
    split at hlocate
    · cases hlocate
      exact absurd rfl hcause
    · rw [Path.child, Host.folderPath, List.nil_append, hfollow] at hlocate
      cases hlocate
      exact absurd rfl hcause

/-- The disk refuses to look up a name that is too long before it is noticed that no script is
named. -/
theorem run_stops_at_long_folder :
    let action := repeatedFolder 256
    (Check.action action).errors =
        ["set_package_files: Missing required field: output_filename"] ∧
      (action.run.on {}).1 =
        .error (.access (action.located {} .inputFoldername).tooLong) := by
  intro action
  have hset : (repeated 256).isEmpty = false := by simpa using repeated_ne_empty (by decide)
  have hlong : Disk.longestName < (repeated 256).utf8ByteSize := by decide +kernel
  have hcheck : PathCheck.fault? {} action ⟨.inputFoldername, false, false⟩ =
      some (.access (action.located {} .inputFoldername).tooLong) := by
    have hgiven : action.text .inputFoldername ≠ "" := repeated_ne_empty (by decide)
    have husable : (action.located {} .inputFoldername).isUsable = true := by
      rw [located_repeatedFolder (by decide), Path.isUsable, Path.child, Host.folderPath,
        List.nil_append, List.all_cons, repeated, String.toList_ofList, List.contains_replicate]
      rfl
    rw [PathCheck.fault?, if_neg hgiven, if_neg (by decide), Host.fault?, if_pos husable,
      status_repeatedFolder (by decide) hlong]
  have hfault : action.fault? {} =
      some (.access (action.located {} .inputFoldername).tooLong) := by
    have hlevel : action.levelFault? = none := levelFault?_eq_none (by decide)
    have hchecks : action.kind.pathChecks =
        [⟨.inputFoldername, false, false⟩, ⟨.outputFilename, false, false⟩] := rfl
    rw [fault?, hlevel, hchecks, PathCheck.firstFault?, hcheck]
    rfl
  have hmissing : Check.missingFields action = [.outputFilename] := by
    have hinput : (action.text .inputFoldername).isEmpty = false := hset
    have houtput : (action.text .outputFilename).isEmpty = true := rfl
    have hrequired : action.kind.requiredFields = [.inputFoldername, .outputFilename] := rfl
    simp [Check.missingFields, hrequired, hinput, houtput]
  rw [on_run, hfault]
  refine ⟨?_, rfl⟩
  unfold Check.action
  rw [hmissing]
  rfl

end Action

end SetupForge
