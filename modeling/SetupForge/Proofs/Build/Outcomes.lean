import SetupForge.Build.Run
import SetupForge.Proofs.Build.SavedScript
import SetupForge.Proofs.Results

/-! # What becomes of a run of actions

A run of actions reports each action in its turn until one fails with a failure that is not the
program's own. Such a failure is passed on, and the actions after it have no turn.
-/

namespace SetupForge

open Job

/-- Whether an action of a kind can fail with a failure that is not the program's own. -/
def ActionKind.passesOn : ActionKind → Failure → Bool
  | .compileAndPublish, failure =>
      failure.isOfDisk || failure.isOfRequest || failure == .tooManyDigits
  | .setPackageFiles, failure => failure.isOfDisk
  | .setVersion, failure => failure.isOfDisk || failure == .notUtf8
  | .none, _ => false

/-! ## How actions fail -/

namespace Limits

/-- Limits that protect no file, and allow some failures besides the program's own and those of the
disk. -/
def failing (origin : Host) (fails : Failure → Bool) : Limits :=
  (lax origin fun _ => True).withFails
    (fun failure => (failure.isOrdinary || fails failure) = true) fun failure h => by
      rw [h, Bool.true_or]

variable {origin : Host} {fails : Failure → Bool}

theorem touched_failing (location : Location) : (failing origin fails).touched location := trivial

theorem may_failing (process : ProcessStart) : (failing origin fails).may process := trivial

theorem fails_failing {failure : Failure} (h : fails failure = true) :
    (failing origin fails).fails failure := by
  have hfails : (failure.isOrdinary || fails failure) = true := by rw [h, Bool.or_true]
  exact hfails

end Limits

namespace Publish

variable {limits : Limits}

theorem works_finishing {plan : Plan}
    (hplace : limits.touched (plan.script.location limits.origin.folder))
    (hremove : SetupCompiler.MayRemove limits plan.script)
    (hmay : ∀ process, limits.may process) (action : Action) (version : String)
    (script : Script) : Works limits (finishing action plan version script) fun _ => True := by
  rw [finishing_eq]
  exact (works_beginStep _ _).bind fun _ _ => (works_store hplace _).bind fun _ _ =>
    works_packaging hremove hmay version

theorem works_run (htouched : ∀ location, limits.touched location)
    (hmay : ∀ process, limits.may process) (hdownload : Sync.FailsAsDownload limits)
    (action : Action) : Works limits (run action) fun _ => True := by
  rw [run_eq]
  refine (works_opening action).bind fun opened hopened => ?_
  have hruntime : opened.1.runtime = action.runtime := by rw [hopened.plan, planOn]
  have hprepare := mayPrepare_of_touched hruntime htouched hmay hdownload
  exact (works_preparing hprepare opened.2).bind fun prepared _ =>
    works_finishing (htouched _) (fun _ _ => htouched _) hmay action prepared.1 prepared.2

end Publish

namespace Action

variable {limits : Limits}

theorem works_runPackageFiles (htouched : ∀ location, limits.touched location)
    (action : Action) : Works limits action.runPackageFiles fun _ => True :=
  (SettingsPath.works_required _ _ _ _).bind fun _ _ =>
    (SettingsPath.works_required _ _ _ _).bind fun _ _ =>
      (Sync.works_packageFiles (htouched _)).bind fun _ _ => works_pure _ trivial

theorem works_runVersion (hnotUtf8 : limits.fails .notUtf8)
    (htouched : ∀ location, limits.touched location) (action : Action) :
    Works limits action.runVersion fun _ => True := by
  unfold runVersion
  refine (SettingsPath.works_optional _ _ _ _).bind fun project _ =>
    (SettingsPath.works_optional _ _ _ _).bind fun script _ =>
      (SettingsPath.works_optional _ _ _ _).bind fun manifest _ => ?_
  have hrest : Works limits (do
      let versionFile ← SettingsPath.optionalField action .versionFilename true
      let targets : Stamping.Targets :=
        { project, script, manifest, versionFile, variableName := action.text .innoVersionVariable }
      return .stamped (← Stamping.all targets none) : Job ActionReport) fun _ => True :=
    (SettingsPath.works_optional _ _ _ _).bind fun _ _ =>
      (Stamping.works_all hnotUtf8 htouched _).bind fun _ _ => works_pure _ trivial
  split
  · exact (works_reject _).bind fun _ (_ : True) => hrest
  · exact hrest

theorem isOwn_or_of_works {α : Type} {job : Job α} {gives : α → Prop} {host : Host}
    {fails : Failure → Bool} {failure : Failure}
    (h : Works (.failing host fails) job gives) (herror : (job.on host).1 = .error failure) :
    failure.isOwn = true ∨ (failure.isOfDisk || fails failure) = true := by
  obtain ⟨-, -, hfails⟩ := h host [] (Limits.allows_origin _)
  have hfailure : (failure.isOrdinary || fails failure) = true := hfails failure herror
  rw [Failure.isOrdinary, Bool.or_assoc, Bool.or_eq_true] at hfailure
  exact hfailure

theorem failsAsDownload_failing (origin : Host) :
    Sync.FailsAsDownload
      (.failing origin fun failure => failure.isOfRequest || failure == .tooManyDigits) where
  request failure h := Limits.fails_failing (by rw [h, Bool.true_or])
  digits := Limits.fails_failing rfl

theorem works_report {limits : Limits} {α : Type} {job : Job α}
    (h : Works limits job fun _ => True) (report : α → Option ActionReport) :
    Works limits (do return report (← job)) fun _ => True := h.bind fun _ _ => works_pure _ trivial

/-- An action fails with the program's own failures, or with those that its kind passes on. -/
theorem isOwn_or_passesOn {action : Action} {host : Host} {failure : Failure}
    (h : (action.run.on host).1 = .error failure) :
    failure.isOwn = true ∨ action.kind.passesOn failure = true := by
  unfold run at h
  unfold ActionKind.passesOn
  cases hkind : action.kind with
  | compileAndPublish =>
      rw [hkind] at h
      have hworks := Publish.works_run Limits.touched_failing Limits.may_failing
        (failsAsDownload_failing host) action
      dsimp only
      rw [Bool.or_assoc]
      exact isOwn_or_of_works (works_report hworks _) h
  | setPackageFiles =>
      rw [hkind] at h
      have hworks : Works (.failing host fun _ => false) action.runPackageFiles fun _ => True :=
        works_runPackageFiles Limits.touched_failing action
      have hfailure := isOwn_or_of_works (works_report hworks _) h
      rwa [Bool.or_false] at hfailure
  | setVersion =>
      rw [hkind] at h
      have hworks : Works (.failing host fun failure => failure == .notUtf8) action.runVersion
          fun _ => True :=
        works_runVersion (Limits.fails_failing rfl) Limits.touched_failing action
      exact isOwn_or_of_works (works_report hworks _) h
  | none =>
      rw [hkind] at h
      cases h

/-! ## Turns -/

/-- The host on which an action runs when its turn comes. -/
def announced (action : Action) (host : Host) : Host :=
  ((Job.note (.verbose "BUILD"
    s!"Command: {action.kind.name} ({action.displayName})")).on host).2

/-- How an action ends when it is run on a host; a failure that is not reported is passed on. -/
def endingOn (action : Action) (host : Host) : Except Failure Ending :=
  if action.active then
    match (action.run.on host).1 with
    | .ok _ => .ok .success
    | .error failure =>
        match failure.ownMessage? with
        | some message => .ok (.failed message)
        | none => .error failure
  else .ok .skipped

/-- What the announcement and the report say changes no ending. -/
theorem on_runToEnd (action : Action) (host : Host) :
    (action.runToEnd.on host).1 = action.endingOn (action.announced host) := by
  have hannounced : (Job.note (.verbose "BUILD"
      s!"Command: {action.kind.name} ({action.displayName})")).on host =
        (.ok (), action.announced host) := rfl
  unfold runToEnd endingOn
  rw [on_bind, hannounced]
  dsimp only
  cases action.active with
  | false => rfl
  | true =>
      simp only [if_true]
      rw [on_bind, on_attempt]
      dsimp only
      cases (action.run.on (action.announced host)).1 with
      | ok report => rfl
      | error failure =>
          dsimp only
          cases failure.ownMessage? <;> rfl

def turns : List Action → Host → List (Action × Host)
  | [], _ => []
  | action :: actions, host =>
      (action, action.announced host) :: turns actions (action.runToEnd.on host).2

theorem map_turns (actions : List Action) (host : Host) :
    (turns actions host).map (·.1) = actions := by
  induction actions generalizing host with
  | nil => rfl
  | cons action actions ih => rw [turns, List.map_cons, ih]

def outcomeOf (turn : Action × Host) : Except Failure Outcome :=
  (turn.1.endingOn turn.2).map fun ending =>
    { name := turn.1.displayName, kind := turn.1.kind, ending }

/-- The actions run in order, up to the first failure that is passed on. -/
theorem on_runAll (actions : List Action) (host : Host) :
    ((runAll actions).on host).1 = (turns actions host).mapM outcomeOf := by
  induction actions generalizing host with
  | nil => rfl
  | cons action actions ih =>
      rw [runAll, turns, List.mapM_cons, on_bind, outcomeOf, ← on_runToEnd]
      cases hrun : action.runToEnd.on host with
      | mk result after =>
          cases result with
          | error failure => rfl
          | ok ending =>
              rw [← ih after]
              dsimp only
              rw [on_bind]
              cases hrest : (runAll actions).on after with
              | mk rest last => cases rest <;> rfl

/-! ## Reports and breaks -/

/-- Whether an active action fails, when its turn comes, with a failure that is not the program's
own. -/
structure Breaks (turn : Action × Host) (failure : Failure) : Prop where
  active : turn.1.active = true
  fails : (turn.1.run.on turn.2).1 = .error failure
  foreign : failure.isOwn = false

/-- What an outcome says of a turn. -/
structure Reports (turn : Action × Host) (outcome : Outcome) : Prop where
  name : outcome.name = turn.1.displayName
  kind : outcome.kind = turn.1.kind
  skipped : outcome.ending = .skipped ↔ turn.1.active = false
  success : outcome.ending = .success ↔
    turn.1.active = true ∧ ∃ report?, (turn.1.run.on turn.2).1 = .ok report?
  failed (message : String) : outcome.ending = .failed message ↔ turn.1.active = true ∧
    ∃ failure, (turn.1.run.on turn.2).1 = .error failure ∧ failure.ownMessage? = some message

variable {turn : Action × Host} {failure : Failure} {outcome : Outcome}

theorem outcomeOf_eq_error_iff : outcomeOf turn = .error failure ↔ Breaks turn failure := by
  obtain ⟨action, host⟩ := turn
  unfold outcomeOf endingOn
  dsimp only
  constructor
  · intro h
    split at h
    · rename_i hactive
      split at h
      · cases h
      · rename_i other hrun
        split at h
        · cases h
        · rename_i hown
          cases h
          exact ⟨hactive, hrun, by rw [Failure.isOwn, hown]; rfl⟩
    · cases h
  · intro h
    have hown : failure.ownMessage? = none := by
      have hforeign := h.foreign
      rwa [Failure.isOwn, Option.isSome_eq_false_iff, Option.isNone_iff_eq_none] at hforeign
    rw [if_pos h.active, h.fails]
    dsimp only
    rw [hown]
    rfl

theorem exists_outcome_iff :
    (∃ outcome, outcomeOf turn = .ok outcome) ↔ ∀ failure, ¬ Breaks turn failure := by
  constructor
  · rintro ⟨outcome, h⟩ failure hbreaks
    rw [outcomeOf_eq_error_iff.2 hbreaks] at h
    cases h
  · intro h
    cases houtcome : outcomeOf turn with
    | ok outcome => exact ⟨outcome, rfl⟩
    | error failure => exact absurd (outcomeOf_eq_error_iff.1 houtcome) (h failure)

theorem Breaks.passesOn (h : Breaks turn failure) : turn.1.kind.passesOn failure = true := by
  rcases isOwn_or_passesOn h.fails with hown | hpasses
  · rw [h.foreign] at hown
    cases hown
  · exact hpasses

theorem reports_of_outcomeOf (h : outcomeOf turn = .ok outcome) : Reports turn outcome := by
  obtain ⟨action, host⟩ := turn
  unfold outcomeOf endingOn at h
  dsimp only at h
  split at h
  · rename_i hactive
    split at h
    · rename_i report hrun
      cases h
      exact ⟨rfl, rfl, by simp [hactive], by simp [hactive, hrun], by simp [hrun]⟩
    · rename_i other hrun
      split at h
      · rename_i message hown
        cases h
        exact ⟨rfl, rfl, by simp [hactive], by simp [hrun], by simp [hactive, hrun, hown]⟩
      · cases h
  · rename_i hactive
    cases h
    exact ⟨rfl, rfl, by simpa using hactive, by simp [hactive], by simp [hactive]⟩

/-! ## The whole run -/

/-- A run of actions reports every turn, or it stops at the first turn that breaks, with a failure
that the kind of its action passes on. -/
theorem runAll_returns_iff (actions : List Action) (host : Host) :
    let turns := turns actions host
    let result := ((runAll actions).on host).1
    turns.map (·.1) = actions ∧
      ((∃ outcomes, result = .ok outcomes) ↔ ∀ turn ∈ turns, ∀ failure, ¬ Breaks turn failure) ∧
      (∀ outcomes, result = .ok outcomes → List.Forall₂ Reports turns outcomes) ∧
      ∀ failure, result = .error failure → ∃ done turn rest, turns = done ++ turn :: rest ∧
        (∀ earlier ∈ done, ∀ other, ¬ Breaks earlier other) ∧ Breaks turn failure ∧
        turn.1.kind.passesOn failure = true := by
  intro turns result
  have hresult : result = turns.mapM outcomeOf := on_runAll actions host
  rw [hresult]
  refine ⟨map_turns actions host, ⟨?_, ?_⟩, ?_, ?_⟩
  · rintro ⟨outcomes, h⟩ turn hturn
    have hpairs : List.Forall₂ (fun turn outcome => (∃ outcome, outcomeOf turn = .ok outcome) ∧
        outcomeOf turn = .ok outcome) turns outcomes :=
      (mapM_eq_ok_iff.1 h).imp fun _ outcome houtcome => ⟨⟨outcome, houtcome⟩, houtcome⟩
    exact exists_outcome_iff.1 (((List.forall₂_and_left _ _).1 hpairs).1 turn hturn)
  · intro h
    cases hmapped : turns.mapM outcomeOf with
    | ok outcomes => exact ⟨outcomes, rfl⟩
    | error failure =>
        obtain ⟨done, turn, rest, hturns, -, hturn⟩ := exists_first_of_mapM hmapped
        have hmem : turn ∈ turns := by simp [hturns]
        exact absurd (outcomeOf_eq_error_iff.1 hturn) (h turn hmem failure)
  · intro outcomes h
    exact (mapM_eq_ok_iff.1 h).imp fun _ _ => reports_of_outcomeOf
  · intro failure h
    obtain ⟨done, turn, rest, hturns, hdone, hturn⟩ := exists_first_of_mapM h
    have hbreaks := outcomeOf_eq_error_iff.1 hturn
    exact ⟨done, turn, rest, hturns,
      fun earlier hmem => exists_outcome_iff.1 (hdone earlier hmem), hbreaks, hbreaks.passesOn⟩

/-- Two actions, the first of which stamps a project that is not UTF-8. -/
def unreadableProject : List Action :=
  [{ kind := .setVersion
     text := fun field => if field = .csharpProjectFilename then "a.csproj" else "" },
    { kind := .none }]

def unreadableHost : Host where
  disk := ⟨[(["a.csproj"], .file [0xff])]⟩

/-- An action that breaks takes the turn from those after it. -/
theorem runAll_stops_at_unreadable_project :
    ((runAll unreadableProject).on unreadableHost).1 = .error .notUtf8 := by
  decide +kernel

end Action

end SetupForge
