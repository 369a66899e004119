import SetupForge.Proofs.Disk.Holding
import SetupForge.Proofs.Disk.Jobs

/-! # What jobs do

Limits say which files jobs may touch, which processes they may start, and how they may fail,
counted from the host that they start on. A job works within limits if every disk that it leaves
behind on its way still holds the files that it may not touch. The rules follow the way a job is
put together.
-/

namespace SetupForge

namespace Failure

def isOfDisk : Failure → Bool
  | .access _ => true
  | .unusablePath => true
  | _ => false

def isOrdinary (failure : Failure) : Bool := failure.isOwn || failure.isOfDisk

@[simp] theorem isOrdinary_access (fault : AccessFault) : (access fault).isOrdinary = true := by
  simp [isOrdinary, isOfDisk]

@[simp] theorem isOrdinary_unusablePath : unusablePath.isOrdinary = true := by
  simp [isOrdinary, isOfDisk]

@[simp] theorem isOrdinary_settings (fault : SettingsFault) :
    (settings fault).isOrdinary = true := by
  simp [isOrdinary, isOwn, ownMessage?]

@[simp] theorem isOrdinary_network (fault : NetworkFault) :
    (network fault).isOrdinary = true := by
  simp [isOrdinary, isOwn, ownMessage?]

@[simp] theorem isOrdinary_packaging (fault : PackagingFault) (output : List String) :
    (packaging fault output).isOrdinary = true := by
  simp [isOrdinary, isOwn, ownMessage?]

end Failure

namespace Event

def starts (events : List Event) : List (ProcessStart × Disk) := events.filterMap start?

@[simp] theorem starts_nil : starts [] = [] := rfl

@[simp] theorem starts_append (events more : List Event) :
    starts (events ++ more) = starts events ++ starts more := List.filterMap_append ..

@[simp] theorem starts_change (before : Disk) : starts [.change before] = [] := rfl

@[simp] theorem starts_start (process : ProcessStart) (found : Disk) :
    starts [.start process found] = [(process, found)] := rfl

end Event

/-- What jobs may do to a host, and that its processes do no more. -/
structure Limits where
  /-- The host that the jobs start on. -/
  origin : Host
  /-- The locations whose files may change. -/
  touched : Location → Prop
  /-- The processes that may be started. -/
  may : ProcessStart → Prop
  fails : Failure → Prop
  writes : ∀ run ∈ origin.toolRuns, ∀ write ∈ run.writes,
    touched (write.1.location origin.folder)
  ordinary : ∀ failure : Failure, failure.isOrdinary = true → fails failure

namespace Limits

/-- Whether a host is where some events may have led. -/
structure Allows (limits : Limits) (events : List Event) (host : Host) : Prop where
  folder : host.folder = limits.origin.folder
  clock : host.clock = limits.origin.clock
  history : host.history = limits.origin.history ++ events
  /-- Every process that was started has used up one run. -/
  toolRuns : host.toolRuns = limits.origin.toolRuns.drop (Event.starts events).length
  may : ∀ start ∈ Event.starts events, limits.may start.1
  spared : ∀ event ∈ events, Disk.Spares limits.touched limits.origin.disk event.disk
  disk : Disk.Spares limits.touched limits.origin.disk host.disk

def withFails (limits : Limits) (fails : Failure → Prop)
    (ordinary : ∀ failure : Failure, failure.isOrdinary = true → fails failure) : Limits :=
  { limits with fails, ordinary }

def lax (origin : Host) (may : ProcessStart → Prop) : Limits where
  origin := origin
  touched _ := True
  may := may
  fails _ := True
  writes _ _ _ _ := trivial
  ordinary _ _ := trivial

variable {limits : Limits} {events : List Event} {host after : Host}

theorem allows_origin (limits : Limits) : limits.Allows [] limits.origin where
  folder := rfl
  clock := rfl
  history := (List.append_nil _).symm
  toolRuns := rfl
  may := by simp
  spared := by simp
  disk := Disk.Spares.refl

namespace Allows

theorem starts_eq (h : limits.Allows events host) :
    host.starts = limits.origin.starts ++ Event.starts events := by
  rw [Host.starts, h.history, List.filterMap_append]
  rfl

theorem change {disk : Disk} (h : limits.Allows events host)
    (hdisk : Disk.Spares limits.touched host.disk disk) :
    limits.Allows (events ++ [.change host.disk]) (host.withDisk disk) where
  folder := h.folder
  clock := h.clock
  history := by simp [Host.withDisk, h.history]
  toolRuns := by simpa [Host.withDisk] using h.toolRuns
  may := by simpa using h.may
  spared := by
    intro event hevent
    rcases List.mem_append.1 hevent with hold | hnew
    · exact h.spared event hold
    · rw [List.mem_singleton] at hnew
      rw [hnew]
      exact h.disk
  disk := h.disk.trans hdisk

theorem congr (h : limits.Allows events host) (hfolder : after.folder = host.folder)
    (hclock : after.clock = host.clock) (hhistory : after.history = host.history)
    (htoolRuns : after.toolRuns = host.toolRuns) (hdisk : after.disk = host.disk) :
    limits.Allows events after where
  folder := hfolder.trans h.folder
  clock := hclock.trans h.clock
  history := hhistory.trans h.history
  toolRuns := htoolRuns.trans h.toolRuns
  may := h.may
  spared := h.spared
  disk := hdisk ▸ h.disk

end Allows

end Limits

namespace Job

variable {α β : Type} {limits : Limits}

/-- Whether a job works within limits, and gives values that meet a condition. -/
def Works (limits : Limits) (job : Job α) (gives : α → Prop) : Prop :=
  ∀ host events, limits.Allows events host →
    (∃ later, limits.Allows later (job.on host).2) ∧
      (∀ value, (job.on host).1 = .ok value → gives value) ∧
      ∀ failure, (job.on host).1 = .error failure → limits.fails failure

/-! ## Parts of jobs -/

theorem Works.mono {job : Job α} {gives weaker : α → Prop} (h : Works limits job gives)
    (hgives : ∀ value, gives value → weaker value) : Works limits job weaker := by
  intro host events hallows
  obtain ⟨hlater, hvalue, hfailure⟩ := h host events hallows
  exact ⟨hlater, fun value hv => hgives value (hvalue value hv), hfailure⟩

theorem works_pure {gives : α → Prop} (value : α) (h : gives value) :
    Works limits (pure value : Job α) gives := by
  intro host events hallows
  refine ⟨⟨events, hallows⟩, ?_, by simp⟩
  intro other hother
  rw [on_pure, Except.ok.injEq] at hother
  exact hother ▸ h

theorem works_fail {gives : α → Prop} {failure : Failure} (h : limits.fails failure) :
    Works limits (fail failure : Job α) gives := by
  intro host events hallows
  refine ⟨⟨events, hallows⟩, by simp, ?_⟩
  intro other hother
  rw [on_fail, Except.error.injEq] at hother
  exact hother ▸ h

theorem works_fail_ordinary {gives : α → Prop} (failure : Failure)
    (h : failure.isOrdinary = true) : Works limits (fail failure : Job α) gives :=
  works_fail (limits.ordinary failure h)

theorem works_reject {gives : α → Prop} (fault : SettingsFault) :
    Works limits (reject fault : Job α) gives := works_fail_ordinary (.settings fault) (by simp)

theorem works_get : Works limits (get : Job Host) fun host =>
    host.folder = limits.origin.folder ∧ host.clock = limits.origin.clock := by
  intro host events hallows
  refine ⟨⟨events, hallows⟩, ?_, by simp⟩
  intro value hvalue
  rw [on_get, Except.ok.injEq] at hvalue
  exact hvalue ▸ ⟨hallows.folder, hallows.clock⟩

theorem works_say (utterance : Utterance) : Works limits (say utterance) fun _ => True :=
  fun _ events hallows =>
    ⟨⟨events, hallows.congr rfl rfl rfl rfl rfl⟩, fun _ _ => trivial, fun _ h => nomatch h⟩

theorem works_note (message : Note) : Works limits (note message) fun _ => True :=
  works_say _

theorem works_notes (messages : List Note) : Works limits (notes messages) fun _ => True :=
  fun _ events hallows =>
    ⟨⟨events, hallows.congr rfl rfl rfl rfl rfl⟩, fun _ _ => trivial, fun _ h => nomatch h⟩

theorem works_lift {result : Except Failure α} {gives : α → Prop}
    (hvalue : ∀ value, result = .ok value → gives value)
    (hfailure : ∀ failure, result = .error failure → limits.fails failure) :
    Works limits (liftM result : Job α) gives := by
  cases result with
  | ok value => exact works_pure value (hvalue value rfl)
  | error failure => exact works_fail (hfailure failure rfl)

theorem Works.bind {job : Job α} {next : α → Job β} {hands : α → Prop} {gives : β → Prop}
    (h : Works limits job hands)
    (hnext : ∀ value, hands value → Works limits (next value) gives) :
    Works limits (job >>= next) gives := by
  intro host events hallows
  obtain ⟨⟨later, hmiddle⟩, hvalue, hfailure⟩ := h host events hallows
  rw [on_bind]
  cases hrun : job.on host with
  | mk result middle =>
      rw [hrun] at hmiddle hvalue hfailure
      cases result with
      | error failure =>
          refine ⟨⟨later, hmiddle⟩, by simp, ?_⟩
          intro other hother
          rw [Except.error.injEq] at hother
          exact hother ▸ hfailure failure rfl
      | ok value => exact hnext value (hvalue value rfl) middle later hmiddle

theorem Works.attempt {fails : Failure → Prop}
    {ordinary : ∀ failure : Failure, failure.isOrdinary = true → fails failure} {job : Job α}
    {gives : α → Prop} (h : Works (limits.withFails fails ordinary) job gives) :
    Works limits (Job.attempt job) fun result =>
      (∀ value, result = .ok value → gives value) ∧
        ∀ failure, result = .error failure → fails failure := by
  intro host events hallows
  have hother : (limits.withFails fails ordinary).Allows events host :=
    ⟨hallows.folder, hallows.clock, hallows.history, hallows.toolRuns, hallows.may,
      hallows.spared, hallows.disk⟩
  obtain ⟨⟨later, hafter⟩, hvalue, hfailure⟩ := h host events hother
  rw [on_attempt]
  refine ⟨⟨later, hafter.folder, hafter.clock, hafter.history, hafter.toolRuns, hafter.may,
    hafter.spared, hafter.disk⟩, ?_, by simp⟩
  intro result hresult
  rw [Except.ok.injEq] at hresult
  exact hresult ▸ ⟨hvalue, hfailure⟩

theorem exists_of_on_bind {job : Job α} {next : α → Job β} {host after : Host} {value : β}
    (h : (job >>= next).on host = (.ok value, after)) :
    ∃ first middle, job.on host = (.ok first, middle) ∧
      (next first).on middle = (.ok value, after) := by
  rw [on_bind] at h
  split at h
  · rename_i first middle hfirst
    exact ⟨first, middle, hfirst, h⟩
  · cases h

/-! ## Reading -/

theorem works_usable (path : Path) : Works limits (usable path) fun _ => True := by
  unfold usable
  split
  · exact works_pure () trivial
  · exact works_fail_ordinary _ (by simp)

theorem works_status (path : Path) : Works limits (status path) fun _ => True := by
  unfold status
  split
  · refine works_get.bind fun host _ => ?_
    split
    · exact works_pure _ trivial
    · exact works_fail_ordinary _ (by simp)
  · exact works_pure _ trivial

theorem works_hasPath (path : Path) : Works limits (hasPath path) fun _ => True :=
  (works_status path).bind fun _ _ => works_pure _ trivial

theorem works_isFolder (path : Path) : Works limits (isFolder path) fun _ => True :=
  (works_status path).bind fun _ _ => works_pure _ trivial

theorem works_fileNames (path : Path) : Works limits (fileNames path) fun _ => True := by
  refine works_get.bind fun host _ => ?_
  split
  · exact works_pure _ trivial
  · exact works_fail_ordinary _ (by simp)

theorem works_load (path : Path) : Works limits (load path) fun bytes =>
    ∀ content, ¬ limits.touched (path.location limits.origin.folder) →
      limits.origin.disk.Holds (path.location limits.origin.folder) content →
      bytes = content := by
  refine (works_usable path).bind fun _ _ => ?_
  intro host events hallows
  rw [on_bind, on_get]
  dsimp only
  cases hread : host.disk.read host.folder path with
  | error fault =>
      refine ⟨⟨events, hallows⟩, by simp, ?_⟩
      intro failure hfailure
      rw [on_fail, Except.error.injEq] at hfailure
      exact limits.ordinary failure (hfailure ▸ by simp)
  | ok bytes =>
      refine ⟨⟨events, hallows⟩, ?_, by simp⟩
      intro value hvalue content hfar hheld
      rw [on_pure, Except.ok.injEq] at hvalue
      rw [← hvalue]
      rw [hallows.folder] at hread
      exact (hallows.disk _ _ hfar hheld).eq_of_read hread

theorem works_readText (h : limits.fails .notUtf8) (path : Path) :
    Works limits (readText path) fun _ => True := by
  refine (works_load path).bind fun content _ => ?_
  split
  · exact works_pure _ trivial
  · exact works_fail h

theorem works_requireText (h : limits.fails .tooManyDigits) (n : Int) :
    Works limits (requireText n) fun _ => True := by
  unfold requireText
  split
  · exact works_pure () trivial
  · exact works_fail h

/-! ## Changing the disk -/

theorem works_onDisk {operation : Disk → Location → Except AccessFault Disk}
    (h : ∀ disk after, operation disk limits.origin.folder = .ok after →
      Disk.Spares limits.touched disk after) : Works limits (onDisk operation) fun _ => True := by
  intro host events hallows
  rw [on_onDisk]
  cases hoperation : operation host.disk host.folder with
  | error fault =>
      refine ⟨⟨events, hallows⟩, fun _ _ => trivial, ?_⟩
      intro failure hfailure
      rw [Except.error.injEq] at hfailure
      exact limits.ordinary failure (hfailure ▸ by simp)
  | ok after =>
      rw [hallows.folder] at hoperation
      exact ⟨⟨_, hallows.change (h host.disk after hoperation)⟩, fun _ _ => trivial, by simp⟩

theorem works_store {path : Path} (h : limits.touched (path.location limits.origin.folder))
    (content : Bytes) : Works limits (store path content) fun _ => True :=
  (works_usable path).bind fun _ _ => works_onDisk fun _ _ hwrite => Disk.spares_write hwrite h

theorem on_store_cases (path : Path) (content : Bytes) (host : Host) :
    (∃ failure, (store path content).on host = (.error failure, host)) ∨
      ∃ disk, host.disk.write host.folder path content = .ok disk ∧
        (store path content).on host = (.ok ⟨⟩, host.withDisk disk) := by
  rw [on_store_eq]
  split
  · cases host.disk.write host.folder path content with
    | error fault => exact Or.inl ⟨_, rfl⟩
    | ok disk => exact Or.inr ⟨disk, rfl, rfl⟩
  · exact Or.inl ⟨_, rfl⟩

theorem works_unlink {path : Path} (h : limits.touched (path.location limits.origin.folder)) :
    Works limits (unlink path) fun _ => True :=
  (works_usable path).bind fun _ _ => works_onDisk fun _ _ hunlink => Disk.spares_unlink hunlink h

theorem works_rename {path target : Path}
    (h : limits.touched (path.location limits.origin.folder))
    (htarget : limits.touched (target.location limits.origin.folder)) :
    Works limits (rename path target) fun _ => True :=
  (works_usable path).bind fun _ _ => (works_usable target).bind fun _ _ =>
    works_onDisk fun _ _ hrename => Disk.spares_rename hrename h htarget

theorem works_makeFolder (path : Path) : Works limits (makeFolder path) fun _ => True := by
  refine (works_usable path).bind fun _ _ => ?_
  intro host events hallows
  have hspared : Disk.Spares limits.touched host.disk
      (host.disk.makeFolder host.folder path).1 := Disk.spares_makeFolder host.folder path
  have hmade := hallows.change hspared
  rw [on_bind, on_get]
  dsimp only
  rw [on_bind, on_set]
  cases (host.disk.makeFolder host.folder path).2 with
  | none => exact ⟨⟨_, hmade⟩, fun _ _ => trivial, by simp⟩
  | some fault =>
      refine ⟨⟨_, hmade⟩, fun _ _ => trivial, ?_⟩
      intro failure hfailure
      dsimp only at hfailure
      rw [on_fail, Except.error.injEq] at hfailure
      exact limits.ordinary failure (hfailure ▸ by simp)

theorem works_copy {source target : Path}
    (hsame : ∀ source target, limits.fails (.sameFile source target))
    (h : limits.touched (target.location limits.origin.folder))
    (hinside : limits.touched ((target.child source.fileName).location limits.origin.folder)) :
    Works limits (copy source target) fun _ => True := by
  refine works_get.bind fun host _ => ?_
  dsimp only
  generalize hchosen : (if host.isFolder target then target.child source.fileName else target) =
    chosen
  have htouched : limits.touched (chosen.location limits.origin.folder) := by
    rw [← hchosen]
    split
    · exact hinside
    · exact h
  have hstore : Works limits (do store chosen (← load source)) fun _ => True :=
    (works_load source).bind fun content _ => works_store htouched content
  refine (works_usable source).bind fun _ _ => (works_usable chosen).bind fun _ _ => ?_
  split
  · split
    · exact works_fail (hsame _ _)
    · exact hstore
  · exact hstore

end Job

end SetupForge
