import SetupForge.Host

/-! # Jobs on hosts that differ in their records

What was said and what happened before is written down and never read again. Two hosts that agree
in everything else are twins: a job goes the same way on both and leaves twins behind, and what is
said on them stays as close as it was. The rules relate two jobs, so that jobs that say different
things can be compared as well.
-/

namespace SetupForge

/-- A closeness of what was said on two hosts, which lasts while the same is said on both. -/
structure Likeness where
  rel : List Utterance → List Utterance → Prop
  append {said other : List Utterance} (more : List Utterance) :
    rel said other → rel (said ++ more) (other ++ more)

namespace Likeness

def any : Likeness where
  rel _ _ := True
  append _ _ := trivial

/-- Whether two hosts stay close when one utterance is said on the first and one on the other. -/
def Admits (likeness : Likeness) (utterance twin : Utterance) : Prop :=
  ∀ said other, likeness.rel said other →
    likeness.rel (said ++ [utterance]) (other ++ [twin])

theorem admits_self (likeness : Likeness) (utterance : Utterance) :
    likeness.Admits utterance utterance := fun _ _ h => likeness.append [utterance] h

end Likeness

namespace Host

/-- Whether two hosts differ in their records alone, and what was said on them is close. -/
structure Twins (likeness : Likeness) (host other : Host) : Prop where
  disk : other.disk = host.disk
  folder : other.folder = host.folder
  environment : other.environment = host.environment
  accountHome : other.accountHome = host.accountHome
  clock : other.clock = host.clock
  toolRuns : other.toolRuns = host.toolRuns
  web : other.web = host.web
  downloadTenths : other.downloadTenths = host.downloadTenths
  requested : other.requested = host.requested
  input : other.input = host.input
  said : likeness.rel host.said other.said

namespace Twins

variable {likeness : Likeness} {host other : Host}

theorem refl (h : likeness.rel host.said host.said) : host.Twins likeness host :=
  ⟨rfl, rfl, rfl, rfl, rfl, rfl, rfl, rfl, rfl, rfl, h⟩

theorem surroundings (h : host.Twins likeness other) : other.surroundings = host.surroundings := by
  rw [Host.surroundings, Host.surroundings, h.environment, h.accountHome]

theorem status (h : host.Twins likeness other) (path : Path) :
    other.status path = host.status path := by
  rw [Host.status, Host.status, h.disk, h.folder]

theorem isFolder (h : host.Twins likeness other) (path : Path) :
    other.isFolder path = host.isFolder path := by
  rw [Host.isFolder, Host.isFolder, h.disk, h.folder]

theorem fileNames (h : host.Twins likeness other) (path : Path) :
    other.fileNames path = host.fileNames path := by
  rw [Host.fileNames, Host.fileNames, h.disk, h.folder]

theorem say (h : host.Twins likeness other) {utterance twin : Utterance}
    (hsaid : likeness.Admits utterance twin) :
    Twins likeness { host with said := host.said ++ [utterance] }
      { other with said := other.said ++ [twin] } :=
  { h with said := hsaid _ _ h.said }

theorem sayAll (h : host.Twins likeness other) (more : List Utterance) :
    Twins likeness { host with said := host.said ++ more }
      { other with said := other.said ++ more } :=
  { h with said := likeness.append more h.said }

theorem withDisk (h : host.Twins likeness other) (disk : Disk) :
    (host.withDisk disk).Twins likeness (other.withDisk disk) := { h with disk := rfl }

theorem withEnvironment (h : host.Twins likeness other) (environment : Environment) :
    Twins likeness { host with environment } { other with environment } :=
  { h with environment := rfl }

theorem withRequested (h : host.Twins likeness other) (more : List String) :
    Twins likeness { host with requested := host.requested ++ more }
      { other with requested := other.requested ++ more } :=
  { h with requested := by rw [h.requested] }

theorem start (h : host.Twins likeness other) (event twin : Event) :
    Twins likeness
      { host with toolRuns := host.toolRuns.tail, history := host.history ++ [event] }
      { other with toolRuns := other.toolRuns.tail, history := other.history ++ [twin] } :=
  { h with toolRuns := by rw [h.toolRuns] }

theorem applyWrite (h : host.Twins likeness other) (write : Path × Option Bytes) :
    (host.applyWrite write).Twins likeness (other.applyWrite write) := by
  obtain ⟨path, content?⟩ := write
  cases content? with
  | some content =>
      have hmade := h.withDisk (host.disk.makeFolder host.folder path.parent).1
      unfold Host.applyWrite
      dsimp only
      rw [h.disk, h.folder, hmade.disk, hmade.folder]
      cases (host.withDisk (host.disk.makeFolder host.folder path.parent).1).disk.write
          (host.withDisk (host.disk.makeFolder host.folder path.parent).1).folder path content with
      | ok disk => exact hmade.withDisk disk
      | error fault => exact hmade
  | none =>
      unfold Host.applyWrite
      dsimp only
      rw [h.disk, h.folder]
      cases host.disk.unlink host.folder path with
      | ok disk => exact h.withDisk disk
      | error fault => exact h

theorem applyWrites (h : host.Twins likeness other) (writes : List (Path × Option Bytes)) :
    (writes.foldl Host.applyWrite host).Twins likeness (writes.foldl Host.applyWrite other) := by
  induction writes generalizing host other with
  | nil => exact h
  | cons write writes ih => exact ih (h.applyWrite write)

end Twins

end Host

namespace Job

/-- Whether two jobs go the same way on twins and leave twins. -/
def Alike {α : Type} (likeness : Likeness) (job twin : Job α) : Prop :=
  ∀ host other, host.Twins likeness other →
    (job.on host).1 = (twin.on other).1 ∧ (job.on host).2.Twins likeness (twin.on other).2

variable {α β : Type} {likeness : Likeness}

/-! ## Parts of jobs -/

theorem alike_pure (value : α) : Alike likeness (pure value) (pure value) :=
  fun _ _ h => ⟨rfl, h⟩

theorem alike_fail (failure : Failure) : Alike likeness (fail failure : Job α) (fail failure) :=
  fun _ _ h => ⟨rfl, h⟩

theorem alike_reject (fault : SettingsFault) :
    Alike likeness (reject fault : Job α) (reject fault) := alike_fail (.settings fault)

theorem alike_set {host other : Host} (h : host.Twins likeness other) :
    Alike likeness (set host) (set other) := fun _ _ _ => ⟨rfl, h⟩

theorem alike_say {utterance twin : Utterance} (h : likeness.Admits utterance twin) :
    Alike likeness (say utterance) (say twin) := fun _ _ htwins => ⟨rfl, htwins.say h⟩

theorem alike_note (message : Note) : Alike likeness (note message) (note message) :=
  alike_say (likeness.admits_self _)

theorem alike_notes (messages : List Note) : Alike likeness (notes messages) (notes messages) :=
  fun _ _ h => ⟨rfl, h.sayAll _⟩

theorem alike_lift (result : Except Failure α) :
    Alike likeness (liftM result : Job α) (liftM result) := by
  cases result with
  | ok value => exact alike_pure value
  | error failure => exact alike_fail failure

theorem Alike.bind {job twin : Job α} {next other : α → Job β} (h : Alike likeness job twin)
    (hnext : ∀ value, Alike likeness (next value) (other value)) :
    Alike likeness (job >>= next) (twin >>= other) := by
  intro host otherHost htwins
  obtain ⟨hresult, hafter⟩ := h host otherHost htwins
  rw [on_bind, on_bind]
  cases hjob : job.on host with
  | mk result after =>
      cases htwin : twin.on otherHost with
      | mk twinResult twinAfter =>
          rw [hjob, htwin] at hresult hafter
          dsimp only at hresult hafter
          subst hresult
          cases result with
          | error failure => exact ⟨rfl, hafter⟩
          | ok value => exact hnext value after twinAfter hafter

/-- A job that goes on with the host may look at everything but the records. -/
theorem alike_get_bind {next other : Host → Job α}
    (h : ∀ host twin, host.Twins likeness twin → Alike likeness (next host) (other twin)) :
    Alike likeness (get >>= next) (get >>= other) := by
  intro host twin htwins
  rw [on_bind, on_bind, on_get, on_get]
  exact h host twin htwins host twin htwins

theorem Alike.attempt {job twin : Job α} (h : Alike likeness job twin) :
    Alike likeness (Job.attempt job) (Job.attempt twin) := by
  intro host other htwins
  obtain ⟨hresult, hafter⟩ := h host other htwins
  rw [on_attempt, on_attempt]
  exact ⟨congrArg Except.ok hresult, hafter⟩

/-! ## Reading -/

theorem alike_usable (path : Path) : Alike likeness (usable path) (usable path) := by
  unfold usable
  split
  · exact alike_pure ()
  · exact alike_fail _

theorem alike_requireText (n : Int) : Alike likeness (requireText n) (requireText n) := by
  unfold requireText
  split
  · exact alike_pure ()
  · exact alike_fail _

theorem alike_status (path : Path) : Alike likeness (status path) (status path) := by
  unfold status
  split
  · refine alike_get_bind fun host other h => ?_
    rw [h.status]
    cases host.status path with
    | ok node? => exact alike_pure node?
    | error fault => exact alike_fail _
  · exact alike_pure none

theorem alike_hasPath (path : Path) : Alike likeness (hasPath path) (hasPath path) :=
  (alike_status path).bind fun _ => alike_pure _

theorem alike_isFolder (path : Path) : Alike likeness (isFolder path) (isFolder path) :=
  (alike_status path).bind fun _ => alike_pure _

theorem alike_fileNames (path : Path) : Alike likeness (fileNames path) (fileNames path) := by
  refine alike_get_bind fun host other h => ?_
  rw [h.fileNames]
  cases host.fileNames path with
  | ok names => exact alike_pure names
  | error fault => exact alike_fail _

theorem alike_load (path : Path) : Alike likeness (load path) (load path) := by
  refine (alike_usable path).bind fun _ => alike_get_bind fun host other h => ?_
  rw [h.disk, h.folder]
  cases host.disk.read host.folder path with
  | ok content => exact alike_pure content
  | error fault => exact alike_fail _

theorem alike_readText (path : Path) : Alike likeness (readText path) (readText path) := by
  refine (alike_load path).bind fun content => ?_
  cases Utf8.decodeMarked? content with
  | some text => exact alike_pure _
  | none => exact alike_fail _

/-! ## Changing the disk -/

theorem alike_onDisk (operation : Disk → Location → Except AccessFault Disk) :
    Alike likeness (onDisk operation) (onDisk operation) := by
  refine alike_get_bind fun host other h => ?_
  rw [h.disk, h.folder]
  cases operation host.disk host.folder with
  | ok disk => exact alike_set (h.withDisk disk)
  | error fault => exact alike_fail _

theorem alike_store (path : Path) (content : Bytes) :
    Alike likeness (store path content) (store path content) :=
  (alike_usable path).bind fun _ => alike_onDisk _

theorem alike_unlink (path : Path) : Alike likeness (unlink path) (unlink path) :=
  (alike_usable path).bind fun _ => alike_onDisk _

theorem alike_rename (path target : Path) :
    Alike likeness (rename path target) (rename path target) :=
  (alike_usable path).bind fun _ => (alike_usable target).bind fun _ => alike_onDisk _

theorem alike_makeFolder (path : Path) : Alike likeness (makeFolder path) (makeFolder path) := by
  refine (alike_usable path).bind fun _ => alike_get_bind fun host other h => ?_
  rw [h.disk, h.folder]
  generalize host.disk.makeFolder host.folder path = made
  obtain ⟨disk, fault?⟩ := made
  refine (alike_set (h.withDisk disk)).bind fun _ => ?_
  cases fault? with
  | some fault => exact alike_fail _
  | none => exact alike_pure ()

theorem alike_copy (source target : Path) :
    Alike likeness (copy source target) (copy source target) := by
  refine alike_get_bind fun host other h => ?_
  dsimp only
  rw [h.isFolder, h.disk, h.folder]
  generalize (if host.isFolder target then target.child source.fileName else target) = chosen
  have hstore : Alike likeness (do store chosen (← load source)) (do store chosen (← load source)) :=
    (alike_load source).bind fun content => alike_store chosen content
  refine (alike_usable source).bind fun _ => (alike_usable chosen).bind fun _ => ?_
  cases host.disk.locate host.folder source with
  | error cause => exact hstore
  | ok old =>
      cases host.disk.locate host.folder chosen with
      | error cause => exact hstore
      | ok new =>
          dsimp only
          split
          · exact alike_fail _
          · exact hstore

end Job

end SetupForge
