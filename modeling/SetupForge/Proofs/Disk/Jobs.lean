import SetupForge.Host
import SetupForge.Proofs.Disk.Tree

/-! # What jobs keep

A job keeps the tree of the disk, its folders, and the files that it may not touch, whether it
succeeds or fails. The rules follow the way a job is put together, with a condition on the value
that each part hands on.
-/

namespace SetupForge.Job

/-- Whether a job keeps what stands at untouched locations of a disk that is a tree, stays in its
folder, and gives values that meet a condition. -/
def Keeps {α : Type} (touched : Location → Prop) (job : Job α) (gives : α → Prop) : Prop :=
  ∀ host : Host, host.disk.IsTree → host.disk.node? host.folder = some .folder →
    Disk.Keeps touched host.disk (job.on host).2.disk ∧
      (job.on host).2.folder = host.folder ∧ ∀ value, (job.on host).1 = .ok value → gives value

def Reaches (touched : Location → Prop) (path : Path) : Prop :=
  ∀ (disk : Disk) (folder location : Location), disk.locate folder path = .ok location →
    touched location

variable {α β : Type} {touched : Location → Prop}

theorem Reaches.mono {more : Location → Prop} {path : Path} (h : Reaches touched path)
    (hmore : ∀ location, touched location → more location) : Reaches more path :=
  fun disk folder location hlocate => hmore location (h disk folder location hlocate)

/-! ## Parts of jobs -/

theorem Keeps.mono {more : Location → Prop} {job : Job α} {gives weaker : α → Prop}
    (h : Keeps touched job gives) (hmore : ∀ location, touched location → more location)
    (hgives : ∀ value, gives value → weaker value) : Keeps more job weaker := by
  intro host htree hfolder
  obtain ⟨hdisk, hstays, hvalue⟩ := h host htree hfolder
  exact ⟨hdisk.mono hmore, hstays, fun value hv => hgives value (hvalue value hv)⟩

theorem keeps_of_disk_eq {job : Job α} {gives : α → Prop}
    (h : ∀ host, (job.on host).2.disk = host.disk ∧ (job.on host).2.folder = host.folder ∧
      ∀ value, (job.on host).1 = .ok value → gives value) : Keeps touched job gives := by
  intro host htree _
  obtain ⟨hdisk, hstays, hvalue⟩ := h host
  rw [hdisk]
  exact ⟨Disk.Keeps.refl htree, hstays, hvalue⟩

theorem keeps_pure {gives : α → Prop} (value : α) (h : gives value) :
    Keeps touched (pure value : Job α) gives :=
  keeps_of_disk_eq fun host => ⟨rfl, rfl, fun other hother => by
    simp only [on_pure, Except.ok.injEq] at hother
    exact hother ▸ h⟩

theorem keeps_fail {gives : α → Prop} (failure : Failure) :
    Keeps touched (fail failure : Job α) gives :=
  keeps_of_disk_eq fun host => ⟨rfl, rfl, fun value hv => by simp at hv⟩

theorem keeps_get : Keeps touched (get : Job Host) fun _ => True :=
  keeps_of_disk_eq fun _ => ⟨rfl, rfl, fun _ _ => trivial⟩

theorem keeps_note (note : Note) : Keeps touched (Job.note note) fun _ => True :=
  keeps_of_disk_eq fun _ => ⟨rfl, rfl, fun _ _ => trivial⟩

theorem keeps_notes (notes : List Note) : Keeps touched (Job.notes notes) fun _ => True :=
  keeps_of_disk_eq fun _ => ⟨rfl, rfl, fun _ _ => trivial⟩

theorem Keeps.bind {job : Job α} {next : α → Job β} {hands : α → Prop} {gives : β → Prop}
    (h : Keeps touched job hands)
    (hnext : ∀ value, hands value → Keeps touched (next value) gives) :
    Keeps touched (job >>= next) gives := by
  intro host htree hfolder
  obtain ⟨hdisk, hstays, hvalue⟩ := h host htree hfolder
  rw [on_bind]
  cases hrun : job.on host with
  | mk result middle =>
      rw [hrun] at hdisk hstays hvalue
      cases result with
      | error failure => exact ⟨hdisk, hstays, fun value hv => by simp at hv⟩
      | ok value =>
          have hmiddle : middle.disk.node? middle.folder = some .folder :=
            hstays ▸ hdisk.folder hfolder
          obtain ⟨hdisk', hstays', hvalue'⟩ :=
            hnext value (hvalue value rfl) middle hdisk.isTree hmiddle
          exact ⟨hdisk.trans hdisk', hstays'.trans hstays, hvalue'⟩

theorem on_bind_pure (job : Job α) (f : α → β) (host : Host) :
    (job >>= fun value => pure (f value)).on host =
      ((job.on host).1.map f, (job.on host).2) := by
  rw [on_bind]
  cases job.on host with
  | mk result after => cases result <;> rfl

theorem on_lift (result : Except Failure α) (host : Host) :
    (liftM result : Job α).on host = (result, host) := by
  cases result <;> rfl

theorem Keeps.attempt {job : Job α} {gives : α → Prop} (h : Keeps touched job gives) :
    Keeps touched (Job.attempt job) fun _ => True := by
  intro host htree hfolder
  obtain ⟨hdisk, hstays, -⟩ := h host htree hfolder
  exact ⟨hdisk, hstays, fun _ _ => trivial⟩

/-! ## Reading -/

theorem keeps_usable (path : Path) : Keeps touched (usable path) fun _ => True := by
  unfold usable
  split
  · exact keeps_pure () trivial
  · exact keeps_fail _

theorem keeps_requireText (n : Int) : Keeps touched (requireText n) fun _ => True := by
  unfold requireText
  split
  · exact keeps_pure () trivial
  · exact keeps_fail _

theorem keeps_status (path : Path) : Keeps touched (status path) fun _ => True := by
  unfold status
  split
  · refine keeps_get.bind fun host _ => ?_
    split
    · exact keeps_pure _ trivial
    · exact keeps_fail _
  · exact keeps_pure _ trivial

theorem keeps_hasPath (path : Path) : Keeps touched (hasPath path) fun _ => True :=
  (keeps_status path).bind fun _ _ => keeps_pure _ trivial

theorem keeps_isFolder (path : Path) : Keeps touched (isFolder path) fun _ => True :=
  (keeps_status path).bind fun _ _ => keeps_pure _ trivial

theorem keeps_fileNames (path : Path) : Keeps touched (fileNames path) fun _ => True := by
  refine keeps_get.bind fun host _ => ?_
  split
  · exact keeps_pure _ trivial
  · exact keeps_fail _

theorem keeps_load (path : Path) : Keeps touched (load path) fun _ => True := by
  refine (keeps_usable path).bind fun _ _ => keeps_get.bind fun host _ => ?_
  split
  · exact keeps_pure _ trivial
  · exact keeps_fail _

section Answers

variable {host : Host} {path : Path} {content : Bytes}

theorem on_load_of_read (husable : path.isUsable = true)
    (hread : host.disk.read host.folder path = .ok content) :
    (load path).on host = (.ok content, host) := by
  rw [load, usable, if_pos husable, pure_bind, on_bind, on_get]
  simp only [hread, on_pure]

theorem read_of_on_load (h : ((load path).on host).1 = .ok content) :
    path.isUsable = true ∧ host.disk.read host.folder path = .ok content := by
  rw [load, usable] at h
  cases husable : path.isUsable with
  | false =>
      rw [husable, if_neg (by simp), on_bind, on_fail] at h
      simp at h
  | true =>
      rw [husable, if_pos rfl, pure_bind, on_bind, on_get] at h
      cases hread : host.disk.read host.folder path with
      | error fault => simp [hread] at h
      | ok bytes =>
          simp only [hread, on_pure, Except.ok.injEq] at h
          exact ⟨rfl, by rw [h]⟩

/-- What stands at a path is looked up without a change. -/
theorem on_status (host : Host) (path : Path) :
    (status path).on host =
      (if path.isUsable then (host.status path).mapError .access else .ok none, host) := by
  unfold status
  split
  · rw [on_bind, on_get]
    dsimp only
    cases host.status path <;> rfl
  · rfl

theorem on_hasPath_eq (path : Path) (host : Host) :
    (hasPath path).on host =
      if path.isUsable then
        match host.status path with
        | .ok node? => (.ok node?.isSome, host)
        | .error fault => (.error (.access fault), host)
      else (.ok false, host) := by
  rw [hasPath, on_bind_pure, on_status]
  split
  · cases host.status path <;> rfl
  · rfl

theorem on_hasPath_of_read (husable : path.isUsable = true)
    (hread : host.disk.read host.folder path = .ok content) :
    (hasPath path).on host = (.ok true, host) := by
  obtain ⟨location, hlocate, hnode⟩ := Disk.locate_of_read hread
  have hstatus : host.status path = .ok (some (.file content)) := by
    rw [Host.status, hlocate]
    exact congrArg Except.ok hnode
  rw [on_hasPath_eq, if_pos husable, hstatus]
  rfl

theorem on_isFolder (husable : path.isUsable = true)
    (hstatus : host.status path = .ok (some .folder)) :
    (isFolder path).on host = (.ok true, host) := by
  rw [isFolder, on_bind, on_status, if_pos husable, hstatus]
  rfl

theorem on_isFolder_snd (path : Path) (host : Host) : ((isFolder path).on host).2 = host := by
  rw [isFolder, on_bind_pure, on_status]

theorem status_of_on_isFolder (h : ((isFolder path).on host).1 = .ok true) :
    path.isUsable = true ∧ host.status path = .ok (some .folder) := by
  rw [isFolder, on_bind, on_status] at h
  cases husable : path.isUsable with
  | false =>
      rw [husable] at h
      cases h
  | true =>
      rw [husable] at h
      cases hstatus : host.status path with
      | error fault =>
          rw [hstatus] at h
          cases h
      | ok node? =>
          rw [hstatus] at h
          exact ⟨rfl, by simpa [Except.mapError] using h⟩

theorem on_fileNames (path : Path) (host : Host) :
    (fileNames path).on host =
      match host.fileNames path with
      | .ok names => (.ok names, host)
      | .error fault => (.error (.access fault), host) := by
  rw [fileNames, on_bind, on_get]
  dsimp only
  cases host.fileNames path <;> rfl

end Answers

/-! ## Changing the disk -/

theorem on_onDisk (operation : Disk → Location → Except AccessFault Disk) (host : Host) :
    (onDisk operation).on host =
      match operation host.disk host.folder with
      | .ok disk => (.ok ⟨⟩, host.withDisk disk)
      | .error fault => (.error (.access fault), host) := by
  rw [onDisk, on_bind, on_get]
  dsimp only
  cases operation host.disk host.folder <;> rfl

theorem on_store_eq (path : Path) (content : Bytes) (host : Host) :
    (store path content).on host =
      if path.isUsable then
        match host.disk.write host.folder path content with
        | .ok disk => (.ok ⟨⟩, host.withDisk disk)
        | .error fault => (.error (.access fault), host)
      else (.error .unusablePath, host) := by
  rw [store, usable]
  split
  · rw [pure_bind]
    exact on_onDisk _ host
  · rfl

theorem on_unlink_of_ok {host : Host} {path : Path} {after : Disk} (husable : path.isUsable = true)
    (hunlink : host.disk.unlink host.folder path = .ok after) :
    (unlink path).on host = (.ok ⟨⟩, host.withDisk after) := by
  rw [unlink, usable, if_pos husable, pure_bind, on_onDisk, hunlink]

theorem exists_of_on_unlink {host after : Host} {path : Path} {value : PUnit}
    (h : (unlink path).on host = (.ok value, after)) :
    ∃ disk, host.disk.unlink host.folder path = .ok disk ∧ after = host.withDisk disk := by
  rw [unlink, usable] at h
  split at h
  · rw [pure_bind, on_onDisk] at h
    cases hunlink : host.disk.unlink host.folder path with
    | error fault =>
        rw [hunlink] at h
        cases h
    | ok disk =>
        rw [hunlink] at h
        cases h
        exact ⟨disk, rfl, rfl⟩
  · cases h

theorem on_rename_eq {host : Host} {path : Path} (husable : path.isUsable = true) (target : Path) :
    (rename path target).on host =
      if target.isUsable then
        match host.disk.rename host.folder path target with
        | .ok disk => (.ok ⟨⟩, host.withDisk disk)
        | .error fault => (.error (.access fault), host)
      else (.error .unusablePath, host) := by
  rw [rename, usable, if_pos husable, pure_bind, usable]
  split
  · rw [pure_bind]
    exact on_onDisk _ host
  · rfl

theorem keeps_onDisk {operation : Disk → Location → Except AccessFault Disk}
    (h : ∀ disk folder after, disk.IsTree → operation disk folder = .ok after →
      Disk.Keeps touched disk after) : Keeps touched (onDisk operation) fun _ => True := by
  intro host htree _
  rw [on_onDisk]
  cases hoperation : operation host.disk host.folder with
  | error fault => exact ⟨Disk.Keeps.refl htree, rfl, fun _ _ => trivial⟩
  | ok after => exact ⟨h host.disk host.folder after htree hoperation, rfl, fun _ _ => trivial⟩

theorem keeps_store {path : Path} (h : Reaches touched path) (content : Bytes) :
    Keeps touched (store path content) fun _ => True :=
  (keeps_usable path).bind fun _ _ => keeps_onDisk fun _ _ _ htree hwrite =>
    Disk.keeps_write htree hwrite fun location => h _ _ location

theorem keeps_unlink {path : Path} (h : Reaches touched path) :
    Keeps touched (unlink path) fun _ => True :=
  (keeps_usable path).bind fun _ _ => keeps_onDisk fun _ _ _ htree hunlink =>
    Disk.keeps_unlink htree hunlink fun location => h _ _ location

theorem keeps_rename {path target : Path} (h : Reaches touched path)
    (htarget : Reaches touched target) : Keeps touched (rename path target) fun _ => True :=
  (keeps_usable path).bind fun _ _ => (keeps_usable target).bind fun _ _ =>
    keeps_onDisk fun _ _ _ htree hrename =>
      Disk.keeps_rename htree hrename (fun location => h _ _ location)
        fun location => htarget _ _ location

theorem keeps_makeFolder (path : Path) : Keeps touched (makeFolder path) fun _ => True := by
  refine (keeps_usable path).bind fun _ _ => ?_
  intro host htree hfolder
  have hmade : Disk.Keeps touched host.disk (host.disk.makeFolder host.folder path).1 :=
    Disk.keeps_makeFolder htree hfolder path
  rw [on_bind, on_get]
  dsimp only
  rw [on_bind, on_set]
  cases (host.disk.makeFolder host.folder path).2 <;> exact ⟨hmade, rfl, fun _ _ => trivial⟩

theorem keeps_copy {source target : Path} (h : Reaches touched target)
    (hinside : Reaches touched (target.child source.fileName)) :
    Keeps touched (copy source target) fun _ => True := by
  refine keeps_get.bind fun host _ => ?_
  dsimp only
  generalize hchosen : (if host.isFolder target then target.child source.fileName else target) =
    chosen
  have hreaches : Reaches touched chosen := by
    rw [← hchosen]
    split
    · exact hinside
    · exact h
  refine (keeps_usable source).bind fun _ _ => (keeps_usable chosen).bind fun _ _ => ?_
  have hstore : Keeps touched (do store chosen (← load source)) fun _ => True :=
    (keeps_load source).bind fun content _ => keeps_store hreaches content
  split
  · split
    · exact keeps_fail _
    · exact hstore
  · exact hstore

end SetupForge.Job
