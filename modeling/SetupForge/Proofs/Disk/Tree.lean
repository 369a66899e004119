import Mathlib.Data.List.Induction
import SetupForge.Disk

/-! # What disk operations keep

On a disk whose files and folders form a tree, an operation keeps the tree, all folders, and every
file apart from the one that it names. A path that leads somewhere leads there ever after, so what
can be read stays readable until its own location is touched.
-/

namespace SetupForge.Disk

/-- Whether everything on a disk stands in a folder. -/
def IsTree (disk : Disk) : Prop :=
  ∀ location node, disk.node? location = some node →
    disk.node? location.dropLast = some .folder

/-- What a change of a disk keeps, if it may touch the files of some locations. -/
structure Keeps (touched : Location → Prop) (before after : Disk) : Prop where
  isTree : after.IsTree
  folder {location : Location} : before.node? location = some .folder →
    after.node? location = some .folder
  file {location : Location} {content : Bytes} : before.node? location = some (.file content) →
    ¬ touched location → after.node? location = some (.file content)

variable {touched : Location → Prop} {disk before middle after : Disk}
variable {folder location place : Location} {path : Path} {content : Bytes}

/-! ## Paths -/

section Paths

variable (hfolders : ∀ {location}, before.node? location = some .folder →
  after.node? location = some .folder)

include hfolders

/-- A path passes through folders only, so where these stay it leads on. -/
theorem follow_of_folders {names : List String}
    (hfollow : before.follow folder names = .ok location) :
    after.follow folder names = .ok location := by
  induction names generalizing folder with
  | nil => exact hfollow
  | cons name names ih =>
      rw [Disk.follow] at hfollow ⊢
      split at hfollow
      · simp at hfollow
      · rename_i hlength
        rw [if_neg hlength]
        split at hfollow
        · rename_i hlast
          rw [if_pos hlast]
          exact hfollow
        · rename_i hmore
          rw [if_neg hmore]
          split at hfollow
          · simp at hfollow
          · simp at hfollow
          · rename_i hnode
            simp only [hfolders hnode]
            exact ih hfollow

theorem locate_of_folders (hlocate : before.locate folder path = .ok location) :
    after.locate folder path = .ok location := by
  unfold Disk.locate at hlocate ⊢
  split at hlocate
  · simp at hlocate
  · rename_i hlength
    rw [if_neg hlength]
    exact follow_of_folders hfolders hlocate

end Paths

theorem locate_of_read (h : disk.read folder path = .ok content) :
    ∃ location, disk.locate folder path = .ok location ∧
      disk.node? location = some (.file content) := by
  unfold read at h
  split at h
  · simp at h
  · rename_i location hlocate
    split at h
    · simp at h
    · simp at h
    · rename_i held hnode
      rw [Except.ok.injEq] at h
      exact ⟨location, hlocate, h ▸ hnode⟩

theorem read_of_locate (hlocate : disk.locate folder path = .ok location)
    (hnode : disk.node? location = some (.file content)) :
    disk.read folder path = .ok content := by
  rw [read, hlocate]
  simp only [hnode]

namespace Keeps

theorem refl (h : disk.IsTree) : Keeps touched disk disk := ⟨h, fun h => h, fun h _ => h⟩

theorem trans (h : Keeps touched before middle) (h' : Keeps touched middle after) :
    Keeps touched before after :=
  ⟨h'.isTree, fun hf => h'.folder (h.folder hf), fun hf hn => h'.file (h.file hf hn) hn⟩

theorem mono {more : Location → Prop} (h : Keeps touched before after)
    (hmore : ∀ location, touched location → more location) : Keeps more before after :=
  ⟨h.isTree, h.folder, fun hf hn => h.file hf fun ht => hn (hmore _ ht)⟩

/-- A path that leads somewhere leads there after the change. -/
theorem locate (h : Keeps touched before after)
    (hlocate : before.locate folder path = .ok location) :
    after.locate folder path = .ok location := locate_of_folders h.folder hlocate

theorem read (h : Keeps touched before after) (hread : before.read folder path = .ok content)
    (hfar : ∀ location, before.locate folder path = .ok location → ¬ touched location) :
    after.read folder path = .ok content := by
  obtain ⟨location, hlocate, hnode⟩ := locate_of_read hread
  exact read_of_locate (h.locate hlocate) (h.file hnode (hfar location hlocate))

end Keeps

/-! ## Nodes -/

theorem IsTree.folder_above (h : disk.IsTree) {below : Location} {node : Node}
    (hnode : disk.node? (place ++ below) = some node) (hne : below ≠ []) :
    disk.node? place = some .folder := by
  -- from the end, since a node tells the folder right above it only
  induction below using List.reverseRecOn generalizing node with
  | nil => exact absurd rfl hne
  | append_singleton below name ih =>
      have habove := h _ _ hnode
      rw [← List.append_assoc, List.dropLast_concat] at habove
      cases below with
      | nil => simpa using habove
      | cons first rest => exact ih habove (by simp)

theorem node?_remove (disk : Disk) (hne : location ≠ []) :
    (disk.remove place).node? location =
      if place.isPrefixOf location then none else disk.node? location := by
  have hlookup : ∀ nodes : List (Location × Node),
      (nodes.filter fun entry => !place.isPrefixOf entry.1).lookup location =
        if place.isPrefixOf location then none else nodes.lookup location := by
    intro nodes
    induction nodes with
    | nil => simp
    | cons entry nodes ih =>
        obtain ⟨other, node⟩ := entry
        rw [List.filter_cons]
        cases hsame : location == other with
        | true =>
            rw [beq_iff_eq] at hsame
            subst hsame
            cases hp : place.isPrefixOf location with
            | true => simp [hp, ih]
            | false => simp
        | false =>
            cases hp : place.isPrefixOf other with
            | true => simp [ih, hsame, List.lookup_cons]
            | false => simp [ih, hsame, List.lookup_cons]
  simp only [node?, hne, if_false, remove, hlookup]

theorem folder_put (hnode : disk.node? place ≠ some .folder) (node : Node)
    (h : disk.node? location = some .folder) :
    (disk.put place node).node? location = some .folder := by
  rw [node?_put_of_ne _ ?_, h]
  rintro rfl
  exact hnode h

theorem keeps_put_file (h : disk.IsTree) (hparent : disk.node? place.dropLast = some .folder)
    (hfile : disk.node? place ≠ some .folder) (htouched : touched place) (content : Bytes) :
    Keeps touched disk (disk.put place (.file content)) := by
  have hne : place ≠ [] := by
    rintro rfl
    exact hfile rfl
  have hfolder : ∀ {location}, disk.node? location = some .folder →
      (disk.put place (.file content)).node? location = some .folder := folder_put hfile _
  refine ⟨?_, hfolder, ?_⟩
  · intro location node hnode
    by_cases hsame : location = place
    · rw [hsame]
      exact hfolder hparent
    · rw [node?_put_of_ne _ hsame] at hnode
      exact hfolder (h location node hnode)
  · intro location held hnode hfar
    rw [node?_put_of_ne _ ?_, hnode]
    rintro rfl
    exact hfar htouched

theorem keeps_put_folder (h : disk.IsTree) (hparent : disk.node? place.dropLast = some .folder)
    (hnone : disk.node? place = none) : Keeps touched disk (disk.put place .folder) := by
  have hold : ∀ {location node}, disk.node? location = some node →
      (disk.put place .folder).node? location = some node := by
    intro location node hnode
    rw [node?_put_of_ne _ ?_, hnode]
    rintro rfl
    rw [hnone] at hnode
    simp at hnode
  refine ⟨?_, hold, fun hnode _ => hold hnode⟩
  intro location node hnode
  by_cases hsame : location = place
  · rw [hsame]
    exact hold hparent
  · rw [node?_put_of_ne _ hsame] at hnode
    exact hold (h location node hnode)

/-- On a tree nothing stands below a file, so that the file alone is removed. -/
theorem keeps_remove (h : disk.IsTree) (hfile : disk.node? place = some (.file content))
    (htouched : touched place) : Keeps touched disk (disk.remove place) := by
  have honly : ∀ {location node}, disk.node? location = some node →
      place.isPrefixOf location = true → location = place := by
    intro location node hnode hprefix
    obtain ⟨below, rfl⟩ := List.isPrefixOf_iff_prefix.1 hprefix
    by_cases hbelow : below = []
    · rw [hbelow, List.append_nil]
    · rw [h.folder_above hnode hbelow] at hfile
      simp at hfile
  have hkept : ∀ {location node}, disk.node? location = some node → location ≠ place →
      (disk.remove place).node? location = some node := by
    intro location node hnode hne
    by_cases hroot : location = []
    · rw [hroot] at hnode ⊢
      exact hnode
    · rw [node?_remove disk hroot, if_neg fun hprefix => hne (honly hnode hprefix), hnode]
  have hfolder : ∀ {location}, disk.node? location = some .folder →
      (disk.remove place).node? location = some .folder := by
    intro location hnode
    refine hkept hnode ?_
    rintro rfl
    rw [hfile] at hnode
    simp at hnode
  refine ⟨?_, hfolder, ?_⟩
  · intro location node hnode
    by_cases hroot : location = []
    · rw [hroot]
      rfl
    · rw [node?_remove disk hroot] at hnode
      split at hnode
      · simp at hnode
      · exact hfolder (h location node hnode)
  · intro location held hnode hfar
    refine hkept hnode ?_
    rintro rfl
    exact hfar htouched

/-! ## Operations -/

theorem writable_spec (h : disk.writable folder path = .ok location) :
    disk.locate folder path = .ok location ∧ disk.node? location ≠ some .folder ∧
      disk.node? location.dropLast = some .folder := by
  unfold writable at h
  split at h
  · simp at h
  · rename_i place hlocate
    split at h
    · simp at h
    · rename_i hparent hfile
      simp only [Except.ok.injEq] at h
      subst h
      exact ⟨hlocate, hfile, hparent⟩
    · simp at h
    · simp at h

theorem keeps_write (h : disk.IsTree) (hwrite : disk.write folder path content = .ok after)
    (htouched : ∀ location, disk.locate folder path = .ok location → touched location) :
    Keeps touched disk after := by
  unfold write at hwrite
  split at hwrite
  · simp at hwrite
  · rename_i location hwritable
    simp only [Except.ok.injEq] at hwrite
    subst hwrite
    obtain ⟨hlocate, hfile, hparent⟩ := writable_spec hwritable
    exact keeps_put_file h hparent hfile (htouched location hlocate) content

theorem read_write (hwrite : disk.write folder path content = .ok after) (h : disk.IsTree) :
    after.read folder path = .ok content := by
  have hkeeps : Keeps (fun _ => True) disk after := keeps_write h hwrite fun _ _ => trivial
  unfold write at hwrite
  split at hwrite
  · simp at hwrite
  · rename_i location hwritable
    simp only [Except.ok.injEq] at hwrite
    obtain ⟨hlocate, hfile, -⟩ := writable_spec hwritable
    have hne : location ≠ [] := by
      rintro rfl
      exact hfile rfl
    rw [read, hkeeps.locate hlocate, ← hwrite]
    simp only [node?_put _ hne]

theorem exists_write_of_read (h : disk.IsTree) (hread : disk.read folder path = .ok content)
    (new : Bytes) : ∃ after, disk.write folder path new = .ok after := by
  obtain ⟨location, hlocate, hnode⟩ := locate_of_read hread
  refine ⟨disk.put location (.file new), ?_⟩
  rw [write, writable, hlocate]
  simp only [hnode, h location _ hnode]

theorem exists_of_unlink (hunlink : disk.unlink folder path = .ok after) :
    ∃ location content, disk.locate folder path = .ok location ∧
      disk.node? location = some (.file content) ∧ after = disk.remove location := by
  unfold unlink at hunlink
  split at hunlink
  · cases hunlink
  · rename_i location hlocate
    split at hunlink
    · cases hunlink
    · cases hunlink
    · rename_i content hnode
      exact ⟨location, content, hlocate, hnode, (Except.ok.inj hunlink).symm⟩

theorem keeps_unlink (h : disk.IsTree) (hunlink : disk.unlink folder path = .ok after)
    (htouched : ∀ location, disk.locate folder path = .ok location → touched location) :
    Keeps touched disk after := by
  obtain ⟨location, content, hlocate, hnode, rfl⟩ := exists_of_unlink hunlink
  exact keeps_remove h hnode (htouched location hlocate)

theorem keeps_rename {target : Path} (h : disk.IsTree)
    (hrename : disk.rename folder path target = .ok after)
    (htouched : ∀ location, disk.locate folder path = .ok location → touched location)
    (htarget : ∀ location, disk.locate folder target = .ok location → touched location) :
    Keeps touched disk after := by
  unfold rename at hrename
  split at hrename
  · simp at hrename
  · rename_i held hread
    split at hrename
    · simp at hrename
    · simp at hrename
    · rename_i new old hwritable hlocate
      simp only [Except.ok.injEq] at hrename
      subst hrename
      split
      · exact Keeps.refl h
      · rename_i hne
        obtain ⟨hnew, hfile, hparent⟩ := writable_spec hwritable
        have hold : disk.node? old = some (.file held) := by
          obtain ⟨location, hlocated, hheld⟩ := locate_of_read hread
          rw [hlocate, Except.ok.injEq] at hlocated
          rw [hlocated, hheld]
        -- the old file goes first, and the folder of the new one outlives it
        have hremoved : Keeps touched disk (disk.remove old) :=
          keeps_remove h hold (htouched old hlocate)
        refine hremoved.trans (keeps_put_file hremoved.isTree (hremoved.folder hparent) ?_
          (htarget new hnew) held)
        intro hfolder
        by_cases hroot : new = []
        · exact hfile (hroot ▸ rfl)
        · rw [node?_remove disk hroot] at hfolder
          split at hfolder
          · simp at hfolder
          · exact hfile hfolder

theorem keeps_makeFolders (names : List String) (making : Making) (h : making.disk.IsTree)
    (hplace : making.disk.node? making.place = some .folder) :
    Keeps touched making.disk (makeFolders path making names).1 := by
  induction names generalizing making with
  | nil => exact Keeps.refl h
  | cons name names ih =>
      rw [makeFolders]
      dsimp only
      split
      · exact Keeps.refl h
      · split
        · rename_i hnode
          exact ih { making with place := enter making.place name, above := _ } h hnode
        · exact Keeps.refl h
        · rename_i hnone
          have hparent : making.disk.node? (enter making.place name).dropLast = some .folder := by
            unfold enter at hnone ⊢
            split
            · -- a step up leads to a folder, which is not missing
              rename_i hup
              rw [if_pos hup, h _ _ hplace] at hnone
              simp at hnone
            · rw [List.dropLast_concat]
              exact hplace
          have hmade : Keeps touched making.disk
              (making.disk.put (enter making.place name) .folder) :=
            keeps_put_folder h hparent hnone
          refine hmade.trans (ih ⟨_, _, _, true⟩ hmade.isTree ?_)
          refine node?_put _ ?_
          intro hroot
          rw [hroot] at hnone
          simp at hnone

theorem keeps_makeFolder (h : disk.IsTree) (hfolder : disk.node? folder = some .folder)
    (path : Path) : Keeps touched disk (disk.makeFolder folder path).1 := by
  unfold makeFolder
  split
  · exact Keeps.refl h
  · refine keeps_makeFolders path.names { disk, place := _ } h ?_
    split
    · rfl
    · exact hfolder

/-! ## Names of locations -/

theorem getLast?_follow {name : String} (hname : name ≠ "..") {names : List String}
    (h : disk.follow folder (names ++ [name]) = .ok location) :
    location.getLast? = some name := by
  induction names generalizing folder with
  | nil =>
      rw [List.nil_append, follow] at h
      split at h
      · simp at h
      · simp only [List.isEmpty_nil, if_true, Except.ok.injEq, enter, if_neg hname] at h
        rw [← h, List.getLast?_concat]
  | cons first names ih =>
      rw [List.cons_append, follow] at h
      split at h
      · simp at h
      · split at h
        · rename_i hempty
          simp at hempty
        · split at h
          · simp at h
          · simp at h
          · exact ih h

theorem getLast?_locate_child {name : String} (hname : name ≠ "..")
    (h : disk.locate folder (path.child name) = .ok location) :
    location.getLast? = some name := by
  unfold locate at h
  split at h
  · simp at h
  · exact getLast?_follow hname h

end SetupForge.Disk
