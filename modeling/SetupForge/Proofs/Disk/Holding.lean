import SetupForge.Proofs.Disk.Tree

/-! # A file that stays in place

A disk holds a file if the file stands at its location and every location above it is a folder. An
operation on another location spares the file: it cannot replace a folder above the file, and it
removes no folder at all unless it is told to.
-/

namespace SetupForge

/-- Where a path leads if every name on the way stands for a folder. -/
def Path.location (folder : Location) (path : Path) : Location :=
  path.names.foldl Disk.enter (if path.isAbsolute then [] else folder)

theorem Path.location_child (folder : Location) (path : Path) (name : String) :
    (path.child name).location folder = Disk.enter (path.location folder) name := by
  simp [Path.location, Path.child, Path.isAbsolute]

namespace Disk

/-- Whether a file has some content and stands below folders only. -/
structure Holds (disk : Disk) (place : Location) (content : Bytes) : Prop where
  file : disk.node? place = some (.file content)
  above {folder : Location} : folder <+: place → folder ≠ place →
    disk.node? folder = some .folder

/-- Whether the files of untouched locations are held as before. -/
def Spares (touched : Location → Prop) (before after : Disk) : Prop :=
  ∀ place content, ¬ touched place → before.Holds place content → after.Holds place content

variable {touched : Location → Prop} {disk before middle after : Disk}
variable {folder location place : Location} {path target : Path} {content : Bytes}

/-! ## Where paths lead -/

theorem eq_foldl_of_follow {names : List String}
    (h : disk.follow folder names = .ok location) : location = names.foldl enter folder := by
  induction names generalizing folder with
  | nil =>
      rw [follow, Except.ok.injEq] at h
      exact h.symm
  | cons name names ih =>
      rw [follow] at h
      split at h
      · simp at h
      · split at h
        · rename_i hlast
          rw [List.isEmpty_iff] at hlast
          rw [Except.ok.injEq] at h
          rw [hlast, List.foldl_cons, List.foldl_nil, h]
        · split at h
          · simp at h
          · simp at h
          · exact ih h

theorem eq_location_of_locate (h : disk.locate folder path = .ok location) :
    location = path.location folder := by
  unfold locate at h
  split at h
  · simp at h
  · exact eq_foldl_of_follow h

/-- What is reached through folders that stand in folders stands in folders itself. -/
theorem isFolder_above_of_follow {names : List String}
    (habove : ∀ outer, outer <+: folder → disk.node? outer = some .folder)
    (h : disk.follow folder names = .ok location) {outer : Location}
    (hunder : outer <+: location) (hne : outer ≠ location) :
    disk.node? outer = some .folder := by
  induction names generalizing folder with
  | nil =>
      rw [follow, Except.ok.injEq] at h
      exact habove outer (h ▸ hunder)
  | cons name names ih =>
      have henter : ∀ outer, outer <+: enter folder name → outer ≠ enter folder name →
          disk.node? outer = some .folder := by
        intro outer hunder hne
        unfold enter at hunder hne
        split at hunder
        · exact habove outer (hunder.trans (List.dropLast_prefix folder))
        · rename_i hname
          rw [if_neg hname] at hne
          exact habove outer ((List.prefix_concat_iff.1 hunder).resolve_left hne)
      rw [follow] at h
      split at h
      · simp at h
      · split at h
        · rw [Except.ok.injEq] at h
          exact henter outer (h ▸ hunder) (h ▸ hne)
        · split at h
          · simp at h
          · simp at h
          · rename_i hnode
            refine ih ?_ h
            intro outer hunder
            by_cases hsame : outer = enter folder name
            · rw [hsame]
              exact hnode
            · exact henter outer hunder hsame

/-- What a path from the root leads to stands below folders only. -/
theorem isFolder_above_of_locate (habsolute : path.isAbsolute = true)
    (h : disk.locate folder path = .ok location) {outer : Location} (hunder : outer <+: location)
    (hne : outer ≠ location) : disk.node? outer = some .folder := by
  unfold locate at h
  rw [if_pos habsolute] at h
  split at h
  · simp at h
  · refine isFolder_above_of_follow ?_ h hunder hne
    intro root hroot
    rw [List.prefix_nil.1 hroot]
    rfl

theorem holds_of_read (habsolute : path.isAbsolute = true)
    (h : disk.read folder path = .ok content) :
    disk.Holds (path.location folder) content := by
  obtain ⟨location, hlocate, hnode⟩ := locate_of_read h
  rw [← eq_location_of_locate hlocate]
  exact ⟨hnode, isFolder_above_of_locate habsolute hlocate⟩

theorem holds_of_write (habsolute : path.isAbsolute = true)
    (h : disk.write folder path content = .ok after) :
    after.Holds (path.location folder) content := by
  unfold write at h
  split at h
  · simp at h
  · rename_i location hwritable
    obtain ⟨hlocate, hnode, -⟩ := writable_spec hwritable
    have hne : location ≠ [] := by
      rintro rfl
      exact hnode rfl
    rw [Except.ok.injEq] at h
    rw [← eq_location_of_locate hlocate, ← h]
    refine ⟨node?_put _ hne, fun hunder hother => ?_⟩
    rw [node?_put_of_ne _ hother]
    exact isFolder_above_of_locate habsolute hlocate hunder hother

theorem Holds.eq_of_read {held : Bytes} (h : disk.Holds (path.location folder) held)
    (hread : disk.read folder path = .ok content) : content = held := by
  obtain ⟨location, hlocate, hnode⟩ := locate_of_read hread
  rw [eq_location_of_locate hlocate, h.file, Option.some.injEq, Node.file.injEq] at hnode
  exact hnode.symm

/-! ## Files that are spared -/

namespace Spares

theorem refl : Spares touched disk disk := fun _ _ _ h => h

theorem trans (h : Spares touched before middle) (h' : Spares touched middle after) :
    Spares touched before after := fun place content hfar hheld =>
  h' place content hfar (h place content hfar hheld)

end Spares

theorem Holds.of_node?_eq (h : before.Holds place content)
    (hsame : ∀ location, location <+: place → after.node? location = before.node? location) :
    after.Holds place content :=
  ⟨by rw [hsame place (List.prefix_refl place), h.file],
    fun hunder hne => by rw [hsame _ hunder, h.above hunder hne]⟩

/-- A location that is no folder is not on the way to a file that is held elsewhere. -/
theorem Holds.not_prefix (h : disk.Holds place content) (hne : location ≠ place)
    (hnode : disk.node? location ≠ some .folder) : ¬ location <+: place :=
  fun hunder => hnode (h.above hunder hne)

theorem ne_of_touched (htouched : touched location) (hfar : ¬ touched place) :
    location ≠ place := by
  rintro rfl
  exact hfar htouched

theorem Holds.put (h : disk.Holds place content) (node : Node) (hfar : ¬ location <+: place) :
    (disk.put location node).Holds place content := by
  refine h.of_node?_eq fun other hunder => node?_put_of_ne node ?_
  rintro rfl
  exact hfar hunder

theorem Holds.remove (h : disk.Holds place content) (hfar : ¬ location <+: place) :
    (disk.remove location).Holds place content := by
  refine h.of_node?_eq fun other hunder => ?_
  by_cases hroot : other = []
  · rw [hroot]
    rfl
  · rw [node?_remove disk hroot, if_neg ?_]
    intro hbelow
    exact hfar ((List.isPrefixOf_iff_prefix.1 hbelow).trans hunder)

theorem spares_put_file (hnode : disk.node? location ≠ some .folder) (htouched : touched location)
    (new : Bytes) : Spares touched disk (disk.put location (.file new)) := fun _ _ hfar h =>
  h.put _ (h.not_prefix (ne_of_touched htouched hfar) hnode)

theorem spares_put_folder (hnode : disk.node? location = none) :
    Spares touched disk (disk.put location .folder) := fun _ _ _ h => by
  refine h.put _ (h.not_prefix ?_ (by rw [hnode]; simp))
  rintro rfl
  rw [h.file] at hnode
  simp at hnode

theorem spares_remove_file {old : Bytes} (hnode : disk.node? location = some (.file old))
    (htouched : touched location) : Spares touched disk (disk.remove location) := fun _ _ hfar h =>
  h.remove (h.not_prefix (ne_of_touched htouched hfar) (by rw [hnode]; simp))

/-- A folder is removed with all that stands below it. -/
theorem spares_remove_below (htouched : ∀ place, location <+: place → touched place) :
    Spares touched disk (disk.remove location) := fun _ _ hfar h =>
  h.remove fun hunder => hfar (htouched _ hunder)

/-! ## Operations -/

theorem spares_write (hwrite : disk.write folder path content = .ok after)
    (htouched : touched (path.location folder)) : Spares touched disk after := by
  unfold write at hwrite
  split at hwrite
  · simp at hwrite
  · rename_i location hwritable
    obtain ⟨hlocate, hnode, -⟩ := writable_spec hwritable
    rw [← eq_location_of_locate hlocate] at htouched
    rw [Except.ok.injEq] at hwrite
    rw [← hwrite]
    exact spares_put_file hnode htouched content

theorem spares_unlink (hunlink : disk.unlink folder path = .ok after)
    (htouched : touched (path.location folder)) : Spares touched disk after := by
  obtain ⟨location, content, hlocate, hnode, rfl⟩ := exists_of_unlink hunlink
  rw [← eq_location_of_locate hlocate] at htouched
  exact spares_remove_file hnode htouched

theorem spares_rename (hrename : disk.rename folder path target = .ok after)
    (htouched : touched (path.location folder)) (htarget : touched (target.location folder)) :
    Spares touched disk after := by
  unfold rename at hrename
  split at hrename
  · simp at hrename
  · rename_i held hread
    split at hrename
    · simp at hrename
    · simp at hrename
    · rename_i new old hwritable hlocate
      obtain ⟨hnew, hnode, -⟩ := writable_spec hwritable
      rw [← eq_location_of_locate hlocate] at htouched
      rw [← eq_location_of_locate hnew] at htarget
      rw [Except.ok.injEq] at hrename
      rw [← hrename]
      split
      · exact Spares.refl
      · have hold : disk.node? old = some (.file held) := by
          obtain ⟨location, hlocated, hheld⟩ := locate_of_read hread
          rw [hlocate, Except.ok.injEq] at hlocated
          rw [hlocated, hheld]
        have hstays : (disk.remove old).node? new ≠ some .folder := by
          intro hfolder
          by_cases hroot : new = []
          · exact hnode (hroot ▸ rfl)
          · rw [node?_remove disk hroot] at hfolder
            split at hfolder
            · simp at hfolder
            · exact hnode hfolder
        exact (spares_remove_file hold htouched).trans (spares_put_file hstays htarget held)

theorem spares_makeFolders (names : List String) (making : Making) :
    Spares touched making.disk (makeFolders path making names).1 := by
  induction names generalizing making with
  | nil => exact Spares.refl
  | cons name names ih =>
      rw [makeFolders]
      dsimp only
      split
      · exact Spares.refl
      · split
        · exact ih { making with place := enter making.place name, above := _ }
        · exact Spares.refl
        · rename_i hnone
          exact (spares_put_folder hnone).trans (ih ⟨_, _, _, true⟩)

theorem spares_makeFolder (folder : Location) (path : Path) :
    Spares touched disk (disk.makeFolder folder path).1 := by
  unfold makeFolder
  split
  · exact Spares.refl
  · exact spares_makeFolders path.names { disk, place := _ }

end Disk

end SetupForge
