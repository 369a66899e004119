import SetupForge.Proofs.Disk.Contents
import SetupForge.Proofs.Path.Names

/-! # Folders that were made

Once the folders of a path are made, making them again changes nothing, as long as they stay. A
path that cannot be made is left as far as it came, and making it again gets no further. Where one
name in a folder is found, so is every other that is no longer.
-/

namespace SetupForge.Disk

variable {disk after : Disk} {folder location : Location} {path : Path}

/-! ## Making folders again -/

theorem folder_makeFolders {names : List String} {making : Making}
    (h : making.disk.node? location = some .folder) :
    (makeFolders path making names).1.node? location = some .folder := by
  induction names generalizing making with
  | nil => exact h
  | cons name names ih =>
      rw [makeFolders]
      dsimp only
      split
      · exact h
      · split
        · exact ih h
        · exact h
        · rename_i hnone
          apply ih
          rw [node?_put_of_ne, h]
          rintro rfl
          rw [h] at hnone
          cases hnone

/-- Names whose folders were made lead through folders only. Where the making stopped, it stops
again. -/
theorem makeFolders_again {names : List String} {making again : Making}
    (hplace : again.place = making.place)
    (hfolders : ∀ location, (makeFolders path making names).1.node? location = some .folder →
      again.disk.node? location = some .folder)
    (hsame : (makeFolders path making names).2 = none ∨
      again.disk = (makeFolders path making names).1) :
    (makeFolders path again names).1 = again.disk ∧
      ((makeFolders path making names).2 = none → (makeFolders path again names).2 = none) := by
  induction names generalizing making again with
  | nil => exact ⟨rfl, fun _ => rfl⟩
  | cons name names ih =>
      rw [makeFolders] at hfolders hsame ⊢
      rw [makeFolders]
      dsimp only at hfolders hsame ⊢
      rw [hplace]
      by_cases hlong : longestName < name.utf8ByteSize
      · rw [if_pos hlong, if_pos hlong]
        exact ⟨rfl, fun hmade => by cases hmade⟩
      rw [if_neg hlong] at hfolders hsame ⊢
      rw [if_neg hlong]
      cases hnode : making.disk.node? (enter making.place name) with
      | none =>
          rw [hnode] at hfolders hsame
          dsimp only at hfolders hsame ⊢
          have hroot : enter making.place name ≠ [] := by
            intro hroot
            rw [hroot] at hnode
            cases hnode
          have hthere : again.disk.node? (enter making.place name) = some .folder :=
            hfolders _ (folder_makeFolders (node?_put _ hroot))
          rw [hthere]
          exact ih rfl hfolders hsame
      | some node =>
          rw [hnode] at hfolders hsame
          cases node with
          | folder =>
              dsimp only at hfolders hsame ⊢
              have hthere : again.disk.node? (enter making.place name) = some .folder :=
                hfolders _ (folder_makeFolders hnode)
              rw [hthere]
              exact ih rfl hfolders hsame
          | file content =>
              dsimp only at hfolders hsame ⊢
              rcases hsame with hmade | hsame
              · cases hmade
              · rw [hsame, hnode]
                exact ⟨rfl, fun hmade => by cases hmade⟩

/-- Folders that were made are not made again as long as they stay. -/
theorem makeFolder_of_folders (hmade : (disk.makeFolder folder path).2 = none)
    (hfolders : ∀ location, (disk.makeFolder folder path).1.node? location = some .folder →
      after.node? location = some .folder) : after.makeFolder folder path = (after, none) := by
  unfold makeFolder at hmade hfolders ⊢
  split at hmade
  · cases hmade
  · rename_i hshort
    rw [if_neg hshort] at hfolders ⊢
    obtain ⟨hdisk, hnone⟩ :=
      @makeFolders_again path path.names { disk, place := _ } { disk := after, place := _ } rfl
        hfolders (Or.inl hmade)
    exact Prod.ext hdisk (hnone hmade)

theorem makeFolder_makeFolder (disk : Disk) (folder : Location) (path : Path) :
    ((disk.makeFolder folder path).1.makeFolder folder path).1 =
      (disk.makeFolder folder path).1 := by
  unfold makeFolder
  split
  · rfl
  · let start : Making := { disk, place := if path.isAbsolute then [] else folder }
    let again : Making := { start with disk := (makeFolders path start path.names).1 }
    exact (@makeFolders_again path path.names start again rfl (fun _ hnode => hnode)
      (Or.inr rfl)).1

/-! ## Names in one folder -/

theorem follow_sibling {names : List String} {name other : String}
    (hsize : other.utf8ByteSize ≤ name.utf8ByteSize)
    (h : disk.follow folder (names ++ [name]) = .ok location) :
    disk.follow folder (names ++ [other]) = .ok (enter (names.foldl enter folder) other) := by
  induction names generalizing folder with
  | nil =>
      rw [List.nil_append, follow] at h ⊢
      split at h
      · cases h
      · rw [if_neg (by omega), if_pos List.isEmpty_nil]
        rfl
  | cons first names ih =>
      rw [List.cons_append, follow] at h ⊢
      split at h
      · cases h
      · rename_i hlong
        rw [if_neg hlong, if_neg (by simp)]
        rw [if_neg (by simp)] at h
        cases hnode : disk.node? (enter folder first) with
        | none =>
            rw [hnode] at h
            cases h
        | some node =>
            rw [hnode] at h
            cases node with
            | file content => cases h
            | folder => exact ih h

/-- Where one name in a folder is found, every other one is found that is no longer. -/
theorem locate_sibling {name other : String} (hname : name ≠ "") (hother : other ≠ "")
    (hsize : other.utf8ByteSize ≤ name.utf8ByteSize)
    (h : disk.locate folder (path.child name) = .ok location) :
    disk.locate folder (path.child other) = .ok ((path.child other).location folder) := by
  obtain ⟨above, htext⟩ := path.exists_toString_child
  unfold locate at h ⊢
  rw [htext name hname, String.utf8ByteSize_append] at h
  rw [htext other hother, String.utf8ByteSize_append]
  split at h
  · cases h
  · rw [if_neg (by omega), Path.location_child]
    exact follow_sibling hsize h

end SetupForge.Disk
