import Mathlib.Logic.Function.Basic
import SetupForge.Proofs.Disk.Holding
import SetupForge.Proofs.Disk.Listing

/-! # The contents of files

A disk gives every location the content of the file that stands there, or none. Each operation
changes the contents at the locations that it names and nowhere else, and making folders changes
none. Files come and go without making a folder or removing one.
-/

namespace SetupForge.Disk

def content? (disk : Disk) (location : Location) : Option Bytes :=
  match disk.node? location with
  | some (.file content) => some content
  | _ => none

def SameFolders (before after : Disk) : Prop :=
  ∀ location, after.node? location = some .folder ↔ before.node? location = some .folder

variable {disk before middle after : Disk} {folder location place : Location}
variable {path target : Path} {content : Bytes}

theorem content?_eq_some_iff :
    disk.content? location = some content ↔ disk.node? location = some (.file content) := by
  unfold content?
  cases hnode : disk.node? location with
  | none => simp
  | some node => cases node <;> simp

theorem content?_of_folder (h : disk.node? location = some .folder) :
    disk.content? location = none := by
  rw [content?, h]

theorem content?_congr (h : before.node? location = after.node? location) :
    before.content? location = after.content? location := by
  rw [content?, content?, h]

theorem SameFolders.refl : SameFolders disk disk := fun _ => Iff.rfl

theorem SameFolders.trans (h : SameFolders before middle) (h' : SameFolders middle after) :
    SameFolders before after := fun location => (h' location).trans (h location)

/-- A disk is a tree if what it lists stands in folders. -/
theorem isTree_of_nodes (h : ∀ entry ∈ disk.nodes, disk.node? entry.1.dropLast = some .folder) :
    disk.IsTree := by
  intro location node hnode
  by_cases hroot : location = []
  · rw [hroot]
    rfl
  · exact h _ (mem_nodes_of_node? hroot hnode)

/-! ## Nodes -/

theorem content?_put_file (hne : place ≠ []) (content : Bytes) :
    (disk.put place (.file content)).content? =
      Function.update disk.content? place (some content) := by
  funext location
  by_cases hsame : location = place
  · rw [hsame, Function.update_self, content?_eq_some_iff]
    exact node?_put _ hne
  · rw [Function.update_of_ne hsame]
    exact content?_congr (node?_put_of_ne _ hsame)

theorem content?_put_folder (hnone : disk.node? place = none) :
    (disk.put place .folder).content? = disk.content? := by
  have hne : place ≠ [] := by
    rintro rfl
    cases hnone
  funext location
  by_cases hsame : location = place
  · rw [hsame, content?_of_folder (node?_put _ hne), content?, hnone]
  · exact content?_congr (node?_put_of_ne _ hsame)

/-- On a tree nothing stands below a file. -/
theorem IsTree.eq_of_isPrefix (h : disk.IsTree) (hfile : disk.node? place = some (.file content))
    {node : Node} (hnode : disk.node? location = some node) (hunder : place <+: location) :
    location = place := by
  obtain ⟨below, rfl⟩ := hunder
  by_cases hbelow : below = []
  · rw [hbelow, List.append_nil]
  · rw [h.folder_above hnode hbelow] at hfile
    cases hfile

theorem node?_remove_of_ne (h : disk.IsTree) (hfile : disk.node? place = some (.file content))
    (hne : location ≠ place) : (disk.remove place).node? location = disk.node? location := by
  by_cases hroot : location = []
  · rw [hroot]
    rfl
  rw [node?_remove disk hroot]
  split
  · rename_i hunder
    cases hnode : disk.node? location with
    | none => rfl
    | some node =>
        exact absurd (h.eq_of_isPrefix hfile hnode (List.isPrefixOf_iff_prefix.1 hunder)) hne
  · rfl

theorem node?_remove_self (hne : place ≠ []) : (disk.remove place).node? place = none := by
  rw [node?_remove disk hne, if_pos (List.isPrefixOf_iff_prefix.2 (List.prefix_refl place))]

theorem ne_nil_of_not_folder (h : disk.node? place ≠ some .folder) : place ≠ [] := by
  rintro rfl
  exact h rfl

theorem not_folder_of_file (h : disk.node? place = some (.file content)) :
    disk.node? place ≠ some .folder := by
  rw [h]
  simp

theorem content?_remove (h : disk.IsTree) (hfile : disk.node? place = some (.file content)) :
    (disk.remove place).content? = Function.update disk.content? place none := by
  have hne := ne_nil_of_not_folder (not_folder_of_file hfile)
  funext location
  by_cases hsame : location = place
  · rw [hsame, Function.update_self, content?, node?_remove_self hne]
  · rw [Function.update_of_ne hsame]
    exact content?_congr (node?_remove_of_ne h hfile hsame)

theorem sameFolders_put_file (hfree : disk.node? place ≠ some .folder) (content : Bytes) :
    SameFolders disk (disk.put place (.file content)) := by
  intro location
  by_cases hsame : location = place
  · rw [hsame, node?_put _ (ne_nil_of_not_folder hfree)]
    exact iff_of_false (by simp) hfree
  · rw [node?_put_of_ne _ hsame]

theorem sameFolders_remove (h : disk.IsTree) (hfile : disk.node? place = some (.file content)) :
    SameFolders disk (disk.remove place) := by
  have hfree := not_folder_of_file hfile
  intro location
  by_cases hsame : location = place
  · rw [hsame, node?_remove_self (ne_nil_of_not_folder hfree)]
    exact iff_of_false (by simp) hfree
  · rw [node?_remove_of_ne h hfile hsame]

/-! ## Operations -/

theorem isTree_of_write (h : disk.IsTree) (hwrite : disk.write folder path content = .ok after) :
    after.IsTree := by
  have hkeeps : Keeps (fun _ => True) disk after := keeps_write h hwrite fun _ _ => trivial
  exact hkeeps.isTree

theorem isTree_of_rename (h : disk.IsTree) (hrename : disk.rename folder path target = .ok after) :
    after.IsTree := by
  have hkeeps : Keeps (fun _ => True) disk after :=
    keeps_rename h hrename (fun _ _ => trivial) fun _ _ => trivial
  exact hkeeps.isTree

theorem isTree_makeFolder (h : disk.IsTree) (hfolder : disk.node? folder = some .folder)
    (path : Path) : (disk.makeFolder folder path).1.IsTree := by
  have hkeeps : Keeps (fun _ => True) disk (disk.makeFolder folder path).1 :=
    keeps_makeFolder h hfolder path
  exact hkeeps.isTree

theorem write_spec (hwrite : disk.write folder path content = .ok after) :
    after.content? = Function.update disk.content? (path.location folder) (some content) ∧
      SameFolders disk after := by
  unfold write at hwrite
  split at hwrite
  · cases hwrite
  · rename_i place hwritable
    obtain ⟨hlocate, hfree, -⟩ := writable_spec hwritable
    rw [Except.ok.injEq] at hwrite
    rw [← eq_location_of_locate hlocate, ← hwrite]
    exact ⟨content?_put_file (ne_nil_of_not_folder hfree) content, sameFolders_put_file hfree _⟩

theorem unlink_spec (h : disk.IsTree) (hunlink : disk.unlink folder path = .ok after) :
    after.content? = Function.update disk.content? (path.location folder) none ∧
      SameFolders disk after := by
  obtain ⟨place, old, hlocate, hfile, rfl⟩ := exists_of_unlink hunlink
  rw [← eq_location_of_locate hlocate]
  exact ⟨content?_remove h hfile, sameFolders_remove h hfile⟩

theorem writable_of_locate (hlocate : disk.locate folder path = .ok place)
    (hfree : disk.node? place ≠ some .folder) (hroom : disk.node? place.dropLast = some .folder) :
    disk.writable folder path = .ok place := by
  rw [writable, hlocate]
  dsimp only
  cases hnode : disk.node? place with
  | none => simp only [hroom]
  | some node =>
      cases node with
      | folder => exact absurd hnode hfree
      | file held => simp only [hroom]

theorem exists_unlink_of_read (hread : disk.read folder path = .ok content) :
    ∃ after, disk.unlink folder path = .ok after := by
  obtain ⟨place, hlocate, hfile⟩ := locate_of_read hread
  refine ⟨disk.remove place, ?_⟩
  rw [unlink, hlocate]
  simp only [hfile]

theorem rename_spec (h : disk.IsTree) (hread : disk.read folder path = .ok content)
    (hrename : disk.rename folder path target = .ok after) :
    after.content? =
        Function.update (Function.update disk.content? (path.location folder) none)
          (target.location folder) (some content) ∧
      SameFolders disk after ∧ disk.node? (target.location folder) ≠ some .folder ∧
      disk.locate folder target = .ok (target.location folder) := by
  obtain ⟨old, hold, hfile⟩ := locate_of_read hread
  rw [rename, hread] at hrename
  dsimp only at hrename
  rw [hold] at hrename
  split at hrename
  · cases hrename
  · cases hrename
  · rename_i new old' hwritable hsame
    rw [Except.ok.injEq] at hsame
    subst hsame
    obtain ⟨hnew, hfree, -⟩ := writable_spec hwritable
    rw [Except.ok.injEq] at hrename
    have hplace := eq_location_of_locate hnew
    rw [← eq_location_of_locate hold, ← hplace]
    by_cases hsame : old = new
    · rw [if_pos hsame] at hrename
      rw [← hsame, ← hrename, Function.update_idem]
      refine ⟨?_, SameFolders.refl, hsame ▸ hfree, hsame ▸ hnew⟩
      exact (Function.update_eq_self_iff.2 (content?_eq_some_iff.2 hfile).symm).symm
    · rw [if_neg hsame] at hrename
      have hremoved := sameFolders_remove h hfile
      have hstill : (disk.remove old).node? new ≠ some .folder := fun hnode =>
        hfree ((hremoved new).1 hnode)
      rw [← hrename, content?_put_file (ne_nil_of_not_folder hfree), content?_remove h hfile]
      exact ⟨rfl, hremoved.trans (sameFolders_put_file hstill content), hfree, hnew⟩

theorem exists_rename_of_read (hread : disk.read folder path = .ok content)
    (hlocate : disk.locate folder target = .ok place) (hfree : disk.node? place ≠ some .folder)
    (hroom : disk.node? place.dropLast = some .folder) :
    ∃ after, disk.rename folder path target = .ok after := by
  obtain ⟨old, hold, -⟩ := locate_of_read hread
  rw [rename, hread]
  dsimp only
  rw [writable_of_locate hlocate hfree hroom, hold]
  exact ⟨_, rfl⟩

theorem content?_makeFolders (names : List String) (making : Making) :
    (makeFolders path making names).1.content? = making.disk.content? := by
  induction names generalizing making with
  | nil => rfl
  | cons name names ih =>
      rw [makeFolders]
      dsimp only
      split
      · rfl
      · split
        · exact ih { making with place := enter making.place name, above := _ }
        · rfl
        · rename_i hnone
          rw [ih ⟨_, _, _, true⟩]
          exact content?_put_folder hnone

theorem content?_makeFolder (disk : Disk) (folder : Location) (path : Path) :
    (disk.makeFolder folder path).1.content? = disk.content? := by
  unfold makeFolder
  split
  · rfl
  · exact content?_makeFolders path.names _

end SetupForge.Disk
