import Mathlib.Data.List.Nodup
import SetupForge.Host
import SetupForge.Proofs.Disk.Tree

/-! # What a folder lists

Where no location stands twice on a disk, a folder lists each of its files once. A name leads on
from a folder as long as the path with the name is not too long for the system; a file that is put
there is listed.
-/

namespace SetupForge

theorem Path.isUsable_child (path : Path) (name : String) :
    (path.child name).isUsable = (path.isUsable && !name.toList.contains '\x00') := by
  simp [isUsable, child]

namespace Disk

/-- Whether no location stands on a disk twice. -/
def IsDistinct (disk : Disk) : Prop := (disk.nodes.map Prod.fst).Nodup

instance (disk : Disk) : Decidable disk.IsDistinct :=
  inferInstanceAs (Decidable (disk.nodes.map Prod.fst).Nodup)

variable {disk : Disk} {folder location : Location} {path : Path} {name : String} {node : Node}

/-! ## Nodes in their order -/

theorem fst_putNode (location : Location) (node : Node) (nodes : List (Location × Node)) :
    (putNode location node nodes).map Prod.fst =
      if location ∈ nodes.map Prod.fst then nodes.map Prod.fst
      else nodes.map Prod.fst ++ [location] := by
  induction nodes with
  | nil => rfl
  | cons entry nodes ih =>
      rw [putNode]
      by_cases hsame : entry.1 = location
      · rw [if_pos hsame]
        simp [hsame]
      · rw [if_neg hsame, List.map_cons, ih]
        simp only [List.map_cons, List.mem_cons, Ne.symm hsame, false_or]
        split <;> rfl

theorem IsDistinct.put (h : disk.IsDistinct) (location : Location) (node : Node) :
    (disk.put location node).IsDistinct := by
  rw [IsDistinct, Disk.put, fst_putNode]
  split
  · exact h
  · rename_i hnew
    rw [← List.concat_eq_append]
    exact List.Nodup.concat hnew h

theorem mem_of_mem_putNode {entry : Location × Node} {nodes : List (Location × Node)}
    (h : entry ∈ putNode location node nodes) : entry = (location, node) ∨ entry ∈ nodes := by
  induction nodes with
  | nil => exact Or.inl (List.mem_singleton.1 h)
  | cons first nodes ih =>
      rw [putNode] at h
      split at h
      · exact (List.mem_cons.1 h).imp_right (List.mem_cons_of_mem _)
      · rcases List.mem_cons.1 h with rfl | h
        · exact Or.inr (List.mem_cons_self ..)
        · exact (ih h).imp_right (List.mem_cons_of_mem _)

theorem mem_nodes_of_node? (hne : location ≠ []) (h : disk.node? location = some node) :
    (location, node) ∈ disk.nodes := by
  rw [node?, if_neg hne] at h
  obtain ⟨before, after, hnodes, -⟩ := List.lookup_eq_some_iff.1 h
  rw [hnodes]
  simp

theorem child_eq_some_iff {place : Location} {held : Node} :
    (match place.getLast? with
      | some last => if place.dropLast = location then some (last, held) else none
      | none => none) = some (name, node) ↔ place = location ++ [name] ∧ held = node := by
  constructor
  · intro h
    split at h
    · rename_i last hlast
      obtain ⟨above, rfl⟩ := List.getLast?_eq_some_iff.1 hlast
      rw [List.dropLast_concat, Option.ite_none_right_eq_some, Option.some.injEq,
        Prod.mk.injEq] at h
      obtain ⟨rfl, rfl, rfl⟩ := h
      exact ⟨rfl, rfl⟩
    · simp at h
  · rintro ⟨rfl, rfl⟩
    simp

theorem mem_children_iff :
    (name, node) ∈ disk.children location ↔ (location ++ [name], node) ∈ disk.nodes := by
  rw [children, List.mem_filterMap]
  constructor
  · rintro ⟨⟨place, held⟩, hmem, hchild⟩
    obtain ⟨rfl, rfl⟩ := child_eq_some_iff.1 hchild
    exact hmem
  · intro hmem
    exact ⟨_, hmem, child_eq_some_iff.2 ⟨rfl, rfl⟩⟩

theorem mem_children_of_put {other : String} {held : Node}
    (h : (other, held) ∈ (disk.put (location ++ [name]) node).children location) :
    other = name ∨ (other, held) ∈ disk.children location := by
  rw [mem_children_iff] at h ⊢
  refine (mem_of_mem_putNode h).imp_left fun hentry => ?_
  rw [Prod.mk.injEq, List.append_cancel_left_eq, List.cons.injEq] at hentry
  exact hentry.1.1

theorem IsDistinct.pairwise_children (h : disk.IsDistinct) (location : Location) :
    (disk.children location).Pairwise fun a b => a.1 ≠ b.1 := by
  have hplaces : disk.nodes.Pairwise fun a b => a.1 ≠ b.1 := List.pairwise_map.1 h
  refine hplaces.filterMap _ ?_
  rintro ⟨place, held⟩ ⟨place', held'⟩ hne ⟨name, node⟩ hchild ⟨name', node'⟩ hchild' hsame
  obtain ⟨rfl, -⟩ := child_eq_some_iff.1 hchild
  obtain ⟨rfl, -⟩ := child_eq_some_iff.1 hchild'
  dsimp only at hsame hne
  exact hne (by rw [hsame])

/-! ## Paths into a folder -/

theorem follow_concat {names : List String} (h : disk.follow folder names = .ok location)
    (hfolder : disk.node? location = some .folder) (hname : name.utf8ByteSize ≤ longestName) :
    disk.follow folder (names ++ [name]) = .ok (enter location name) := by
  induction names generalizing folder with
  | nil =>
      rw [follow, Except.ok.injEq] at h
      rw [List.nil_append, follow, if_neg (by omega), h]
      rfl
  | cons first names ih =>
      rw [follow] at h
      rw [List.cons_append, follow]
      split at h
      · simp at h
      · rename_i hlength
        rw [if_neg hlength, if_neg (by simp)]
        cases names with
        | nil =>
            -- the folder has the last name of its path, and the new name is looked for in it
            rw [if_pos List.isEmpty_nil, Except.ok.injEq] at h
            rw [h, hfolder]
            exact ih (by rw [follow])
        | cons second names =>
            rw [if_neg (by simp)] at h
            split at h
            · simp at h
            · simp at h
            · rename_i hnode
              exact ih h

theorem locate_child (h : disk.locate folder path = .ok location)
    (hfolder : disk.node? location = some .folder) (hname : name.utf8ByteSize ≤ longestName)
    (hpath : (path.child name).toString.utf8ByteSize ≤ longestPath) :
    disk.locate folder (path.child name) = .ok (enter location name) := by
  unfold locate at h ⊢
  rw [if_neg (by omega)]
  split at h
  · simp at h
  · exact follow_concat h hfolder hname

end Disk

/-! ## Files of a folder -/

namespace Host

variable {host after : Host} {path : Path} {location : Location} {name : String} {content : Bytes}
variable {names : List String}

theorem locate_of_status (h : host.status path = .ok (some .folder)) :
    ∃ location, host.disk.locate host.folder path = .ok location ∧
      host.disk.node? location = some .folder := by
  unfold status at h
  split at h
  · rename_i location hlocate
    rw [Except.ok.injEq] at h
    exact ⟨location, hlocate, h⟩
  · simp at h
  · simp at h

theorem fileNames_congr (hfolder : host.folder = after.folder) (hdisk : host.disk = after.disk)
    (path : Path) : host.fileNames path = after.fileNames path := by
  rw [fileNames, fileNames, hfolder, hdisk]

/-- What a folder lists are the files in it, if no path into it is too long. -/
theorem fileNames_eq_ok_iff (hlocate : host.disk.locate host.folder path = .ok location) :
    host.fileNames path = .ok names ↔
      (∀ child ∈ host.disk.children location,
        (path.child child.1).toString.utf8ByteSize ≤ Disk.longestPath) ∧
      (host.disk.children location).filterMap fileName? = names := by
  rw [fileNames, hlocate]
  dsimp only
  split
  · rename_i child node hlong
    have hmem := List.mem_of_find?_eq_some hlong
    have hsize := List.find?_some hlong
    simp only [decide_eq_true_eq] at hsize
    refine iff_of_false (by simp) fun ⟨hshort, _⟩ => ?_
    exact absurd (hshort _ hmem) (by simpa using hsize)
  · rename_i hnone
    rw [List.find?_eq_none] at hnone
    rw [Except.ok.injEq, iff_and_self]
    intro _ child hmem
    simpa using hnone child hmem

theorem short_of_mem (hnames : host.fileNames path = .ok names) (hmem : name ∈ names) :
    (path.child name).toString.utf8ByteSize ≤ Disk.longestPath := by
  cases hlocate : host.disk.locate host.folder path with
  | error cause =>
      rw [fileNames, hlocate] at hnames
      cases hnames
  | ok location =>
      obtain ⟨hshort, rfl⟩ := (fileNames_eq_ok_iff hlocate).1 hnames
      obtain ⟨⟨other, node⟩, hchild, hfile⟩ := List.mem_filterMap.1 hmem
      cases node with
      | folder => cases hfile
      | file content =>
          have hname : other = name := Option.some.inj hfile
          have hother := hshort (other, .file content) hchild
          rwa [hname] at hother

theorem nodup_filterMap_fileName? (h : host.disk.IsDistinct) (location : Location) :
    ((host.disk.children location).filterMap fileName?).Nodup := by
  refine (h.pairwise_children location).filterMap _ ?_
  rintro ⟨name, node⟩ ⟨name', node'⟩ hne file hfile file' hfile' hsame
  cases node with
  | folder => simp [fileName?] at hfile
  | file content =>
      cases node' with
      | folder => simp [fileName?] at hfile'
      | file content' =>
          rw [fileName?, Option.some.injEq] at hfile hfile'
          exact hne (by rw [hfile, hfile', hsame])

theorem listed_of_put (hdistinct : host.disk.IsDistinct)
    (hlocate : host.disk.locate host.folder path = .ok location)
    (hnames : host.fileNames path = .ok names)
    (hshort : (path.child name).toString.utf8ByteSize ≤ Disk.longestPath)
    (hvacant : host.disk.node? (location ++ [name]) ≠ some .folder)
    (hfolder : after.folder = host.folder)
    (hdisk : after.disk = host.disk ∨
      after.disk = host.disk.put (location ++ [name]) (.file content))
    (hfile : after.disk.node? (location ++ [name]) = some (.file content)) :
    ∃ listed, after.fileNames path = .ok listed ∧ name ∈ listed ∧ listed.Nodup := by
  have hthere : after.disk.locate after.folder path = .ok location := by
    rw [hfolder]
    rcases hdisk with hdisk | hdisk
    · rw [hdisk, hlocate]
    · rw [hdisk]
      exact Disk.locate_of_folders (Disk.folder_put hvacant _) hlocate
  have hstays : after.disk.IsDistinct := by
    rcases hdisk with hdisk | hdisk
    · exact hdisk ▸ hdistinct
    · exact hdisk ▸ hdistinct.put _ _
  have hfits : ∀ child ∈ after.disk.children location,
      (path.child child.1).toString.utf8ByteSize ≤ Disk.longestPath := by
    obtain ⟨hbefore, -⟩ := (fileNames_eq_ok_iff hlocate).1 hnames
    rintro ⟨other, node⟩ hmem
    rcases hdisk with hdisk | hdisk
    · exact hbefore _ (hdisk ▸ hmem)
    · rcases Disk.mem_children_of_put (hdisk ▸ hmem) with rfl | hmem
      · exact hshort
      · exact hbefore _ hmem
  refine ⟨_, (fileNames_eq_ok_iff hthere).2 ⟨hfits, rfl⟩, ?_, nodup_filterMap_fileName? hstays _⟩
  refine List.mem_filterMap.2 ⟨(name, .file content), ?_, rfl⟩
  exact Disk.mem_children_iff.2 (Disk.mem_nodes_of_node? (by simp) hfile)

end Host

/-! ## Files written over -/

namespace Disk

variable {disk : Disk} {location : Location} {old content : Bytes}

/-- What does not look into files is the same where a file takes the place of a file. -/
theorem filterMap_putNode {β : Type} {look : Location × Node → Option β}
    (hsame : look (location, .file content) = look (location, .file old))
    {nodes : List (Location × Node)} (hfile : nodes.lookup location = some (.file old)) :
    (putNode location (.file content) nodes).filterMap look = nodes.filterMap look := by
  induction nodes with
  | nil => cases hfile
  | cons entry nodes ih =>
      obtain ⟨place, node⟩ := entry
      rw [putNode]
      by_cases hplace : place = location
      · subst hplace
        rw [List.lookup_cons_self, Option.some.injEq] at hfile
        rw [if_pos rfl, List.filterMap_cons, List.filterMap_cons, hsame, hfile]
      · have hother : (location == place) = false := by simpa using Ne.symm hplace
        rw [List.lookup_cons, hother] at hfile
        rw [if_neg hplace, List.filterMap_cons, List.filterMap_cons, ih hfile]

theorem filterMap_children_put {β : Type} {look : String × Node → Option β}
    (hlook : ∀ name, look (name, .file content) = look (name, .file old)) (hne : location ≠ [])
    (hfile : disk.node? location = some (.file old)) (place : Location) :
    ((disk.put location (.file content)).children place).filterMap look =
      (disk.children place).filterMap look := by
  rw [node?, if_neg hne] at hfile
  rw [children, children, List.filterMap_filterMap, List.filterMap_filterMap, put]
  refine filterMap_putNode ?_ hfile
  dsimp only
  cases location.getLast? with
  | none => rfl
  | some name =>
      dsimp only
      split
      · exact hlook name
      · rfl

end Disk

theorem Host.fileNames_put {host after : Host} {path : Path} {location : Location}
    {names : List String} {old content : Bytes}
    (hfile : host.disk.node? location = some (.file old))
    (hnames : host.fileNames path = .ok names) (hfolder : after.folder = host.folder)
    (hdisk : after.disk = host.disk.put location (.file content)) :
    after.fileNames path = .ok names := by
  have hfree : host.disk.node? location ≠ some .folder := by
    rw [hfile]
    simp
  have hne : location ≠ [] := by
    rintro rfl
    exact hfree rfl
  cases hlocate : host.disk.locate host.folder path with
  | error cause =>
      rw [fileNames, hlocate] at hnames
      cases hnames
  | ok place =>
      obtain ⟨hshort, rfl⟩ := (fileNames_eq_ok_iff hlocate).1 hnames
      have hthere : after.disk.locate after.folder path = .ok place := by
        rw [hfolder, hdisk]
        exact Disk.locate_of_folders (Disk.folder_put hfree _) hlocate
      have hfiles := @Disk.filterMap_children_put host.disk location old content _ fileName?
        (fun _ => rfl) hne hfile place
      have hall := @Disk.filterMap_children_put host.disk location old content _
        (fun child => some child.1) (fun _ => rfl) hne hfile place
      rw [fileNames_eq_ok_iff hthere, hdisk]
      refine ⟨fun child hchild => ?_, hfiles⟩
      rw [List.filterMap_eq_map'] at hall
      have hname : child.1 ∈ (host.disk.children place).map Prod.fst := by
        rw [← hall]
        exact List.mem_map_of_mem hchild
      obtain ⟨other, hother, hsame⟩ := List.mem_map.1 hname
      rw [← hsame]
      exact hshort other hother

end SetupForge
