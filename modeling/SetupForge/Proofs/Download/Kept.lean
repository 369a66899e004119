import SetupForge.Download.File
import SetupForge.Proofs.Disk.Jobs

/-! # What a download keeps

A download under a given name writes to files of this name and of the name of its partial file
only, whatever servers answer. The same holds where a runtime installer is provided.
-/

namespace SetupForge

open Job

/-- Whether a text, read as a path, is the name of something in a folder. -/
def Path.IsFileName (name : String) : Prop := Path.ofString name = ⟨.current, [name]⟩ ∧ name ≠ ".."

theorem Path.IsFileName.join {name : String} (h : Path.IsFileName name) (folder : Path) :
    folder.join (Path.ofString name) = folder.child name := by
  rw [h.1, Path.join, if_neg (by simp [Path.isAbsolute])]
  rfl

theorem Path.IsFileName.ne_empty {name : String} (h : Path.IsFileName name) : name ≠ "" := by
  rintro rfl
  have hempty : Path.ofString "" = ⟨.current, []⟩ := by decide
  rw [Path.IsFileName, hempty] at h
  simpa using h.1

theorem isFileName_of_mem_default :
    ∀ known ∈ defaultInstallers, Path.IsFileName known.fileName := by
  unfold Path.IsFileName
  decide

namespace Download

/-- Whether a location has one of the names that a download under a given name writes to. -/
def IsTarget (name : String) (location : Location) : Prop :=
  location.getLast? = some name ∨ location.getLast? = some (name ++ partialSuffix)

variable {name : String} {touched : Location → Prop}

theorem partialPath_child (folder : Path) (name : String) :
    partialPath (folder.child name) = folder.child (name ++ partialSuffix) := by
  rw [partialPath, Path.parent_child, Path.fileName_child]

theorem filter_given (h : name ≠ "") :
    (some name).filter (fun name => !name.isEmpty) = some name := by
  simp [Option.filter, h]

theorem append_partialSuffix_ne (name : String) : name ++ partialSuffix ≠ ".." := by
  intro h
  have hlength := congrArg String.length h
  rw [String.length_append] at hlength
  have hsuffix : partialSuffix.length = 5 := by decide
  have hup : "..".length = 2 := by decide
  omega

theorem reaches_target (h : name ≠ "..") (folder : Path) :
    Reaches (IsTarget name) (folder.child name) := fun _ _ _ hlocate =>
  Or.inl (Disk.getLast?_locate_child h hlocate)

theorem reaches_partial (name : String) (folder : Path) :
    Reaches (IsTarget name) (folder.child (name ++ partialSuffix)) := fun _ _ _ hlocate =>
  Or.inr (Disk.getLast?_locate_child (append_partialSuffix_ne name) hlocate)

theorem keeps_lift {α : Type} (result : Except Failure α) :
    Keeps touched (liftM result : Job α) fun _ => True :=
  keeps_of_disk_eq fun _ => by cases result <;> exact ⟨rfl, rfl, fun _ _ => trivial⟩

theorem keeps_fetch (url : String) : Keeps touched (fetch url) fun _ => True := by
  unfold fetch
  split
  · exact keeps_pure _ trivial
  · refine (keeps_lift _).bind fun request _ => keeps_of_disk_eq fun host => ?_
    rw [on_bind, on_get]
    dsimp only
    rw [on_bind, on_set]
    dsimp only
    split <;> exact ⟨rfl, rfl, fun _ _ => trivial⟩

theorem keeps_file (h : Path.IsFileName name) (url : String) (folder : Path)
    (expected : Option String) :
    Keeps (IsTarget name) (file url folder (some name) expected) fun saved =>
      saved.path = folder.child name := by
  have hname := filter_given h.ne_empty
  have htarget := reaches_target h.2 folder
  have hpart : Reaches (IsTarget name) (partialPath (folder.child name)) := by
    rw [partialPath_child]
    exact reaches_partial name folder
  unfold file
  refine (keeps_makeFolder folder).bind fun _ _ => (keeps_note _).bind fun _ _ =>
    (keeps_fetch url).bind fun result _ => ?_
  cases result with
  | error reason => exact keeps_fail _
  | ok response =>
      refine (keeps_note _).bind fun _ _ => ?_
      -- a name of its own is given, so that no name of the answer is used
      simp only [hname, pure_bind, h.join]
      split
      · exact keeps_fail _
      · refine (keeps_note _).bind fun _ _ => (keeps_store hpart []).bind fun _ _ => ?_
        split
        · exact (keeps_store hpart _).bind fun _ _ =>
            (keeps_unlink hpart).bind fun _ _ => keeps_fail _
        · refine (keeps_store hpart _).bind fun _ _ =>
            (keeps_rename hpart htarget).bind fun _ _ => ?_
          split
          · exact (keeps_unlink htarget).bind fun _ _ => keeps_fail _
          · exact keeps_get.bind fun _ _ => (keeps_note _).bind fun _ _ => keeps_pure _ rfl

theorem keeps_installer {runtime : RuntimeSettings} {major : Int}
    (h : ∀ known, runtime.installer? major = some known → Path.IsFileName known.fileName ∧
      ∀ location, IsTarget known.fileName location → touched location) :
    Keeps touched (installer runtime major) fun path =>
      ∃ known, runtime.installer? major = some known ∧ path.fileName = known.fileName := by
  unfold installer
  cases hknown : runtime.installer? major with
  | none => exact (keeps_requireText major).bind fun _ _ => keeps_fail _
  | some known =>
      obtain ⟨hname, htouched⟩ := h known hknown
      dsimp only
      rw [hname.join]
      refine (keeps_hasPath _).bind fun kept _ => ?_
      split
      · exact (keeps_note _).bind fun _ _ => keeps_pure _ ⟨known, rfl, Path.fileName_child _ _⟩
      · refine (keeps_note _).bind fun _ _ => ?_
        refine ((keeps_file hname _ runtime.resourceFolder none).mono htouched fun _ hs => hs).bind
          fun saved hsaved => keeps_pure _ ⟨known, rfl, ?_⟩
        rw [hsaved, Path.fileName_child]

end Download

end SetupForge
