import SetupForge.Proofs.Download.Work
import SetupForge.Proofs.Sync.Additions
import SetupForge.Proofs.Sync.Edits

/-! # What the sync of a script does

The files section is rebuilt from a folder that may get a copy of the runtime installer. What goes
wrong with this copy is only reported, unless it is no fault of the disk or of a server.
-/

namespace SetupForge.Sync

open Job Download

/-- The files that a copy of a runtime installer may write: the download in the resource folder, and
the copy in the publish folder, or in a folder of its name there. -/
def Goal.copies (goal : Goal) (known : RuntimeInstaller) : List Path :=
  let kept := goal.runtime.resourceFolder
  let copy := goal.folder.child known.fileName
  [kept.child known.fileName, kept.child (known.fileName ++ partialSuffix), copy,
    copy.child known.fileName]

structure FailsAsDownload (limits : Limits) : Prop where
  request : FailsAsRequest limits
  digits : limits.fails .tooManyDigits

def Goal.MayCopy (limits : Limits) (goal : Goal) : Prop :=
  goal.level = .netInstallIncluded → FailsAsDownload limits ∧
    ∀ known, goal.runtime.installer? goal.major = some known →
      Path.IsFileName known.fileName ∧
        ∀ path ∈ goal.copies known, limits.touched (path.location limits.origin.folder)

variable {limits : Limits} {goal : Goal}

theorem works_copyInstaller (h : goal.MayCopy limits) (hlevel : goal.level = .netInstallIncluded) :
    Works limits (copyInstaller goal) fun _ => True := by
  obtain ⟨hdownload, hcopy⟩ := h hlevel
  let fails : Failure → Prop := fun failure => limits.fails failure ∨ failure.reason?.isSome
  let caught : Limits := limits.withFails fails fun failure hordinary =>
    Or.inl (limits.ordinary failure hordinary)
  have hrequest : FailsAsRequest caught := fun failure hfailure =>
    Or.inl (hdownload.request failure hfailure)
  have hsame : ∀ source target, caught.fails (.sameFile source target) := fun _ _ => Or.inr rfl
  have hknown : ∀ known, goal.runtime.installer? goal.major = some known →
      Path.IsFileName known.fileName ∧
        ∀ path ∈ goal.copies known, caught.touched (path.location caught.origin.folder) := hcopy
  have hcopied : Works caught (do
      let installer ← Download.installer goal.runtime goal.major
      Job.copy installer (goal.folder.child installer.fileName)
      Job.note (.verbose "FILES" s!"Copied runtime installer: {installer.fileName}"))
      fun _ => True := by
    refine (works_installer hrequest (Or.inl hdownload.digits) fun known hfound => ?_).bind
      fun installer hinstaller => ?_
    · obtain ⟨hname, hpaths⟩ := hknown known hfound
      exact ⟨hname, hpaths _ (by simp [Goal.copies]), hpaths _ (by simp [Goal.copies])⟩
    · obtain ⟨known, hfound, rfl⟩ := hinstaller
      obtain ⟨-, hpaths⟩ := hknown known hfound
      rw [Path.fileName_child]
      refine (works_copy hsame (hpaths _ (by simp [Goal.copies])) ?_).bind fun _ _ => works_note _
      rw [Path.fileName_child]
      exact hpaths _ (by simp [Goal.copies])
  unfold copyInstaller
  refine hcopied.attempt.bind fun copied hresult => ?_
  cases copied with
  | ok value => exact works_pure () trivial
  | error failure =>
      dsimp only
      split
      · exact works_note _
      · rename_i hreason
        -- a failure without a reason was not caught
        refine works_fail ((hresult.2 failure rfl).resolve_right ?_)
        rw [hreason]
        simp

theorem works_rebuildFiles (goal : Goal) (lines : List String) :
    Works limits (rebuildFiles goal lines) fun _ => True := by
  unfold rebuildFiles
  split
  · exact (works_note _).bind fun _ _ => works_pure _ trivial
  · exact (works_fileNames _).bind fun _ _ => (works_notes _).bind fun _ _ =>
      (works_note _).bind fun _ _ => works_pure _ trivial

theorem works_files (h : goal.MayCopy limits) (lines : List String) :
    Works limits (files goal lines) fun _ => True := by
  rw [files_eq]
  refine (works_isFolder _).bind fun found _ => ?_
  split
  · split
    · rename_i hlevel
      exact (works_copyInstaller h hlevel).bind fun _ _ => works_rebuildFiles goal lines
    · exact works_rebuildFiles goal lines
  · exact (works_note _).bind fun _ _ => works_pure _ trivial

def Goal.target (goal : Goal) : GeneratedCode.Target :=
  { major := goal.major, level := goal.level, runtime := goal.runtime }

theorem works_code (h : limits.fails .tooManyDigits) (husual : goal.target.IsUsual)
    (lines : List String) :
    Works limits (code goal lines) fun synced =>
      synced = (GeneratedCode.sync goal.target lines).lines := by
  have hcode : code goal lines = edited (GeneratedCode.sync goal.target lines) := rfl
  rw [hcode, edited]
  refine (works_notes _).bind fun _ _ => ?_
  cases hfailure : (GeneratedCode.sync goal.target lines).failure with
  | none => exact works_pure _ rfl
  | some failure =>
      rw [GeneratedCode.failure_sync_of_usual husual, Option.ite_none_right_eq_some,
        Option.some.injEq] at hfailure
      exact works_fail (hfailure.2 ▸ h)

theorem works_loadScript (path : Path) : Works limits (loadScript path) fun _ => True := by
  refine (works_hasPath path).bind fun found _ => ?_
  split
  · exact (works_load path).bind fun _ _ => works_pure _ trivial
  · exact works_reject _

theorem works_saveScript {path : Path} (h : limits.touched (path.location limits.origin.folder))
    (script : Script) : Works limits (saveScript path script) fun _ => True := works_store h _

theorem works_packageFiles {folder path : Path}
    (htouched : limits.touched (path.location limits.origin.folder)) :
    Works limits (packageFiles folder path) fun _ => True := by
  have hcopy : Goal.MayCopy limits { folder } := fun hlevel => by simp at hlevel
  refine (works_loadScript path).bind fun script _ =>
    (works_files hcopy script.lines).bind fun result _ => ?_
  obtain ⟨lines, changed⟩ := result
  dsimp only
  split
  · exact (works_saveScript htouched _).bind fun _ _ => (works_note _).bind fun _ _ =>
      works_pure _ trivial
  · exact works_pure _ trivial

end SetupForge.Sync
