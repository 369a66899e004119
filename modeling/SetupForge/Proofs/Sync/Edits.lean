import SetupForge.Proofs.Download.Kept
import SetupForge.Script.Sync

/-! # The edits of a script sync

Between reading a script and writing it, the sync rebuilds the files section and the generated
code. On the disk only the copy of the runtime installer leaves a trace.
-/

namespace SetupForge.Sync

open Job

/-- Whether the copy of the runtime installer may write to a location. -/
def Goal.Copies (goal : Goal) (location : Location) : Prop :=
  goal.level = .netInstallIncluded ∧
    ∃ known, goal.runtime.installer? goal.major = some known ∧
      Download.IsTarget known.fileName location

/-- Whether the runtime installer that a goal copies has a name that a file can have. -/
def Goal.NamesInstaller (goal : Goal) : Prop :=
  goal.level = .netInstallIncluded → ∀ known,
    goal.runtime.installer? goal.major = some known → Path.IsFileName known.fileName

def rebuildFiles (goal : Goal) (lines : List String) : Job (List String × Bool) :=
  match Section.body? FilesSection.sectionName lines with
  | none => do
      Job.note (.error "FILES" "Could not find [Files] section in the setup script")
      pure (lines, false)
  | some before => do
      let names ← Job.fileNames goal.folder
      let rebuilt := FilesSection.rebuild goal.runtime.family names lines
      Job.notes (FilesSection.notes goal.runtime.family names)
      let changed := Section.body? FilesSection.sectionName rebuilt != some before
      Job.note (.verbose "FILES" (if changed then "[Files] updated" else "[Files] unchanged"))
      pure (rebuilt, changed)

def edits (goal : Goal) (lines : List String) : Job (List String) := do
  let (lines, _) ← files goal lines
  code goal lines

variable {goal : Goal} {host : Host} {lines names : List String}

/-- The rebuild in place gives its failure in the result and does not fail itself. -/
theorem on_editFiles (goal : Goal) (lines : List String) (host : Host) :
    (editFiles goal lines).on host =
      match (prepareFolder goal).on host with
      | (.error failure, after) => (.ok ⟨lines, .error failure⟩, after)
      | (.ok false, after) => (.ok ⟨lines, .ok false⟩, after)
      | (.ok true, after) => (fillFiles goal lines).on after := by
  rw [editFiles, on_bind, on_attempt]
  rcases (prepareFolder goal).on host with ⟨_ | _ | _, after⟩ <;> rfl

/-- In place or not, the section is rebuilt from the same folder. -/
theorem on_fillFiles_finished (goal : Goal) (lines : List String) (host : Host) :
    (fillFiles goal lines >>= FilesEdit.finished).on host = (rebuildFiles goal lines).on host := by
  unfold fillFiles rebuildFiles
  cases Section.body? FilesSection.sectionName lines with
  | none => rfl
  | some before =>
      simp only [on_bind, on_attempt]
      rcases (Job.fileNames goal.folder).on host with ⟨_ | names, after⟩ <;> rfl

theorem files_eq (goal : Goal) (lines : List String) :
    files goal lines = Job.isFolder goal.folder >>= fun found =>
      if found then
        if goal.level = .netInstallIncluded then
          copyInstaller goal >>= fun _ => rebuildFiles goal lines
        else rebuildFiles goal lines
      else
        Job.note (.error "FILES" s!"Specified input folder not found: {goal.folder}") >>=
          fun _ => pure (lines, false) := by
  funext host
  change (files goal lines).on host = Job.on _ host
  have hfill := on_fillFiles_finished goal lines
  simp only [on_bind] at hfill
  rw [files, on_bind, on_editFiles, prepareFolder, on_bind, on_bind]
  rcases (Job.isFolder goal.folder).on host with ⟨_ | found, after⟩
  · rfl
  cases found with
  | false => rfl
  | true =>
      by_cases hlevel : goal.level = .netInstallIncluded
      · simp only [hlevel, if_true, on_bind]
        rcases (copyInstaller goal).on after with ⟨_ | _, copied⟩
        · rfl
        · exact hfill copied
      · simp only [hlevel, if_true, if_false]
        exact hfill after

/-! ## What the edits keep -/

theorem keeps_copyInstaller (hlevel : goal.level = .netInstallIncluded)
    (hname : goal.NamesInstaller) : Keeps goal.Copies (copyInstaller goal) fun _ => True := by
  have htouched : ∀ known, goal.runtime.installer? goal.major = some known →
      ∀ location, Download.IsTarget known.fileName location → goal.Copies location :=
    fun known hknown location hlocation => ⟨hlevel, known, hknown, hlocation⟩
  have hcopied : Keeps goal.Copies (do
      let installer ← Download.installer goal.runtime goal.major
      Job.copy installer (goal.folder.child installer.fileName)
      Job.note (.verbose "FILES" s!"Copied runtime installer: {installer.fileName}"))
      fun _ => True := by
    refine (Download.keeps_installer fun known hknown =>
      ⟨hname hlevel known hknown, htouched known hknown⟩).bind fun installer hinstaller => ?_
    obtain ⟨known, hknown, hfileName⟩ := hinstaller
    have htarget : ∀ folder : Path, Reaches goal.Copies (folder.child installer.fileName) := by
      intro folder
      rw [hfileName]
      exact (Download.reaches_target (hname hlevel known hknown).2 folder).mono
        (htouched known hknown)
    exact (keeps_copy (htarget _) (htarget _)).bind fun _ _ => keeps_note _
  unfold copyInstaller
  refine hcopied.attempt.bind fun copied _ => ?_
  cases copied with
  | ok value => exact keeps_pure () trivial
  | error failure =>
      dsimp only
      split
      · exact keeps_note _
      · exact keeps_fail _

theorem keeps_rebuildFiles (lines : List String) {touched : Location → Prop} :
    Keeps touched (rebuildFiles goal lines) fun _ => True := by
  unfold rebuildFiles
  split
  · exact (keeps_note _).bind fun _ _ => keeps_pure _ trivial
  · exact (keeps_fileNames _).bind fun _ _ => (keeps_notes _).bind fun _ _ =>
      (keeps_note _).bind fun _ _ => keeps_pure _ trivial

theorem keeps_files (hname : goal.NamesInstaller) (lines : List String) :
    Keeps goal.Copies (files goal lines) fun _ => True := by
  rw [files_eq]
  refine (keeps_isFolder _).bind fun found _ => ?_
  split
  · split
    · rename_i hlevel
      exact (keeps_copyInstaller hlevel hname).bind fun _ _ => keeps_rebuildFiles lines
    · exact keeps_rebuildFiles lines
  · exact (keeps_note _).bind fun _ _ => keeps_pure _ trivial

theorem keeps_edits (hname : goal.NamesInstaller) (lines : List String) :
    Keeps goal.Copies (edits goal lines) fun _ => True := by
  refine (keeps_files hname lines).bind fun result _ => ?_
  unfold code edited
  refine (keeps_notes _).bind fun _ _ => ?_
  split
  · exact keeps_fail _
  · exact keeps_pure _ trivial

/-! ## What the edits come to -/

theorem rebuild_of_no_section {family : String} {names : List String}
    (h : Section.body? FilesSection.sectionName lines = none) :
    FilesSection.rebuild family names lines = lines := by
  have hstart : Section.start? FilesSection.sectionName lines = none := by
    unfold Section.body? Section.end? at h
    have hname : Text.isBlank FilesSection.sectionName = false := by decide
    rw [Section.isUnnamed, hname] at h
    cases hs : Section.start? FilesSection.sectionName lines with
    | none => rfl
    | some start => simp [hs] at h
  rw [FilesSection.rebuild, hstart]

theorem on_edited (edit : Edit) (host : Host) :
    ((edited edit).on host).1 =
      match edit.failure with
      | some failure => .error failure
      | none => .ok edit.lines := by
  obtain ⟨lines, notes, failure⟩ := edit
  cases failure <;> rfl

theorem on_rebuildFiles (hnames : host.fileNames goal.folder = .ok names) (lines : List String) :
    ∃ changed said, (rebuildFiles goal lines).on host =
      (.ok (FilesSection.rebuild goal.runtime.family names lines, changed),
        { host with said }) := by
  unfold rebuildFiles
  split
  · rename_i hnone
    rw [rebuild_of_no_section hnone]
    exact ⟨_, _, rfl⟩
  · rw [on_bind, on_fileNames, hnames]
    exact ⟨_, _, rfl⟩

theorem edits_of_files {rebuilt : List String} {changed : Bool} {after : Host}
    (h : (files goal lines).on host = (.ok (rebuilt, changed), after)) :
    let edit := GeneratedCode.sync
      { major := goal.major, level := goal.level, runtime := goal.runtime } rebuilt
    ((edits goal lines).on host).1 =
      match edit.failure with
      | some failure => .error failure
      | none => .ok edit.lines := by
  intro edit
  rw [edits, on_bind, h]
  exact on_edited edit after

theorem on_files_of_not_copied (hlevel : goal.level ≠ .netInstallIncluded)
    (husable : goal.folder.isUsable = true)
    (hstatus : host.status goal.folder = .ok (some .folder))
    (hnames : host.fileNames goal.folder = .ok names) (lines : List String) :
    ∃ changed after, (files goal lines).on host =
      (.ok (FilesSection.rebuild goal.runtime.family names lines, changed), after) := by
  obtain ⟨changed, said, hrebuild⟩ := on_rebuildFiles hnames lines
  refine ⟨changed, { host with said }, ?_⟩
  rw [files_eq, on_bind, on_isFolder husable hstatus]
  dsimp only
  rw [if_pos rfl, if_neg hlevel, hrebuild]

theorem edits_of_not_copied (hlevel : goal.level ≠ .netInstallIncluded)
    (husable : goal.folder.isUsable = true)
    (hstatus : host.status goal.folder = .ok (some .folder))
    (hnames : host.fileNames goal.folder = .ok names) (lines : List String) :
    let edit := GeneratedCode.sync
      { major := goal.major, level := goal.level, runtime := goal.runtime }
      (FilesSection.rebuild goal.runtime.family names lines)
    ((edits goal lines).on host).1 =
      match edit.failure with
      | some failure => .error failure
      | none => .ok edit.lines := by
  obtain ⟨changed, after, hfiles⟩ := on_files_of_not_copied hlevel husable hstatus hnames lines
  exact edits_of_files hfiles

end SetupForge.Sync
