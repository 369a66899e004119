import SetupForge.Proofs.Disk.Contents
import SetupForge.Proofs.Script.Saving
import SetupForge.Proofs.Sync.Edits

/-! # What the sync of a script reports

The sync of a script on disk reports a change if a line changed, and only then it writes the
script. Every change of the bytes is reported. The converse fails where the new lines are the old
ones and an empty line: a script that ends in a line break already has the same bytes with it.
-/

namespace SetupForge.Sync

open Job

/-- Writes a script with other lines if they differ from its own, and tells whether they do. -/
def saveChanged (path : Path) (script : Script) (lines : List String) : Job Bool :=
  if lines = script.lines then pure false
  else do
    saveScript path { script with lines }
    pure true

variable {goal : Goal} {path : Path} {host : Host} {bytes : Bytes} {lines : List String}

theorem script_eq (goal : Goal) (path : Path) :
    script goal path =
      loadScript path >>= fun script => edits goal script.lines >>= saveChanged path script := by
  simp only [script, edits, bind_assoc]
  rfl

/-! ## Reading and writing a script -/

theorem on_loadScript (husable : path.isUsable = true)
    (hread : host.disk.read host.folder path = .ok bytes) :
    (loadScript path).on host = (.ok (Script.ofBytes bytes), host) := by
  rw [loadScript, on_bind, on_hasPath_of_read husable hread]
  dsimp only
  rw [if_pos rfl, on_bind, on_load_of_read husable hread]
  rfl

theorem on_store {content : Bytes} {after : Disk} (husable : path.isUsable = true)
    (hwrite : host.disk.write host.folder path content = .ok after) :
    (Job.store path content).on host = (.ok ⟨⟩, host.withDisk after) := by
  rw [on_store_eq, if_pos husable, hwrite]

/-- A script is written if its lines changed, and read back as it was written. -/
theorem on_saveChanged (htree : host.disk.IsTree) (husable : path.isUsable = true)
    (hread : host.disk.read host.folder path = .ok bytes) (script : Script) (lines : List String) :
    ∃ after, (saveChanged path script lines).on host =
        (.ok (decide (lines ≠ script.lines)), after) ∧
      after.disk.read after.folder path =
        .ok (if lines = script.lines then bytes else Script.toBytes { script with lines }) := by
  unfold saveChanged
  by_cases hsame : lines = script.lines
  · refine ⟨host, ?_, ?_⟩
    · simp [hsame]
    · rw [if_pos hsame]
      exact hread
  · obtain ⟨after, hwrite⟩ :=
      Disk.exists_write_of_read htree hread (Script.toBytes { script with lines })
    refine ⟨host.withDisk after, ?_, ?_⟩
    · rw [if_neg hsame, saveScript, on_bind, on_store husable hwrite]
      simp [hsame]
    · rw [if_neg hsame]
      exact Disk.read_write hwrite htree

/-! ## The whole sync -/

section Script

variable (htree : host.disk.IsTree) (hfolder : host.disk.node? host.folder = some .folder)
variable (hname : goal.NamesInstaller)
variable (hread : host.disk.read host.folder path = .ok bytes)
variable (hfar : ∀ location, host.disk.locate host.folder path = .ok location →
  ¬ goal.Copies location)

include htree hfolder hname hread hfar

theorem read_edits (lines : List String) :
    ((edits goal lines).on host).2.disk.IsTree ∧
      ((edits goal lines).on host).2.disk.read ((edits goal lines).on host).2.folder path =
        .ok bytes := by
  obtain ⟨hkeeps, hstays, -⟩ := keeps_edits hname lines host htree hfolder
  exact ⟨hkeeps.isTree, by rw [hstays]; exact hkeeps.read hread hfar⟩

variable (husable : path.isUsable = true)

include husable

/-- The sync of a script reports whether its lines changed, and the script has the new lines if
they did. -/
theorem script_of_edits_ok
    (h : ((edits goal (Script.ofBytes bytes).lines).on host).1 = .ok lines) :
    ∃ after, (script goal path).on host =
        (.ok (decide (lines ≠ (Script.ofBytes bytes).lines)), after) ∧
      after.disk.read after.folder path =
        .ok (if lines = (Script.ofBytes bytes).lines then bytes
          else Script.toBytes { Script.ofBytes bytes with lines }) := by
  obtain ⟨htree', hkept⟩ := read_edits htree hfolder hname hread hfar
    (Script.ofBytes bytes).lines
  cases hrun : (edits goal (Script.ofBytes bytes).lines).on host with
  | mk result middle =>
      rw [hrun] at h htree' hkept
      simp only at h
      obtain ⟨after, hsave, hafter⟩ :=
        on_saveChanged htree' husable hkept (Script.ofBytes bytes) lines
      refine ⟨after, ?_, hafter⟩
      rw [script_eq, on_bind, on_loadScript husable hread]
      dsimp only
      rw [on_bind, hrun, h]
      exact hsave

/-- A sync reports every change of a script. Where all new lines are read as they are written, it
reports one without a change exactly if an empty line is added to a script that has the same bytes
with it. -/
theorem script_report_iff
    (h : ((edits goal (Script.ofBytes bytes).lines).on host).1 = .ok lines) :
    ∃ report after now, (script goal path).on host = (.ok report, after) ∧
      after.disk.read after.folder path = .ok now ∧ (now ≠ bytes → report = true) ∧
      (((Utf8.dropMark bytes).1 = true → (Utf8.decodeMarked? bytes).isSome) →
        (∀ line ∈ lines, (Script.ofBytes bytes).encoding.keeps line = true) →
        (report = true ∧ now = bytes ↔ lines = (Script.ofBytes bytes).lines ++ [""] ∧
          Script.toBytes { Script.ofBytes bytes with lines } = bytes)) := by
  obtain ⟨after, hrun, hafter⟩ := script_of_edits_ok htree hfolder hname hread hfar husable h
  refine ⟨_, after, _, hrun, hafter, ?_, ?_⟩
  · by_cases hsame : lines = (Script.ofBytes bytes).lines <;> simp [hsame]
  · intro hmark hkeeps
    rw [decide_eq_true_eq]
    constructor
    · rintro ⟨hne, hbytes⟩
      rw [if_neg hne] at hbytes
      exact ⟨(Script.eq_lines_of_toBytes_eq hmark hkeeps hbytes).resolve_left hne, hbytes⟩
    · rintro ⟨hlast, hbytes⟩
      have hne : lines ≠ (Script.ofBytes bytes).lines := by
        rw [hlast]
        simp
      exact ⟨hne, by rw [if_neg hne, hbytes]⟩

end Script

/-! ## A script that ends in a line break -/

/-- A folder with a script and an empty folder to publish. -/
def emptyPublish (script : Bytes) : Host where
  disk := ⟨[(["w"], .folder), (["w", "publish"], .folder), (["w", "setup.iss"], .file script)]⟩
  folder := ["w"]

def setupPath : Path := ⟨.current, ["setup.iss"]⟩

def emptyGoal : Goal where
  major := 8
  folder := ⟨.current, ["publish"]⟩

theorem isTree_emptyPublish (script : Bytes) : (emptyPublish script).disk.IsTree :=
  Disk.isTree_of_nodes fun entry hentry => by
    simp only [emptyPublish, List.mem_cons, List.not_mem_nil, or_false] at hentry
    rcases hentry with rfl | rfl | rfl <;> rfl

theorem rebuild_emptySection (family : String) :
    FilesSection.rebuild family [] ["[Files]"] = ["[Files]", ""] := by
  have hstart : Section.start? FilesSection.sectionName ["[Files]"] = some 0 := by decide
  have hclear : Section.clear FilesSection.sectionName ["[Files]"] = ["[Files]"] := by decide
  rw [FilesSection.rebuild, hstart, hclear]
  simp [FilesSection.entries, FilesSection.sorted, Lines.insertAt]

theorem edits_emptyPublish (script : Bytes) :
    ((edits emptyGoal ["[Files]"]).on (emptyPublish script)).1 = .ok ["[Files]", ""] := by
  have hstatus : (emptyPublish script).status emptyGoal.folder = .ok (some .folder) := rfl
  have hnames : (emptyPublish script).fileNames emptyGoal.folder = .ok [] := rfl
  have hsync : GeneratedCode.sync
      { major := emptyGoal.major, level := emptyGoal.level, runtime := emptyGoal.runtime }
      ["[Files]", ""] = { lines := ["[Files]", ""] } := by decide
  rw [edits_of_not_copied (by decide) rfl hstatus hnames, rebuild_emptySection, hsync]

theorem namesInstaller_emptyGoal : emptyGoal.NamesInstaller := fun hlevel => by
  simp [emptyGoal] at hlevel

theorem not_copies_emptyGoal (location : Location) : ¬ emptyGoal.Copies location := by
  rintro ⟨hlevel, -⟩
  simp [emptyGoal] at hlevel

/-- A script without a line break at its end gets one. -/
theorem script_report_iff_noLastBreak :
    let bytes := Utf8.encode "[Files]".toList
    let host := emptyPublish bytes
    host.disk.IsTree ∧ host.disk.node? host.folder = some .folder ∧ emptyGoal.NamesInstaller ∧
      host.disk.read host.folder setupPath = .ok bytes ∧
      (∀ location, host.disk.locate host.folder setupPath = .ok location →
        ¬ emptyGoal.Copies location) ∧
      setupPath.isUsable = true ∧
      ((edits emptyGoal (Script.ofBytes bytes).lines).on host).1 = .ok ["[Files]", ""] ∧
      ∃ report after now, (script emptyGoal setupPath).on host = (.ok report, after) ∧
        after.disk.read after.folder setupPath = .ok now ∧ ¬ (report = true ∧ now = bytes) := by
  intro bytes host
  have hlines : (Script.ofBytes bytes).lines = ["[Files]"] := by decide +kernel
  have hedits : ((edits emptyGoal (Script.ofBytes bytes).lines).on host).1 =
      .ok ["[Files]", ""] := by
    rw [hlines]
    exact edits_emptyPublish bytes
  have hfar : ∀ location, host.disk.locate host.folder setupPath = .ok location →
      ¬ emptyGoal.Copies location := fun location _ => not_copies_emptyGoal location
  obtain ⟨report, after, now, hrun, hnow, -, hsame⟩ := script_report_iff
    (isTree_emptyPublish bytes) rfl namesInstaller_emptyGoal rfl hfar rfl hedits
  refine ⟨isTree_emptyPublish bytes, rfl, namesInstaller_emptyGoal, rfl, hfar, rfl, hedits,
    report, after, now, hrun, hnow, ?_⟩
  rw [hsame (by decide +kernel) (by decide +kernel)]
  decide +kernel

/-- A sync that adds an empty line to a script with a line break at its end reports a change and
writes the bytes that were there. -/
theorem script_reports_same_bytes :
    let bytes := Utf8.encode "[Files]\r\n".toList
    let host := emptyPublish bytes
    host.disk.read host.folder setupPath = .ok bytes ∧
      ∃ after, (script emptyGoal setupPath).on host = (.ok true, after) ∧
        after.disk.read after.folder setupPath = .ok bytes := by
  intro bytes host
  have hlines : (Script.ofBytes bytes).lines = ["[Files]"] := by decide +kernel
  have hedits : ((edits emptyGoal (Script.ofBytes bytes).lines).on host).1 =
      .ok ["[Files]", ""] := by
    rw [hlines]
    exact edits_emptyPublish bytes
  have hread : host.disk.read host.folder setupPath = .ok bytes := rfl
  obtain ⟨after, hrun, hafter⟩ := script_of_edits_ok (isTree_emptyPublish bytes) rfl
    namesInstaller_emptyGoal hread (fun location _ => not_copies_emptyGoal location) rfl hedits
  refine ⟨hread, after, ?_, ?_⟩
  · rw [hrun, hlines]
    rfl
  · rw [hafter, if_neg (by simp [hlines])]
    exact congrArg Except.ok (by decide +kernel)

end SetupForge.Sync
