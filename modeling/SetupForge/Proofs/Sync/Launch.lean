import SetupForge.Proofs.Sync.Additions

/-! # The installer that generated code starts

At the levels that provide the runtime one line of the synced lines starts a runtime installer, the
install step of the requested version. The routine that downloads an installer keeps it under the
name that this step starts, whatever address it comes from.
-/

namespace SetupForge

open Text Lines

/-! ## Generated lines that start nothing -/

namespace Routine

def opensStep : List Char → Bool
  | a :: b :: _ => sameLetter 'F' a && sameLetter 'i' b
  | _ => false

theorem isStep_of_not_opensStep {family line : String}
    (h : opensStep (dropBlanks line.toList) = false) : RunStep.isStep family line = false := by
  cases hs : RunStep.isStep family line with
  | false => rfl
  | true =>
      obtain ⟨a, b, text, hdrop, ha, hb⟩ := RunStep.letters_of_isStep hs
      rw [hdrop, opensStep, ha, hb] at h
      exact h

theorem opensStep_markerLine (name : String) :
    opensStep (dropBlanks (Marker.line name).toList) = false := by
  have hbrace : sameLetter 'F' '{' = false := by decide
  rw [toList_markerLine, dropBlanks_cons, if_neg (by decide), opensStep, hbrace, Bool.false_and]

theorem opensStep_ofList {text : List Char} (h : opensStep (dropBlanks text) = false) :
    opensStep (dropBlanks (String.ofList text).toList) = false := by
  rwa [String.toList_ofList]

set_option maxRecDepth 4000 in
theorem opensStep_of_mem_catalog :
    ∀ routine ∈ catalog, ∀ line ∈ routine.lines, opensStep (dropBlanks line.toList) = false := by
  simp only [catalog, List.forall_mem_cons]
  refine ⟨?_, ?_, ?_, ?_, ?_, by simp⟩ <;>
  · refine List.forall_mem_cons.2 ⟨opensStep_markerLine _, ?_⟩
    repeat refine List.forall_mem_cons.2 ⟨opensStep_ofList (by decide), ?_⟩
    simp

theorem isStep_fill {settings : RuntimeSettings} {major : Int} {family : String}
    {routine : Routine} {line : String} (h : routine ∈ catalog) (hl : line ∈ routine.lines) :
    RunStep.isStep family (Placeholder.fill settings major line) = false := by
  have hraw := opensStep_of_mem_catalog routine h line hl
  refine isStep_of_not_opensStep ?_
  rcases letters_fill settings major h hl with
    hsame | ⟨a, b, text, filled, hdrop, hfilled⟩
  · rw [hsame]
    exact hraw
  · rw [hdrop] at hraw
    rw [hfilled]
    exact hraw

end Routine

theorem RunStep.launches_of_not_isStep {family line : String} (h : isStep family line = false) :
    launches family line = false := by
  rw [isStep, Bool.or_eq_false_iff] at h
  exact h.1

namespace GeneratedCode

open Routine

variable {target : Target} {request : Request} {family : String} {lines : List String}

theorem isStep_of_mem_copies {routines : List Routine} {line : String}
    (h : ∀ routine ∈ routines, routine ∈ catalog) (hl : line ∈ target.copies routines) :
    RunStep.isStep family line = false := by
  obtain ⟨routine, hr, hline⟩ := List.mem_flatMap.1 hl
  rcases List.mem_append.1 hline with hline | hline
  · obtain ⟨raw, hraw, rfl⟩ := List.mem_map.1 hline
    exact isStep_fill (h routine hr) hraw
  · rw [List.mem_singleton.1 hline]
    exact isStep_of_not_opensStep rfl

theorem launches_of_mem_bare {line : String} (h : line ∈ bare lines) :
    RunStep.launches runtimeFamily line = false :=
  RunStep.launches_of_not_isStep (by simpa using (List.mem_filter.1 h).2)

/-! ## The install step -/

/-- Among lines that start no installer the install step is the only one that does. -/
theorem filter_launches_stepped (hi : request.installer.isEmpty = false)
    (hrun : lines.any isRunHeader = true)
    (h : ∀ line ∈ lines, RunStep.launches runtimeFamily line = false) :
    (request.stepped lines).filter (RunStep.launches runtimeFamily) =
      [RunStep.entry request.installer] := by
  obtain ⟨rest, hname⟩ := exists_installer_eq hi
  have hentry : RunStep.launches runtimeFamily (RunStep.entry request.installer) = true := by
    rw [hname]
    exact RunStep.launches_entry runtimeFamily rest
  rw [Request.stepped, if_neg (by simp [hi]), filter_insertBelow_new hrun h,
    List.filter_cons_of_pos hentry, List.filter_nil]

theorem filter_launches_sync (husual : target.IsUsual)
    (hp : target.level.providesRuntime = true)
    (hi : target.request.installer.isEmpty = false) (lines : List String) :
    (GeneratedCode.sync target lines).lines.filter (RunStep.launches runtimeFamily) =
      [RunStep.entry target.request.installer] := by
  have hf : target.request.fails = false := by
    rw [Request.fails, hi, Bool.false_and]
  have hsections : ∀ line ∈ target.request.sections (bare lines),
      RunStep.launches runtimeFamily line = false := by
    intro line hl
    rcases mem_sections hl with rfl | rfl | hl
    · decide
    · decide
    · exact launches_of_mem_bare hl
  rw [sync_of_provides husual hp hf, filter_insertBelow fun line hl =>
    RunStep.launches_of_not_isStep
      (isStep_of_mem_copies (target.request.missing_subset_catalog _) hl)]
  exact filter_launches_stepped hi (any_isRunHeader_sections hi _) hsections

/-! ## The download -/

def downloadLine (address name : String) : String :=
  "      DownloadTemporaryFile('" ++ address ++ "', '" ++ name ++ "', '', nil);"

def downloadBlock (address name : String) : List String :=
  prepareToInstall.lines.set 7 (downloadLine address name)

theorem fill_downloadLine (settings : RuntimeSettings) (major : Int) (address name : String) :
    Placeholder.fill settings major (downloadLine address name) =
      downloadLine (Placeholder.fill settings major address)
        (Placeholder.fill settings major name) := by
  have hopen : "      DownloadTemporaryFile('".toList =
      "      DownloadTemporaryFile(".toList ++ ['\''] := by decide
  have hmiddle : "', '".toList = '\'' :: (", ".toList ++ ['\'']) := by decide
  have hclose : "', '', nil);".toList = '\'' :: ", '', nil);".toList := by decide
  have hplain : '{' ∉ "      DownloadTemporaryFile(".toList ∧ '{' ∉ ", ".toList ∧
      '{' ∉ ", '', nil);".toList := by decide
  have hline : ∀ address name : String, (downloadLine address name).toList =
      "      DownloadTemporaryFile(".toList ++ '\'' :: (address.toList ++ '\'' ::
        (", ".toList ++ '\'' :: (name.toList ++ '\'' :: ", '', nil);".toList))) := by
    intro address name
    delta downloadLine
    simp only [String.toList_append, hopen, hmiddle, hclose, List.append_assoc, List.cons_append,
      List.nil_append]
  rw [← String.toList_inj, Placeholder.toList_fill, hline, hline, Placeholder.toList_fill,
    Placeholder.toList_fill]
  simp only [Placeholder.fillChars_append_quote, Placeholder.fillChars_of_not_mem hplain.1,
    Placeholder.fillChars_of_not_mem hplain.2.1, Placeholder.fillChars_of_not_mem hplain.2.2]

theorem fill_installerName (settings : RuntimeSettings) (major : Int) :
    Placeholder.fill settings major Placeholder.installerName.token =
      settings.installerName major := by
  have hother : ∀ placeholder : Placeholder, placeholder ≠ .installerName →
      Text.occursIn placeholder.token.toList Placeholder.installerName.token.toList = false := by
    intro placeholder hne
    cases placeholder with
    | downloadUrl => decide
    | runtimeVersion => decide
    | installerName => exact absurd rfl hne
  have hkept : ∀ placeholder : Placeholder, placeholder ≠ .installerName →
      Placeholder.replace settings major placeholder Placeholder.installerName.token.toList =
        Placeholder.installerName.token.toList := fun placeholder hne =>
    Text.replaceFrom_of_not_occursIn _ (hother placeholder hne)
  have hself : Placeholder.replace settings major .installerName
      Placeholder.installerName.token.toList = (settings.installerName major).toList := by
    obtain ⟨rest, htoken, -⟩ := Placeholder.toList_token .installerName
    rw [Placeholder.replace, htoken]
    exact Text.replaceAll_self _ _ _
  rw [← String.toList_inj, Placeholder.toList_fill]
  simp only [Placeholder.fillChars, Placeholder.all, List.foldl_cons, List.foldl_nil]
  rw [hkept .downloadUrl (by decide), hkept .runtimeVersion (by decide), hself]

theorem block_prepareToInstall (target : Target) :
    target.block prepareToInstall =
      downloadBlock
        (Placeholder.fill target.runtime target.major Placeholder.downloadUrl.token)
        (target.runtime.installerName target.major) := by
  have hplain : ∀ line ∈ prepareToInstall.lines.take 7 ++ prepareToInstall.lines.drop 8,
      line = Marker.line prepareToInstall.name ∨ '{' ∉ line.toList := by decide
  have hname : '{' ∉ prepareToInstall.name.toList := by decide
  have hlines : prepareToInstall.lines = prepareToInstall.lines.take 7 ++
      downloadLine Placeholder.downloadUrl.token Placeholder.installerName.token ::
        prepareToInstall.lines.drop 8 := by decide
  have hkept : ∀ line ∈ prepareToInstall.lines.take 7 ++ prepareToInstall.lines.drop 8,
      Placeholder.fill target.runtime target.major line = line := by
    intro line hl
    rcases hplain line hl with rfl | hbrace
    · exact fill_markerLine hname
    · exact fill_of_not_mem hbrace
  rw [List.forall_mem_append] at hkept
  have hfront := (List.map_congr_left hkept.1).trans (List.map_id' _)
  have hback := (List.map_congr_left hkept.2).trans (List.map_id' _)
  calc target.block prepareToInstall
      = (prepareToInstall.lines.take 7 ++
          downloadLine Placeholder.downloadUrl.token Placeholder.installerName.token ::
            prepareToInstall.lines.drop 8).map
          (Placeholder.fill target.runtime target.major) := by rw [Target.block, ← hlines]
    _ = prepareToInstall.lines.take 7 ++ downloadLine
          (Placeholder.fill target.runtime target.major Placeholder.downloadUrl.token)
          (target.runtime.installerName target.major) :: prepareToInstall.lines.drop 8 := by
        rw [List.map_append, List.map_cons, fill_downloadLine, fill_installerName, hfront, hback]
    _ = downloadBlock _ _ := by
        rw [downloadBlock, List.set_eq_take_append_cons_drop, if_pos (by decide)]

theorem infix_copies {routine : Routine} {routines : List Routine} (h : routine ∈ routines) :
    target.block routine <:+: target.copies routines := by
  obtain ⟨before, after, rfl⟩ := List.append_of_mem h
  refine ⟨target.copies before, [""] ++ target.copies after, ?_⟩
  simp [Target.copies]

theorem infix_insertBelow {test : String → Bool} {new : List String} (h : lines.any test = true) :
    new <:+: insertBelow test new lines := by
  obtain ⟨above, head, below, rfl, habove, hhead⟩ := exists_first h
  rw [insertBelow_first habove hhead]
  exact ⟨above ++ [head], below, by simp⟩

theorem infix_sync (husual : target.IsUsual) (hlevel : target.level = .netInstallDownload)
    (hi : target.request.installer.isEmpty = false) (h : lacks lines prepareToInstall = true) :
    downloadBlock
        (Placeholder.fill target.runtime target.major Placeholder.downloadUrl.token)
        target.request.installer <:+: (GeneratedCode.sync target lines).lines := by
  have hf : target.request.fails = false := by
    rw [Request.fails, hi, Bool.false_and]
  have hneeded : prepareToInstall ∈ neededAt target.level catalog :=
    List.mem_filter.2 ⟨by simp [catalog], by rw [hlevel]; decide⟩
  have hmissing : prepareToInstall ∈ target.request.missing (bare lines) :=
    List.mem_filter.2 ⟨hneeded, lacks_of_sublist (bare_sublist lines) h⟩
  have hp : target.level.providesRuntime = true := by
    rw [hlevel]
    rfl
  rw [← husual.installerName_eq, ← block_prepareToInstall, sync_of_provides husual hp hf]
  exact (infix_copies hmissing).trans (infix_insertBelow (any_isCodeHeader_ready _ _))

end GeneratedCode

end SetupForge
