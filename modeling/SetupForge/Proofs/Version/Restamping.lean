import SetupForge.Proofs.Version.StampedText

/-! # Stamping a project again

Where elements took the version, stamping again with the same version finds it in all of them. An
added line ends with a carriage return, which the second time is read as part of a line feed, so
that the file changes once more.
-/

namespace SetupForge.Stamping

open Job Text

variable {host middle : Host} {path : Path} {text : List Char} {version : String}

theorem head?_asRead_iff :
    (asRead text).head? = some markChar ↔ [markChar, markChar] <+: text := by
  have hfeed : ∀ c, withLineFeed c = markChar ↔ c = markChar := by
    intro c
    unfold withLineFeed
    split
    · rename_i hc
      rw [hc]
      exact iff_of_false (by decide) (by decide)
    · rfl
  have hhead : (asRead text).head? = some markChar ↔ (unmarked text).head? = some markChar := by
    rw [asRead, head?_withLineFeeds, Option.map_eq_some_iff]
    simp only [hfeed, exists_eq_right]
  rw [hhead]
  constructor
  · intro h
    by_cases hmark : text.head? = some markChar
    · obtain ⟨rest, rfl⟩ := List.head?_eq_some_iff.1 hmark
      obtain ⟨behind, rfl⟩ := List.head?_eq_some_iff.1 h
      exact ⟨behind, rfl⟩
    · rw [unmarked_of_head?_ne hmark] at h
      exact absurd h hmark
  · rintro ⟨behind, rfl⟩
    rfl

/-- What is written is known if stamping succeeds. -/
theorem HoldsText.exists_of_project (h : HoldsText host path text)
    (hrun : (project path version).on host = (.ok (), middle)) :
    ∃ new, ProjectVersion.stamp path version (asRead text) = .ok new ∧
      HoldsText middle path new := by
  rw [h.on_project] at hrun
  cases hstamp : ProjectVersion.stamp path version (asRead text) with
  | error failure =>
      rw [hstamp] at hrun
      cases hrun
  | ok new =>
      rw [hstamp] at hrun
      obtain ⟨after, hstore, hafter, -⟩ := h.on_store new
      cases hrun.symm.trans hstore
      exact ⟨new, rfl, hafter⟩

theorem HoldsText.on_project_of_hasVersion (h : HoldsText host path text)
    (hversion : version.toList.all Moment.isVersionChar = true)
    (hhas : ProjectVersion.HasVersion text) {renewed : List Char}
    (hrenewed : ProjectVersion.Renews version text renewed) :
    ∃ after, (project path version).on host = (.ok (), after) ∧
      HoldsText after path (asRead renewed) := by
  obtain ⟨after, hstore, hafter, -⟩ := h.on_store (asRead renewed)
  refine ⟨after, ?_, hafter⟩
  rw [h.on_project, ProjectVersion.stamp_asRead hversion hhas hrenewed]
  exact hstore

/-- After stamping has succeeded, stamping again succeeds as well, and it leaves the bytes of the
file as they are exactly if there was an element for the version and there were no two marks in
front. -/
theorem project_again_iff (h : HoldsText host path text)
    (hversion : version.toList.all Moment.isVersionChar = true)
    (hrun : (project path version).on host = (.ok (), middle)) :
    ∃ now later after, middle.disk.read middle.folder path = .ok now ∧
      (project path version).on middle = (.ok (), after) ∧
      after.disk.read after.folder path = .ok later ∧
      (later = now ↔ ProjectVersion.HasVersion text ∧ ¬ [markChar, markChar] <+: text) := by
  obtain ⟨new, hstamp, hnew⟩ := h.exists_of_project hrun
  have hhas := (ProjectVersion.carries_of_stamp hversion hstamp).hasVersion
  rcases ProjectVersion.stamp_asRead_cases hversion hstamp with
    ⟨hold, renewed, hrenewed, rfl⟩ | ⟨hnone, hadded⟩
  · have hread := hrenewed.asRead hversion
    obtain ⟨after, hagain, hafter⟩ :=
      hnew.on_project_of_hasVersion hversion hhas (hread.again hversion)
    refine ⟨_, _, after, hnew.read, hagain, hafter.read, ?_⟩
    have hsame : Utf8.encode (asRead (asRead renewed)) = Utf8.encode (asRead renewed) ↔
        asRead (asRead renewed) = asRead renewed := ⟨encode_inj, congrArg Utf8.encode⟩
    rw [hsame, asRead_eq_self_iff, hread.head?_eq, Ne, head?_asRead_iff, and_iff_right hold]
    exact and_iff_left (return_not_mem_withLineFeeds _)
  · obtain ⟨renewed, hrenewed⟩ := ProjectVersion.exists_renews version new
    obtain ⟨after, hagain, hafter⟩ := hnew.on_project_of_hasVersion hversion hhas hrenewed
    refine ⟨_, _, after, hnew.read, hagain, hafter.read, iff_of_false ?_ fun h => hnone h.1⟩
    intro hsame
    -- the carriage return of the added line is gone
    have hreturn := ProjectVersion.return_mem_of_add? hadded
    rw [← encode_inj hsame] at hreturn
    exact return_not_mem_withLineFeeds _ hreturn

/-- The version is found in both elements. -/
theorem project_again_iff_replaced :
    let text :=
      "<Version>1.0.0</Version>\r\n<VersionPrefix>1.0.0</VersionPrefix>\r\n".toList
    let path : Path := ⟨.current, ["App.csproj"]⟩
    HoldsText (oneFile "App.csproj" text) path text ∧
      "2.0".toList.all Moment.isVersionChar = true ∧
      ∃ middle now after, (project path "2.0").on (oneFile "App.csproj" text) = (.ok (), middle) ∧
        middle.disk.read middle.folder path = .ok now ∧
        (project path "2.0").on middle = (.ok (), after) ∧
        after.disk.read after.folder path = .ok now := by
  intro text path
  have hholds : HoldsText (oneFile "App.csproj" text) path text :=
    holdsText_oneFile (by decide +kernel) (by decide +kernel)
  have hdigits : "2.0".toList.all Moment.isVersionChar = true := by decide
  have hhas : ProjectVersion.HasVersion text :=
    ProjectVersion.hasVersion_iff.1 (by decide +kernel)
  obtain ⟨renewed, hrenewed⟩ := ProjectVersion.exists_renews "2.0" text
  obtain ⟨middle, hrun, -⟩ := hholds.on_project_of_hasVersion hdigits hhas hrenewed
  obtain ⟨now, later, after, hnow, hagain, hlater, hiff⟩ := project_again_iff hholds hdigits hrun
  obtain rfl : later = now := hiff.2 ⟨hhas, by decide⟩
  exact ⟨hholds, hdigits, middle, later, after, hrun, hnow, hagain, hlater⟩

/-- The line that is added ends otherwise after the second time. -/
theorem addedLine_changed_again :
    let text := "<Project>\n  <PropertyGroup>\n  </PropertyGroup>\n</Project>\n".toList
    let now := ("<Project>\n  <PropertyGroup>\n    <VersionPrefix>2.0</VersionPrefix>\r\n" ++
      "  </PropertyGroup>\n</Project>\n").toList
    let later := ("<Project>\n  <PropertyGroup>\n    <VersionPrefix>2.0</VersionPrefix>\n" ++
      "  </PropertyGroup>\n</Project>\n").toList
    let path : Path := ⟨.current, ["App.csproj"]⟩
    HoldsText (oneFile "App.csproj" text) path text ∧
      "2.0".toList.all Moment.isVersionChar = true ∧
      ∃ middle after, (project path "2.0").on (oneFile "App.csproj" text) = (.ok (), middle) ∧
        middle.disk.read middle.folder path = .ok (Utf8.encode now) ∧
        (project path "2.0").on middle = (.ok (), after) ∧
        after.disk.read after.folder path = .ok (Utf8.encode later) ∧
        Utf8.encode later ≠ Utf8.encode now := by
  intro text now later path
  have hholds : HoldsText (oneFile "App.csproj" text) path text :=
    holdsText_oneFile (by decide +kernel) (by decide +kernel)
  have hfirst : ProjectVersion.stamp path "2.0" (asRead text) = .ok now := by decide +kernel
  have hsecond : ProjectVersion.stamp path "2.0" (asRead now) = .ok later := by decide +kernel
  obtain ⟨middle, hstore, hmiddle, -⟩ := hholds.on_store now
  obtain ⟨after, hstore', hafter, -⟩ := hmiddle.on_store later
  refine ⟨hholds, by decide, middle, after, ?_, hmiddle.read, ?_, hafter.read, ?_⟩
  · rw [hholds.on_project, hfirst]
    exact hstore
  · rw [hmiddle.on_project, hsecond]
    exact hstore'
  · exact fun hsame => absurd (encode_inj hsame) (by decide +kernel)

end SetupForge.Stamping
