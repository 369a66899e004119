import SetupForge.Proofs.Disk.Contents
import SetupForge.Proofs.Version.IdentityPlaces
import SetupForge.Proofs.Version.ProjectText

/-! # What stamping a text file leaves alone

A project and the manifest of an application package get another version in their elements and in
the attribute of their identity. What is written is this text as it would be read, without the mark
in front and with a line feed for each line end. So all else in the file stays exactly if there is
no mark and no carriage return.
-/

namespace SetupForge.Stamping

open Job Text

structure HoldsText (host : Host) (path : Path) (text : List Char) : Prop where
  isTree : host.disk.IsTree
  isUsable : path.isUsable = true
  read : host.disk.read host.folder path = .ok (Utf8.encode text)

/-- Whether a job writes a text to a file as it would be read, and changes no other file. The text
itself is written exactly if it is read as it stands. -/
def WritesAsRead (job : Job Unit) (host : Host) (path : Path) (text : List Char) : Prop :=
  let place := path.location host.folder
  ∃ after, job.on host = (.ok (), after) ∧
    after.disk.content? =
      Function.update host.disk.content? place (some (Utf8.encode (asRead text))) ∧
    (after.disk.content? place = some (Utf8.encode text) ↔
      text.head? ≠ some markChar ∧ '\r' ∉ text)

variable {host : Host} {path : Path} {text renewed : List Char} {version : String}

theorem encode_inj {text other : List Char} (h : Utf8.encode text = Utf8.encode other) :
    text = other := by
  have hdecode := congrArg Utf8.decode? h
  rwa [Utf8.decode?_encode, Utf8.decode?_encode, Option.some.injEq] at hdecode

theorem HoldsText.on_store (h : HoldsText host path text) (new : List Char) :
    ∃ after, (store path (Utf8.encode new)).on host = (.ok (), after) ∧
      HoldsText after path new ∧ after.folder = host.folder ∧
      after.disk.content? = Function.update host.disk.content? (path.location host.folder)
        (some (Utf8.encode new)) := by
  obtain ⟨disk, hwrite⟩ := Disk.exists_write_of_read h.isTree h.read (Utf8.encode new)
  refine ⟨host.withDisk disk, ?_, ⟨Disk.isTree_of_write h.isTree hwrite, h.isUsable,
    Disk.read_write hwrite h.isTree⟩, rfl, (Disk.write_spec hwrite).1⟩
  rw [on_store_eq, if_pos h.isUsable, hwrite]

theorem HoldsText.on_readFileText (h : HoldsText host path text) :
    (readFileText path).on host = (.ok (asRead text), host) := by
  rw [readFileText, on_bind, on_hasPath_of_read h.isUsable h.read]
  exact on_readText h.isUsable h.read

theorem HoldsText.on_project (h : HoldsText host path text) (version : String) :
    (project path version).on host =
      match ProjectVersion.stamp path version (asRead text) with
      | .ok new => (store path (Utf8.encode new)).on host
      | .error failure => (.error failure, host) := by
  rw [project, on_bind, h.on_readFileText]
  dsimp only
  cases ProjectVersion.stamp path version (asRead text) <;> rfl

theorem HoldsText.on_manifest (h : HoldsText host path text) (version : String) :
    (manifest path version).on host =
      (store path (Utf8.encode (IdentityVersion.stamp version (asRead text)))).on host := by
  rw [manifest, on_bind, h.on_readFileText]

theorem HoldsText.writesAsRead (h : HoldsText host path text) {job : Job Unit}
    (hjob : job.on host = (store path (Utf8.encode (asRead renewed))).on host) :
    WritesAsRead job host path renewed := by
  obtain ⟨after, hstore, -, -, hcontent⟩ := h.on_store (asRead renewed)
  refine ⟨after, hjob.trans hstore, hcontent, ?_⟩
  rw [hcontent, Function.update_self, Option.some.injEq, ← asRead_eq_self_iff]
  exact ⟨encode_inj, congrArg Utf8.encode⟩

theorem all_fourParts (hversion : version.toList.all Moment.isVersionChar = true) :
    (IdentityVersion.fourParts version).toList.all Moment.isVersionChar = true := by
  have hlast : ".0".toList.all Moment.isVersionChar = true := by decide
  rw [IdentityVersion.fourParts, String.toList_append, List.all_append, hversion, hlast,
    Bool.and_self]

/-! ## The rest of the file -/

def oneFile (name : String) (text : List Char) : Host where
  disk := ⟨[([name], .file (Utf8.encode text))]⟩

theorem holdsText_oneFile {name : String} (husable : (⟨.current, [name]⟩ : Path).isUsable = true)
    (hread : (oneFile name text).disk.read [] ⟨.current, [name]⟩ = .ok (Utf8.encode text)) :
    HoldsText (oneFile name text) ⟨.current, [name]⟩ text where
  isTree := Disk.isTree_of_nodes fun entry hentry => by
    rw [List.mem_singleton.1 hentry]
    rfl
  isUsable := husable
  read := hread

/-- A project with an element for the version and a manifest are written with the version renewed
as they are read, which changes nothing else exactly if there is neither a mark in front nor a
carriage return outside of the replaced values. -/
theorem stamping_spares_rest_iff (h : HoldsText host path text)
    (hversion : version.toList.all Moment.isVersionChar = true) :
    (ProjectVersion.HasVersion text → ∃ renewed, ProjectVersion.Renews version text renewed ∧
      WritesAsRead (project path version) host path renewed) ∧
    ∃ renewed, IdentityVersion.Renews version text renewed ∧
      WritesAsRead (manifest path version) host path renewed := by
  constructor
  · intro hhas
    obtain ⟨renewed, hrenewed⟩ := ProjectVersion.exists_renews version text
    refine ⟨renewed, hrenewed, h.writesAsRead ?_⟩
    rw [h.on_project, ProjectVersion.stamp_asRead hversion hhas hrenewed]
  · have hrenewed := IdentityVersion.renews_stamp version text
    have hreturn := Moment.not_mem_of_versionChars (c := '\r') (all_fourParts hversion) (by decide)
    refine ⟨_, hrenewed, h.writesAsRead ?_⟩
    rw [h.on_manifest, (hrenewed.asRead hreturn).stamp_eq]

/-- With line feeds and no mark everything else stays. -/
theorem stamping_spares_rest_iff_lineFeeds :
    let text := "<Project>\n  <Version>1.0.0</Version>\n</Project>\n".toList
    let path : Path := ⟨.current, ["App.csproj"]⟩
    HoldsText (oneFile "App.csproj" text) path text ∧
      "2.0".toList.all Moment.isVersionChar = true ∧ ProjectVersion.HasVersion text ∧
      ∃ renewed after, ProjectVersion.Renews "2.0" text renewed ∧
        (project path "2.0").on (oneFile "App.csproj" text) = (.ok (), after) ∧
        after.disk.content? ["App.csproj"] = some (Utf8.encode renewed) := by
  intro text path
  have hholds : HoldsText (oneFile "App.csproj" text) path text :=
    holdsText_oneFile (by decide +kernel) (by decide +kernel)
  have hdigits : "2.0".toList.all Moment.isVersionChar = true := by decide
  have hhas : ProjectVersion.HasVersion text :=
    ProjectVersion.hasVersion_iff.1 (by decide +kernel)
  obtain ⟨renewed, hrenewed, after, hrun, -, hiff⟩ :=
    (stamping_spares_rest_iff hholds hdigits).1 hhas
  have hreplaced : ProjectVersion.replaceAll "2.0" text =
      .ok "<Project>\n  <Version>2.0</Version>\n</Project>\n".toList := by decide +kernel
  have hsame := Except.ok.inj
    ((ProjectVersion.replaceAll_eq hdigits hrenewed).symm.trans hreplaced)
  refine ⟨hholds, hdigits, hhas, renewed, after, hrenewed, hrun, hiff.2 ?_⟩
  rw [hsame]
  decide

/-- A project with carriage returns loses them. -/
theorem carriageReturns_lost :
    let text := "<Project>\r\n  <Version>1.0.0</Version>\r\n</Project>\r\n".toList
    let path : Path := ⟨.current, ["App.csproj"]⟩
    HoldsText (oneFile "App.csproj" text) path text ∧
      "2.0".toList.all Moment.isVersionChar = true ∧ ProjectVersion.HasVersion text ∧
      ∃ after, (project path "2.0").on (oneFile "App.csproj" text) = (.ok (), after) ∧
        after.disk.content? ["App.csproj"] =
          some (Utf8.encode "<Project>\n  <Version>2.0</Version>\n</Project>\n".toList) ∧
        ∀ renewed, ProjectVersion.Renews "2.0" text renewed →
          after.disk.content? ["App.csproj"] ≠ some (Utf8.encode renewed) := by
  intro text path
  have hholds : HoldsText (oneFile "App.csproj" text) path text :=
    holdsText_oneFile (by decide +kernel) (by decide +kernel)
  have hdigits : "2.0".toList.all Moment.isVersionChar = true := by decide
  have hhas : ProjectVersion.HasVersion text :=
    ProjectVersion.hasVersion_iff.1 (by decide +kernel)
  have hstamp : ProjectVersion.stamp path "2.0" (asRead text) =
      .ok "<Project>\n  <Version>2.0</Version>\n</Project>\n".toList := by decide +kernel
  have hreplaced : ProjectVersion.replaceAll "2.0" text =
      .ok "<Project>\r\n  <Version>2.0</Version>\r\n</Project>\r\n".toList := by decide +kernel
  obtain ⟨after, hstore, -, -, hcontent⟩ :=
    hholds.on_store "<Project>\n  <Version>2.0</Version>\n</Project>\n".toList
  have hnow : after.disk.content? ["App.csproj"] =
      some (Utf8.encode "<Project>\n  <Version>2.0</Version>\n</Project>\n".toList) := by
    rw [hcontent]
    exact Function.update_self _ _ _
  refine ⟨hholds, hdigits, hhas, after, ?_, hnow, fun renewed hrenewed hsame => ?_⟩
  · rw [hholds.on_project, hstamp]
    exact hstore
  · have heq := encode_inj (Option.some.inj (hnow.symm.trans hsame))
    rw [← heq] at hrenewed
    have hother := (ProjectVersion.replaceAll_eq hdigits hrenewed).symm.trans hreplaced
    exact absurd (Except.ok.inj hother) (by decide)

end SetupForge.Stamping
