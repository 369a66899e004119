import Mathlib.Data.Prod.Basic
import SetupForge.Proofs.Version.StampedScript
import SetupForge.Proofs.Version.StampedText
import SetupForge.Proofs.Version.Targets

/-! # Whether the listed targets carry the version

A version file and a project carry the version when they are listed. A script is listed if a line
changed, which is less than carrying the version, and a manifest is listed whether it has a place
for the version or not.
-/

namespace SetupForge

/-- Whether the first identity that has a version has this one, in four parts. -/
def IdentityVersion.Carries (version : String) (text : List Char) : Prop :=
  ∃ place : Place, place.IsFirst ∧ place.source = text ∧ place.value = (fourParts version).toList

namespace Stamping

open Job Text

/-- Whether the bytes of a target's file carry a version: as the whole text, in an element, in a
line behind the variable or the directive, or in the identity. -/
def Target.Carries (version : String) (bytes : Bytes) : Target → Prop
  | .versionFile _ => bytes = Utf8.encode version.toList
  | .project _ => ∃ text, bytes = Utf8.encode text ∧ ProjectVersion.Carries version text
  | .script name _ => ScriptVersion.Carries name version (Script.ofBytes bytes).lines
  | .manifest _ => ∃ text, bytes = Utf8.encode text ∧ IdentityVersion.Carries version text

/-- Whether a target is left out or listed wrongly, by the content that its file had: a script that
carries the version already, so that no line changes, and a manifest without a place for the
version. -/
def Target.IsMisreported (version : String) (before? : Option Bytes) : Target → Prop
  | .versionFile _ | .project _ => False
  | .script name _ => ∃ bytes ∈ before?,
      ScriptVersion.Carries name version (Script.ofBytes bytes).lines ∧
        ∀ line ∈ (Script.ofBytes bytes).lines, ScriptVersion.stampLine name version line = line
  | .manifest _ => ∃ text, before? = some (Utf8.encode text) ∧
      ∀ place : IdentityVersion.Place, place.source ≠ text

/-- Whether the variable of a script in Windows-1252 has an ASCII name. Another name may be read as
something else afterwards, if the bytes around it make the script one in UTF-8. -/
def Target.HasPlainName (before? : Option Bytes) : Target → Prop
  | .script name _ => ∀ bytes ∈ before?, (Script.ofBytes bytes).encoding = .windows1252 →
      isAscii name.toList = true
  | _ => True

variable {version : String} {target : Target} {before? : Option Bytes} {listed : Bool}
variable {content : Bytes}

theorem carries_stamp_iff (hversion : version.toList.all Moment.isVersionChar = true)
    (text : List Char) : IdentityVersion.Carries version (IdentityVersion.stamp version text) ↔
      ∃ place : IdentityVersion.Place, place.source = text := by
  have hquote : '"' ∉ (IdentityVersion.fourParts version).toList :=
    Moment.not_mem_of_versionChars (all_fourParts hversion) (by decide)
  rcases IdentityVersion.renews_stamp version text with
    ⟨place, hfirst, hsource, hstamp⟩ | ⟨hnone, hsame⟩
  · exact iff_of_true ⟨place.withValue hquote, hfirst.withValue hquote, hstamp.symm, rfl⟩
      ⟨place, hsource⟩
  · rw [hsame]
    refine iff_of_false ?_ ?_
    · rintro ⟨place, -, hsource, -⟩
      exact hnone place hsource
    · rintro ⟨place, hsource⟩
      exact hnone place hsource

/-- What is told of one target is right unless it is one of those that are misreported. -/
theorem Turns.listed_iff (hversion : version.toList.all Moment.isVersionChar = true)
    (h : Turns version target before? listed content) (hname : target.HasPlainName before?) :
    (listed = true ↔ target.Carries version content) ↔ ¬ target.IsMisreported version before? := by
  cases h with
  | versionFile => exact iff_of_true (iff_of_true rfl rfl) not_false
  | project hstamp =>
      have hcarries := ProjectVersion.carries_of_stamp hversion hstamp
      exact iff_of_true (iff_of_true rfl ⟨_, rfl, hcarries⟩) not_false
  | @changedScript name path bytes hchanged =>
      have hcarries := ScriptVersion.carries_of_changed hversion (hname bytes rfl) hchanged
      refine iff_of_true (iff_of_true rfl hcarries) ?_
      rintro ⟨_, hbytes, -, hsame⟩
      cases hbytes
      exact hchanged (ScriptVersion.stamp_snd_eq_zero_iff.2 hsame)
  | sameScript hsame =>
      have hlines := ScriptVersion.stamp_snd_eq_zero_iff.1 hsame
      rw [Bool.false_eq_true, false_iff]
      refine not_congr ⟨fun hcarries => ⟨content, rfl, hcarries, hlines⟩, ?_⟩
      rintro ⟨_, hbytes, hcarries, -⟩
      cases hbytes
      exact hcarries
  | @manifest path text =>
      have hcarries : (Target.manifest path).Carries version
          (Utf8.encode (IdentityVersion.stamp version (asRead text))) ↔
            ∃ place : IdentityVersion.Place, place.source = text := by
        rw [← IdentityVersion.exists_source_asRead_iff, ← carries_stamp_iff hversion]
        constructor
        · rintro ⟨other, hother, hcarries⟩
          rwa [encode_inj hother]
        · exact fun hcarries => ⟨_, rfl, hcarries⟩
      have hmisreported : (Target.manifest path).IsMisreported version
          (some (Utf8.encode text)) ↔ ∀ place : IdentityVersion.Place, place.source ≠ text := by
        constructor
        · rintro ⟨other, hother, hnone⟩
          rwa [encode_inj (Option.some.inj hother)]
        · exact fun hnone => ⟨text, rfl, hnone⟩
      rw [hcarries, hmisreported, not_forall]
      simp

/-- A target with a file of its own is listed exactly if it carries the version afterwards, but for
those that are misreported, for which this never holds. Which these are is told from what the file
held before. -/
theorem listed_iff_carries_iff {targets : Targets} {given : Option String} {host after : Host}
    {report : Report} (hrun : (all targets given).on host = (.ok report, after))
    (hversion : ∀ version ∈ given, version.toList.all Moment.isVersionChar = true)
    (htarget : target ∈ targets.given)
    (halone : ∀ other ∈ targets.given, other ≠ target →
      other.path.location host.folder ≠ target.path.location host.folder)
    (hname : target.HasPlainName (host.disk.content? (target.path.location host.folder))) :
    (target.path ∈ report.stamped ↔
        ∃ bytes, after.disk.content? (target.path.location host.folder) = some bytes ∧
          target.Carries report.version bytes) ↔
      ¬ target.IsMisreported report.version
        (host.disk.content? (target.path.location host.folder)) := by
  rw [all_eq] at hrun
  obtain ⟨version, middle, hversionOr, hrest⟩ := exists_of_on_bind hrun
  obtain ⟨rfl, hdigits⟩ := all_of_on_versionOr hversionOr hversion (Moment.all_version _)
  obtain ⟨_, noted, hnote, hrest⟩ := exists_of_on_bind hrest
  cases hnote
  obtain ⟨stamped, last, heach, hgives⟩ := exists_of_on_bind hrest
  cases hgives
  obtain ⟨front, back, hsplit⟩ := List.append_of_mem htarget
  have hnodup := nodup_given targets
  rw [hsplit, List.nodup_middle, List.nodup_cons] at hnodup
  rw [hsplit] at heach halone
  have hothers : ∀ other ∈ front ++ back,
      other.path.location middle.folder ≠ target.path.location middle.folder := by
    intro other hother
    refine halone other ?_ (ne_of_mem_of_not_mem hother hnodup.1)
    rw [List.mem_append] at hother ⊢
    exact hother.imp_right (List.mem_cons_of_mem _)
  obtain ⟨listed, content, hturns, hcontent, hlisted⟩ := exists_turn heach hothers
  have hcarries : (∃ bytes, after.disk.content? (target.path.location middle.folder) = some bytes ∧
      target.Carries version bytes) ↔ target.Carries version content := by
    rw [hcontent]
    simp
  rw [hcarries, hlisted]
  exact hturns.listed_iff hdigits hname

/-- A script and a version file: the line of the script changes. -/
theorem listed_iff_carries_iff_twoFiles :
    let script : Path := ⟨.current, ["setup.iss"]⟩
    let versionFile : Path := ⟨.current, ["version.txt"]⟩
    let targets : Targets := { script := some script, versionFile := some versionFile }
    let host := oneFile "setup.iss" "AppVersion=1.0".toList
    ∃ after, (all targets (some "2.0")).on host = (.ok ⟨"2.0", [versionFile, script]⟩, after) ∧
      ∃ bytes, after.disk.content? ["setup.iss"] = some bytes ∧
        (Target.script "" script).Carries "2.0" bytes := by
  intro script versionFile targets host
  have hreport : ((all targets (some "2.0")).on host).1 =
      .ok ⟨"2.0", [versionFile, script]⟩ := by decide +kernel
  have hcontent : host.disk.content? ["setup.iss"] =
      some (Utf8.encode "AppVersion=1.0".toList) := by decide +kernel
  have hfine : ¬ (Target.script "" script).IsMisreported "2.0"
      (host.disk.content? ["setup.iss"]) := by
    rw [hcontent]
    rintro ⟨bytes, hbytes, -, hsame⟩
    rw [Option.mem_def, Option.some.injEq] at hbytes
    subst hbytes
    exact absurd hsame (by decide +kernel)
  have hversion : ∀ version ∈ some "2.0", version.toList.all Moment.isVersionChar = true := by
    simp only [Option.mem_some_iff, forall_eq']
    decide
  have hmem : Target.script "" script ∈ targets.given := by decide +kernel
  have halone : ∀ other ∈ targets.given, other ≠ Target.script "" script →
      other.path.location host.folder ≠ ["setup.iss"] := by decide +kernel
  have hrun := Prod.fst_eq_iff.1 hreport
  have hiff := listed_iff_carries_iff hrun hversion hmem halone fun _ _ _ => rfl
  exact ⟨_, hrun, (hiff.2 hfine).1 (List.mem_cons_of_mem _ List.mem_cons_self)⟩

/-- A manifest without an identity is listed, and a script that has the version is not. -/
theorem manifest_listed_script_left_out :
    let manifest : Path := ⟨.current, ["app.appxmanifest"]⟩
    let script : Path := ⟨.current, ["setup.iss"]⟩
    (∃ after, (all { manifest := some manifest } (some "2.0")).on
        (oneFile "app.appxmanifest" "<Package />".toList) = (.ok ⟨"2.0", [manifest]⟩, after) ∧
      ¬ ∃ bytes, after.disk.content? ["app.appxmanifest"] = some bytes ∧
        (Target.manifest manifest).Carries "2.0" bytes) ∧
    ∃ after, (all { script := some script } (some "2.0")).on
        (oneFile "setup.iss" "AppVersion=\"2.0\"".toList) = (.ok ⟨"2.0", []⟩, after) ∧
      ∃ bytes, after.disk.content? ["setup.iss"] = some bytes ∧
        (Target.script "" script).Carries "2.0" bytes := by
  intro manifest script
  constructor
  · have hreport : ((all { manifest := some manifest } (some "2.0")).on
        (oneFile "app.appxmanifest" "<Package />".toList)).1 = .ok ⟨"2.0", [manifest]⟩ := by
      decide +kernel
    have hcontent : ((all { manifest := some manifest } (some "2.0")).on
        (oneFile "app.appxmanifest" "<Package />".toList)).2.disk.content? ["app.appxmanifest"] =
          some (Utf8.encode "<Package />".toList) := by decide +kernel
    refine ⟨_, Prod.fst_eq_iff.1 hreport, ?_⟩
    rw [hcontent]
    rintro ⟨bytes, hbytes, text, htext, place, -, hsource, -⟩
    have hsame : place.source = "<Package />".toList :=
      hsource.trans (encode_inj ((Option.some.inj hbytes).trans htext)).symm
    have hopening : ¬ IdentityVersion.opening <:+: "<Package />".toList := by decide +kernel
    rw [← hsame] at hopening
    refine hopening ⟨place.before, place.skipped ++ (place.name ++ '"' :: (place.value ++
      '"' :: place.after)), ?_⟩
    simp [IdentityVersion.Place.source, IdentityVersion.Place.textWith,
      IdentityVersion.Place.tagWith]
  · have hreport : ((all { script := some script } (some "2.0")).on
        (oneFile "setup.iss" "AppVersion=\"2.0\"".toList)).1 = .ok ⟨"2.0", []⟩ := by
      decide +kernel
    have hcontent : ((all { script := some script } (some "2.0")).on
        (oneFile "setup.iss" "AppVersion=\"2.0\"".toList)).2.disk.content? ["setup.iss"] =
          some (Utf8.encode "AppVersion=\"2.0\"".toList) := by decide +kernel
    refine ⟨_, Prod.fst_eq_iff.1 hreport, ?_⟩
    rw [hcontent]
    have hline : "AppVersion=\"2.0\"" ∈
        (Script.ofBytes (Utf8.encode "AppVersion=\"2.0\"".toList)).lines := by decide +kernel
    have hhead : ScriptVersion.IsHead [] ("AppVersion".toList ++ ([] ++ ['='])) :=
      .directive (List.forall₂_same.2 fun c _ => sameLetter_self c) (by simp [AllBlank])
    exact ⟨_, rfl, _, hline, _, [], hhead, by simp [AllBlank], by decide⟩

end Stamping

end SetupForge
