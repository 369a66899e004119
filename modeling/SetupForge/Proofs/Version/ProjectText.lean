import SetupForge.Proofs.Version.Elements
import SetupForge.Proofs.Version.Work

/-! # The text of a project with another version

Elements of two names take the version, those of the second name after those of the first. Doing so
again changes nothing: elements of the first name that the second round leaves have the version
already. Without any such element a line with one is added, and this line ends with a carriage
return.
-/

namespace SetupForge

theorem Moment.not_mem_of_versionChars {version : List Char} {c : Char}
    (h : version.all isVersionChar = true) (hc : isVersionChar c = false) : c ∉ version := by
  intro hmem
  rw [List.all_eq_true.1 h c hmem] at hc
  cases hc

namespace ProjectVersion

open Element Text

def HasVersion (text : List Char) : Prop := ∃ tags ∈ versionTags, HasElement tags text

/-- How a text becomes one with another version, in the elements of one name after the other. -/
def Renews (version : String) (text after : List Char) : Prop :=
  ∃ middle, Element.Renews (tags "Version") version.toList text middle ∧
    Element.Renews (tags addedName) version.toList middle after

def Carries (version : String) (text : List Char) : Prop :=
  ∃ tags ∈ versionTags, whole tags version.toList <:+: text

variable {version : String} {text after added : List Char} {path : Path}

theorem proper_version : (tags "Version").Proper :=
  ⟨⟨"Version".toList, by decide⟩, ⟨"/Version".toList, by decide⟩, by decide⟩

theorem proper_added : (tags addedName).Proper :=
  ⟨⟨addedName.toList, by decide⟩, ⟨'/' :: addedName.toList, by decide⟩, by decide⟩

theorem versionTags_eq : versionTags = [tags "Version", tags addedName] := rfl

theorem proper_of_mem : ∀ tags ∈ versionTags, tags.Proper := by
  simp only [versionTags_eq, List.forall_mem_cons]
  exact ⟨proper_version, proper_added, fun _ h => nomatch h⟩

theorem exists_renews (version : String) (text : List Char) :
    ∃ after, Renews version text after := by
  obtain ⟨middle, hmiddle⟩ := Element.exists_renews proper_version version.toList text
  obtain ⟨after, hafter⟩ := Element.exists_renews proper_added version.toList middle
  exact ⟨after, middle, hmiddle, hafter⟩

theorem hasVersion_iff : hasVersion text = true ↔ HasVersion text := by
  rw [hasVersion, List.any_eq_true, HasVersion]
  exact exists_congr fun tags => and_congr_right fun hmem => occurs_iff (proper_of_mem tags hmem)

theorem hasVersion_asRead_iff : HasVersion (asRead text) ↔ HasVersion text :=
  exists_congr fun tags => and_congr_right fun hmem =>
    hasElement_asRead_iff (proper_of_mem tags hmem)

theorem Carries.hasVersion (h : Carries version text) : HasVersion text := by
  obtain ⟨tags, hmem, hwithin⟩ := h
  exact ⟨tags, hmem, hasElement_of_whole hwithin⟩

theorem Renews.head?_eq (h : Renews version text after) : after.head? = text.head? := by
  obtain ⟨middle, hmiddle, hafter⟩ := h
  rw [hafter.head?_eq proper_added, hmiddle.head?_eq proper_version]

/-- An element of the first name can only get lost in one of the second. -/
theorem Renews.carries (h : Renews version text after) (hversion : HasVersion text) :
    Carries version after := by
  obtain ⟨middle, hmiddle, hafter⟩ := h
  by_cases hsecond : HasElement (tags addedName) middle
  · exact ⟨_, by simp [versionTags_eq], hafter.contains_whole proper_added hsecond⟩
  · rw [hafter.eq_self hsecond]
    by_cases hfirst : HasElement (tags "Version") text
    · exact ⟨_, by simp [versionTags_eq], hmiddle.contains_whole proper_version hfirst⟩
    · rw [hmiddle.eq_self hfirst] at hsecond
      obtain ⟨tags, hmem, helement⟩ := hversion
      simp only [versionTags_eq, List.mem_cons, List.not_mem_nil, or_false] at hmem
      rcases hmem with rfl | rfl
      · exact absurd helement hfirst
      · exact absurd helement hsecond

section Digits

variable (hversion : version.toList.all Moment.isVersionChar = true)
include hversion

theorem Renews.asRead (h : Renews version text after) :
    Renews version (asRead text) (asRead after) := by
  have hreturn := Moment.not_mem_of_versionChars (c := '\r') hversion (by decide)
  obtain ⟨middle, hmiddle, hafter⟩ := h
  exact ⟨_, hmiddle.asRead proper_version hreturn, hafter.asRead proper_added hreturn⟩

theorem Renews.again (h : Renews version text after) : Renews version after after := by
  have hbracket := Moment.not_mem_of_versionChars (c := '<') hversion (by decide)
  obtain ⟨middle, hmiddle, hafter⟩ := h
  have hfirst : Settled (tags "Version") version.toList after :=
    (hmiddle.settled proper_version hbracket).of_renews proper_version proper_added (by decide)
      (by decide) hbracket hafter
  exact ⟨after, hfirst.renews proper_version hbracket,
    (hafter.settled proper_added hbracket).renews proper_added hbracket⟩

theorem replace_eq {tags : Tags} (hproper : tags.Proper)
    (hslash : '\\' ∉ tags.opening ++ tags.closing)
    (h : Element.Renews tags version.toList text after) :
    replace tags version text = .ok after := by
  have hplain : '\\' ∉ tags.opening ++ version.toList ++ tags.closing := by
    have hinside := Moment.not_mem_of_versionChars (c := '\\') hversion (by decide)
    simp only [List.mem_append, not_or] at hslash ⊢
    exact ⟨⟨hslash.1, hinside⟩, hslash.2⟩
  rw [replace, Replacement.read_of_not_mem hplain]
  exact congrArg Except.ok
    (h.replaceAll_eq hproper fun _ => Replacement.fill_map_character _ _)

theorem replaceAll_eq (h : Renews version text after) : replaceAll version text = .ok after := by
  obtain ⟨middle, hmiddle, hafter⟩ := h
  have hfirst := replace_eq hversion proper_version (by decide) hmiddle
  have hsecond := replace_eq hversion proper_added (by decide) hafter
  rw [replaceAll, versionTags_eq, List.foldlM_cons, hfirst]
  exact (bind_pure (replace (tags addedName) version middle)).trans hsecond

theorem stamp_asRead (hhas : HasVersion text) (h : Renews version text after) :
    stamp path version (Text.asRead text) = .ok (Text.asRead after) := by
  rw [stamp, if_pos (hasVersion_iff.2 (hasVersion_asRead_iff.2 hhas)),
    replaceAll_eq hversion (h.asRead hversion)]

end Digits

/-! ## The added line -/

theorem addedLine_eq (version : String) :
    addedLine version = [' ', ' '] ++ whole (tags addedName) version.toList ++
      ['\r', '\n', ' ', ' '] := by
  simp [addedLine, whole, tags, toString]

theorem infix_of_add? (h : add? version text = some added) : addedLine version <:+: added := by
  induction text generalizing added with
  | nil => cases h
  | cons c text ih =>
      rw [add?] at h
      split at h
      · rename_i added' hadded
        cases h
        unfold addToGroup? at hadded
        split at hadded
        · cases hadded
        · rename_i tag htag
          obtain ⟨⟨inner, behind⟩, -, rfl⟩ := Option.map_eq_some_iff.1 hadded
          exact ⟨tag ++ inner, groupClosing ++ behind, by simp⟩
      · obtain ⟨rest, hrest, rfl⟩ := Option.map_eq_some_iff.1 h
        exact List.infix_cons (ih hrest)

theorem carries_of_add? (h : add? version text = some added) : Carries version added := by
  refine ⟨tags addedName, by simp [versionTags_eq], ?_⟩
  refine List.IsInfix.trans ?_ (infix_of_add? h)
  rw [addedLine_eq]
  exact ⟨_, _, rfl⟩

/-- The added line ends with a carriage return and a line feed, whatever the other lines end
with. -/
theorem return_mem_of_add? (h : add? version text = some added) : '\r' ∈ added := by
  refine (infix_of_add? h).subset ?_
  rw [addedLine_eq]
  simp

/-- The two ways in which a file is stamped. -/
theorem stamp_asRead_cases (hversion : version.toList.all Moment.isVersionChar = true)
    (h : stamp path version (Text.asRead text) = .ok after) :
    (HasVersion text ∧ ∃ renewed, Renews version text renewed ∧ after = Text.asRead renewed) ∨
      (¬ HasVersion text ∧ add? version (Text.asRead text) = some after) := by
  by_cases hhas : HasVersion text
  · obtain ⟨renewed, hrenewed⟩ := exists_renews version text
    rw [stamp_asRead hversion hhas hrenewed] at h
    exact Or.inl ⟨hhas, renewed, hrenewed, (Except.ok.inj h).symm⟩
  · have hnone : ¬ hasVersion (Text.asRead text) = true := by
      rwa [hasVersion_iff, hasVersion_asRead_iff]
    rw [stamp, if_neg hnone] at h
    split at h
    · rename_i added hadded
      exact Or.inr ⟨hhas, hadded.trans (congrArg some (Except.ok.inj h))⟩
    · cases h

theorem carries_of_stamp (hversion : version.toList.all Moment.isVersionChar = true)
    (h : stamp path version (Text.asRead text) = .ok after) : Carries version after := by
  rcases stamp_asRead_cases hversion h with ⟨hhas, renewed, hrenewed, rfl⟩ | ⟨-, hadded⟩
  · exact (hrenewed.asRead hversion).carries (hasVersion_asRead_iff.2 hhas)
  · exact carries_of_add? hadded

end ProjectVersion

end SetupForge
