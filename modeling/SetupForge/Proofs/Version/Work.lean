import SetupForge.Proofs.Host.Works
import SetupForge.Version.Stamp

/-! # What stamping does

A version from the clock is digits and dots, so that it stands for itself where it replaces another
one. Stamping a project then fails for want of a group of properties only, or because its file is
not UTF-8.
-/

namespace SetupForge

open Job

namespace Moment

def isVersionChar (c : Char) : Bool := c.isDigit || c == '.'

theorem all_digits (n : Nat) : (Nat.toDigits 10 n).all isVersionChar = true := by
  rw [List.all_eq_true]
  intro c hc
  simp [isVersionChar, Nat.isDigit_of_mem_toDigits (by decide) (by decide) hc]

theorem all_padded (width number : Nat) :
    (Text.padded width number).toList.all isVersionChar = true := by
  rw [Text.padded, String.toList_ofList, List.all_append, all_digits, Bool.and_true,
    List.all_eq_true]
  intro c hc
  rw [List.eq_of_mem_replicate hc]
  decide

theorem all_toString (n : Nat) : (toString n).toList.all isVersionChar = true := by
  have hrepr : (toString n).toList = Nat.toDigits 10 n := Nat.toList_repr
  rw [hrepr, all_digits]

theorem all_version (moment : Moment) : moment.version.toList.all isVersionChar = true := by
  have hdot : ".".toList.all isVersionChar = true := by decide
  simp only [version, String.toList_append, List.all_append, all_padded, all_toString, hdot,
    Bool.and_self]

theorem backslash_not_mem_version (moment : Moment) : '\\' ∉ moment.version.toList := by
  intro h
  exact absurd (List.all_eq_true.1 moment.all_version _ h) (by decide)

end Moment

namespace ProjectVersion

variable {version : String} {text : List Char} {path : Path} {failure : Failure}

theorem replace_of_not_mem {tags : Element.Tags}
    (h : '\\' ∉ tags.opening ++ version.toList ++ tags.closing) (text : List Char) :
    ∃ replaced, replace tags version text = .ok replaced :=
  ⟨_, by rw [replace, Replacement.read_of_not_mem h]; rfl⟩

theorem foldlM_replace_of_not_mem {all : List Element.Tags}
    (h : ∀ tags ∈ all, '\\' ∉ tags.opening ++ version.toList ++ tags.closing) (text : List Char) :
    ∃ replaced, all.foldlM (fun text tags => replace tags version text) text = .ok replaced := by
  induction all generalizing text with
  | nil => exact ⟨text, rfl⟩
  | cons tags rest ih =>
      obtain ⟨first, hfirst⟩ := replace_of_not_mem (h tags (by simp)) text
      obtain ⟨replaced, hrest⟩ := ih (fun other hmem => h other (by simp [hmem])) first
      exact ⟨replaced, by rw [List.foldlM_cons, hfirst]; exact hrest⟩

theorem replaceAll_of_not_mem (h : '\\' ∉ version.toList) (text : List Char) :
    ∃ replaced, replaceAll version text = .ok replaced := by
  have htags : ∀ tags ∈ versionTags, '\\' ∉ tags.opening ∧ '\\' ∉ tags.closing := by
    decide
  refine foldlM_replace_of_not_mem (fun tags hmem => ?_) text
  simp [h, htags tags hmem]

/-- A version that stands for itself can only lack a place in the project. -/
theorem eq_of_stamp_error (h : '\\' ∉ version.toList)
    (hstamp : stamp path version text = .error failure) :
    failure = .settings (.noPropertyGroup path) := by
  unfold stamp at hstamp
  split at hstamp
  · obtain ⟨replaced, hreplaced⟩ := replaceAll_of_not_mem h text
    rw [hreplaced] at hstamp
    cases hstamp
  · split at hstamp
    · cases hstamp
    · rw [Except.error.injEq] at hstamp
      exact hstamp.symm

end ProjectVersion

namespace Stamping

variable {limits : Limits} {path : Path} {version : String}

theorem works_readFileText (h : limits.fails .notUtf8) (path : Path) :
    Works limits (readFileText path) fun _ => True := by
  refine (works_hasPath path).bind fun found _ => ?_
  split
  · exact works_readText h path
  · exact works_reject _

theorem works_project (h : limits.fails .notUtf8) (hversion : '\\' ∉ version.toList)
    (htouched : limits.touched (path.location limits.origin.folder)) :
    Works limits (project path version) fun _ => True := by
  refine (works_readFileText h path).bind fun text _ => ?_
  split
  · exact works_store htouched _
  · rename_i failure hfailure
    rw [ProjectVersion.eq_of_stamp_error hversion hfailure]
    exact works_fail_ordinary _ (by simp)

theorem works_manifest (h : limits.fails .notUtf8) (version : String)
    (htouched : limits.touched (path.location limits.origin.folder)) :
    Works limits (manifest path version) fun _ => True :=
  (works_readFileText h path).bind fun _ _ => works_store htouched _

theorem works_script (version name : String)
    (htouched : limits.touched (path.location limits.origin.folder)) :
    Works limits (script path version name) fun _ => True := by
  refine (works_hasPath path).bind fun found _ => ?_
  split
  · refine (works_load path).bind fun bytes _ => ?_
    dsimp only
    split
    · exact (works_store htouched _).bind fun _ _ => works_pure _ trivial
    · exact works_pure _ trivial
  · exact works_reject _

theorem works_onTarget {path? : Option Path} {stamp : Path → Job Bool}
    (h : ∀ path, path? = some path → Works limits (stamp path) fun _ => True) :
    Works limits (onTarget path? stamp) fun _ => True := by
  cases path? with
  | none => exact works_pure _ trivial
  | some path => exact (h path rfl).bind fun _ _ => works_pure _ trivial

theorem works_versionOr_none : Works limits (versionOr none) fun version =>
    version = limits.origin.clock.version :=
  works_get.bind fun host hhost => works_pure _ (by rw [hhost.2])

theorem works_all (h : limits.fails .notUtf8) (htouched : ∀ location, limits.touched location)
    (targets : Targets) : Works limits (all targets none) fun _ => True := by
  unfold all
  refine works_versionOr_none.bind fun version hversion => (works_note _).bind fun _ _ => ?_
  have hplain : '\\' ∉ version.toList := by
    rw [hversion]
    exact limits.origin.clock.backslash_not_mem_version
  refine (works_onTarget fun path _ => ?_).bind fun _ _ =>
    (works_onTarget fun path _ => ?_).bind fun _ _ =>
      (works_onTarget fun path _ => ?_).bind fun _ _ =>
        (works_onTarget fun path _ => ?_).bind fun _ _ => works_pure _ trivial
  · exact (works_store (htouched _) _).bind fun _ _ => works_pure _ trivial
  · exact (works_note _).bind fun _ _ => (works_project h hplain (htouched _)).bind fun _ _ =>
      works_pure _ trivial
  · refine (works_note _).bind fun _ _ =>
      (works_script version targets.variableName (htouched _)).bind fun changed _ => ?_
    split
    · exact (works_note _).bind fun _ _ => works_pure _ trivial
    · exact works_pure _ trivial
  · exact (works_note _).bind fun _ _ => (works_manifest h version (htouched _)).bind fun _ _ =>
      works_pure _ trivial

end Stamping

end SetupForge
