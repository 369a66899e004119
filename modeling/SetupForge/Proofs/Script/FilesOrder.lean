import SetupForge.Proofs.Script.FilesBody

/-! # The order of the entries

A folder gives its files in any order. The entries follow the lowercase letters of the names, so
where these differ there is one body that lists the files, whatever order they come in.
-/

namespace SetupForge

open Text

theorem FileEntry.of?_injective {family name other entry : String}
    (h : of? family name = some entry) (h' : of? family other = some entry) : name = other := by
  have hcases : ∀ name, of? family name = some entry →
      entry = payload name ∨ entry = application name := by
    intro name h
    unfold of? at h
    split at h
    · exact Or.inl (Option.some.inj h).symm
    · split at h
      · exact Or.inr (Option.some.inj h).symm
      · simp at h
  rcases hcases name h with hname | hname <;> rcases hcases other h' with hother | hother
  · exact line_injective _ _ (hname.symm.trans hother)
  · exact absurd (hother.symm.trans hname) (application_ne_payload _ _)
  · exact absurd (hname.symm.trans hother) (application_ne_payload _ _)
  · exact line_injective _ _ (hname.symm.trans hother)

namespace FilesSection

variable {family : String} {names other body body' : List String}

/-- Whether lines are the entries of some files, in ascending order of their lowercase names. -/
def Lists (family : String) (names body : List String) : Prop :=
  ∃ listed : List String, listed.Perm names ∧
    listed.Pairwise (fun a b => lower a < lower b) ∧
    body = listed.filterMap (FileEntry.of? family)

@[simp] theorem entries_nil (family : String) : entries family [] = [] := by
  simp [entries, sorted]

theorem pairwise_sorted (names : List String) :
    (sorted names).Pairwise fun a b => ¬ lower b < lower a := by
  have hsorted : (sorted names).Pairwise
      fun a b => (!decide (lower b < lower a)) = true := by
    refine List.pairwise_mergeSort ?_ ?_ names
    · intro a b c hab hbc
      simp only [Bool.not_eq_true', decide_eq_false_iff_not, String.not_lt] at hab hbc ⊢
      exact String.le_trans hab hbc
    · intro a b
      simp only [Bool.or_eq_true, Bool.not_eq_true', decide_eq_false_iff_not, String.not_lt]
      exact String.le_total _ _
  exact hsorted.imp fun h => by simpa using h

theorem lists_entries (hapart : (names.map lower).Nodup) :
    Lists family names (entries family names) := by
  refine ⟨sorted names, sorted_perm names, ?_, rfl⟩
  have hnodup : ((sorted names).map lower).Nodup :=
    ((sorted_perm names).map lower).nodup_iff.2 hapart
  refine (List.pairwise_map.1 hnodup).imp₂ (fun a b hne hle => ?_) (pairwise_sorted names)
  by_contra hlt
  exact hne (String.le_antisymm (String.not_lt.1 hle) (String.not_lt.1 hlt))

namespace Lists

theorem unique (h : Lists family names body) (h' : Lists family other body')
    (hperm : names.Perm other) : body = body' := by
  obtain ⟨listed, hlisted, hordered, rfl⟩ := h
  obtain ⟨listed', hlisted', hordered', rfl⟩ := h'
  have hsame : listed = listed' :=
    List.Perm.eq_of_pairwise (fun _ _ _ _ hlt hgt => absurd hgt (String.lt_asymm hlt))
      hordered hordered' ((hlisted.trans hperm).trans hlisted'.symm)
  rw [hsame]

theorem mem_iff (h : Lists family names body) {entry : String} :
    entry ∈ body ↔ ∃ name ∈ names, FileEntry.of? family name = some entry := by
  obtain ⟨listed, hlisted, -, rfl⟩ := h
  rw [List.mem_filterMap]
  exact exists_congr fun name => and_congr_left fun _ => hlisted.mem_iff

theorem nodup (h : Lists family names body) : body.Nodup := by
  obtain ⟨listed, -, hordered, rfl⟩ := h
  refine List.Nodup.filterMap ?_ (hordered.imp ?_)
  · intro name other entry hname hother
    exact FileEntry.of?_injective hname hother
  · rintro name _ hlt rfl
    exact String.lt_irrefl _ hlt

end Lists

end FilesSection

end SetupForge
