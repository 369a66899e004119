import SetupForge.Proofs.Script.FilledLine

/-! # Placeholders filled at once

The placeholders are replaced one after another, each in what the one before it has left. Where no
value holds a brace and each value holds a dot, a value cannot become a part of a token. The
replacements then come to one pass over the line from left to right, in whatever order they are
made, and leave no token to replace.
-/

namespace SetupForge

namespace Text

theorem occursIn_append {first : Char} {part front : List Char} (h : first ∉ front)
    (text : List Char) :
    occursIn (first :: part) (front ++ text) = occursIn (first :: part) text := by
  induction front with
  | nil => rfl
  | cons c front ih =>
      simp only [List.mem_cons, not_or] at h
      have hno : (first :: part).isPrefixOf (c :: (front ++ text)) = false := by
        simp [List.isPrefixOf, h.1]
      rw [List.cons_append, occursIn, hno, Bool.false_or, ih h.2]

end Text

open Text

namespace Placeholder

/-- A value that can neither open nor close a token, nor be a part of one. -/
structure IsApart (value : List Char) : Prop where
  opens : '{' ∉ value
  closes : '}' ∉ value
  dotted : '.' ∈ value

/-- A text with the tokens of some placeholders replaced by values at once, in one pass from left
to right. -/
inductive FilledAtOnce (value : Placeholder → List Char) (among : List Placeholder) :
    List Char → List Char → Prop where
  | nil : FilledAtOnce value among [] []
  | token {placeholder : Placeholder} {text filled : List Char} :
      placeholder ∈ among → FilledAtOnce value among text filled →
      FilledAtOnce value among (placeholder.token.toList ++ text) (value placeholder ++ filled)
  | other {c : Char} {text filled : List Char} :
      (∀ placeholder ∈ among, ¬ placeholder.token.toList <+: c :: text) →
      FilledAtOnce value among text filled → FilledAtOnce value among (c :: text) (c :: filled)

/-! ## Tokens -/

/-- A token is a word in braces, without braces and dots inside. -/
theorem exists_word (placeholder : Placeholder) :
    ∃ word, placeholder.token.toList = '{' :: (word ++ ['}']) ∧ '{' ∉ word ∧ '.' ∉ word := by
  cases placeholder with
  | downloadUrl => exact ⟨"RuntimeDownloadUrl".toList, by decide, by decide, by decide⟩
  | runtimeVersion => exact ⟨"RuntimeVersion".toList, by decide, by decide, by decide⟩
  | installerName => exact ⟨"RuntimeInstallerName".toList, by decide, by decide, by decide⟩

theorem eq_of_token_prefix {a b : Placeholder} {text : List Char}
    (h : a.token.toList <+: b.token.toList ++ text) : a = b := by
  have hnone : ∀ a b : Placeholder, a.token.toList <+: b.token.toList → a = b := by
    intro a b
    cases a <;> cases b <;> decide
  rcases List.prefix_or_prefix_of_prefix h (List.prefix_append _ text) with h | h
  · exact hnone a b h
  · exact (hnone b a h).symm

theorem mem_all (placeholder : Placeholder) : placeholder ∈ all := by
  cases placeholder <;> decide

theorem token_ne_nil (placeholder : Placeholder) : placeholder.token.toList ≠ [] := by
  obtain ⟨word, htoken, -⟩ := exists_word placeholder
  simp [htoken]

namespace FilledAtOnce

variable {value : Placeholder → List Char} {among : List Placeholder} {placeholder : Placeholder}
variable {text filled word front source : List Char} {c : Char}

/-- What comes first in a text that is filled. -/
theorem cases_first (h : FilledAtOnce value among source filled) :
    (source = [] ∧ filled = []) ∨
    (∃ placeholder ∈ among, ∃ text rest, source = placeholder.token.toList ++ text ∧
      filled = value placeholder ++ rest ∧ FilledAtOnce value among text rest) ∨
    (∃ c text rest, source = c :: text ∧ filled = c :: rest ∧
      (∀ placeholder ∈ among, ¬ placeholder.token.toList <+: c :: text) ∧
      FilledAtOnce value among text rest) := by
  cases h with
  | nil => exact Or.inl ⟨rfl, rfl⟩
  | token hmem hrest => exact Or.inr (Or.inl ⟨_, hmem, _, _, rfl, rfl, hrest⟩)
  | other hnone hrest => exact Or.inr (Or.inr ⟨_, _, _, rfl, rfl, hnone, hrest⟩)

theorem unique {other : List Char} (h : FilledAtOnce value among source filled)
    (h' : FilledAtOnce value among source other) : filled = other := by
  induction h generalizing other with
  | nil =>
      rcases h'.cases_first with ⟨-, rfl⟩ | ⟨placeholder, -, text, rest, hnil, -⟩ |
        ⟨c, text, rest, hnil, -⟩
      · rfl
      · exact absurd (List.append_eq_nil_iff.1 hnil.symm).1 (token_ne_nil placeholder)
      · cases hnil
  | @token placeholder text filled hmem hrest ih =>
      rcases h'.cases_first with ⟨hnil, -⟩ | ⟨again, -, text', rest, hsource, rfl, hrest'⟩ |
        ⟨c, text', rest, hsource, -, hnone, -⟩
      · exact absurd (List.append_eq_nil_iff.1 hnil).1 (token_ne_nil placeholder)
      · obtain rfl : placeholder = again :=
          eq_of_token_prefix (hsource ▸ List.prefix_append _ text)
        rw [List.append_cancel_left_eq] at hsource
        rw [ih (hsource ▸ hrest')]
      · exact absurd (hsource ▸ List.prefix_append _ text) (hnone placeholder hmem)
  | @other c text filled hnone hrest ih =>
      rcases h'.cases_first with ⟨hnil, -⟩ | ⟨placeholder, hmem, text', rest, hsource, -⟩ |
        ⟨d, text', rest, hsource, rfl, -, hrest'⟩
      · cases hnil
      · exact absurd (hsource ▸ List.prefix_append _ text') (hnone placeholder hmem)
      · rw [List.cons.injEq] at hsource
        obtain ⟨rfl, rfl⟩ := hsource
        rw [ih hrest']

theorem refl (value : Placeholder → List Char) (text : List Char) :
    FilledAtOnce value [] text text := by
  induction text with
  | nil => exact .nil
  | cons c text ih => exact .other (by simp) ih

theorem congr {among' : List Placeholder} (h : FilledAtOnce value among source filled)
    (hsame : ∀ placeholder, placeholder ∈ among ↔ placeholder ∈ among') :
    FilledAtOnce value among' source filled := by
  induction h with
  | nil => exact .nil
  | token hmem _ ih => exact .token ((hsame _).1 hmem) ih
  | other hnone _ ih =>
      exact .other (fun placeholder hmem => hnone placeholder ((hsame _).2 hmem)) ih

/-! ## Words in front of a text -/

theorem not_startsWith_token (hc : c ≠ '{') : ¬ placeholder.token.toList <+: c :: text := by
  obtain ⟨word, htoken, -⟩ := exists_word placeholder
  rw [htoken, List.cons_prefix_cons]
  exact fun h => hc h.1.symm

theorem append (hfront : '{' ∉ front) (h : FilledAtOnce value among text filled) :
    FilledAtOnce value among (front ++ text) (front ++ filled) := by
  induction front with
  | nil => exact h
  | cons c front ih =>
      simp only [List.mem_cons, not_or] at hfront
      exact .other (fun _ _ => not_startsWith_token (Ne.symm hfront.1)) (ih hfront.2)

theorem exists_of_append (hfront : '{' ∉ front)
    (h : FilledAtOnce value among (front ++ text) filled) :
    ∃ rest, filled = front ++ rest ∧ FilledAtOnce value among text rest := by
  induction front generalizing filled with
  | nil => exact ⟨filled, rfl, h⟩
  | cons c front ih =>
      simp only [List.mem_cons, not_or] at hfront
      rcases h.cases_first with ⟨hnil, -⟩ | ⟨placeholder, -, text', rest, hsource, -⟩ |
        ⟨d, text', rest, hsource, rfl, -, hrest⟩
      · cases hnil
      · exact absurd (hsource ▸ List.prefix_append _ text')
          (not_startsWith_token (Ne.symm hfront.1))
      · rw [List.cons_append, List.cons.injEq] at hsource
        obtain ⟨rfl, rfl⟩ := hsource
        obtain ⟨rest', rfl, hrest'⟩ := ih hfront.2 hrest
        exact ⟨rest', rfl, hrest'⟩

theorem of_append (hfront : '{' ∉ front)
    (h : FilledAtOnce value among (front ++ text) (front ++ filled)) :
    FilledAtOnce value among text filled := by
  obtain ⟨rest, hsame, hrest⟩ := exists_of_append hfront h
  rwa [List.append_cancel_left hsame]

theorem exists_of_token_append (hnot : placeholder ∉ among)
    (h : FilledAtOnce value among (placeholder.token.toList ++ text) filled) :
    ∃ rest, filled = placeholder.token.toList ++ rest := by
  obtain ⟨word, htoken, hword, -⟩ := exists_word placeholder
  rcases h.cases_first with ⟨hnil, -⟩ | ⟨other, hmem, text', rest, hsource, -⟩ |
    ⟨c, text', rest, hsource, rfl, -, hrest⟩
  · exact absurd (List.append_eq_nil_iff.1 hnil).1 (token_ne_nil placeholder)
  · have hsame := eq_of_token_prefix (hsource ▸ List.prefix_append other.token.toList text')
    exact absurd (hsame ▸ hmem) hnot
  · have hplain : '{' ∉ word ++ ['}'] := by simp [hword]
    rw [htoken, List.cons_append, List.cons.injEq] at hsource
    obtain ⟨rfl, rfl⟩ := hsource
    obtain ⟨rest', rfl, -⟩ := exists_of_append hplain hrest
    exact ⟨rest', by rw [htoken, List.cons_append]⟩

/-! ## Values that stay apart -/

section Apart

variable (hvalue : ∀ placeholder, IsApart (value placeholder))

include hvalue

omit hvalue in
/-- A value with a dot does not start a word that ends in a brace. -/
theorem append_ne_of_isApart {new rest : List Char} (hnew : IsApart new) (hfront : '.' ∉ front) :
    new ++ filled ≠ front ++ '}' :: rest := by
  intro h
  rcases List.append_eq_append_iff.1 h with ⟨more, rfl, -⟩ | ⟨more, rfl, hmore⟩
  · exact hfront (List.mem_append_left more hnew.dotted)
  · cases more with
    | nil => exact hfront (by simpa using hnew.dotted)
    | cons c more =>
        rw [List.cons_append, List.cons.injEq] at hmore
        exact hnew.closes (by simp [← hmore.1])

/-- A word that ends in a brace and stands in a filled text stood there before. -/
theorem exists_of_filled_append {rest : List Char} (hfront : '.' ∉ front)
    (h : FilledAtOnce value among source (front ++ '}' :: rest)) :
    ∃ text, source = front ++ '}' :: text ∧ FilledAtOnce value among text rest := by
  induction front generalizing source with
  | nil =>
      rcases h.cases_first with ⟨-, hnil⟩ | ⟨placeholder, -, text, rest', -, hfilled, -⟩ |
        ⟨c, text, rest', rfl, hfilled, -, hrest⟩
      · cases hnil
      · exact absurd hfilled.symm (append_ne_of_isApart (hvalue placeholder) hfront)
      · rw [List.nil_append, List.cons.injEq] at hfilled
        obtain ⟨rfl, rfl⟩ := hfilled
        exact ⟨text, rfl, hrest⟩
  | cons c front ih =>
      rcases h.cases_first with ⟨-, hnil⟩ | ⟨placeholder, -, text, rest', -, hfilled, -⟩ |
        ⟨d, text, rest', rfl, hfilled, -, hrest⟩
      · cases hnil
      · exact absurd hfilled.symm (append_ne_of_isApart (hvalue placeholder) hfront)
      · rw [List.cons_append, List.cons.injEq] at hfilled
        obtain ⟨rfl, rfl⟩ := hfilled
        simp only [List.mem_cons, not_or] at hfront
        obtain ⟨text', rfl, htext⟩ := ih hfront.2 hrest
        exact ⟨text', rfl, htext⟩

theorem token_prefix_of_filled (h : FilledAtOnce value among text filled)
    (hnone : placeholder.token.toList <+: c :: filled) :
    placeholder.token.toList <+: c :: text := by
  obtain ⟨word, htoken, -, hdot⟩ := exists_word placeholder
  obtain ⟨rest, hrest⟩ := hnone
  rw [htoken, List.cons_append, List.cons.injEq, List.append_assoc, List.singleton_append] at hrest
  obtain ⟨rfl, rfl⟩ := hrest
  obtain ⟨text', rfl, -⟩ := exists_of_filled_append hvalue hdot h
  exact ⟨text', by simp [htoken]⟩

/-- Replacing one more placeholder in a filled text fills the text with it too. -/
theorem fill_again (hnot : placeholder ∉ among) (h : FilledAtOnce value among source text)
    (h' : FilledAtOnce value [placeholder] text filled) :
    FilledAtOnce value (placeholder :: among) source filled := by
  induction h generalizing filled with
  | nil =>
      rcases h'.cases_first with ⟨-, rfl⟩ | ⟨other, -, text, rest, hnil, -⟩ |
        ⟨c, text, rest, hnil, -⟩
      · exact .nil
      · exact absurd (List.append_eq_nil_iff.1 hnil.symm).1 (token_ne_nil other)
      · cases hnil
  | @token other source text hmem hrest ih =>
      obtain ⟨rest, rfl, hrest'⟩ := exists_of_append (hvalue other).opens h'
      exact .token (List.mem_cons_of_mem _ hmem) (ih hrest')
  | @other c source text hnone hrest ih =>
      rcases h'.cases_first with ⟨hnil, -⟩ | ⟨other, hmem, text', rest, htext, rfl, hrest'⟩ |
        ⟨d, text', rest, htext, rfl, hnone', hrest'⟩
      · cases hnil
      · -- the token that is replaced now stood in the text from the start
        obtain rfl := List.mem_singleton.1 hmem
        obtain ⟨word, htoken, hbrace, hdot⟩ := exists_word other
        rw [htoken, List.cons_append, List.cons.injEq, List.append_assoc,
          List.singleton_append] at htext
        obtain ⟨rfl, rfl⟩ := htext
        obtain ⟨source', rfl, -⟩ := exists_of_filled_append hvalue hdot hrest
        have hplain : '{' ∉ word ++ ['}'] := by simp [hbrace]
        have hword := ih (by simpa using hrest'.append hplain)
        have hsource : '{' :: (word ++ '}' :: source') = other.token.toList ++ source' := by
          simp [htoken]
        rw [hsource]
        exact .token List.mem_cons_self (of_append hplain (by simpa using hword))
      · rw [List.cons.injEq] at htext
        obtain ⟨rfl, rfl⟩ := htext
        refine .other ?_ (ih hrest')
        intro other hmem
        rcases List.mem_cons.1 hmem with rfl | hmem
        · rintro ⟨source', hsource⟩
          obtain ⟨rest', hkept⟩ :=
            exists_of_token_append hnot (hsource ▸ FilledAtOnce.other hnone hrest)
          exact hnone' other List.mem_cons_self ⟨rest', hkept.symm⟩
        · exact hnone other hmem

theorem occursIn_token (hmem : placeholder ∈ among) (h : FilledAtOnce value among text filled) :
    occursIn placeholder.token.toList filled = false := by
  obtain ⟨word, htoken, -⟩ := exists_word placeholder
  induction h with
  | nil => simp [occursIn, htoken]
  | @token other text filled _ _ ih =>
      rw [htoken] at ih ⊢
      rw [occursIn_append (hvalue other).opens, ih]
  | @other c text filled hnone hrest ih =>
      have hno : placeholder.token.toList.isPrefixOf (c :: filled) = false := by
        rw [← Bool.not_eq_true, List.isPrefixOf_iff_prefix]
        exact fun hprefix => hnone placeholder hmem (token_prefix_of_filled hvalue hrest hprefix)
      rw [occursIn, hno, ih, Bool.or_false]

/-! ## Replacing one after another -/

omit hvalue in
/-- The replacement of one placeholder is one pass from left to right, behind the characters of
an occurrence that it passes over. -/
theorem of_replaceFrom (value : Placeholder → List Char) (placeholder : Placeholder) (skip : Nat)
    (text : List Char) :
    FilledAtOnce value [placeholder] (text.drop skip)
      (replaceFrom placeholder.token.toList (value placeholder) skip text) := by
  induction text generalizing skip with
  | nil =>
      rw [List.drop_nil, replaceFrom]
      exact .nil
  | cons c text ih =>
      cases skip with
      | succ skip => exact ih skip
      | zero =>
          rw [List.drop_zero, replaceFrom]
          split
          · rename_i hprefix
            obtain ⟨rest, hrest⟩ := List.isPrefixOf_iff_prefix.1 hprefix
            obtain ⟨word, htoken, -⟩ := exists_word placeholder
            have hdrop : text.drop (placeholder.token.toList.length - 1) = rest := by
              rw [htoken, List.cons_append, List.cons.injEq] at hrest
              rw [htoken, List.length_cons, Nat.add_sub_cancel, ← hrest.2, List.drop_left]
            rw [← hrest]
            exact .token List.mem_cons_self (hdrop ▸ ih _)
          · rename_i hprefix
            refine .other ?_ (ih 0)
            intro other hmem
            rw [List.mem_singleton.1 hmem, ← List.isPrefixOf_iff_prefix]
            exact hprefix

/-- Replacing some placeholders one after another fills a text with all of them at once. -/
theorem of_foldl {order : List Placeholder} (hnodup : order.Nodup)
    (hnot : ∀ placeholder ∈ order, placeholder ∉ among)
    (h : FilledAtOnce value among source text) :
    FilledAtOnce value (order.reverse ++ among) source
      (order.foldl
        (fun text placeholder => replaceAll placeholder.token.toList (value placeholder) text)
        text) := by
  induction order generalizing among text with
  | nil => exact h
  | cons placeholder order ih =>
      obtain ⟨hfresh, hnodup⟩ := List.nodup_cons.1 hnodup
      have hnext := fill_again hvalue (hnot placeholder List.mem_cons_self) h
        (of_replaceFrom value placeholder 0 text)
      rw [List.foldl_cons, List.reverse_cons, List.append_assoc, List.singleton_append]
      refine ih hnodup ?_ hnext
      intro other hmem
      rw [List.mem_cons, not_or]
      exact ⟨fun hsame => hfresh (hsame ▸ hmem), hnot other (List.mem_cons_of_mem _ hmem)⟩

/-- Whatever the order of the replacements, they fill a text at once. -/
theorem of_perm {order : List Placeholder} (horder : order.Perm all) (text : List Char) :
    FilledAtOnce value all text
      (order.foldl
        (fun text placeholder => replaceAll placeholder.token.toList (value placeholder) text)
        text) := by
  have hnodup : order.Nodup := horder.nodup_iff.2 (by decide)
  refine (of_foldl hvalue hnodup (by simp) (refl value text)).congr ?_
  intro placeholder
  simp [horder.mem_iff]

end Apart

end FilledAtOnce

variable {settings : RuntimeSettings} {major : Int}

def valueChars (settings : RuntimeSettings) (major : Int) (placeholder : Placeholder) : List Char :=
  (placeholder.value settings major).toList

theorem filledAtOnce_fill (hvalue : ∀ placeholder, IsApart (valueChars settings major placeholder))
    (line : String) :
    FilledAtOnce (valueChars settings major) all line.toList
      (fill settings major line).toList := by
  rw [toList_fill]
  exact FilledAtOnce.of_perm hvalue (List.Perm.refl all) line.toList

theorem contains_fill (hvalue : ∀ placeholder, IsApart (valueChars settings major placeholder))
    (line : String) (placeholder : Placeholder) :
    contains (fill settings major line) placeholder.token = false :=
  FilledAtOnce.occursIn_token hvalue (mem_all placeholder) (filledAtOnce_fill hvalue line)

theorem fill_of_not_contains {line : String}
    (h : ∀ placeholder : Placeholder, contains line placeholder.token = false) :
    fill settings major line = line := by
  have hone : ∀ placeholder : Placeholder,
      replace settings major placeholder line.toList = line.toList :=
    fun placeholder => replaceFrom_of_not_occursIn _ (h placeholder)
  rw [← String.toList_inj, toList_fill]
  simp only [fillChars, all, List.foldl_cons, List.foldl_nil, hone]

theorem fillLines_of_knows (hknown : settings.knows major = true) (strict warned : Bool)
    (lines : List String) :
    fillLines settings strict warned major lines =
      .ok (lines.map (fill settings major), []) := by
  simp [fillLines, hknown]

/-- For a major version with an installer, where no value holds a brace and each one holds a dot,
every line is filled with the three values at once. No token is left, and filling the lines again
changes nothing. -/
theorem fillLines_at_once (hknown : settings.knows major = true)
    (hvalue : ∀ placeholder : Placeholder, IsApart (valueChars settings major placeholder))
    (strict warned : Bool) (lines : List String) :
    ∃ filled, fillLines settings strict warned major lines = .ok (filled, []) ∧
      List.Forall₂ (fun line result => ∀ text : List Char,
        FilledAtOnce (valueChars settings major) all line.toList text ↔ text = result.toList)
        lines filled ∧
      (∀ result ∈ filled, ∀ placeholder : Placeholder,
        contains result placeholder.token = false) ∧
      fillLines settings strict warned major filled = .ok (filled, []) := by
  have hnone : ∀ result ∈ lines.map (fill settings major), ∀ placeholder : Placeholder,
      contains result placeholder.token = false := by
    intro result hmem placeholder
    obtain ⟨line, -, rfl⟩ := List.mem_map.1 hmem
    exact contains_fill hvalue line placeholder
  refine ⟨lines.map (fill settings major), fillLines_of_knows hknown strict warned lines, ?_,
    hnone, ?_⟩
  · rw [List.forall₂_map_right_iff, List.forall₂_same]
    intro line _ text
    constructor
    · exact fun h => h.unique (filledAtOnce_fill hvalue line)
    · rintro rfl
      exact filledAtOnce_fill hvalue line
  · have hagain : (lines.map (fill settings major)).map (fill settings major) =
        lines.map (fill settings major) :=
      (List.map_congr_left fun result hmem => fill_of_not_contains (hnone result hmem)).trans
        (List.map_id _)
    rw [fillLines_of_knows hknown, hagain]

theorem fillLines_at_once_nested :
    RuntimeSettings.knows {} 8 = true ∧
      (∀ placeholder : Placeholder, IsApart (valueChars {} 8 placeholder)) ∧
      FilledAtOnce (valueChars {} 8) all
        "\x7bRuntime\x7bRuntimeVersion\x7dDownloadUrl\x7d\x7b\x7bRuntimeVersion\x7d\x7d".toList
        "\x7bRuntime8.0.23DownloadUrl\x7d\x7b8.0.23\x7d".toList ∧
      fillLines {} true false 8 ["\x7bRuntime8.0.23DownloadUrl\x7d\x7b8.0.23\x7d"] =
        .ok (["\x7bRuntime8.0.23DownloadUrl\x7d\x7b8.0.23\x7d"], []) := by
  have hknown : RuntimeSettings.knows {} 8 = true := by decide
  have hvalue : ∀ placeholder : Placeholder, IsApart (valueChars {} 8 placeholder) := by
    intro placeholder
    cases placeholder <;> exact ⟨by decide, by decide, by decide⟩
  have hfilled : fillLines {} true false 8
      ["\x7bRuntime\x7bRuntimeVersion\x7dDownloadUrl\x7d\x7b\x7bRuntimeVersion\x7d\x7d"] =
        .ok (["\x7bRuntime8.0.23DownloadUrl\x7d\x7b8.0.23\x7d"], []) := by
    decide +kernel
  obtain ⟨filled, hsame, honce, -, hagain⟩ := fillLines_at_once hknown hvalue true false
    ["\x7bRuntime\x7bRuntimeVersion\x7dDownloadUrl\x7d\x7b\x7bRuntimeVersion\x7d\x7d"]
  obtain rfl : filled = ["\x7bRuntime8.0.23DownloadUrl\x7d\x7b8.0.23\x7d"] := by
    rw [hfilled, Except.ok.injEq, Prod.mk.injEq] at hsame
    exact hsame.1.symm
  rw [List.forall₂_cons] at honce
  exact ⟨hknown, hvalue, (honce.1 _).2 rfl, hagain⟩

/-- A value without a dot can complete a token. -/
example :
    fill { installers := [⟨8, "Installer", "setup.exe"⟩] } 8
      "\x7bRuntime\x7bRuntimeVersion\x7dName\x7d" = "setup.exe" := by
  decide

end Placeholder

end SetupForge
