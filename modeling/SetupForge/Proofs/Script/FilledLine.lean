import SetupForge.Proofs.Pascal.BlockShape
import SetupForge.Script.Placeholder

/-! # Lines with placeholders

A placeholder inside a string literal does not change what the line does to a block, as long
as the value that replaces it holds no quote.
-/

namespace SetupForge

namespace Text

theorem isPrefixOf_append_cons {part : List Char} {c : Char} (hc : c ∉ part)
    (before after : List Char) :
    part.isPrefixOf (before ++ c :: after) = part.isPrefixOf before := by
  induction part generalizing before with
  | nil => simp [List.isPrefixOf]
  | cons p part ih =>
      simp only [List.mem_cons, not_or] at hc
      cases before with
      | nil => simp [List.isPrefixOf, Ne.symm hc.1]
      | cons b before => simp [List.isPrefixOf, ih hc.2]

theorem replaceFrom_append_cons {part : List Char} (new : List Char) {before : List Char}
    (after : List Char) {c : Char} {skip : Nat} (hc : c ∉ part) (hp : part ≠ [])
    (hs : skip ≤ before.length) :
    replaceFrom part new skip (before ++ c :: after) =
      replaceFrom part new skip before ++ c :: replaceFrom part new 0 after := by
  induction before generalizing skip with
  | nil =>
      have hskip : skip = 0 := by simpa using hs
      have hno : part.isPrefixOf (c :: after) = false := by
        have := isPrefixOf_append_cons hc [] after
        rw [List.nil_append] at this
        rw [this]
        cases part with
        | nil => exact absurd rfl hp
        | cons p part => rfl
      simp only [hskip, List.nil_append, replaceFrom, hno, Bool.false_eq_true, if_false]
  | cons b before ih =>
      cases skip with
      | succ skip => exact ih (Nat.le_of_succ_le_succ hs)
      | zero =>
          have hsame : part.isPrefixOf (b :: (before ++ c :: after)) =
              part.isPrefixOf (b :: before) := isPrefixOf_append_cons hc (b :: before) after
          rw [List.cons_append, replaceFrom, replaceFrom, hsame]
          cases hb : part.isPrefixOf (b :: before) with
          | false =>
              rw [ih (Nat.zero_le _)]
              rfl
          | true =>
              have hlen := (List.isPrefixOf_iff_prefix.1 hb).length_le
              simp only [List.length_cons] at hlen
              rw [ih (by omega)]
              simp only [if_true, List.append_assoc]

theorem replaceFrom_cons {p : Char} {part : List Char} (new : List Char) {c : Char}
    (hc : c ≠ p) (text : List Char) :
    replaceFrom (p :: part) new 0 (c :: text) = c :: replaceFrom (p :: part) new 0 text := by
  simp [replaceFrom, List.isPrefixOf, Ne.symm hc]

theorem not_mem_replaceFrom {part new text : List Char} {c : Char} (hn : c ∉ new)
    (ht : c ∉ text) (skip : Nat) : c ∉ replaceFrom part new skip text := by
  induction text generalizing skip with
  | nil => simp [replaceFrom]
  | cons b text ih =>
      simp only [List.mem_cons, not_or] at ht
      cases skip with
      | succ skip => exact ih ht.2 skip
      | zero =>
          rw [replaceFrom]
          split
          · simp only [List.mem_append, not_or]
            exact ⟨hn, ih ht.2 _⟩
          · simp only [List.mem_cons, not_or]
            exact ⟨ht.1, ih ht.2 0⟩

theorem replaceFrom_of_length_le {part new text : List Char} {skip : Nat}
    (h : text.length ≤ skip) : replaceFrom part new skip text = [] := by
  induction text generalizing skip with
  | nil => rw [replaceFrom]
  | cons c text ih =>
      cases skip with
      | zero => simp at h
      | succ skip =>
          rw [replaceFrom]
          exact ih (by simpa using h)

theorem replaceAll_self (c : Char) (part new : List Char) :
    replaceAll (c :: part) new (c :: part) = new := by
  have hself : (c :: part).isPrefixOf (c :: part) = true :=
    List.isPrefixOf_iff_prefix.2 (List.prefix_refl _)
  rw [replaceAll, replaceFrom, if_pos hself, replaceFrom_of_length_le (by simp), List.append_nil]

end Text

namespace Placeholder

def fillChars (settings : RuntimeSettings) (major : Int) (text : List Char) : List Char :=
  all.foldl (fun text placeholder => replace settings major placeholder text) text

/-- No placeholder stands for a text with a quote. -/
def Quoteless (settings : RuntimeSettings) (major : Int) : Prop :=
  ∀ placeholder : Placeholder, '\'' ∉ (placeholder.value settings major).toList

@[simp] theorem toList_fill (settings : RuntimeSettings) (major : Int) (line : String) :
    (fill settings major line).toList = fillChars settings major line.toList :=
  String.toList_ofList

theorem toList_token (placeholder : Placeholder) :
    ∃ rest, placeholder.token.toList = '{' :: 'R' :: rest ∧ '\'' ∉ rest := by
  cases placeholder with
  | downloadUrl => exact ⟨_, String.toList_ofList, by decide⟩
  | runtimeVersion => exact ⟨_, String.toList_ofList, by decide⟩
  | installerName => exact ⟨_, String.toList_ofList, by decide⟩

variable {settings : RuntimeSettings} {major : Int}

theorem replace_cons (placeholder : Placeholder) {c : Char} (hc : c ≠ '{')
    (text : List Char) :
    replace settings major placeholder (c :: text) =
      c :: replace settings major placeholder text := by
  obtain ⟨rest, htoken, -⟩ := toList_token placeholder
  simp only [replace, Text.replaceAll, htoken]
  exact Text.replaceFrom_cons _ hc text

theorem fillChars_cons {c : Char} (hc : c ≠ '{') (text : List Char) :
    fillChars settings major (c :: text) = c :: fillChars settings major text := by
  simp only [fillChars, all, List.foldl_cons, List.foldl_nil, replace_cons _ hc]

theorem fillChars_of_not_mem {text : List Char} (h : '{' ∉ text) :
    fillChars settings major text = text := by
  induction text with
  | nil => rfl
  | cons c text ih =>
      simp only [List.mem_cons, not_or] at h
      rw [fillChars_cons (Ne.symm h.1), ih h.2]

theorem fillChars_brace_blank {text : List Char} (h : '{' ∉ text) :
    fillChars settings major ('{' :: ' ' :: text) = '{' :: ' ' :: text := by
  have hone : ∀ placeholder : Placeholder,
      replace settings major placeholder ('{' :: ' ' :: text) = '{' :: ' ' :: text := by
    intro placeholder
    have hrest : replace settings major placeholder text = text := by
      induction text with
      | nil => rfl
      | cons c text ih =>
          simp only [List.mem_cons, not_or] at h
          rw [replace_cons _ (Ne.symm h.1), ih h.2]
    obtain ⟨rest, htoken, -⟩ := toList_token placeholder
    have hblank : replace settings major placeholder (' ' :: text) =
        ' ' :: replace settings major placeholder text := replace_cons placeholder (by decide) text
    rw [hrest] at hblank
    simp only [replace, Text.replaceAll, htoken] at hblank ⊢
    rw [Text.replaceFrom]
    simp only [List.isPrefixOf, beq_self_eq_true, Bool.true_and, hblank]
    rfl
  simp only [fillChars, all, List.foldl_cons, List.foldl_nil, hone]

theorem fillChars_append_quote (before after : List Char) :
    fillChars settings major (before ++ '\'' :: after) =
      fillChars settings major before ++ '\'' :: fillChars settings major after := by
  have hone : ∀ (placeholder : Placeholder) (a b : List Char),
      replace settings major placeholder (a ++ '\'' :: b) =
        replace settings major placeholder a ++
          '\'' :: replace settings major placeholder b := by
    intro placeholder a b
    obtain ⟨rest, htoken, hquote⟩ := toList_token placeholder
    simp only [replace, Text.replaceAll, htoken]
    refine Text.replaceFrom_append_cons _ b ?_ (by simp) (Nat.zero_le _)
    simpa using hquote
  simp only [fillChars, all, List.foldl_cons, List.foldl_nil, hone]

theorem quote_not_mem_fillChars (hq : Quoteless settings major) {text : List Char}
    (h : '\'' ∉ text) : '\'' ∉ fillChars settings major text := by
  simp only [fillChars, all, List.foldl_cons, List.foldl_nil, replace, Text.replaceAll]
  have hone := fun placeholder : Placeholder => hq placeholder
  exact Text.not_mem_replaceFrom (hone _) (Text.not_mem_replaceFrom (hone _)
    (Text.not_mem_replaceFrom (hone _) h 0) 0) 0

theorem quoteless_of_installers (hurl : '\'' ∉ settings.downloadUrl.toList)
    (hi : ∀ installer ∈ settings.installers,
      '\'' ∉ installer.version.toList ∧ '\'' ∉ installer.fileName.toList) :
    Quoteless settings major := by
  have hfound : ∀ installer, settings.installer? major = some installer →
      '\'' ∉ installer.version.toList ∧ '\'' ∉ installer.fileName.toList := by
    intro installer h
    have hmem := List.mem_of_find?_eq_some h
    exact hi installer (by simpa using hmem)
  have hbase : '\'' ∉ runtimeDownloadBase.toList := by decide
  have hslash : '\'' ∉ "/".toList := by decide
  intro placeholder
  cases hs : settings.installer? major with
  | none =>
      cases placeholder with
      | downloadUrl =>
          simp only [value, RuntimeSettings.urlFor, hs]
          split
          · simp
          · exact hurl
      | runtimeVersion => simp [value, RuntimeSettings.version, hs]
      | installerName => simp [value, RuntimeSettings.installerName, hs]
  | some installer =>
      obtain ⟨hversion, hname⟩ := hfound installer hs
      cases placeholder with
      | downloadUrl =>
          simp only [value, RuntimeSettings.urlFor, hs]
          split
          · simp only [Option.map_some, Option.getD_some, RuntimeInstaller.url,
              String.toList_append, List.mem_append, not_or]
            exact ⟨⟨⟨⟨hbase, hslash⟩, hversion⟩, hslash⟩, hname⟩
          · exact hurl
      | runtimeVersion => simpa [value, RuntimeSettings.version, hs] using hversion
      | installerName => simpa [value, RuntimeSettings.installerName, hs] using hname

theorem quoteless_default : Quoteless {} major :=
  quoteless_of_installers (by simp) (by decide)

end Placeholder

namespace Pascal

/-- Whether a text, from code or from inside a string literal, is code characters and string
literals that are closed. -/
def isTidy : (inside : Bool) → List Char → Bool
  | inside, [] => !inside
  | inside, c :: text =>
      if c = '\'' then isTidy (!inside) text
      else (inside || isCodeChar c) && isTidy inside text

theorem exists_of_isTidy_inside {text : List Char} (h : isTidy true text = true) :
    ∃ literal after, text = literal ++ '\'' :: after ∧ '\'' ∉ literal ∧
      isTidy false after = true := by
  induction text with
  | nil => simp [isTidy] at h
  | cons c text ih =>
      rw [isTidy] at h
      split at h
      · rename_i hc
        subst hc
        exact ⟨[], text, rfl, by simp, h⟩
      · rename_i hc
        simp only [Bool.true_or, Bool.true_and] at h
        obtain ⟨literal, after, rfl, hl, ha⟩ := ih h
        refine ⟨c :: literal, after, rfl, ?_, ha⟩
        simp only [List.mem_cons, not_or]
        exact ⟨Ne.symm hc, hl⟩

/-- A tidy text is code, or code up to its first string literal and tidy behind it. -/
theorem cases_of_isTidy {text : List Char} (h : isTidy false text = true) :
    text.all isCodeChar = true ∨
      ∃ before literal after, text = before ++ '\'' :: (literal ++ '\'' :: after) ∧
        before.all isCodeChar = true ∧ '\'' ∉ literal ∧ isTidy false after = true := by
  induction text with
  | nil => exact Or.inl rfl
  | cons c text ih =>
      rw [isTidy] at h
      split at h
      · rename_i hc
        subst hc
        obtain ⟨literal, after, rfl, hl, ha⟩ := exists_of_isTidy_inside h
        exact Or.inr ⟨[], literal, after, rfl, rfl, hl, ha⟩
      · simp only [Bool.false_or, Bool.and_eq_true] at h
        rcases ih h.2 with hall | ⟨before, literal, after, rfl, hb, hl, ha⟩
        · exact Or.inl (by simp [h.1, hall])
        · exact Or.inr ⟨c :: before, literal, after, rfl, by simp [h.1, hb], hl, ha⟩

theorem brace_not_mem_of_all {text : List Char} (h : text.all isCodeChar = true) :
    '{' ∉ text := by
  intro hmem
  have := List.all_eq_true.1 h _ hmem
  simp [isCodeChar] at this

/-- Replacing the placeholders of a tidy text leaves its code text as it is. -/
theorem code_fillChars {settings : RuntimeSettings} {major : Int}
    (hq : Placeholder.Quoteless settings major) (text : List Char)
    (h : isTidy false text = true) :
    code none (Placeholder.fillChars settings major text) = code none text := by
  rcases cases_of_isTidy h with hall | ⟨before, literal, after, htext, hb, hl, ha⟩
  · rw [Placeholder.fillChars_of_not_mem (brace_not_mem_of_all hall)]
  · have hclear : ∀ rest, startsClear ('\'' :: rest) := by
      intro rest
      constructor <;> simp
    have hlt : after.length < text.length := by
      rw [htext]
      simp only [List.length_append, List.length_cons]
      omega
    have hrec := code_fillChars hq after ha
    rw [htext, Placeholder.fillChars_append_quote, Placeholder.fillChars_append_quote,
      Placeholder.fillChars_of_not_mem (brace_not_mem_of_all hb),
      code_append hb (hclear _), code_append hb (hclear _),
      code_literal (Placeholder.quote_not_mem_fillChars hq hl), code_literal hl, hrec]
termination_by text.length
decreasing_by exact hlt

end Pascal

end SetupForge
