import SetupForge.Pascal.Code

/-! # Reading code text piece by piece

How the code text of a line follows from its pieces: the bound on the number of pieces does
not matter, a stretch without quotes, braces, stars and slashes is code as it stands, and a
string literal reads as one blank whatever it holds.
-/

namespace SetupForge.Pascal

theorem length_of_cut? {part text before after : List Char}
    (h : Text.cut? part text = some (before, after)) :
    text.length = before.length + part.length + after.length := by
  rw [Text.eq_append_of_cut? h]
  simp only [List.length_append]

theorem codeFuel_nil (fuel : Nat) (pending : Option Comment) :
    codeFuel fuel pending [] = ([], pending) := by
  cases fuel with
  | zero => rfl
  | succ fuel =>
      cases pending with
      | none => rfl
      | some comment => cases comment <;> rfl

/-- Every bound that covers the text gives the same code text. -/
theorem codeFuel_agree {m n : Nat} {pending : Option Comment} {text : List Char}
    (hm : text.length ≤ m) (hn : text.length ≤ n) :
    codeFuel m pending text = codeFuel n pending text := by
  fun_induction codeFuel m pending text generalizing n with
  | case1 pending text =>
      have ht : text = [] := List.length_eq_zero_iff.1 (by omega)
      rw [ht, codeFuel_nil]
  | case2 fuel comment text hc =>
      cases n with
      | zero =>
          have ht : text = [] := List.length_eq_zero_iff.1 (by omega)
          rw [ht, codeFuel_nil]
      | succ n => simp only [codeFuel, hc]
  | case3 fuel comment text before rest hc code pending hr ih =>
      have hl := length_of_cut? hc
      have hp : 0 < comment.closer.length := by cases comment <;> decide
      obtain ⟨n, rfl⟩ : ∃ k, n = k + 1 := ⟨n - 1, by omega⟩
      have hrest : codeFuel n none rest = (code, pending) := by
        rw [← ih (by omega) (by omega), hr]
      simp only [codeFuel, hc, hrest]
  | case4 fuel => rw [codeFuel_nil]
  | case5 fuel text hc =>
      obtain ⟨n, rfl⟩ : ∃ k, n = k + 1 := ⟨n - 1, by simp only [List.length_cons] at hn; omega⟩
      simp only [codeFuel, hc]
  | case6 fuel text before rest hc code pending hr ih =>
      have hl := length_of_cut? hc
      simp only [List.length_cons, List.length_nil] at hm hn hl
      obtain ⟨n, rfl⟩ : ∃ k, n = k + 1 := ⟨n - 1, by omega⟩
      have hrest : codeFuel n none rest = (code, pending) := by
        rw [← ih (by omega) (by omega), hr]
      simp only [codeFuel, hc, hrest]
  | case7 fuel text ih =>
      simp only [List.length_cons] at hm hn
      obtain ⟨n, rfl⟩ : ∃ k, n = k + 1 := ⟨n - 1, by omega⟩
      simpa only [codeFuel] using ih (by omega) (by omega)
  | case8 fuel text ih =>
      simp only [List.length_cons] at hm hn
      obtain ⟨n, rfl⟩ : ∃ k, n = k + 1 := ⟨n - 1, by omega⟩
      simpa only [codeFuel] using ih (by omega) (by omega)
  | case9 fuel text =>
      obtain ⟨n, rfl⟩ : ∃ k, n = k + 1 := ⟨n - 1, by simp only [List.length_cons] at hn; omega⟩
      simp only [codeFuel]
  | case10 fuel c text hquote hbrace hstar hslash code pending hr ih =>
      simp only [List.length_cons] at hm hn
      obtain ⟨n, rfl⟩ : ∃ k, n = k + 1 := ⟨n - 1, by omega⟩
      have hrest : codeFuel n none text = (code, pending) := by
        rw [← ih (by omega) (by omega), hr]
      rw [codeFuel.eq_8 n c text hquote hbrace hstar hslash, hrest]

def isCodeChar (c : Char) : Bool := c ≠ '\'' && c ≠ '{' && c ≠ '*' && c ≠ '/'

/-- Whether a text starts with neither half of a comment sign. -/
def startsClear (text : List Char) : Prop := text.head? ≠ some '*' ∧ text.head? ≠ some '/'

theorem code_cons {c : Char} {text : List Char} (hc : isCodeChar c = true)
    (ht : startsClear text) :
    code none (c :: text) = (c :: (code none text).1, (code none text).2) := by
  simp only [isCodeChar, Bool.and_eq_true, decide_eq_true_eq] at hc
  obtain ⟨⟨⟨hquote, hbrace⟩, hstar⟩, hslash⟩ := hc
  have hopen : ∀ rest, c = '(' → text = '*' :: rest → False := by
    intro rest _ h
    exact ht.1 (by rw [h]; rfl)
  exact codeFuel.eq_8 text.length c text hquote hbrace hopen fun _ h => absurd h hslash

/-- A stretch of code characters is code as it stands. -/
theorem code_append {before text : List Char} (hb : before.all isCodeChar = true)
    (ht : startsClear text) :
    code none (before ++ text) = (before ++ (code none text).1, (code none text).2) := by
  induction before with
  | nil => rfl
  | cons c before ih =>
      simp only [List.all_cons, Bool.and_eq_true] at hb
      have hclear : startsClear (before ++ text) := by
        cases before with
        | nil => exact ht
        | cons d before =>
            have hd := hb.2
            simp only [List.all_cons, isCodeChar, Bool.and_eq_true, decide_eq_true_eq] at hd
            constructor
            · simpa using hd.1.1.2
            · simpa using hd.1.2
      rw [List.cons_append, code_cons hb.1 hclear, ih hb.2]
      rfl

theorem cut?_singleton {c : Char} {before : List Char} (h : c ∉ before) (after : List Char) :
    Text.cut? [c] (before ++ c :: after) = some (before, after) := by
  induction before with
  | nil => simp [Text.cut?]
  | cons b before ih =>
      simp only [List.mem_cons, not_or] at h
      have hb : ([c] : List Char).isPrefixOf (b :: (before ++ c :: after)) = false := by
        simp [List.isPrefixOf, h.1]
      rw [List.cons_append, Text.cut?, hb, ih h.2]
      rfl

/-- A string literal reads as one blank, whatever it holds. -/
theorem code_literal {literal : List Char} (h : '\'' ∉ literal) (text : List Char) :
    code none ('\'' :: (literal ++ '\'' :: text)) =
      (' ' :: (code none text).1, (code none text).2) := by
  have hcut := cut?_singleton h text
  have hfuel : codeFuel (literal ++ '\'' :: text).length none text = code none text :=
    codeFuel_agree (by simp only [List.length_append, List.length_cons]; omega) (Nat.le_refl _)
  rw [code, List.length_cons]
  simp only [codeFuel, hcut, hfuel]

theorem code_braceComment {comment : List Char} (h : '}' ∉ comment) (text : List Char) :
    code none ('{' :: (comment ++ '}' :: text)) =
      (' ' :: (code none text).1, (code none text).2) := by
  have hcut : Text.cut? Comment.brace.closer (comment ++ '}' :: text) = some (comment, text) :=
    cut?_singleton h text
  obtain ⟨fuel, hlen, hfuel⟩ :
      ∃ fuel, (comment ++ '}' :: text).length = fuel + 1 ∧ text.length ≤ fuel := by
    refine ⟨comment.length + text.length, ?_, by omega⟩
    simp only [List.length_append, List.length_cons]
    omega
  have hrest : codeFuel fuel none text = code none text := codeFuel_agree hfuel (Nat.le_refl _)
  rw [code, List.length_cons, hlen]
  simp only [codeFuel, hcut, hrest]

end SetupForge.Pascal
