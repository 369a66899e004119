import SetupForge.Proofs.Pascal.CodeText

/-! # The scanner of Pascal lines

An automaton that reads lines one character at a time and writes their code text. It never looks
ahead: the first half of a sign of two characters is a state of its own. The code text of lines
is what this automaton writes, and a comment is open at the end of a line exactly if the
automaton ends the line inside it.
-/

namespace SetupForge.Pascal

/-- Where the scanner stands: in code, in a string or in one of the two kinds of comments, and
in each of them possibly behind the first half of a sign. -/
inductive Scanner where
  | code
  /-- In code, behind a parenthesis that is not written yet. -/
  | paren
  /-- In code, behind a slash that is not written yet. -/
  | slash
  /-- In code, behind two slashes. -/
  | rest
  | string
  | brace
  | parenStar
  /-- In a comment of the second kind, behind a star. -/
  | star
deriving DecidableEq, Repr

namespace Scanner

def start : Option Comment → Scanner
  | none => .code
  | some .brace => .brace
  | some .parenStar => .parenStar

def stepCode : Char → Scanner × List Char
  | '\'' => (.string, [' '])
  | '{' => (.brace, [])
  | '(' => (.paren, [])
  | '/' => (.slash, [])
  | c => (.code, [c])

def step : Scanner → Char → Scanner × List Char
  | .code, c => stepCode c
  | .paren, '*' => (.parenStar, [])
  | .paren, c => ((stepCode c).1, '(' :: (stepCode c).2)
  | .slash, '/' => (.rest, [])
  | .slash, c => ((stepCode c).1, '/' :: (stepCode c).2)
  | .rest, _ => (.rest, [])
  | .string, '\'' => (.code, [])
  | .string, _ => (.string, [])
  | .brace, '}' => (.code, [' '])
  | .brace, _ => (.brace, [])
  | .star, ')' => (.code, [' '])
  | .star, '*' => (.star, [])
  | .star, _ => (.parenStar, [])
  | .parenStar, '*' => (.star, [])
  | .parenStar, _ => (.parenStar, [])

/-- What is written at the end of a line, and the comment that is open there. -/
def finish : Scanner → List Char × Option Comment
  | .code | .rest | .string => ([], none)
  | .paren => (['('], none)
  | .slash => (['/'], none)
  | .brace => ([], some .brace)
  | .parenStar | .star => ([], some .parenStar)

def read : Scanner → List Char → List Char × Option Comment
  | scanner, [] => scanner.finish
  | scanner, c :: text =>
      let (next, written) := scanner.step c
      let (more, pending) := read next text
      (written ++ more, pending)

def readLines : Option Comment → List String → List (List Char × Option Comment)
  | _, [] => []
  | pending, line :: lines =>
      let result := read (start pending) line.toList
      result :: readLines result.2 lines

theorem read_cons (scanner : Scanner) (c : Char) (text : List Char) :
    scanner.read (c :: text) = ((scanner.step c).2 ++ ((scanner.step c).1.read text).1,
      ((scanner.step c).1.read text).2) := rfl

/-! ## Strings and comments -/

theorem read_rest (text : List Char) : read .rest text = ([], none) := by
  induction text with
  | nil => rfl
  | cons c text ih => simp [read_cons, step, ih]

theorem cut?_cons_of_ne {sign c : Char} (h : c ≠ sign) (more text : List Char) :
    Text.cut? (sign :: more) (c :: text) =
      (Text.cut? (sign :: more) text).map fun (before, after) => (c :: before, after) := by
  simp [Text.cut?, List.isPrefixOf, Ne.symm h]

/-- Inside a string or a comment that one character ends, all is passed over up to that
character. -/
theorem read_inside {inside : Scanner} {sign : Char} {written : List Char}
    (hsign : inside.step sign = (.code, written))
    (hother : ∀ c, c ≠ sign → inside.step c = (inside, [])) (text : List Char) :
    inside.read text = match Text.cut? [sign] text with
      | none => inside.finish
      | some (_, after) => (written ++ (read .code after).1, (read .code after).2) := by
  induction text with
  | nil => rfl
  | cons c text ih =>
      by_cases hc : c = sign
      · subst hc
        simp [read_cons, hsign, Text.cut?]
      · rw [read_cons, hother c hc, ih, cut?_cons_of_ne hc]
        cases Text.cut? [sign] text with
        | none => rfl
        | some pieces => rfl

theorem step_string {c : Char} (h : c ≠ '\'') : step .string c = (.string, []) := by
  unfold step
  split <;> simp_all

theorem step_brace {c : Char} (h : c ≠ '}') : step .brace c = (.brace, []) := by
  unfold step
  split <;> simp_all

theorem step_parenStar {c : Char} (h : c ≠ '*') : step .parenStar c = (.parenStar, []) := by
  unfold step
  split <;> simp_all

theorem step_star {c : Char} (h : c ≠ ')') : step .star c = step .parenStar c := by
  unfold step
  split <;> simp_all

theorem read_parenStar (text : List Char) :
    read .parenStar text = match Text.cut? Comment.parenStar.closer text with
      | none => ([], some .parenStar)
      | some (_, after) => (' ' :: (read .code after).1, (read .code after).2) := by
  induction text with
  | nil => rfl
  | cons c text ih =>
      by_cases hc : c = '*'
      · subst hc
        -- the star may be the first half of the end of the comment
        cases text with
        | nil => rfl
        | cons d text =>
            by_cases hd : d = ')'
            · subst hd
              simp [read_cons, step, Text.cut?, Comment.closer]
            · have hsame : read .star (d :: text) = read .parenStar (d :: text) := by
                rw [read_cons, read_cons, step_star hd]
              have hno : Text.cut? Comment.parenStar.closer ('*' :: d :: text) =
                  (Text.cut? Comment.parenStar.closer (d :: text)).map
                    fun (before, after) => ('*' :: before, after) := by
                simp [Text.cut?, Comment.closer, List.isPrefixOf, Ne.symm hd]
              rw [read_cons, show step .parenStar '*' = (.star, []) from rfl, hsame, ih, hno]
              cases Text.cut? Comment.parenStar.closer (d :: text) with
              | none => rfl
              | some pieces => rfl
      · rw [read_cons, step_parenStar hc, ih, Comment.closer, cut?_cons_of_ne hc]
        cases Text.cut? ['*', ')'] text with
        | none => rfl
        | some pieces => rfl

theorem read_comment (comment : Comment) (text : List Char) :
    read (start (some comment)) text = match Text.cut? comment.closer text with
      | none => ([], some comment)
      | some (_, after) => (' ' :: (read .code after).1, (read .code after).2) := by
  cases comment with
  | brace => exact read_inside rfl (fun _ => step_brace) text
  | parenStar => exact read_parenStar text

theorem read_string (text : List Char) :
    read .string text = match Text.cut? ['\''] text with
      | none => ([], none)
      | some (_, after) => read .code after := by
  rw [read_inside rfl fun _ => step_string]
  rfl

/-! ## Code -/

theorem stepCode_of_ne {c : Char} (hquote : c ≠ '\'') (hbrace : c ≠ '{') (hparen : c ≠ '(')
    (hslash : c ≠ '/') : stepCode c = (.code, [c]) := by
  unfold stepCode
  split <;> simp_all

theorem step_paren {c : Char} (h : c ≠ '*') :
    step .paren c = ((stepCode c).1, '(' :: (stepCode c).2) := by
  unfold step
  split <;> simp_all

theorem step_slash {c : Char} (h : c ≠ '/') :
    step .slash c = ((stepCode c).1, '/' :: (stepCode c).2) := by
  unfold step
  split <;> simp_all

/-- The first half of a sign is code as it stands where the other half does not follow. -/
theorem read_half {behind : Scanner} {half other : Char} {text : List Char}
    (hfinish : behind.finish = ([half], none))
    (hstep : ∀ c, c ≠ other → behind.step c = ((stepCode c).1, half :: (stepCode c).2))
    (h : ∀ after, text ≠ other :: after) :
    behind.read text = (half :: (read .code text).1, (read .code text).2) := by
  cases text with
  | nil => exact hfinish
  | cons c text =>
      have hc : c ≠ other := fun hc => h text (by rw [hc])
      rw [read_cons, read_cons, hstep c hc]
      rfl

theorem read_code_cons {c : Char} {text : List Char} (hquote : c ≠ '\'') (hbrace : c ≠ '{')
    (hstar : ∀ after, c = '(' → text ≠ '*' :: after)
    (hslash : ∀ after, c = '/' → text ≠ '/' :: after) :
    read .code (c :: text) = (c :: (read .code text).1, (read .code text).2) := by
  by_cases hp : c = '('
  · subst hp
    rw [read_cons, ← read_half rfl (fun _ => step_paren) fun after => hstar after rfl]
    rfl
  · by_cases hs : c = '/'
    · subst hs
      rw [read_cons, ← read_half rfl (fun _ => step_slash) fun after => hslash after rfl]
      rfl
    · rw [read_cons, step, stepCode_of_ne hquote hbrace hp hs]
      rfl

theorem codeFuel_eq_read {fuel : Nat} {pending : Option Comment} {text : List Char}
    (h : text.length ≤ fuel) : codeFuel fuel pending text = read (start pending) text := by
  fun_induction codeFuel fuel pending text with
  | case1 pending text =>
      have ht : text = [] := List.length_eq_zero_iff.1 (by omega)
      rw [ht, ← codeFuel_nil 1]
      cases pending with
      | none => rfl
      | some comment => cases comment <;> rfl
  | case2 fuel comment text hc => rw [read_comment, hc]
  | case3 fuel comment text before after hc more pending hr ih =>
      have hl := length_of_cut? hc
      have hp : 0 < comment.closer.length := by cases comment <;> decide
      have hread : read .code after = (more, pending) := (ih (by omega)).symm.trans hr
      simp only [read_comment, hc, hread]
  | case4 fuel => rfl
  | case5 fuel text hc =>
      rw [start, read_cons, show step .code '\'' = (.string, [' ']) from rfl, read_string, hc]
      rfl
  | case6 fuel text before after hc more pending hr ih =>
      have hl := length_of_cut? hc
      simp only [List.length_cons] at h
      have hread : read .code after = (more, pending) := (ih (by omega)).symm.trans hr
      rw [start, read_cons, show step .code '\'' = (.string, [' ']) from rfl, read_string, hc]
      simp only [hread]
      rfl
  | case7 fuel text ih => exact ih (Nat.le_of_succ_le_succ h)
  | case8 fuel text ih =>
      simp only [List.length_cons] at h
      exact ih (by omega)
  | case9 fuel text =>
      change ([], none) = ([] ++ ([] ++ (read .rest text).1), (read .rest text).2)
      rw [read_rest]
      rfl
  | case10 fuel c text hquote hbrace hstar hslash more pending hr ih =>
      have hread : read .code text = (more, pending) :=
        (ih (Nat.le_of_succ_le_succ h)).symm.trans hr
      rw [start, read_code_cons hquote hbrace hstar hslash, hread]

end Scanner

/-- The code text of a line is what the scanner writes. -/
theorem code_eq_read (pending : Option Comment) (line : List Char) :
    code pending line = Scanner.read (Scanner.start pending) line :=
  Scanner.codeFuel_eq_read (Nat.le_refl _)

/-- Lines read in turn, with the open comment carried along, have the code texts and the open
comments of the scanner. -/
theorem codeLines_eq_readLines (pending : Option Comment) (lines : List String) :
    codeLines pending lines = Scanner.readLines pending lines := by
  induction lines generalizing pending with
  | nil => rfl
  | cons line lines ih =>
      rw [codeLines, Scanner.readLines, code_eq_read]
      exact congrArg _ (ih _)

/-- A star that opens a comment does not help to close it. -/
example : codeLines none ["a(*)b", "c*)d // e"] =
    [(['a'], some .parenStar), ([' ', 'd', ' '], none)] := by decide

end SetupForge.Pascal
