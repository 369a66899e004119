import SetupForge.Text.Search

/-! # Code text of Pascal lines

Comments and string literals each read as one blank. A comment can run on to later
lines; a string ends at the next quote or with its line, and two slashes end the line.
-/

namespace SetupForge.Pascal

inductive Comment where
  | brace
  | parenStar
deriving DecidableEq, Repr

def Comment.closer : Comment → List Char
  | .brace => ['}']
  | .parenStar => ['*', ')']

def codeFuel : Nat → Option Comment → List Char → List Char × Option Comment
  | 0, pending, _ => ([], pending)
  | fuel + 1, some comment, text =>
      match Text.cut? comment.closer text with
      | none => ([], some comment)
      | some (_, rest) =>
          let (code, pending) := codeFuel fuel none rest
          (' ' :: code, pending)
  | _ + 1, none, [] => ([], none)
  | fuel + 1, none, '\'' :: text =>
      match Text.cut? ['\''] text with
      | none => ([' '], none)
      | some (_, rest) =>
          let (code, pending) := codeFuel fuel none rest
          (' ' :: code, pending)
  | fuel + 1, none, '{' :: text => codeFuel fuel (some .brace) text
  | fuel + 1, none, '(' :: '*' :: text => codeFuel fuel (some .parenStar) text
  | _ + 1, none, '/' :: '/' :: _ => ([], none)
  | fuel + 1, none, c :: text =>
      let (code, pending) := codeFuel fuel none text
      (c :: code, pending)

/-- The code text of a line that starts inside a comment or in code, and the comment still open
at its end. Every piece takes at least one character, so the length bounds their number. -/
def code (pending : Option Comment) (line : List Char) : List Char × Option Comment :=
  codeFuel line.length pending line

/-- Reads lines in turn, each from the comment that the one above it leaves open. -/
def codeLines : Option Comment → List String → List (List Char × Option Comment)
  | _, [] => []
  | pending, line :: lines =>
      let scan := code pending line.toList
      scan :: codeLines scan.2 lines

@[simp] theorem code_nil (pending : Option Comment) : code pending [] = ([], pending) := rfl

@[simp] theorem length_codeLines (pending : Option Comment) (lines : List String) :
    (codeLines pending lines).length = lines.length := by
  induction lines generalizing pending with
  | nil => rfl
  | cons line lines ih => rw [codeLines, List.length_cons, List.length_cons, ih]

end SetupForge.Pascal
