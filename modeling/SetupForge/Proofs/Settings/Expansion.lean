import Mathlib.Data.List.TakeWhile
import SetupForge.Proofs.Settings.Malformed

/-! # Which variables are expanded

Expanding cuts a text from left to right. Where a name stands between two signs, it is taken
together with both signs, whether the variable is defined or not; all else is taken letter by letter.
A sign that closes a name does not open another one. So a defined variable whose opening sign closes
the name of one that is not defined stays as it is written, and all others are expanded.
-/

namespace SetupForge.Expand

def IsName : List Char → Prop
  | [] => False
  | c :: rest => startsName c = true ∧ ∀ d ∈ rest, continuesName d = true

def signed (name : List Char) : List Char := '%' :: (name ++ ['%'])

inductive Piece where
  | letter (c : Char)
  /-- A name between two signs, and what stands for it if the variable is defined. -/
  | token (name : List Char) (value? : Option String)

namespace Piece

def source : Piece → List Char
  | letter c => [c]
  | token name _ => signed name

/-- What is left of a piece: a variable that is not defined stays as it is written. -/
def shown : Piece → List Char
  | letter c => [c]
  | token name value? => (value?.map String.toList).getD (signed name)

end Piece

def sources (pieces : List Piece) : List Char := pieces.flatMap Piece.source

def results (pieces : List Piece) : List Char := pieces.flatMap Piece.shown

/-- How a text is cut from left to right. -/
inductive Cut (around : Surroundings) : List Char → List Piece → Prop where
  | nil : Cut around [] []
  | letter {c : Char} {text : List Char} {pieces : List Piece}
      (hnone : ∀ name rest, IsName name → c :: text ≠ signed name ++ rest)
      (hrest : Cut around text pieces) :
      Cut around (c :: text) (.letter c :: pieces)
  | token {name : List Char} {value? : Option String} {text : List Char} {pieces : List Piece}
      (hname : IsName name)
      (hvalue : Expand.value? around (String.ofList name) = .ok value?)
      (hrest : Cut around text pieces) :
      Cut around (signed name ++ text) (.token name value? :: pieces)

/-- Whether the character at a place is inside an expanded token that starts before it. -/
def Takes (pieces : List Piece) (place : Nat) : Prop :=
  ∃ front name value back, pieces = front ++ .token name (some value) :: back ∧
    (sources front).length < place ∧ place < (sources front).length + (signed name).length

/-- Whether what is replaced are defined variables, and every defined variable is replaced whose
signs are no part of an expanded token before it. The token that has the closing sign would have the
opening one as well. -/
structure Reaches (around : Surroundings) (pieces : List Piece) : Prop where
  defined : ∀ name value, .token name (some value) ∈ pieces →
    IsName name ∧ value? around (String.ofList name) = .ok (some value)
  expanded : ∀ before name value after, sources pieces = before ++ (signed name ++ after) →
    IsName name → value? around (String.ofList name) = .ok (some value) →
    (∃ front back, pieces = front ++ .token name (some value) :: back ∧
      sources front = before) ∨ Takes pieces before.length

/-- Whether the closing sign of a variable that is not defined opens one that is. -/
def Hides (around : Surroundings) (pieces : List Piece) : Prop :=
  ∃ front name back hidden value after, pieces = front ++ .token name none :: back ∧
    sources back = hidden ++ '%' :: after ∧ IsName hidden ∧
    value? around (String.ofList hidden) = .ok (some value)

/-! ## Names -/

variable {around : Surroundings} {name other text rest before after : List Char}
  {pieces : List Piece}

theorem IsName.percent_not_mem (h : IsName name) : '%' ∉ name := by
  cases name with
  | nil => simp
  | cons c rest =>
      intro hmem
      rcases List.mem_cons.1 hmem with rfl | hmem
      · exact absurd h.1 (by decide)
      · exact absurd (h.2 '%' hmem) (by decide)

/-- Where a text is cut at a sign, that is its first sign or one behind it. -/
theorem cases_of_append_percent (hother : '%' ∉ other)
    (h : other ++ '%' :: text = before ++ '%' :: rest) :
    (before = other ∧ text = rest) ∨
      ∃ later, before = other ++ '%' :: later ∧ text = later ++ '%' :: rest := by
  rcases List.append_eq_append_iff.1 h with ⟨later, rfl, hlater⟩ | ⟨later, rfl, hlater⟩
  · cases later with
    | nil => exact Or.inl ⟨List.append_nil other, (List.cons.inj hlater).2⟩
    | cons c later =>
        obtain ⟨rfl, htext⟩ := List.cons.inj hlater
        exact Or.inr ⟨later, rfl, htext⟩
  · cases later with
    | nil => exact Or.inl ⟨(List.append_nil before).symm, (List.cons.inj hlater).2.symm⟩
    | cons c later =>
        obtain ⟨rfl, -⟩ := List.cons.inj hlater
        exact absurd (List.mem_append_right before List.mem_cons_self) hother

theorem signed_append (name text : List Char) :
    signed name ++ text = '%' :: (name ++ '%' :: text) := by
  simp [signed]

@[simp] theorem length_signed (name : List Char) : (signed name).length = name.length + 2 := by
  simp [signed]

theorem token?_append (h : IsName name) (text : List Char) :
    token? (name ++ '%' :: text) = some name := by
  cases name with
  | nil => exact h.elim
  | cons c rest =>
      have htake : (rest ++ '%' :: text).takeWhile continuesName = rest := by
        rw [List.takeWhile_append_of_pos h.2, List.takeWhile_cons_of_neg (by decide),
          List.append_nil]
      have hdrop : (rest ++ '%' :: text).dropWhile continuesName = '%' :: text := by
        rw [List.dropWhile_append_of_pos h.2, List.dropWhile_cons_of_neg (by decide)]
      simp [token?, h.1, htake, hdrop]

theorem exists_of_token? (h : token? text = some name) :
    IsName name ∧ ∃ rest, text = name ++ '%' :: rest := by
  cases text with
  | nil => cases h
  | cons c text =>
      simp only [token?] at h
      split at h
      case isFalse => cases h
      case isTrue hstarts =>
        split at h
        case isFalse => cases h
        case isTrue hsign =>
          cases h
          refine ⟨⟨hstarts, fun d hd => List.mem_takeWhile_imp hd⟩, ?_⟩
          obtain ⟨rest, hrest⟩ := List.head?_eq_some_iff.1 (eq_of_beq hsign)
          refine ⟨rest, ?_⟩
          rw [List.cons_append, ← hrest, List.takeWhile_append_dropWhile]

/-! ## Cutting and expanding -/

theorem expandFrom_append (around : Surroundings) (skipped text : List Char) :
    expandFrom around skipped.length (skipped ++ text) = expandFrom around 0 text := by
  induction skipped with
  | nil => rfl
  | cons c skipped ih => exact ih

theorem expandFrom_letter {c : Char}
    (hnone : ∀ name rest, IsName name → c :: text ≠ signed name ++ rest) :
    expandFrom around 0 (c :: text) = (expandFrom around 0 text).map (c :: ·) := by
  rw [expandFrom]
  split
  case isFalse => rfl
  case isTrue hsign =>
    subst hsign
    cases htoken : token? text with
    | none => rfl
    | some name =>
        obtain ⟨hname, rest, rfl⟩ := exists_of_token? htoken
        exact absurd (signed_append name rest).symm (hnone name rest hname)

theorem expandFrom_signed (hname : IsName name) (text : List Char) :
    expandFrom around 0 (signed name ++ text) = (do
      let value ← value? around (String.ofList name)
      let rest ← expandFrom around 0 text
      .ok ((Piece.token name value).shown ++ rest)) := by
  have hskip : expandFrom around (name.length + 1) (name ++ '%' :: text)
      = expandFrom around 0 text := by
    have hskipped := expandFrom_append around (name ++ ['%']) text
    rwa [List.length_append, List.length_singleton, List.append_assoc] at hskipped
  rw [signed_append, expandFrom, if_pos rfl, token?_append hname]
  simp only [hskip]
  rfl

theorem profile_of_value? {failure : Failure} {name : String}
    (h : value? around name = .error failure) :
    name.toUpper = "USERPROFILE" ∧ home around = .error failure := by
  unfold value? at h
  split at h
  case isTrue hprofile => exact ⟨eq_of_beq hprofile, error_of_map h⟩
  case isFalse => cases h

theorem cases_of_value? {name value : String} (h : value? around name = .ok (some value)) :
    home around = .ok value ∨ around.environment.lookup name = some value := by
  unfold value? at h
  split at h
  case isTrue =>
    obtain ⟨folder, hhome, hfolder⟩ := exists_of_map h
    cases hfolder
    exact Or.inl hhome
  case isFalse => exact Or.inr (Except.ok.inj h)

namespace Cut

theorem sources_eq (h : Cut around text pieces) : sources pieces = text := by
  induction h with
  | nil => rfl
  | letter _ _ ih => rw [← ih]; rfl
  | token _ _ _ ih => rw [← ih]; rfl

theorem of_token {value? : Option String} (h : Cut around text pieces)
    (hmem : .token name value? ∈ pieces) :
    IsName name ∧ Expand.value? around (String.ofList name) = .ok value? := by
  induction h with
  | nil => cases hmem
  | letter _ _ ih =>
      rcases List.mem_cons.1 hmem with hhead | hmem
      · cases hhead
      · exact ih hmem
  | token hname hvalue _ ih =>
      rcases List.mem_cons.1 hmem with hhead | hmem
      · cases hhead
        exact ⟨hname, hvalue⟩
      · exact ih hmem

theorem expandFrom_eq (h : Cut around text pieces) :
    expandFrom around 0 text = .ok (results pieces) := by
  induction h with
  | nil => rfl
  | letter hnone _ ih => rw [expandFrom_letter hnone, ih]; rfl
  | token hname hvalue _ ih => rw [expandFrom_signed hname, hvalue, ih]; rfl

/-- A name between two signs is a piece of the text, or its opening sign closes the name of a piece
before. -/
theorem exists_of_signed (h : Cut around text pieces) (hname : IsName name)
    (htext : text = before ++ (signed name ++ after)) :
    (∃ front value? back, pieces = front ++ .token name value? :: back ∧
      sources front = before) ∨
    (∃ front other value? back, pieces = front ++ .token other value? :: back ∧
      sources front ++ '%' :: other = before) := by
  induction h generalizing before with
  | nil => simp [signed] at htext
  | @letter c text pieces hnone _ ih =>
      cases before with
      | nil => exact absurd htext (hnone name after hname)
      | cons d before =>
          obtain ⟨rfl, hlater⟩ := List.cons.inj htext
          rcases ih hlater with ⟨front, value?, back, rfl, rfl⟩ | ⟨front, other, value?, back, rfl, rfl⟩
          · exact Or.inl ⟨.letter c :: front, value?, back, rfl, rfl⟩
          · exact Or.inr ⟨.letter c :: front, other, value?, back, rfl, rfl⟩
  | @token first value? text pieces hfirst hvalue _ ih =>
      rw [signed_append first, signed_append name] at htext
      cases before with
      | nil =>
          rcases cases_of_append_percent hfirst.percent_not_mem (List.cons.inj htext).2 with
            ⟨rfl, -⟩ | ⟨later, rfl, -⟩
          · exact Or.inl ⟨[], value?, pieces, rfl, rfl⟩
          · exact absurd (List.mem_append_right first List.mem_cons_self) hname.percent_not_mem
      | cons d before =>
          obtain ⟨rfl, hbehind⟩ := List.cons.inj htext
          rcases cases_of_append_percent hfirst.percent_not_mem hbehind with
            ⟨rfl, -⟩ | ⟨later, rfl, hlater⟩
          · exact Or.inr ⟨[], before, value?, pieces, rfl, rfl⟩
          · rcases ih (hlater.trans (congrArg (later ++ ·) (signed_append name after).symm)) with
              ⟨front, later?, back, rfl, rfl⟩ | ⟨front, other, later?, back, rfl, rfl⟩
            · exact Or.inl ⟨.token first value? :: front, later?, back, rfl,
                signed_append first (sources front)⟩
            · refine Or.inr ⟨.token first value? :: front, other, later?, back, rfl, ?_⟩
              exact (List.append_assoc ..).trans (signed_append first _)

theorem exists_or_homeUnknown (around : Surroundings) (text : List Char) :
    (∃ pieces, Cut around text pieces) ∨
      expandFrom around 0 text = .error .homeUnknown ∧
        home around = .error .homeUnknown ∧
        ∃ before name after, text = before ++ (signed name ++ after) ∧
          (String.ofList name).toUpper = "USERPROFILE" := by
  induction hlength : text.length using Nat.strong_induction_on generalizing text with
  | h length ih =>
    by_cases hsigned : ∃ name rest, IsName name ∧ text = signed name ++ rest
    · obtain ⟨name, rest, hname, rfl⟩ := hsigned
      have hshorter : rest.length < length := by
        rw [← hlength, List.length_append, length_signed]
        omega
      cases hvalue : Expand.value? around (String.ofList name) with
      | error failure =>
          have ⟨hprofile, hhome⟩ := profile_of_value? hvalue
          obtain rfl := homeUnknown_of_home hhome
          refine Or.inr ⟨?_, hhome, [], name, rest, rfl, hprofile⟩
          rw [expandFrom_signed hname, hvalue]
          rfl
      | ok value? =>
          rcases ih _ hshorter rest rfl with
            ⟨pieces, hrest⟩ | ⟨hfails, hhome, before, other, after, rfl, hprofile⟩
          · exact Or.inl ⟨_, .token hname hvalue hrest⟩
          · refine Or.inr ⟨?_, hhome, signed name ++ before, other, after, ?_, hprofile⟩
            · rw [expandFrom_signed hname, hvalue, hfails]
              rfl
            · rw [List.append_assoc]
    · cases text with
      | nil => exact Or.inl ⟨[], .nil⟩
      | cons c text =>
          have hnone : ∀ name rest, IsName name → c :: text ≠ signed name ++ rest :=
            fun name rest hname htext => hsigned ⟨name, rest, hname, htext⟩
          rcases ih text.length (by rw [← hlength]; exact Nat.lt_succ_self _) text rfl with
            ⟨pieces, hrest⟩ | ⟨hfails, hhome, before, other, after, rfl, hprofile⟩
          · exact Or.inl ⟨_, .letter hnone hrest⟩
          · refine Or.inr ⟨?_, hhome, c :: before, other, after, rfl, hprofile⟩
            rw [expandFrom_letter hnone, hfails]
            rfl

end Cut

/-! ## Where the pieces stand -/

@[simp] theorem sources_append (front back : List Piece) :
    sources (front ++ back) = sources front ++ sources back := List.flatMap_append

@[simp] theorem sources_cons (piece : Piece) (back : List Piece) :
    sources (piece :: back) = piece.source ++ sources back := List.flatMap_cons

@[simp] theorem Piece.source_token (name : List Char) (value? : Option String) :
    (token name value?).source = signed name := rfl

/-- Two pieces of a text are the same one, or one stands before the other. -/
theorem cases_of_pieces {front back others lasts : List Piece} {piece other : Piece}
    (h : front ++ piece :: back = others ++ other :: lasts) :
    (front = others ∧ piece = other ∧ back = lasts) ∨
      (∃ between, others = front ++ piece :: between) ∨
      ∃ between, front = others ++ other :: between := by
  rcases List.append_eq_append_iff.1 h with ⟨between, hothers, hrest⟩ | ⟨between, hfront, hrest⟩
  · cases between with
    | nil =>
        obtain ⟨rfl, rfl⟩ := List.cons.inj hrest
        exact Or.inl ⟨by simpa using hothers.symm, rfl, rfl⟩
    | cons first between =>
        obtain ⟨rfl, -⟩ := List.cons.inj hrest
        exact Or.inr (Or.inl ⟨between, hothers⟩)
  · cases between with
    | nil =>
        obtain ⟨rfl, rfl⟩ := List.cons.inj hrest
        exact Or.inl ⟨by simpa using hfront, rfl, rfl⟩
    | cons first between =>
        obtain ⟨rfl, -⟩ := List.cons.inj hrest
        exact Or.inr (Or.inr ⟨between, hfront⟩)

/-- The closing sign of a name that stays opens no piece and is in no other one. -/
theorem not_opens_of_closes {front back others lasts : List Piece} {value : String}
    (h : front ++ .token name none :: back = others ++ .token other (some value) :: lasts) :
    (sources others).length ≠ (sources front).length + name.length + 1 ∧
      ¬ ((sources others).length < (sources front).length + name.length + 1 ∧
        (sources front).length + name.length + 1
          < (sources others).length + (signed other).length) := by
  rcases cases_of_pieces h with ⟨-, htoken, -⟩ | ⟨between, rfl⟩ | ⟨between, rfl⟩
  · cases htoken
  · simp only [sources_append, sources_cons, Piece.source_token, List.length_append, length_signed]
    omega
  · simp only [sources_append, sources_cons, Piece.source_token, List.length_append, length_signed]
    omega

theorem Cut.reaches_iff (h : Cut around text pieces) :
    Reaches around pieces ↔ ¬ Hides around pieces := by
  constructor
  · rintro hreaches ⟨front, name, back, hidden, value, after, rfl, hback, hhidden, hvalue⟩
    have hsources : sources (front ++ .token name none :: back)
        = (sources front ++ '%' :: name) ++ (signed hidden ++ after) := by
      simp [hback, signed]
    have hplace : (sources front ++ '%' :: name).length
        = (sources front).length + name.length + 1 := by
      simp [Nat.add_assoc]
    rcases hreaches.expanded _ _ _ _ hsources hhidden hvalue with
      ⟨others, lasts, hpieces, hothers⟩ | ⟨others, other, value, lasts, hpieces, hafter, hbefore⟩
    · exact (not_opens_of_closes hpieces).1 (by rw [hothers, hplace])
    · rw [hplace] at hafter hbefore
      exact (not_opens_of_closes hpieces).2 ⟨hafter, hbefore⟩
  · intro hhides
    refine ⟨fun name value hmem => h.of_token hmem, ?_⟩
    intro before name value after hsources hname hvalue
    rcases h.exists_of_signed hname (h.sources_eq.symm.trans hsources) with
      ⟨front, value?, back, rfl, hfront⟩ | ⟨front, other, value?, back, rfl, rfl⟩
    · have htoken := (h.of_token (List.mem_append_right front List.mem_cons_self)).2
      obtain rfl := Except.ok.inj (htoken.symm.trans hvalue)
      exact Or.inl ⟨front, back, rfl, hfront⟩
    · cases value? with
      | some taken =>
          refine Or.inr ⟨front, other, taken, back, rfl, ?_, ?_⟩ <;> simp
      | none =>
          have hback : sources back = name ++ '%' :: after := by
            simpa [signed] using hsources
          exact absurd ⟨front, other, back, name, value, after, rfl, hback, hname, hvalue⟩ hhides

/-- What expanding gives, for every text: it is cut from left to right and the defined names are
replaced, which reaches all that it should exactly if no name that is not defined closes with the
opening sign of one that is; or it asks for a home folder that nobody knows. -/
theorem expand_reaches_iff (around : Surroundings) (text : String) :
    (∃ pieces, Cut around text.toList pieces ∧ sources pieces = text.toList ∧
      expand around text = .ok (String.ofList (results pieces)) ∧
      (Reaches around pieces ↔ ¬ Hides around pieces)) ∨
    (expand around text = .error .homeUnknown ∧ home around = .error .homeUnknown ∧
      ∃ before name after, text.toList = before ++ (signed name ++ after) ∧
        (String.ofList name).toUpper = "USERPROFILE") := by
  rcases Cut.exists_or_homeUnknown around text.toList with
    ⟨pieces, hcut⟩ | ⟨hfails, hhome, hprofile⟩
  · refine Or.inl ⟨pieces, hcut, hcut.sources_eq, ?_, hcut.reaches_iff⟩
    rw [expand, hcut.expandFrom_eq]
    rfl
  · refine Or.inr ⟨?_, hhome, hprofile⟩
    rw [expand, hfails]
    rfl

/-- The sign that closes a name without a value hides the variable behind it, and no other way to
replace variables would give this. -/
theorem expand_passes_over_home :
    expand [("HOME", "/home/tester")] "%A%HOME%" = .ok "%A%HOME%" ∧
      ∀ pieces, sources pieces = "%A%HOME%".toList → results pieces = "%A%HOME%".toList →
        ¬ Reaches [("HOME", "/home/tester")] pieces := by
  refine ⟨by decide +kernel, ?_⟩
  intro pieces hsources hresults hreaches
  have honly : ∀ name value, .token name (some value) ∉ pieces := by
    intro name value hmem
    have hvalue : value = "/home/tester" := by
      rcases cases_of_value? (hreaches.defined name value hmem).2 with hhome | hlookup
      · have hknown : home [("HOME", "/home/tester")] = .ok "/home/tester" := by decide +kernel
        exact Except.ok.inj (hhome.symm.trans hknown)
      · rw [List.lookup_cons] at hlookup
        split at hlookup <;> cases hlookup
        rfl
    subst hvalue
    have hslash : '/' ∈ results pieces :=
      List.mem_flatMap.2 ⟨_, hmem, (by decide : '/' ∈ "/home/tester".toList)⟩
    rw [hresults] at hslash
    exact absurd hslash (by decide)
  rcases hreaches.expanded ['%', 'A'] "HOME".toList "/home/tester" [] (hsources.trans (by decide))
      ⟨by decide, List.all_eq_true.1 (by decide)⟩ (by decide +kernel) with
    ⟨front, back, rfl, -⟩ | ⟨front, name, value, back, rfl, -⟩
  · exact honly _ _ (List.mem_append_right front List.mem_cons_self)
  · exact honly _ _ (List.mem_append_right front List.mem_cons_self)

end SetupForge.Expand
