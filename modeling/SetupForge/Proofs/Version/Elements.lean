import Mathlib.Data.Nat.Init
import SetupForge.Proofs.Text.LineFeeds
import SetupForge.Version.Element

/-! # Elements with another value

Giving the elements of a text another value changes nothing outside of their values. The text is
taken apart from left to right: where an opening tag is followed by a closing one, the element goes
to the first of these, and all else is taken letter by letter. A tag has its brackets at its ends
only, so that it overlaps with no other tag, and replacing the elements of one name keeps all other
tags but those inside of them.
-/

namespace SetupForge.Element

open Text

/-! ## Tags -/

/-- Whether a text is a tag: brackets around a text without brackets and line breaks. -/
def IsTag (tag : List Char) : Prop :=
  ∃ name : List Char, tag = '<' :: (name ++ ['>']) ∧ '<' ∉ name ∧ '>' ∉ name ∧
    isUnbroken name = true

/-- Whether both tags of an element are tags, and not the same ones. -/
structure Tags.Proper (tags : Tags) : Prop where
  opening : IsTag tags.opening
  closing : IsTag tags.closing
  apart : tags.opening ≠ tags.closing

section Tags

variable {tag other part before rest text : List Char}

theorem IsTag.exists_cons (h : IsTag tag) : ∃ part, tag = '<' :: part ∧ '<' ∉ part := by
  obtain ⟨name, rfl, hopen, -⟩ := h
  exact ⟨name ++ ['>'], rfl, by simp [hopen]⟩

theorem IsTag.ne_nil (h : IsTag tag) : tag ≠ [] := by
  obtain ⟨part, rfl, -⟩ := h.exists_cons
  simp

theorem IsTag.isUnbroken (h : IsTag tag) : isUnbroken tag = true := by
  obtain ⟨name, rfl, -, -, hname⟩ := h
  simpa [Text.isUnbroken] using hname

theorem IsTag.head? (h : IsTag tag) (rest : List Char) : (tag ++ rest).head? = some '<' := by
  obtain ⟨part, rfl, -⟩ := h.exists_cons
  rfl

/-- No tag starts with another one. -/
theorem IsTag.append_inj (h : IsTag tag) (hother : IsTag other)
    (heq : tag ++ text = other ++ rest) : tag = other ∧ text = rest := by
  obtain ⟨name, rfl, -, hclose, -⟩ := h
  obtain ⟨name', rfl, -, hclose', -⟩ := hother
  have htake : ∀ {name : List Char} (rest : List Char), '>' ∉ name →
      (name ++ '>' :: rest).takeWhile (· ≠ '>') = name := by
    intro name rest hname
    rw [List.takeWhile_append_of_pos fun c hc => by simpa using ne_of_mem_of_not_mem hc hname,
      List.takeWhile_cons_of_neg (by simp), List.append_nil]
  simp only [List.cons_append, List.append_assoc, List.nil_append, List.cons.injEq,
    true_and] at heq
  have hname := congrArg (List.takeWhile (· ≠ '>')) heq
  rw [htake _ hclose, htake _ hclose'] at hname
  subst hname
  exact ⟨rfl, (List.cons.inj (List.append_cancel_left heq)).2⟩

/-- What holds no opening bracket stands in front of any tag. -/
theorem IsTag.exists_of_append (h : IsTag tag) (hpart : '<' ∉ part)
    (heq : part ++ text = before ++ (tag ++ rest)) :
    ∃ later, before = part ++ later ∧ text = later ++ (tag ++ rest) := by
  obtain ⟨inner, rfl, -⟩ := h.exists_cons
  rcases List.append_eq_append_iff.1 heq with ⟨later, hbefore, htext⟩ | ⟨later, rfl, htext⟩
  · exact ⟨later, hbefore, htext⟩
  · cases later with
    | nil => exact ⟨[], by simp, by simpa using htext.symm⟩
    | cons c later =>
        obtain rfl := (List.cons.inj htext).1
        exact absurd (List.mem_append_right before List.mem_cons_self) hpart

/-- A tag stands behind any other one. -/
theorem IsTag.exists_of_tag_append (h : IsTag tag) (hother : IsTag other) (hne : other ≠ tag)
    (heq : other ++ text = before ++ (tag ++ rest)) :
    ∃ later, before = other ++ later ∧ text = later ++ (tag ++ rest) := by
  cases before with
  | nil => exact absurd (hother.append_inj h heq).1 hne
  | cons c before =>
      obtain ⟨part, rfl, hpart⟩ := hother.exists_cons
      obtain ⟨rfl, hbehind⟩ := List.cons.inj heq
      obtain ⟨later, rfl, htext⟩ := h.exists_of_append hpart hbehind
      exact ⟨later, rfl, htext⟩

/-- A tag does not reach into a tag that follows. -/
theorem IsTag.infix_of_prefix_append (h : IsTag tag) (hother : IsTag other) {c : Char}
    (hfront : tag <+: c :: part ++ (other ++ rest)) : tag <:+: c :: part := by
  obtain ⟨text, heq⟩ := hfront
  obtain ⟨inner, rfl, hinner⟩ := h.exists_cons
  obtain ⟨rfl, hbehind⟩ := List.cons.inj heq
  obtain ⟨later, rfl, -⟩ := hother.exists_of_append hinner hbehind
  exact List.IsPrefix.isInfix ⟨later, rfl⟩

end Tags

/-! ## Searching -/

theorem occursIn_iff (part text : List Char) : occursIn part text = true ↔ part <:+: text := by
  induction text with
  | nil => simp [occursIn]
  | cons c text ih =>
      rw [occursIn, Bool.or_eq_true, List.isPrefixOf_iff_prefix, List.infix_cons_iff, ih]

theorem not_infix_of_cut? {part text before after : List Char} (hne : part ≠ [])
    (h : cut? part text = some (before, after)) : ¬ part <:+: before := by
  induction text generalizing before after with
  | nil =>
      rw [cut?, if_neg (by simpa using hne)] at h
      cases h
  | cons c text ih =>
      rw [cut?] at h
      split at h
      · cases h
        simpa using hne
      · rename_i hfront
        obtain ⟨⟨front, back⟩, hcut, h⟩ := Option.map_eq_some_iff.1 h
        cases h
        rw [List.infix_cons_iff, not_or]
        refine ⟨fun hstarts => hfront ?_, ih hcut⟩
        rw [List.isPrefixOf_iff_prefix, eq_append_of_cut? hcut, List.append_assoc]
        exact hstarts.trans (List.prefix_append (c :: front) _)

theorem cut?_append {closing inner : List Char} (h : IsTag closing) (hinner : ¬ closing <:+: inner)
    (rest : List Char) : cut? closing (inner ++ (closing ++ rest)) = some (inner, rest) := by
  induction inner with
  | nil =>
      obtain ⟨c, part, hpart⟩ := List.exists_cons_of_ne_nil h.ne_nil
      have hcut : cut? closing (closing ++ rest) =
          some ([], (closing ++ rest).drop closing.length) := by
        conv_lhs => rw [hpart, List.cons_append, cut?]
        rw [← List.cons_append, ← hpart, if_pos (by simp)]
      rw [List.nil_append, hcut, List.drop_left]
  | cons c inner ih =>
      rw [List.infix_cons_iff, not_or] at hinner
      have hno : ¬ closing.isPrefixOf (c :: (inner ++ (closing ++ rest))) = true := by
        rw [List.isPrefixOf_iff_prefix]
        intro hstarts
        have hwithin := h.infix_of_prefix_append h hstarts
        rw [List.infix_cons_iff] at hwithin
        exact hwithin.elim hinner.1 hinner.2
      rw [List.cons_append, cut?, if_neg hno, ih hinner.2]
      rfl

/-! ## Texts with another value -/

section Renewing

variable {tags : Tags} {value text after before rest : List Char}

/-- Whether an opening tag stands at the start of a text, and a closing one behind it. -/
def Starts (tags : Tags) (text : List Char) : Prop :=
  ∃ rest, text = tags.opening ++ rest ∧ tags.closing <:+: rest

def HasElement (tags : Tags) (text : List Char) : Prop :=
  ∃ before rest, text = before ++ rest ∧ Starts tags rest

/-- How a text with elements becomes one with another value of these elements. -/
inductive Renews (tags : Tags) (value : List Char) : (text after : List Char) → Prop
  | nil : Renews tags value [] []
  | letter {c : Char} {text after : List Char} (hnone : ¬ Starts tags (c :: text))
      (h : Renews tags value text after) : Renews tags value (c :: text) (c :: after)
  | element {inner text after : List Char} (hinner : ¬ tags.closing <:+: inner)
      (h : Renews tags value text after) :
      Renews tags value (tags.opening ++ (inner ++ (tags.closing ++ text)))
        (tags.opening ++ (value ++ (tags.closing ++ after)))

def whole (tags : Tags) (value : List Char) : List Char := tags.opening ++ value ++ tags.closing

/-- Whether every opening tag that is not left open is followed by a value and the closing tag. -/
def Settled (tags : Tags) (value text : List Char) : Prop :=
  ∀ before rest, text = before ++ (tags.opening ++ rest) → tags.closing <:+: rest →
    value ++ tags.closing <+: rest

theorem starts_append_iff (rest : List Char) :
    Starts tags (tags.opening ++ rest) ↔ tags.closing <:+: rest := by
  constructor
  · rintro ⟨other, heq, hclosing⟩
    rwa [List.append_cancel_left heq]
  · exact fun h => ⟨rest, rfl, h⟩

theorem start?_append (hproper : tags.Proper) {inner : List Char}
    (hinner : ¬ tags.closing <:+: inner) (rest : List Char) :
    start? tags (tags.opening ++ (inner ++ (tags.closing ++ rest))) =
      some (tags.opening ++ inner ++ tags.closing) := by
  rw [start?, if_pos (by simp), List.drop_left, cut?_append hproper.closing hinner]
  rfl

theorem start?_eq_none (h : ¬ Starts tags text) :
    start? tags text = none := by
  unfold start?
  split
  · rename_i hfront
    obtain ⟨rest, rfl⟩ := List.isPrefixOf_iff_prefix.1 hfront
    rw [starts_append_iff, ← occursIn_iff, ← isSome_cut?,
      Option.not_isSome_iff_eq_none] at h
    rw [List.drop_left, h]
    rfl
  · rfl

/-- What stands at the start of a text is an element with the first closing tag, or no element. -/
theorem starts_cases (hproper : tags.Proper) (h : Starts tags text) :
    ∃ inner rest, text = tags.opening ++ (inner ++ (tags.closing ++ rest)) ∧
      ¬ tags.closing <:+: inner := by
  obtain ⟨rest, rfl, hclosing⟩ := h
  have hcut : (cut? tags.closing rest).isSome = true := by
    rw [isSome_cut?, occursIn_iff]
    exact hclosing
  obtain ⟨⟨inner, behind⟩, hcut⟩ := Option.isSome_iff_exists.1 hcut
  refine ⟨inner, behind, ?_, not_infix_of_cut? hproper.closing.ne_nil hcut⟩
  rw [eq_append_of_cut? hcut, List.append_assoc]

theorem replaceFrom_append (tags : Tags) (change : List Char → List Char)
    (skipped text : List Char) :
    replaceFrom tags change skipped.length (skipped ++ text) = replaceFrom tags change 0 text := by
  induction skipped with
  | nil => rfl
  | cons c skipped ih => exact ih

theorem replaceAll_element (hproper : tags.Proper) {inner : List Char}
    (hinner : ¬ tags.closing <:+: inner) (change : List Char → List Char) (rest : List Char) :
    replaceAll tags change (tags.opening ++ (inner ++ (tags.closing ++ rest))) =
      change (tags.opening ++ inner ++ tags.closing) ++ replaceAll tags change rest := by
  obtain ⟨part, hpart, -⟩ := hproper.opening.exists_cons
  have hstart := start?_append hproper hinner rest
  rw [hpart] at hstart ⊢
  simp only [List.cons_append] at hstart ⊢
  have hskip := replaceFrom_append tags change (part ++ (inner ++ tags.closing)) rest
  simp only [List.append_assoc] at hskip
  simp only [replaceAll, replaceFrom, hstart, List.length_cons, Nat.add_sub_cancel,
    List.append_assoc, hskip]

theorem replaceAll_letter {c : Char} (hnone : ¬ Starts tags (c :: text))
    (change : List Char → List Char) :
    replaceAll tags change (c :: text) = c :: replaceAll tags change text := by
  rw [replaceAll, replaceFrom, start?_eq_none hnone]
  rfl

/-- A replacement that is always the same makes the text with its value. -/
theorem Renews.replaceAll_eq (hproper : tags.Proper) (h : Renews tags value text after)
    {change : List Char → List Char} (hchange : ∀ element, change element = whole tags value) :
    replaceAll tags change text = after := by
  induction h with
  | nil => rfl
  | letter hnone _ ih => rw [replaceAll_letter hnone, ih]
  | element hinner _ ih =>
      rw [replaceAll_element hproper hinner, hchange, ih, whole]
      simp only [List.append_assoc]

theorem exists_renews (hproper : tags.Proper) (value text : List Char) :
    ∃ after, Renews tags value text after := by
  induction hlength : text.length using Nat.strong_induction_on generalizing text with
  | _ length ih =>
      by_cases hstarts : Starts tags text
      · obtain ⟨inner, rest, rfl, hinner⟩ := starts_cases hproper hstarts
        have hpos := List.length_pos_iff.2 hproper.opening.ne_nil
        simp only [List.length_append] at hlength
        obtain ⟨after, hafter⟩ := ih rest.length (by omega) rest rfl
        exact ⟨_, .element hinner hafter⟩
      · cases text with
        | nil => exact ⟨[], .nil⟩
        | cons c text =>
            obtain ⟨after, hafter⟩ := ih text.length (by rw [← hlength]; simp) text rfl
            exact ⟨_, .letter hstarts hafter⟩

/-! ## Marks and line ends -/

theorem Renews.head?_eq (hproper : tags.Proper) (h : Renews tags value text after) :
    after.head? = text.head? := by
  cases h with
  | nil => rfl
  | letter => rfl
  | element => rw [hproper.opening.head?, hproper.opening.head?]

theorem starts_withLineFeeds_iff (hproper : tags.Proper) :
    Starts tags (withLineFeeds text) ↔ Starts tags text := by
  have hopening := hproper.opening.isUnbroken
  have hreturn : '\r' ∉ tags.opening := fun hmem => by
    simpa using List.all_eq_true.1 hopening _ hmem
  have hclosing (rest : List Char) :
      tags.closing <:+: withLineFeeds rest ↔ tags.closing <:+: rest :=
    infix_withLineFeeds_iff hproper.closing.isUnbroken hproper.closing.ne_nil
  constructor
  · rintro ⟨rest, heq, hrest⟩
    obtain ⟨rest', rfl⟩ := (prefix_withLineFeeds_iff hopening).1 ⟨rest, heq.symm⟩
    rw [withLineFeeds_append_of_not_mem hreturn] at heq
    exact ⟨rest', rfl, (hclosing rest').1 (List.append_cancel_left heq ▸ hrest)⟩
  · rintro ⟨rest, rfl, hrest⟩
    rw [withLineFeeds_append_of_not_mem hreturn]
    exact ⟨_, rfl, (hclosing rest).2 hrest⟩

theorem not_starts_of_ne (hproper : tags.Proper) {c : Char} (h : c ≠ '<') (text : List Char) :
    ¬ Starts tags (c :: text) := by
  rintro ⟨rest, heq, -⟩
  have hhead := congrArg List.head? heq
  rw [hproper.opening.head?] at hhead
  exact h (Option.some.inj hhead)

/-- Line ends are changed and values are renewed in either order. -/
theorem Renews.withLineFeeds (hproper : tags.Proper) (hvalue : '\r' ∉ value)
    (h : Renews tags value text after) :
    Renews tags value (withLineFeeds text) (withLineFeeds after) := by
  have hplain : ∀ {tag}, IsTag tag → ∀ text,
      Text.withLineFeeds (tag ++ text) = tag ++ Text.withLineFeeds text := by
    intro tag htag
    refine withLineFeeds_append_of_not_mem fun hmem => ?_
    simpa using List.all_eq_true.1 htag.isUnbroken _ hmem
  induction h with
  | nil => exact .nil
  | @letter c text after hnone h ih =>
      by_cases hc : c = '\r'
      · subst hc
        rw [withLineFeeds_return, withLineFeeds_return, h.head?_eq hproper]
        split
        · exact ih
        · exact .letter (not_starts_of_ne hproper (by decide) _) ih
      · rw [withLineFeeds_cons hc, withLineFeeds_cons hc]
        refine .letter ?_ ih
        rwa [← withLineFeeds_cons hc, starts_withLineFeeds_iff hproper]
  | @element inner text after hinner h ih =>
      have hhead (text : List Char) : (tags.closing ++ text).head? ≠ some '\n' := by
        rw [hproper.closing.head?]
        decide
      rw [hplain hproper.opening, hplain hproper.opening, withLineFeeds_append (hhead text),
        withLineFeeds_append_of_not_mem hvalue, hplain hproper.closing, hplain hproper.closing]
      refine .element ?_ ih
      rwa [infix_withLineFeeds_iff hproper.closing.isUnbroken hproper.closing.ne_nil]

theorem Renews.unmarked (hproper : tags.Proper) (h : Renews tags value text after) :
    Renews tags value (unmarked text) (unmarked after) := by
  by_cases hmark : text.head? = some markChar
  · cases h with
    | nil => exact .nil
    | @letter c text after hnone h =>
        obtain rfl := Option.some.inj hmark
        exact h
    | element =>
        rw [hproper.opening.head?] at hmark
        exact absurd hmark (by decide)
  · rw [unmarked_of_head?_ne hmark, unmarked_of_head?_ne (h.head?_eq hproper ▸ hmark)]
    exact h

theorem Renews.asRead (hproper : tags.Proper) (hvalue : '\r' ∉ value)
    (h : Renews tags value text after) : Renews tags value (asRead text) (asRead after) :=
  (h.unmarked hproper).withLineFeeds hproper hvalue

/-! ## Renewing again -/

theorem Renews.eq_or_closes (h : Renews tags value text after) :
    after = text ∨ tags.closing <:+: text := by
  induction h with
  | nil => exact Or.inl rfl
  | letter _ _ ih => exact ih.imp (congrArg _) List.infix_cons
  | @element inner text => exact Or.inr ⟨tags.opening ++ inner, text, by simp⟩

theorem Renews.closing_within (h : Renews tags value text after)
    (hclosing : tags.closing <:+: after) : tags.closing <:+: text :=
  h.eq_or_closes.elim (fun hsame => hsame ▸ hclosing) id

section Plain

variable {part : List Char}

/-- What holds no opening bracket stays where it stands. -/
theorem Renews.exists_of_append (hproper : tags.Proper) (hpart : '<' ∉ part)
    (h : Renews tags value (part ++ text) after) :
    ∃ rest, after = part ++ rest ∧ Renews tags value text rest := by
  induction part generalizing after with
  | nil => exact ⟨after, rfl, h⟩
  | cons c part ih =>
      obtain ⟨hc, hpart⟩ := List.ne_and_not_mem_of_not_mem_cons hpart
      generalize htext : c :: part ++ text = whole at h
      cases h with
      | nil => cases htext
      | letter hnone h =>
          obtain ⟨rfl, rfl⟩ := List.cons.inj htext
          obtain ⟨rest, rfl, hrest⟩ := ih hpart h
          exact ⟨rest, rfl, hrest⟩
      | element =>
          have hhead := congrArg List.head? htext
          rw [hproper.opening.head?] at hhead
          exact absurd (Option.some.inj hhead).symm hc

/-- What holds no opening bracket was there before. -/
theorem Renews.exists_of_eq_append (hproper : tags.Proper) (hpart : '<' ∉ part)
    (h : Renews tags value text (part ++ rest)) :
    ∃ text', text = part ++ text' ∧ Renews tags value text' rest := by
  induction part generalizing text with
  | nil => exact ⟨text, rfl, h⟩
  | cons c part ih =>
      obtain ⟨hc, hpart⟩ := List.ne_and_not_mem_of_not_mem_cons hpart
      generalize hafter : c :: part ++ rest = whole at h
      cases h with
      | nil => cases hafter
      | letter hnone h =>
          obtain ⟨rfl, rfl⟩ := List.cons.inj hafter
          obtain ⟨text', rfl, htext⟩ := ih hpart h
          exact ⟨text', rfl, htext⟩
      | element =>
          have hhead := congrArg List.head? hafter
          rw [hproper.opening.head?] at hhead
          exact absurd (Option.some.inj hhead).symm hc

end Plain

/-- Where an opening tag stands behind a renewed element or a letter, or at its start. -/
theorem Renews.settled (hproper : tags.Proper) (hvalue : '<' ∉ value)
    (h : Renews tags value text after) : Settled tags value after := by
  intro before rest hafter hclosing
  induction h generalizing before with
  | nil => exact absurd hafter (by simp [hproper.opening.ne_nil])
  | @letter c text after hnone h ih =>
      cases before with
      | cons d before => exact ih before (List.cons.inj hafter).2
      | nil =>
          -- the opening tag would stand at the start of an element before
          exfalso
          obtain ⟨part, hpart, hopen⟩ := hproper.opening.exists_cons
          rw [hpart] at hafter
          obtain ⟨rfl, rfl⟩ := List.cons.inj hafter
          obtain ⟨text', rfl, htext⟩ := h.exists_of_eq_append hproper hopen
          rw [← List.cons_append, ← hpart, starts_append_iff] at hnone
          exact hnone (htext.closing_within hclosing)
  | @element inner text after hinner h ih =>
      by_cases hbefore : before = []
      · rw [hbefore, List.nil_append] at hafter
        rw [← List.append_cancel_left hafter, ← List.append_assoc]
        exact List.prefix_append _ _
      · obtain ⟨c, before, rfl⟩ := List.exists_cons_of_ne_nil hbefore
        obtain ⟨part, hpart, hopen⟩ := hproper.opening.exists_cons
        have hskip := congrArg List.tail hafter
        conv_lhs at hskip => rw [hpart]
        simp only [List.cons_append, List.tail_cons] at hskip
        rw [← List.append_assoc] at hskip
        obtain ⟨later, -, hlater⟩ :=
          hproper.opening.exists_of_append (by simp [hopen, hvalue]) hskip
        obtain ⟨later, -, hlater⟩ := hproper.opening.exists_of_tag_append hproper.closing
          hproper.apart.symm hlater
        exact ih later hlater

theorem Settled.renews (hproper : tags.Proper) (hvalue : '<' ∉ value)
    (h : Settled tags value text) : Renews tags value text text := by
  have hclosing : ¬ tags.closing <:+: value := fun hwithin => by
    obtain ⟨part, hpart, -⟩ := hproper.closing.exists_cons
    exact hvalue (hwithin.subset (hpart ▸ List.mem_cons_self))
  induction hlength : text.length using Nat.strong_induction_on generalizing text with
  | _ length ih =>
      by_cases hstarts : Starts tags text
      · obtain ⟨rest, rfl, hwithin⟩ := hstarts
        obtain ⟨behind, rfl⟩ := h [] rest rfl hwithin
        have hpos := List.length_pos_iff.2 hproper.opening.ne_nil
        simp only [List.length_append] at hlength
        rw [List.append_assoc]
        refine .element hclosing (ih behind.length (by omega) (fun before rest hbehind => ?_) rfl)
        refine h (tags.opening ++ (value ++ tags.closing) ++ before) rest ?_
        rw [hbehind]
        simp
      · cases text with
        | nil => exact .nil
        | cons c text =>
            refine .letter hstarts (ih text.length (by rw [← hlength]; simp)
              (fun before rest htext => h (c :: before) rest ?_) rfl)
            rw [htext, List.cons_append]

/-! ## Two kinds of elements -/

section Foreign

variable {tag : List Char}

/-- A tag of another kind was there before. -/
theorem Renews.exists_of_foreign (hproper : tags.Proper) (hvalue : '<' ∉ value) (htag : IsTag tag)
    (hopening : tags.opening ≠ tag) (hclosing : tags.closing ≠ tag)
    (h : Renews tags value text after) (hafter : after = before ++ (tag ++ rest)) :
    ∃ before' rest', text = before' ++ (tag ++ rest') ∧ Renews tags value rest' rest := by
  induction h generalizing before with
  | nil => exact absurd hafter (by simp [htag.ne_nil])
  | @letter c text after hnone h ih =>
      cases before with
      | cons d before =>
          obtain ⟨before', rest', rfl, hrest⟩ := ih (List.cons.inj hafter).2
          exact ⟨c :: before', rest', rfl, hrest⟩
      | nil =>
          obtain ⟨part, rfl, hpart⟩ := htag.exists_cons
          obtain ⟨rfl, rfl⟩ := List.cons.inj hafter
          obtain ⟨text', rfl, htext⟩ := h.exists_of_eq_append hproper hpart
          exact ⟨[], text', rfl, htext⟩
  | @element inner text after hinner h ih =>
      obtain ⟨later, -, hlater⟩ := htag.exists_of_tag_append hproper.opening hopening hafter
      obtain ⟨later, -, hlater⟩ := htag.exists_of_append hvalue hlater
      obtain ⟨later, -, hlater⟩ := htag.exists_of_tag_append hproper.closing hclosing hlater
      obtain ⟨before', rest', rfl, hrest⟩ := ih hlater
      exact ⟨tags.opening ++ (inner ++ (tags.closing ++ before')), rest', by simp, hrest⟩

/-- A tag of another kind stays where nothing in front of it changes. -/
theorem Renews.exists_of_foreign_append (hproper : tags.Proper) (htag : IsTag tag)
    (hopening : tags.opening ≠ tag) (h : Renews tags value (tag ++ text) after) :
    ∃ rest, after = tag ++ rest ∧ Renews tags value text rest := by
  generalize htext : tag ++ text = whole at h
  cases h with
  | nil => exact absurd htext (by simp [htag.ne_nil])
  | letter hnone h =>
      obtain ⟨part, rfl, hpart⟩ := htag.exists_cons
      obtain ⟨rfl, rfl⟩ := List.cons.inj htext
      obtain ⟨rest, rfl, hrest⟩ := h.exists_of_append hproper hpart
      exact ⟨rest, rfl, hrest⟩
  | element => exact absurd (htag.append_inj hproper.opening htext).1.symm hopening

end Foreign

/-- Elements that have their value keep it when elements with other tags are renewed. -/
theorem Settled.of_renews {other : Tags} (hproper : tags.Proper) (hother : other.Proper)
    (hopening : tags.opening ≠ other.opening ∧ tags.closing ≠ other.opening)
    (hclosing : tags.opening ≠ other.closing ∧ tags.closing ≠ other.closing)
    (hvalue : '<' ∉ value) (hsettled : Settled tags value text)
    (h : Renews other value text after) : Settled tags value after := by
  intro before rest hafter hwithin
  obtain ⟨before', rest', rfl, hrest⟩ := h.exists_of_foreign hother hvalue hproper.opening
    hopening.1.symm hclosing.1.symm hafter
  obtain ⟨front, back, hsplit⟩ := hwithin
  rw [List.append_assoc] at hsplit
  obtain ⟨front', back', rfl, -⟩ := hrest.exists_of_foreign hother hvalue hproper.closing
    hopening.2.symm hclosing.2.symm hsplit.symm
  obtain ⟨behind, hbehind⟩ := hsettled before' _ rfl ⟨front', back', by simp⟩
  rw [← hbehind, List.append_assoc] at hrest
  obtain ⟨next, rfl, hnext⟩ := hrest.exists_of_append hother hvalue
  obtain ⟨last, rfl, -⟩ := hnext.exists_of_foreign_append hother hproper.closing hopening.2.symm
  rw [← List.append_assoc]
  exact List.prefix_append _ _

/-! ## Elements of a text -/

theorem not_hasElement_nil (hproper : tags.Proper) : ¬ HasElement tags [] := by
  rintro ⟨before, rest, heq, behind, rfl, -⟩
  simp [hproper.opening.ne_nil] at heq

theorem hasElement_cons {c : Char} :
    HasElement tags (c :: text) ↔ Starts tags (c :: text) ∨ HasElement tags text := by
  constructor
  · rintro ⟨before, rest, heq, hrest⟩
    cases before with
    | nil => exact Or.inl (by rwa [heq])
    | cons d before => exact Or.inr ⟨before, rest, (List.cons.inj heq).2, hrest⟩
  · rintro (hstarts | ⟨before, rest, rfl, hrest⟩)
    · exact ⟨[], c :: text, rfl, hstarts⟩
    · exact ⟨c :: before, rest, rfl, hrest⟩

theorem start?_isSome_iff (hproper : tags.Proper) :
    (start? tags text).isSome = true ↔ Starts tags text := by
  constructor
  · intro hsome
    by_contra hnone
    rw [start?_eq_none hnone] at hsome
    cases hsome
  · intro hstarts
    obtain ⟨inner, rest, rfl, hinner⟩ := starts_cases hproper hstarts
    rw [start?_append hproper hinner]
    rfl

theorem occurs_iff (hproper : tags.Proper) : occurs tags text = true ↔ HasElement tags text := by
  induction text with
  | nil => exact iff_of_false (by simp [occurs]) (not_hasElement_nil hproper)
  | cons c text ih =>
      rw [occurs, Bool.or_eq_true, start?_isSome_iff hproper, hasElement_cons, ih]

theorem hasElement_of_whole (h : whole tags value <:+: text) : HasElement tags text := by
  obtain ⟨before, rest, rfl⟩ := h
  refine ⟨before, whole tags value ++ rest, by simp, value ++ (tags.closing ++ rest), ?_, ?_⟩
  · simp [whole]
  · exact ⟨value, rest, by simp⟩

/-- A text with an element has one with the new value. -/
theorem Renews.contains_whole (hproper : tags.Proper) (h : Renews tags value text after)
    (helement : HasElement tags text) : whole tags value <:+: after := by
  induction h with
  | nil => exact absurd helement (not_hasElement_nil hproper)
  | letter hnone h ih =>
      exact List.infix_cons (ih ((hasElement_cons.1 helement).resolve_left hnone))
  | @element inner text after => exact ⟨[], after, by simp [whole]⟩

theorem Renews.eq_self (h : Renews tags value text after) (hnone : ¬ HasElement tags text) :
    after = text := by
  induction h with
  | nil => rfl
  | letter _ _ ih => rw [ih fun helement => hnone (hasElement_cons.2 (Or.inr helement))]
  | @element inner text =>
      have hwithin : whole tags inner <:+: tags.opening ++ (inner ++ (tags.closing ++ text)) :=
        ⟨[], text, by simp [whole]⟩
      exact absurd (hasElement_of_whole hwithin) hnone

theorem hasElement_asRead_iff (hproper : tags.Proper) :
    HasElement tags (asRead text) ↔ HasElement tags text := by
  have hfeeds : ∀ text, HasElement tags (withLineFeeds text) ↔ HasElement tags text := by
    intro text
    induction text with
    | nil => rfl
    | cons c text ih =>
        by_cases hc : c = '\r'
        · rw [hc, hasElement_cons, or_iff_right (not_starts_of_ne hproper (by decide) _), ← ih,
            withLineFeeds_return]
          split
          · rfl
          · rw [hasElement_cons, or_iff_right (not_starts_of_ne hproper (by decide) _)]
        · rw [withLineFeeds_cons hc, hasElement_cons, hasElement_cons, ih,
            ← withLineFeeds_cons hc, starts_withLineFeeds_iff hproper]
  rw [asRead, hfeeds]
  by_cases hmark : text.head? = some markChar
  · obtain ⟨rest, rfl⟩ := List.head?_eq_some_iff.1 hmark
    rw [unmarked_mark, hasElement_cons, or_iff_right (not_starts_of_ne hproper (by decide) _)]
  · rw [unmarked_of_head?_ne hmark]

end Renewing

end SetupForge.Element
