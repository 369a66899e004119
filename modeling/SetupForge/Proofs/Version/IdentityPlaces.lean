import SetupForge.Proofs.Text.LeadingBlanks
import SetupForge.Proofs.Text.LineFeeds
import SetupForge.Version.Identity

/-! # Where an identity has its version

A version stands between quotes behind its name in the tag of an identity. Of all such places in a
text, the one in the first tag counts, and of those in one tag the first again. Replacing the
version changes nothing outside of the quotes, and the place stays the first one.
-/

namespace SetupForge.IdentityVersion

open Text

variable {c : Char} {part rest text name left right value after skipped : List Char}

/-! ## The attribute -/

def IsName (name : List Char) : Prop :=
  ∃ left right, name = versionName ++ (left ++ '=' :: right) ∧ AllBlank left ∧ AllBlank right

theorem not_startsBlank_equals (text : List Char) : ¬ StartsBlank ('=' :: text) := by
  rw [startsBlank_cons]
  decide

theorem not_startsBlank_quote (text : List Char) : ¬ StartsBlank ('"' :: text) := by
  rw [startsBlank_cons]
  decide

theorem AllBlank.quote_not_mem (h : AllBlank part) : '"' ∉ part := fun hmem =>
  absurd (h '"' hmem) (by decide)

theorem IsName.quote_not_mem (h : IsName name) : '"' ∉ name := by
  obtain ⟨left, right, rfl, hleft, hright⟩ := h
  have hword : '"' ∉ versionName := by decide
  simp [hword, AllBlank.quote_not_mem hleft, AllBlank.quote_not_mem hright]

theorem equals?_eq_some_iff :
    equals? text = some part ↔ ∃ left right rest, part = left ++ '=' :: right ∧
      text = part ++ rest ∧ AllBlank left ∧ AllBlank right ∧ ¬ StartsBlank rest := by
  unfold equals?
  dsimp only
  constructor
  · intro h
    split at h
    · rename_i behind hbehind
      cases h
      refine ⟨_, _, dropBlanks behind, rfl, ?_, allBlank_takeWhile text,
        allBlank_takeWhile behind, not_startsBlank_dropBlanks behind⟩
      rw [List.append_assoc, List.cons_append, takeWhile_append_dropBlanks, ← hbehind]
      exact (takeWhile_append_dropBlanks text).symm
    · cases h
  · rintro ⟨left, right, rest, rfl, rfl, hleft, hright, hrest⟩
    have hequals := not_startsBlank_equals (right ++ rest)
    have hdrop := dropBlanks_append hleft hequals
    rw [List.append_assoc, List.cons_append, takeWhile_append hleft hequals]
    rw [dropBlanks] at hdrop
    simp only [hdrop, takeWhile_append hright hrest]

theorem dropWhile_quote (hvalue : '"' ∉ value) (after : List Char) :
    (value ++ '"' :: after).dropWhile (· ≠ '"') = '"' :: after := by
  rw [List.dropWhile_append_of_pos fun c hc => by simpa using ne_of_mem_of_not_mem hc hvalue,
    List.dropWhile_cons_of_neg (by simp)]

theorem exists_of_dropWhile_quote (h : text.dropWhile (· ≠ '"') = c :: after) :
    ∃ value, '"' ∉ value ∧ text = value ++ '"' :: after := by
  have hc : c = '"' := by
    have hhead := List.head?_dropWhile_not (· ≠ '"') text
    rw [h] at hhead
    simpa using hhead
  subst hc
  refine ⟨text.takeWhile (· ≠ '"'), fun hmem => ?_, ?_⟩
  · simpa using List.mem_takeWhile_imp hmem
  · rw [← h, List.takeWhile_append_dropWhile]

theorem attribute?_eq_some_iff :
    attribute? text = some (name, after) ↔
      IsName name ∧ ∃ value, '"' ∉ value ∧ text = name ++ '"' :: (value ++ '"' :: after) := by
  have hdrop : ∀ part rest : List Char,
      (versionName ++ (part ++ rest)).drop (versionName.length + part.length) = rest := by
    intro part rest
    rw [← List.append_assoc, ← List.length_append, List.drop_left]
  unfold attribute?
  constructor
  · intro h
    split at h
    · rename_i hfront
      obtain ⟨rest, rfl⟩ := List.isPrefixOf_iff_prefix.1 hfront
      rw [List.drop_left] at h
      split at h
      · cases h
      · rename_i part hpart
        obtain ⟨left, right, rest, rfl, rfl, hleft, hright, -⟩ := equals?_eq_some_iff.1 hpart
        rw [hdrop] at h
        split at h
        · rename_i text
          split at h
          · rename_i hafter
            cases h
            obtain ⟨value, hvalue, rfl⟩ := exists_of_dropWhile_quote hafter
            exact ⟨⟨left, right, rfl, hleft, hright⟩, value, hvalue, by simp⟩
          · cases h
        · cases h
    · cases h
  · rintro ⟨⟨left, right, rfl, hleft, hright⟩, value, hvalue, rfl⟩
    have hequals : equals? ((left ++ '=' :: right) ++ '"' :: (value ++ '"' :: after)) =
        some (left ++ '=' :: right) :=
      equals?_eq_some_iff.2 ⟨left, right, _, rfl, rfl, hleft, hright, not_startsBlank_quote _⟩
    rw [List.append_assoc versionName, if_pos (by simp), List.drop_left]
    simp only [hequals, hdrop, dropWhile_quote hvalue]

/-! ## Places -/

/-- A place where an identity has its version: the tag of the identity stands behind some text, and
the attribute is a word of its own in this tag. -/
structure Place where
  before : List Char
  /-- What stands in the tag in front of the attribute. -/
  skipped : List Char
  name : List Char
  value : List Char
  after : List Char
  starts : ∃ c ∈ skipped.head?, isWordChar c = false
  ends : ∃ c ∈ skipped.getLast?, isWordChar c = false
  inTag : '>' ∉ skipped
  isName : IsName name
  unquoted : '"' ∉ value

namespace Place

/-- What follows in front of the tag, with some value in place of the version. -/
def tagWith (place : Place) (value : List Char) : List Char :=
  opening ++ (place.skipped ++ (place.name ++ '"' :: (value ++ '"' :: place.after)))

def textWith (place : Place) (value : List Char) : List Char :=
  place.before ++ place.tagWith value

def source (place : Place) : List Char := place.textWith place.value

def IsFirst (place : Place) : Prop :=
  ∀ other : Place, other.source = place.source →
    place.before.length < other.before.length ∨
      place.before.length = other.before.length ∧ place.skipped.length ≤ other.skipped.length

def withValue (place : Place) {value : List Char} (h : '"' ∉ value) : Place :=
  { place with value, unquoted := h }

def behind (place : Place) (before : List Char) : Place := { place with before }

def lead (place : Place) : List Char :=
  place.before ++ (opening ++ (place.skipped ++ place.name))

theorem textWith_eq (place : Place) (value : List Char) :
    place.textWith value = place.lead ++ '"' :: (value ++ '"' :: place.after) := by
  simp [textWith, tagWith, lead]

end Place

/-! ## The first place -/

/-- How a tag goes on up to the version, behind a word or not. -/
structure Inside (inWord : Bool) (text skipped name value after : List Char) : Prop where
  text_eq : text = skipped ++ (name ++ '"' :: (value ++ '"' :: after))
  ends : (skipped.getLast?.map isWordChar).getD inWord = false
  inTag : '>' ∉ skipped
  isName : IsName name
  unquoted : '"' ∉ value

theorem inside_cons_iff {inWord : Bool} :
    Inside inWord (c :: text) (c :: skipped) name value after ↔
      c ≠ '>' ∧ Inside (isWordChar c) text skipped name value after := by
  have hlast : ((c :: skipped).getLast?.map isWordChar).getD inWord =
      (skipped.getLast?.map isWordChar).getD (isWordChar c) := by
    rw [List.getLast?_cons]
    cases skipped.getLast? <;> rfl
  constructor
  · rintro ⟨htext, hends, htag, hname, hvalue⟩
    obtain ⟨hc, htag⟩ := List.ne_and_not_mem_of_not_mem_cons htag
    exact ⟨hc.symm, (List.cons.inj htext).2, hlast ▸ hends, htag, hname, hvalue⟩
  · rintro ⟨hc, htext, hends, htag, hname, hvalue⟩
    exact ⟨by rw [htext]; rfl, hlast ▸ hends, by simp [hc.symm, htag], hname, hvalue⟩

/-- The version is replaced at the first place in the tag. -/
theorem replaceValue?_cases (new : List Char) (inWord : Bool) (text : List Char) :
    (∃ skipped name value after, Inside inWord text skipped name value after ∧
      (∀ skipped' name' value' after', Inside inWord text skipped' name' value' after' →
        skipped.length ≤ skipped'.length) ∧
      replaceValue? new inWord text =
        some (skipped ++ (name ++ '"' :: (new ++ '"' :: after)))) ∨
    ((∀ skipped name value after, ¬ Inside inWord text skipped name value after) ∧
      replaceValue? new inWord text = none) := by
  induction text generalizing inWord with
  | nil =>
      refine Or.inr ⟨fun skipped name value after h => ?_, rfl⟩
      have hnil := h.text_eq
      simp at hnil
  | cons c text ih =>
      rw [replaceValue?]
      cases hfound : if inWord then none else attribute? (c :: text) with
      | some found =>
          obtain ⟨name, after⟩ := found
          cases inWord with
          | true => cases hfound
          | false =>
              obtain ⟨hname, value, hvalue, htext⟩ := attribute?_eq_some_iff.1 hfound
              exact Or.inl ⟨[], name, value, after, ⟨htext, rfl, by simp, hname, hvalue⟩,
                fun _ _ _ _ _ => Nat.zero_le _, by simp⟩
      | none =>
          have hcons : ∀ skipped name value after,
              Inside inWord (c :: text) skipped name value after → ∃ rest, skipped = c :: rest := by
            intro skipped name value after h
            cases skipped with
            | nil =>
                exfalso
                have hword : inWord = false := h.ends
                rw [hword] at hfound
                have hattribute := attribute?_eq_some_iff.2 ⟨h.isName, value, h.unquoted, h.text_eq⟩
                rw [if_neg (by simp), hattribute] at hfound
                cases hfound
            | cons d skipped =>
                exact ⟨skipped, by rw [(List.cons.inj h.text_eq).1]⟩
          dsimp only
          split
          · rename_i hclose
            refine Or.inr ⟨fun skipped name value after h => ?_, rfl⟩
            obtain ⟨rest, rfl⟩ := hcons _ _ _ _ h
            exact (inside_cons_iff.1 h).1 hclose
          · rename_i hclose
            rcases ih (isWordChar c) with
              ⟨skipped, name, value, after, hinside, hleast, heq⟩ | ⟨hnone, heq⟩
            · refine Or.inl ⟨c :: skipped, name, value, after, inside_cons_iff.2 ⟨hclose, hinside⟩,
                fun skipped' name' value' after' h => ?_, by rw [heq]; rfl⟩
              obtain ⟨rest, rfl⟩ := hcons _ _ _ _ h
              exact Nat.succ_le_succ (hleast _ _ _ _ (inside_cons_iff.1 h).2)
            · refine Or.inr ⟨fun skipped name value after h => ?_, by rw [heq]; rfl⟩
              obtain ⟨rest, rfl⟩ := hcons _ _ _ _ h
              exact hnone _ _ _ _ (inside_cons_iff.1 h).2

theorem getD_eq_false_iff {c? : Option Char} :
    (c?.map isWordChar).getD true = false ↔ ∃ c ∈ c?, isWordChar c = false := by
  cases c? <;> simp

def Inside.place (h : Inside true text skipped name value after)
    (hstarts : startsWord text = false) : Place where
  before := []
  skipped := skipped
  name := name
  value := value
  after := after
  starts := by
    cases skipped with
    | nil => cases h.ends
    | cons c rest =>
        rw [h.text_eq] at hstarts
        exact ⟨c, rfl, hstarts⟩
  ends := getD_eq_false_iff.1 h.ends
  inTag := h.inTag
  isName := h.isName
  unquoted := h.unquoted

theorem Place.inside (place : Place) (h : place.source = opening ++ text)
    (hbefore : place.before = []) :
    Inside true text place.skipped place.name place.value place.after ∧
      startsWord text = false := by
  obtain ⟨c, hc, hword⟩ := place.starts
  obtain ⟨rest, hrest⟩ := List.head?_eq_some_iff.1 hc
  have htext : text =
      place.skipped ++ (place.name ++ '"' :: (place.value ++ '"' :: place.after)) := by
    rw [source, textWith, hbefore, List.nil_append, tagWith] at h
    exact (List.append_cancel_left h).symm
  refine ⟨⟨htext, getD_eq_false_iff.2 place.ends, place.inTag, place.isName, place.unquoted⟩, ?_⟩
  rw [htext, hrest]
  exact hword

/-- The version is replaced at the first place in the tag that a text starts with. -/
theorem replaceTag?_cases (new text : List Char) :
    (∃ place : Place, place.before = [] ∧ place.source = text ∧
      (∀ other : Place, other.before = [] → other.source = text →
        place.skipped.length ≤ other.skipped.length) ∧
      replaceTag? new text = some (place.textWith new)) ∨
    ((∀ place : Place, place.before = [] → place.source ≠ text) ∧ replaceTag? new text = none) := by
  unfold replaceTag?
  dsimp only
  by_cases hopening : opening <+: text
  · obtain ⟨rest, rfl⟩ := hopening
    rw [List.drop_left]
    cases hword : startsWord rest with
    | true =>
        refine Or.inr ⟨fun place hbefore hsource => ?_, by simp⟩
        rw [(place.inside hsource hbefore).2] at hword
        cases hword
    | false =>
        rw [if_pos (by simp)]
        rcases replaceValue?_cases new true rest with
          ⟨skipped, name, value, after, hinside, hleast, heq⟩ | ⟨hnone, heq⟩
        · refine Or.inl ⟨hinside.place hword, rfl, ?_, fun other hbefore hsource => ?_, ?_⟩
          · exact congrArg (opening ++ ·) hinside.text_eq.symm
          · exact hleast _ _ _ _ (other.inside hsource hbefore).1
          · rw [heq]
            rfl
        · refine Or.inr ⟨fun place hbefore hsource => ?_, by rw [heq]; rfl⟩
          exact hnone _ _ _ _ (place.inside hsource hbefore).1
  · refine Or.inr ⟨fun place hbefore hsource => hopening ?_, ?_⟩
    · rw [← hsource, Place.source, Place.textWith, hbefore]
      exact List.prefix_append _ _
    · rw [if_neg (by simpa [List.isPrefixOf_iff_prefix] using fun h => absurd h hopening)]

theorem Place.exists_behind {place : Place} (h : place.source = c :: text)
    (hbefore : place.before ≠ []) :
    ∃ before, place.before = c :: before ∧ (place.behind before).source = text := by
  obtain ⟨d, before, hd⟩ := List.exists_cons_of_ne_nil hbefore
  rw [source, textWith, hd] at h
  obtain ⟨rfl, hrest⟩ := List.cons.inj h
  exact ⟨before, hd, hrest⟩

/-- The version is replaced at the first place of a text, if it has one. -/
theorem replaceFirst_cases (new text : List Char) :
    (∃ place : Place, place.IsFirst ∧ place.source = text ∧
      replaceFirst new text = place.textWith new) ∨
    ((∀ place : Place, place.source ≠ text) ∧ replaceFirst new text = text) := by
  induction text with
  | nil =>
      refine Or.inr ⟨fun place hsource => ?_, rfl⟩
      simp [Place.source, Place.textWith, Place.tagWith] at hsource
  | cons c text ih =>
      rw [replaceFirst]
      rcases replaceTag?_cases new (c :: text) with
        ⟨place, hbefore, hsource, hleast, heq⟩ | ⟨hnone, heq⟩
      · refine Or.inl ⟨place, fun other hother => ?_, hsource, by rw [heq]; rfl⟩
        rw [hbefore]
        by_cases hstart : other.before = []
        · rw [hstart]
          exact Or.inr ⟨rfl, hleast other hstart (hother.trans hsource)⟩
        · exact Or.inl (List.length_pos_iff.2 hstart)
      · have htail : ∀ place : Place, place.source = c :: text →
            ∃ before, place.before = c :: before ∧ (place.behind before).source = text :=
          fun place hsource => Place.exists_behind hsource fun h => hnone place h hsource
        rw [heq, Option.getD_none]
        rcases ih with ⟨place, hfirst, hsource, hreplace⟩ | ⟨hno, hreplace⟩
        · have hbehind : (place.behind (c :: place.before)).source = c :: text := by
            rw [← hsource]
            rfl
          refine Or.inl ⟨place.behind (c :: place.before), fun other hother => ?_, hbehind, ?_⟩
          · obtain ⟨before, hbefore, hrest⟩ := htail other (hother.trans hbehind)
            have hlengths := hfirst _ (hrest.trans hsource.symm)
            rw [hbefore]
            simpa [Place.behind] using hlengths
          · rw [hreplace]
            rfl
        · refine Or.inr ⟨fun place hsource => ?_, by rw [hreplace]⟩
          obtain ⟨before, -, hrest⟩ := htail place hsource
          exact hno _ hrest

/-! ## One first place -/

theorem quote_append_inj {other : List Char} (hvalue : '"' ∉ value) (hother : '"' ∉ other)
    (h : value ++ '"' :: text = other ++ '"' :: rest) : value = other ∧ text = rest := by
  have hbehind := congrArg (List.dropWhile (· ≠ '"')) h
  rw [dropWhile_quote hvalue, dropWhile_quote hother] at hbehind
  obtain ⟨-, rfl⟩ := List.cons.inj hbehind
  exact ⟨List.append_cancel_right h, rfl⟩

theorem Place.IsFirst.eq {place other : Place} (h : place.IsFirst) (hother : other.IsFirst)
    (hsource : other.source = place.source) : other = place := by
  have hle := h other hsource
  have hge := hother place hsource.symm
  have hbefore : other.before.length = place.before.length := by omega
  have hskipped : other.skipped.length = place.skipped.length := by omega
  cases place with
  | mk before skipped name value after _ _ _ hname hvalue =>
      cases other with
      | mk before' skipped' name' value' after' _ _ _ hname' hvalue' =>
          simp only [source, textWith, tagWith] at hsource
          obtain ⟨rfl, htag⟩ := List.append_inj hsource hbefore
          obtain ⟨rfl, hattribute⟩ := List.append_inj (List.append_cancel_left htag) hskipped
          obtain ⟨rfl, hrest⟩ := quote_append_inj hname'.quote_not_mem hname.quote_not_mem
            hattribute
          obtain ⟨rfl, rfl⟩ := quote_append_inj hvalue' hvalue hrest
          rfl

/-- What stands in front of a value is all that makes a place. -/
theorem Place.exists_of_lead (place : Place) (h : '"' ∈ text) :
    ∃ other : Place, other.before = place.before ∧ other.skipped = place.skipped ∧
      other.source = place.lead ++ '"' :: text := by
  obtain ⟨value, after, rfl, hvalue⟩ := List.eq_append_cons_of_mem h
  exact ⟨{ place with value, after, unquoted := hvalue }, rfl, rfl, by
    rw [source, textWith_eq]
    rfl⟩

/-- Quotes that stand in front of a place's value but not in its name stand in what it skips. -/
theorem Place.exists_of_lead_cons {other : Place} {front : List Char}
    (h : other.lead = front ++ '"' :: rest) :
    ∃ later, other.before ++ (opening ++ other.skipped) = front ++ '"' :: later := by
  have hsplit : (other.before ++ (opening ++ other.skipped)) ++ other.name =
      front ++ '"' :: rest := by
    rw [← h, lead]
    simp
  rcases List.append_eq_append_iff.1 hsplit with ⟨later, -, hname⟩ | ⟨later, hbefore, hrest⟩
  · exact absurd (by simp [hname]) other.isName.quote_not_mem
  · cases later with
    | nil =>
        rw [List.nil_append] at hrest
        exact absurd (by simp [← hrest]) other.isName.quote_not_mem
    | cons c later =>
        obtain ⟨rfl, -⟩ := List.cons.inj hrest
        exact ⟨later, hbefore⟩

/-- What follows a tag up to the name of a place further behind can be skipped in this tag. -/
theorem Place.exists_of_part {place other : Place} {part tail : List Char}
    (hpart : other.before ++ opening ++ part = place.before ++ (opening ++ place.skipped))
    (hskipped : other.skipped = part ++ tail)
    (hlt : other.before.length < place.before.length) :
    ∃ found : Place, found.source = place.source ∧ found.before = other.before := by
  have hlong := congrArg List.length hpart
  simp only [List.length_append] at hlong
  have hne : part ≠ [] := by
    rintro rfl
    simp at hlong
    omega
  have hstarts : ∃ c ∈ part.head?, isWordChar c = false := by
    rw [← List.head?_append_of_ne_nil part hne, ← hskipped]
    exact other.starts
  have hends : ∃ c ∈ part.getLast?, isWordChar c = false := by
    obtain ⟨c, hc, hword⟩ := place.ends
    obtain ⟨d, hd⟩ := Option.isSome_iff_exists.1 (List.getLast?_isSome.2 hne)
    have hlast := congrArg List.getLast? hpart
    simp only [List.getLast?_append, Option.mem_def.1 hc, hd, Option.some_or] at hlast
    exact ⟨d, hd, by rwa [Option.some.inj hlast]⟩
  have htags : '>' ∉ part := fun hmem => other.inTag (by simp [hskipped, hmem])
  refine ⟨⟨other.before, part, place.name, place.value, place.after, hstarts, hends, htags,
    place.isName, place.unquoted⟩, ?_, rfl⟩
  simp only [source, textWith, tagWith]
  rw [← List.append_assoc, ← List.append_assoc, hpart]
  simp

/-- A place whose name stands behind the quotes of another one skips this one in its tag, and the
other one is a place of its tag, too. -/
theorem Place.exists_of_lead_eq {place other : Place}
    (h : other.lead = place.lead ++ '"' :: rest) :
    (place.before.length < other.before.length ∨
      place.before.length = other.before.length ∧
        place.skipped.length ≤ other.skipped.length) ∨
    ∃ found : Place, found.source = place.source ∧ found.before = other.before ∧
      other.before.length < place.before.length := by
  obtain ⟨later, hlater⟩ := exists_of_lead_cons h
  have hlength := congrArg List.length hlater
  simp only [lead, List.length_append, List.length_cons] at hlength
  rcases Nat.lt_trichotomy place.before.length other.before.length with hlt | heq | hgt
  · exact Or.inl (Or.inl hlt)
  · exact Or.inl (Or.inr ⟨heq, by omega⟩)
  · right
    have htag : other.before ++ opening <+: other.before ++ (opening ++ other.skipped) :=
      ⟨other.skipped, by simp⟩
    have hfront : place.before ++ (opening ++ place.skipped) <+:
        other.before ++ (opening ++ other.skipped) :=
      ⟨place.name ++ '"' :: later, by rw [hlater, lead]; simp⟩
    obtain ⟨c, hc, -⟩ := place.starts
    have hpos := List.length_pos_of_mem (List.mem_of_mem_head? hc)
    obtain ⟨part, hpart⟩ := List.prefix_of_prefix_length_le htag hfront (by simp; omega)
    have hskipped : other.skipped = part ++ (place.name ++ '"' :: later) := by
      have hall : other.before ++ opening ++ other.skipped =
          other.before ++ opening ++ (part ++ (place.name ++ '"' :: later)) := by
        rw [← List.append_assoc _ part, hpart, List.append_assoc, hlater, lead]
        simp
      exact List.append_cancel_left hall
    obtain ⟨found, hsource, hbefore⟩ := exists_of_part hpart hskipped hgt
    exact ⟨found, hsource, hbefore, hgt⟩

theorem Place.IsFirst.withValue {place : Place} (h : place.IsFirst) (hvalue : '"' ∉ value) :
    (place.withValue hvalue).IsFirst := by
  intro other hsource
  show place.before.length < other.before.length ∨
    place.before.length = other.before.length ∧ place.skipped.length ≤ other.skipped.length
  -- a place in front of the same quotes was there with the old value
  have hsame : ∀ text, '"' ∈ text → place.source = other.lead ++ '"' :: text →
      place.before.length < other.before.length ∨
        place.before.length = other.before.length ∧
          place.skipped.length ≤ other.skipped.length := by
    intro text hquote htext
    obtain ⟨found, hbefore, hskipped, hfound⟩ := other.exists_of_lead hquote
    rw [← hbefore, ← hskipped]
    exact h found (hfound.trans htext.symm)
  have hold : place.source = place.lead ++ '"' :: (place.value ++ '"' :: place.after) :=
    place.textWith_eq place.value
  rw [Place.source, Place.source, textWith_eq, textWith_eq] at hsource
  change other.lead ++ '"' :: (other.value ++ '"' :: other.after) =
    place.lead ++ '"' :: (value ++ '"' :: place.after) at hsource
  rcases List.append_eq_append_iff.1 hsource with ⟨later, hlead, hrest⟩ | ⟨later, hlead, hrest⟩
  · cases later with
    | nil =>
        rw [List.append_nil] at hlead
        exact hsame (place.value ++ '"' :: place.after) (by simp) (by rw [hold, hlead])
    | cons c later =>
        obtain ⟨rfl, -⟩ := List.cons.inj hrest
        exact hsame (later ++ '"' :: (place.value ++ '"' :: place.after)) (by simp)
          (by rw [hold, hlead]; simp)
  · cases later with
    | nil =>
        rw [List.append_nil] at hlead
        exact hsame (place.value ++ '"' :: place.after) (by simp) (by rw [hold, hlead])
    | cons c later =>
        obtain ⟨rfl, -⟩ := List.cons.inj hrest
        rcases Place.exists_of_lead_eq hlead with hdone | ⟨found, hfound, hbefore, hlt⟩
        · exact hdone
        · have hfirst := h found hfound
          rw [hbefore] at hfirst
          omega

/-! ## Line ends -/

theorem isWordChar_withLineFeed (c : Char) : isWordChar (withLineFeed c) = isWordChar c := by
  unfold withLineFeed
  split
  · rename_i hc
    rw [hc]
    decide
  · rfl

theorem exists_map_withLineFeed {c? : Option Char} :
    (∃ c ∈ c?.map withLineFeed, isWordChar c = false) ↔ ∃ c ∈ c?, isWordChar c = false := by
  cases c? <;> simp [isWordChar_withLineFeed]

theorem allBlank_withLineFeeds : AllBlank (withLineFeeds text) ↔ AllBlank text := by
  constructor
  · intro h c hc
    by_cases hbreak : c = '\r' ∨ c = '\n'
    · rcases hbreak with rfl | rfl <;> decide
    · obtain ⟨hr, hn⟩ := not_or.1 hbreak
      exact h c ((mem_withLineFeeds_iff hr hn).2 hc)
  · intro h c hc
    by_cases hbreak : c = '\r' ∨ c = '\n'
    · rcases hbreak with rfl | rfl <;> decide
    · obtain ⟨hr, hn⟩ := not_or.1 hbreak
      exact h c ((mem_withLineFeeds_iff hr hn).1 hc)

/-- A text is changed apart from what follows a character that is no line break. -/
theorem withLineFeeds_append_cons (hr : c ≠ '\r') (hn : c ≠ '\n') (part rest : List Char) :
    withLineFeeds (part ++ c :: rest) = withLineFeeds part ++ c :: withLineFeeds rest := by
  rw [withLineFeeds_append (by simpa using hn), withLineFeeds_cons hr]

theorem IsName.withLineFeeds (h : IsName name) : IsName (withLineFeeds name) := by
  obtain ⟨left, right, rfl, hleft, hright⟩ := h
  refine ⟨_, _, ?_, allBlank_withLineFeeds.2 hleft, allBlank_withLineFeeds.2 hright⟩
  rw [withLineFeeds_append_of_not_mem (by decide),
    withLineFeeds_append_cons (by decide) (by decide)]

namespace Place

def feeds (place : Place) : Place where
  before := withLineFeeds place.before
  skipped := withLineFeeds place.skipped
  name := withLineFeeds place.name
  value := withLineFeeds place.value
  after := withLineFeeds place.after
  starts := by
    rw [head?_withLineFeeds]
    exact exists_map_withLineFeed.2 place.starts
  ends := by
    rw [getLast?_withLineFeeds]
    exact exists_map_withLineFeed.2 place.ends
  inTag := (mem_withLineFeeds_iff (by decide) (by decide)).not.2 place.inTag
  isName := place.isName.withLineFeeds
  unquoted := (mem_withLineFeeds_iff (by decide) (by decide)).not.2 place.unquoted

theorem textWith_feeds (place : Place) (value : List Char) :
    place.feeds.textWith (withLineFeeds value) = withLineFeeds (place.textWith value) := by
  obtain ⟨left, right, hname, -, -⟩ := place.isName
  have hV (rest : List Char) : (place.name ++ rest).head? ≠ some '\n' := by
    rw [hname]
    exact fun h => absurd (Option.some.inj h) (by decide)
  have hopening (rest : List Char) : (opening ++ rest).head? ≠ some '\n' :=
    fun h => absurd (Option.some.inj h) (by decide)
  rw [textWith, textWith, tagWith, tagWith, withLineFeeds_append (hopening _),
    withLineFeeds_append_of_not_mem (by decide), withLineFeeds_append (hV _),
    withLineFeeds_append_cons (by decide) (by decide),
    withLineFeeds_append_cons (by decide) (by decide)]
  rfl

theorem source_feeds (place : Place) : place.feeds.source = withLineFeeds place.source :=
  place.textWith_feeds place.value

/-- A place in a text with line feeds is one in the text of the file. -/
theorem exists_of_source_eq {place : Place} (h : place.source = withLineFeeds text) :
    ∃ found : Place, found.source = text ∧ found.feeds.before = place.before ∧
      found.feeds.skipped = place.skipped := by
  have hplain : ∀ {part rest text : List Char}, isUnbroken part = true →
      withLineFeeds text = part ++ rest →
      ∃ behind, text = part ++ behind ∧ withLineFeeds behind = rest := by
    intro part rest text hpart htext
    obtain ⟨behind, rfl⟩ := (prefix_withLineFeeds_iff hpart).1 ⟨rest, htext.symm⟩
    have hreturn : '\r' ∉ part := fun hmem => by
      simpa using List.all_eq_true.1 hpart _ hmem
    rw [withLineFeeds_append_of_not_mem hreturn] at htext
    exact ⟨behind, rfl, List.append_cancel_left htext⟩
  obtain ⟨left, right, hname, hleft, hright⟩ := place.isName
  have hopening : opening = '<' :: opening.tail := by decide
  have hversion : versionName = 'V' :: versionName.tail := by decide
  have hwhole : withLineFeeds text = place.before ++ '<' :: (opening.tail ++
      (place.skipped ++ 'V' :: (versionName.tail ++ (left ++ '=' :: (right ++ '"' ::
        (place.value ++ '"' :: place.after)))))) := by
    rw [← h, source, textWith, tagWith, hname, hopening, hversion]
    simp only [List.cons_append, List.append_assoc, List.tail_cons]
  -- the text of the file is taken apart at the same characters
  obtain ⟨before, text₁, rfl, hbefore, h₁⟩ := exists_of_withLineFeeds_eq (by decide) hwhole
  obtain ⟨text₂, rfl, h₂⟩ := hplain (by decide) h₁
  obtain ⟨skipped, text₃, rfl, hskipped, h₃⟩ := exists_of_withLineFeeds_eq (by decide) h₂
  obtain ⟨text₄, rfl, h₄⟩ := hplain (by decide) h₃
  obtain ⟨left', text₅, rfl, hleft', h₅⟩ := exists_of_withLineFeeds_eq (by decide) h₄
  obtain ⟨right', text₆, rfl, hright', h₆⟩ := exists_of_withLineFeeds_eq (by decide) h₅
  obtain ⟨value, after, rfl, hvalue, -⟩ := exists_of_withLineFeeds_eq (by decide) h₆
  rw [← hleft', allBlank_withLineFeeds] at hleft
  rw [← hright', allBlank_withLineFeeds] at hright
  have hstarts := place.starts
  rw [← hskipped, head?_withLineFeeds, exists_map_withLineFeed] at hstarts
  have hends := place.ends
  rw [← hskipped, getLast?_withLineFeeds, exists_map_withLineFeed] at hends
  have htag := place.inTag
  rw [← hskipped, mem_withLineFeeds_iff (by decide) (by decide)] at htag
  have hunquoted := place.unquoted
  rw [← hvalue, mem_withLineFeeds_iff (by decide) (by decide)] at hunquoted
  refine ⟨⟨before, skipped, _, value, after, hstarts, hends, htag, ⟨left', right', rfl, hleft,
    hright⟩, hunquoted⟩, ?_, hbefore, hskipped⟩
  simp only [source, textWith, tagWith]
  rw [hopening, hversion]
  simp only [List.cons_append, List.append_assoc, List.tail_cons]

/-- What is shorter up to a character that is no line break stays shorter. -/
theorem length_withLineFeeds_lt {other : List Char} (hr : c ≠ '\r') (hn : c ≠ '\n')
    (h : part ++ c :: text = other ++ rest) (hlt : part.length < other.length) :
    (withLineFeeds part).length < (withLineFeeds other).length := by
  obtain ⟨later, rfl⟩ : part <+: other :=
    List.prefix_of_prefix_length_le ⟨c :: text, h⟩ ⟨rest, rfl⟩ hlt.le
  rw [List.append_assoc] at h
  cases later with
  | nil => simp at hlt
  | cons d later =>
      obtain ⟨rfl, -⟩ := List.cons.inj (List.append_cancel_left h)
      rw [withLineFeeds_append_cons hr hn]
      simp

theorem IsFirst.feeds {place : Place} (h : place.IsFirst) : place.feeds.IsFirst := by
  intro other hsource
  rw [source_feeds] at hsource
  obtain ⟨found, hfound, hbefore, hskipped⟩ := exists_of_source_eq hsource
  rw [← hbefore, ← hskipped]
  obtain ⟨left, right, hname, -, -⟩ := place.isName
  have hsame : place.before ++ (opening ++ (place.skipped ++ 'V' :: (versionName.tail ++
        (left ++ '=' :: right) ++ '"' :: (place.value ++ '"' :: place.after)))) =
      found.before ++ (opening ++ (found.skipped ++ (found.name ++ '"' :: (found.value ++
        '"' :: found.after)))) := by
    simp only [source, textWith, tagWith, hname] at hfound
    exact hfound.symm
  rcases h found hfound with hlt | ⟨heq, hle⟩
  · exact Or.inl (length_withLineFeeds_lt (by decide) (by decide) hsame hlt)
  · obtain ⟨hfirst, htag⟩ := List.append_inj hsame heq
    have hattribute := List.append_cancel_left htag
    refine Or.inr ⟨congrArg (fun text => (withLineFeeds text).length) hfirst, ?_⟩
    rcases hle.lt_or_eq with hlt | heq
    · exact (length_withLineFeeds_lt (by decide) (by decide) hattribute hlt).le
    · obtain ⟨hskip, -⟩ := List.append_inj hattribute heq
      exact (congrArg (fun text => (withLineFeeds text).length) hskip).le

end Place

/-! ## The whole text -/

/-- How a text becomes one with another version: at the first place, if there is one. -/
def Renews (version : String) (text after : List Char) : Prop :=
  (∃ place : Place, place.IsFirst ∧ place.source = text ∧
    after = place.textWith (fourParts version).toList) ∨
  ((∀ place : Place, place.source ≠ text) ∧ after = text)

variable {version : String}

theorem renews_stamp (version : String) (text : List Char) :
    Renews version text (stamp version text) := replaceFirst_cases _ text

theorem Renews.stamp_eq (h : Renews version text after) : stamp version text = after := by
  rcases h with ⟨place, hfirst, rfl, rfl⟩ | ⟨hnone, rfl⟩
  · rcases renews_stamp version place.source with ⟨other, hother, hsource, heq⟩ | ⟨hnone, -⟩
    · rw [heq, hfirst.eq hother hsource]
    · exact absurd rfl (hnone place)
  · rcases renews_stamp version after with ⟨place, -, hsource, -⟩ | ⟨-, heq⟩
    · exact absurd hsource (hnone place)
    · exact heq

theorem Renews.head?_eq (h : Renews version text after) : after.head? = text.head? := by
  rcases h with ⟨place, -, rfl, rfl⟩ | ⟨-, rfl⟩
  · rw [Place.source, Place.textWith, Place.textWith]
    cases place.before <;> rfl
  · rfl

/-- A character that starts no tag may stand in front or not. -/
theorem Place.exists_behind_of_ne {place : Place} (hc : c ≠ '<') (h : place.source = c :: text) :
    ∃ before, place.before = c :: before ∧ (place.behind before).source = text := by
  refine exists_behind h fun hbefore => hc ?_
  rw [source, textWith, hbefore] at h
  exact (List.cons.inj h).1.symm

theorem Renews.of_cons (hc : c ≠ '<') (h : Renews version (c :: text) after) :
    ∃ rest, after = c :: rest ∧ Renews version text rest := by
  rcases h with ⟨place, hfirst, hsource, rfl⟩ | ⟨hnone, rfl⟩
  · obtain ⟨before, hbefore, hrest⟩ := Place.exists_behind_of_ne hc hsource
    refine ⟨(place.behind before).textWith (fourParts version).toList, ?_,
      Or.inl ⟨_, fun other hother => ?_, hrest, rfl⟩⟩
    · rw [Place.textWith, hbefore]
      rfl
    · have hlengths := hfirst (other.behind (c :: other.before)) (by
        rw [hsource, ← hrest, ← hother]
        rfl)
      rw [hbefore] at hlengths
      simpa [Place.behind] using hlengths
  · refine ⟨text, rfl, Or.inr ⟨fun place hsource => ?_, rfl⟩⟩
    refine hnone (place.behind (c :: place.before)) ?_
    rw [← hsource]
    rfl

theorem Renews.unmarked (h : Renews version text after) :
    Renews version (unmarked text) (unmarked after) := by
  by_cases hmark : text.head? = some markChar
  · obtain ⟨rest, rfl⟩ := List.head?_eq_some_iff.1 hmark
    obtain ⟨behind, rfl, hbehind⟩ := h.of_cons (by decide)
    exact hbehind
  · rw [unmarked_of_head?_ne hmark, unmarked_of_head?_ne (h.head?_eq ▸ hmark)]
    exact h

theorem Renews.withLineFeeds (hversion : '\r' ∉ (fourParts version).toList)
    (h : Renews version text after) :
    Renews version (withLineFeeds text) (withLineFeeds after) := by
  rcases h with ⟨place, hfirst, rfl, rfl⟩ | ⟨hnone, rfl⟩
  · refine Or.inl ⟨place.feeds, hfirst.feeds, place.source_feeds, ?_⟩
    rw [← place.textWith_feeds, withLineFeeds_eq_self_iff.2 hversion]
  · refine Or.inr ⟨fun place hsource => ?_, rfl⟩
    obtain ⟨found, hfound, -⟩ := Place.exists_of_source_eq hsource
    exact hnone found hfound

theorem Renews.asRead (hversion : '\r' ∉ (fourParts version).toList)
    (h : Renews version text after) : Renews version (asRead text) (asRead after) :=
  h.unmarked.withLineFeeds hversion

theorem exists_source_asRead_iff :
    (∃ place : Place, place.source = asRead text) ↔ ∃ place : Place, place.source = text := by
  have hfeeds : ∀ text, (∃ place : Place, place.source = withLineFeeds text) ↔
      ∃ place : Place, place.source = text := by
    intro text
    constructor
    · rintro ⟨place, hsource⟩
      obtain ⟨found, hfound, -⟩ := Place.exists_of_source_eq hsource
      exact ⟨found, hfound⟩
    · rintro ⟨place, rfl⟩
      exact ⟨place.feeds, place.source_feeds⟩
  rw [asRead, hfeeds]
  by_cases hmark : text.head? = some markChar
  · obtain ⟨rest, rfl⟩ := List.head?_eq_some_iff.1 hmark
    rw [unmarked_mark]
    constructor
    · rintro ⟨place, rfl⟩
      exact ⟨place.behind (markChar :: place.before), rfl⟩
    · rintro ⟨place, hsource⟩
      obtain ⟨before, -, hrest⟩ := Place.exists_behind_of_ne (by decide) hsource
      exact ⟨_, hrest⟩
  · rw [unmarked_of_head?_ne hmark]

end SetupForge.IdentityVersion
