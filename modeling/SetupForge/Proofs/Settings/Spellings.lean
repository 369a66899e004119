import Mathlib.Data.List.Forall2
import SetupForge.Settings.Resolve

/-! # Older spellings of keys

Two settings trees that differ in nothing but the spelling of keys are read alike. Both spellings of
a key lead to the same entry, and neither the places of actions nor the warnings tell them apart. The
trees are compared down to a depth of actions inside each other, as a value may hold itself.
-/

namespace SetupForge

namespace SettingKey

def AreSpellings (text other : String) : Prop :=
  ∃ key : SettingKey, ∃ older, key.olderSpelling? = some older ∧
    (text = key.spelling ∧ other = older ∨ text = older ∧ other = key.spelling)

theorem ofText?_spellings : ∀ key ∈ all, ofText? key.spelling = some key ∧
    ∀ older ∈ key.olderSpelling?, ofText? older = some key := by
  decide +kernel

theorem ofText?_of_isSpelled {key : SettingKey} {text : String} (h : key.isSpelled text = true) :
    ofText? text = some key := by
  obtain ⟨hspelling, holder⟩ := ofText?_spellings key key.mem_all
  simp only [isSpelled, Bool.or_eq_true, beq_iff_eq] at h
  rcases h with rfl | htext
  · exact hspelling
  · exact holder text htext

theorem ofText?_of_areSpellings {text other : String} (h : AreSpellings text other) :
    ∃ key, ofText? text = some key ∧ ofText? other = some key := by
  obtain ⟨key, older, holder, hboth⟩ := h
  obtain ⟨hspelling, hknown⟩ := ofText?_spellings key key.mem_all
  rcases hboth with ⟨rfl, rfl⟩ | ⟨rfl, rfl⟩
  · exact ⟨key, hspelling, hknown other holder⟩
  · exact ⟨key, hknown text holder, hspelling⟩

end SettingKey

namespace Value

/-- Whether two keys of a mapping are the same or the two spellings of one key. -/
def KeyRespelled (key other : Value) : Prop :=
  key = other ∨ ∃ text otherText, key = .text text ∧ other = .text otherText ∧
    SettingKey.AreSpellings text otherText

def ItemsRespelled (respelled : Value → Value → Prop) (value other : Value) : Prop :=
  ∃ items others, value.unrolled = .list items ∧ other.unrolled = .list others ∧
    List.Forall₂ respelled items others

/-- Whether two entries of a mapping are the same but for the spelling of the key, and in the actions
that one can hold. -/
def EntryRespelled (respelled : Value → Value → Prop) (entry other : Value × Value) : Prop :=
  KeyRespelled entry.1 other.1 ∧ (entry.2 = other.2 ∨
    SettingKey.actions.isSpelled entry.1.plain = true ∧ ItemsRespelled respelled entry.2 other.2)

/-- Whether two values are the same down to a depth of actions inside each other, but for the spelling
of keys. -/
def Respelled : (depth : Nat) → Value → Value → Prop
  | 0, _, _ => True
  | depth + 1, value, other =>
      value = other ∨ ∃ pairs others, value.unrolled = .mapping pairs ∧
        other.unrolled = .mapping others ∧
        List.Forall₂ (EntryRespelled (Respelled depth)) pairs others

theorem Respelled.refl (depth : Nat) (value : Value) : Respelled depth value value := by
  cases depth with
  | zero => trivial
  | succ depth => exact Or.inl rfl

theorem Respelled.mapping {pairs others : List (Value × Value)}
    (h : ∀ depth, List.Forall₂ (EntryRespelled (Respelled depth)) pairs others) (depth : Nat) :
    Respelled depth (.mapping pairs) (.mapping others) := by
  cases depth with
  | zero => trivial
  | succ depth => exact Or.inr ⟨pairs, others, rfl, rfl, h depth⟩

end Value

/-! ## Entries -/

namespace Entries

def Match (respelled : Value → Value → Prop) (entry other : SettingKey × Value) : Prop :=
  entry.1 = other.1 ∧ (entry.2 = other.2 ∨
    entry.1 = .actions ∧ Value.ItemsRespelled respelled entry.2 other.2)

/-- Whether two mappings are sorted into keys alike: with the same warnings, and with the same failure
or entries that match. -/
inductive Alike (respelled : Value → Value → Prop) : Reading Entries → Reading Entries → Prop where
  | failed (failure : Failure) (warnings : List String) :
      Alike respelled (.error failure, warnings) (.error failure, warnings)
  | read {entries others : Entries} (warnings : List String)
      (hentries : List.Forall₂ (Match respelled) entries others) :
      Alike respelled (.ok entries, warnings) (.ok others, warnings)

variable {respelled : Value → Value → Prop} {entries others : Entries}

theorem Alike.warned {reading other : Reading Entries} (h : Alike respelled reading other)
    (warning : String) :
    Alike respelled (reading.1, warning :: reading.2) (other.1, warning :: other.2) := by
  cases h with
  | failed failure warnings => exact .failed failure (warning :: warnings)
  | read warnings hentries => exact .read (warning :: warnings) hentries

theorem related_insert {key : SettingKey} {value other : Value}
    (h : Match respelled (key, value) (key, other))
    (hentries : List.Forall₂ (Match respelled) entries others) :
    List.Forall₂ (Match respelled) (insert key value entries) (insert key other others) := by
  induction hentries with
  | nil => exact .cons h .nil
  | cons hentry hrest ih =>
      rw [insert, insert, ← hentry.1]
      split
      · exact .cons h hrest
      · exact .cons hentry ih

theorem alike_ofMapping {pairs otherPairs : List (Value × Value)} (place : String)
    (hpairs : List.Forall₂ (Value.EntryRespelled respelled) pairs otherPairs)
    (hentries : List.Forall₂ (Match respelled) entries others) :
    Alike respelled (ofMapping place pairs entries) (ofMapping place otherPairs others) := by
  induction hpairs generalizing entries others with
  | nil => exact .read [] hentries
  | @cons pair otherPair pairs otherPairs hpair _ ih =>
      obtain ⟨key, value⟩ := pair
      obtain ⟨otherKey, other⟩ := otherPair
      obtain ⟨hkey, hvalue⟩ := hpair
      have hmatch : ∀ known, SettingKey.ofText? key.plain = some known →
          Match respelled (known, value) (known, other) := by
        intro known hknown
        refine ⟨rfl, hvalue.imp_right fun ⟨hactions, hitems⟩ => ⟨?_, hitems⟩⟩
        exact Option.some.inj (hknown.symm.trans (SettingKey.ofText?_of_isSpelled hactions))
      rcases hkey with rfl | ⟨text, otherText, rfl, rfl, hspellings⟩
      · rw [ofMapping, ofMapping]
        split
        · cases hknown : SettingKey.ofText? key.plain with
          | some known => exact ih (related_insert (hmatch known hknown) hentries)
          | none => exact (ih hentries).warned _
        · exact .failed _ []
      · obtain ⟨known, hknown, hother⟩ := SettingKey.ofText?_of_areSpellings hspellings
        have hread : ∀ {text} (value : Value) (rest : List (Value × Value)) (entries : Entries),
            SettingKey.ofText? text = some known →
            ofMapping place ((.text text, value) :: rest) entries
              = ofMapping place rest (insert known value entries) := by
          intro text value rest entries hknown
          have hplain : SettingKey.ofText? (Value.text text).plain = some known := hknown
          rw [ofMapping, if_pos (by rfl), hplain]
        rw [hread _ _ _ hknown, hread _ _ _ hother]
        exact ih (related_insert (hmatch known hknown) hentries)

theorem lookup_match (h : List.Forall₂ (Match respelled) entries others) (key : SettingKey) :
    Option.Rel (fun value other => Match respelled (key, value) (key, other))
      (entries.lookup key) (others.lookup key) := by
  induction h with
  | nil => exact .none
  | @cons entry otherEntry entries others hentry _ ih =>
      obtain ⟨known, value⟩ := entry
      obtain ⟨otherKnown, other⟩ := otherEntry
      obtain ⟨hkey, hvalue⟩ := hentry
      dsimp only at hkey
      subst hkey
      rw [List.lookup_cons, List.lookup_cons]
      cases hsame : key == known with
      | true =>
          obtain rfl := eq_of_beq hsame
          exact .some ⟨rfl, hvalue⟩
      | false => exact ih

end Entries

/-! ## Actions -/

theorem Value.isGiven_of_unrolled {value : Value} {items : List Value}
    (h : value.unrolled = .list items) : value.isGiven = !items.isEmpty := by
  cases value with
  | list others =>
      cases h
      rfl
  | loop name body =>
      rw [unrolled] at h
      cases body with
      | list others =>
          rw [replace] at h
          cases h
          cases others <;> rfl
      | again other shown =>
          rw [replace] at h
          split at h <;> cases h
      | _ => simp [replace] at h
  | _ => cases h

namespace ActionTree

variable {respelled : Value → Value → Prop} {entries others : Entries}

theorem childValues?_of_list {value : Value} {items : List Value}
    (hlookup : entries.lookup .actions = some value) (h : value.unrolled = .list items) :
    childValues? entries = some items := by
  rw [childValues?, hlookup, Option.getD_some]
  rw [Value.isGiven_of_unrolled h, h]
  cases items <;> rfl

theorem childValues?_match (hrefl : ∀ value, respelled value value)
    (h : List.Forall₂ (Entries.Match respelled) entries others) :
    Option.Rel (List.Forall₂ respelled) (childValues? entries) (childValues? others) := by
  have hsame (hlookup : entries.lookup .actions = others.lookup .actions) :
      Option.Rel (List.Forall₂ respelled) (childValues? entries) (childValues? others) := by
    rw [childValues?, hlookup]
    change Option.Rel _ (childValues? others) (childValues? others)
    cases childValues? others with
    | none => exact .none
    | some items => exact .some (List.forall₂_same.2 fun value _ => hrefl value)
  have hlookup := Entries.lookup_match h .actions
  generalize hvalue : entries.lookup .actions = value? at hlookup
  generalize hother : others.lookup .actions = other? at hlookup
  cases hlookup with
  | none => exact hsame (hvalue.trans hother.symm)
  | some hmatch =>
      obtain ⟨-, rfl | ⟨-, items, otherItems, hlist, hotherList, hitems⟩⟩ := hmatch
      · exact hsame (hvalue.trans hother.symm)
      · rw [childValues?_of_list hvalue hlist, childValues?_of_list hother hotherList]
        exact .some hitems

theorem ofItems_respelled {read : String → Value → Reading ActionTree} {items others : List Value}
    (hread : ∀ place value other, respelled value other → read place value = read place other)
    (place : String) (index : Nat) (h : List.Forall₂ respelled items others) :
    ofItems read place index items = ofItems read place index others := by
  induction h generalizing index with
  | nil => rfl
  | cons hitem _ ih => rw [ofItems, ofItems, hread _ _ _ hitem, ih]

theorem ofEntries_match {place : String} {action : Action}
    (h : List.Forall₂ (Entries.Match respelled) entries others) :
    Action.ofEntries place action entries = Action.ofEntries place action others := by
  induction h generalizing action with
  | nil => rfl
  | @cons entry otherEntry entries others hentry _ ih =>
      obtain ⟨key, value⟩ := entry
      obtain ⟨otherKey, other⟩ := otherEntry
      obtain ⟨hkey, hvalue⟩ := hentry
      dsimp only at hkey
      subst hkey
      have hassign : action.assign place (key, value) = action.assign place (key, other) := by
        rcases hvalue with hvalue | ⟨hactions, -⟩
        · dsimp only at hvalue
          rw [hvalue]
        · dsimp only at hactions
          subst hactions
          rfl
      rw [Action.ofEntries, Action.ofEntries, hassign]
      cases action.assign place (key, other) with
      | ok next => exact ih
      | error failure => rfl

theorem ofPairs_respelled {read : String → Value → Reading ActionTree}
    {pairs otherPairs : List (Value × Value)} (hrefl : ∀ value, respelled value value)
    (hread : ∀ place value other, respelled value other → read place value = read place other)
    (place : String) (hpairs : List.Forall₂ (Value.EntryRespelled respelled) pairs otherPairs) :
    ofPairs read place pairs = ofPairs read place otherPairs := by
  have halike : Entries.Alike respelled (Entries.ofMapping place pairs [])
      (Entries.ofMapping place otherPairs []) := Entries.alike_ofMapping place hpairs .nil
  rw [ofPairs, ofPairs]
  generalize Entries.ofMapping place pairs [] = reading at halike ⊢
  generalize Entries.ofMapping place otherPairs [] = other at halike ⊢
  cases halike with
  | failed failure warnings => rfl
  | @read entries others warnings hentries =>
      have hitems := childValues?_match hrefl hentries
      dsimp only
      generalize childValues? entries = items? at hitems ⊢
      generalize childValues? others = others? at hitems ⊢
      cases hitems with
      | none => rfl
      | some hitems =>
          dsimp only
          rw [ofItems_respelled hread place 0 hitems, ofEntries_match hentries]

theorem ofValueFuel_respelled {room : Nat} {place : String} {value other : Value}
    (h : Value.Respelled room value other) :
    ofValueFuel room place value = ofValueFuel room place other := by
  induction room generalizing place value other with
  | zero => rfl
  | succ room ih =>
      rcases h with rfl | ⟨pairs, otherPairs, hvalue, hother, hpairs⟩
      · rfl
      · rw [ofValueFuel, ofValueFuel, hvalue, hother]
        dsimp only
        refine ofPairs_respelled (Value.Respelled.refl room) (fun _ _ _ hinside => ?_) place hpairs
        exact ih hinside

/-- Trees that differ in nothing but the spelling of keys give the same actions and warnings, or the
same failure. -/
theorem resolve_respelled (around : Surroundings) (workingPath : Option Path)
    {value other : Value} (h : ∀ depth, Value.Respelled depth value other) :
    resolve around workingPath value = resolve around workingPath other := by
  rw [resolve, resolve, ofValue, ofValue, ofValueFuel_respelled (h deepest)]

theorem resolve_respelled_nested :
    resolve {} none (.mapping [(.text "Actions", .list [.mapping
      [(.text "ActionType", .text "set_version"), (.text "color", .text "red")]])]) =
    resolve {} none (.mapping [(.text "actions", .list [.mapping
      [(.text "action_type", .text "set_version"), (.text "color", .text "red")]])]) := by
  refine resolve_respelled {} none (Value.Respelled.mapping fun depth => .cons ⟨?_, ?_⟩ .nil)
  · exact Or.inr ⟨_, _, rfl, rfl, .actions, "Actions", rfl, Or.inr ⟨rfl, rfl⟩⟩
  · refine Or.inr ⟨by decide, _, _, rfl, rfl, .cons ?_ .nil⟩
    refine Value.Respelled.mapping (fun depth => .cons ⟨?_, ?_⟩ ?_) depth
    · exact Or.inr ⟨_, _, rfl, rfl, .actionType, "ActionType", rfl, Or.inr ⟨rfl, rfl⟩⟩
    · exact Or.inl rfl
    · exact .cons ⟨Or.inl rfl, Or.inl rfl⟩ .nil

end ActionTree

end SetupForge
