import SetupForge.Proofs.Results
import SetupForge.Proofs.Text.Numerals
import SetupForge.Settings.Resolve

/-! # Malformed settings

A settings file of the usual form holds values of a few simple kinds. Reading them as a tree of
actions succeeds, or it refuses them with a fault of the settings. What else can go wrong is told
here by the entries of the actions that are written inside each other.
-/

namespace SetupForge

/-! ## Simple values -/

namespace Value

mutual

/-- Whether a value is built from null, booleans, integers, numbers, texts, lists and mappings with
texts as keys. -/
def isSimple : Value → Bool
  | .null => true
  | .bool _ => true
  | .integer _ => true
  | .real number => number.isOrdered
  | .text _ => true
  | .list items => itemsAreSimple items
  | .mapping entries => entriesAreSimple entries
  | _ => false

def itemsAreSimple : List Value → Bool
  | [] => true
  | item :: items => item.isSimple && itemsAreSimple items

def entriesAreSimple : List (Value × Value) → Bool
  | [] => true
  | entry :: entries => entryIsSimple entry && entriesAreSimple entries

def entryIsSimple : Value × Value → Bool
  | (.text _, value) => value.isSimple
  | _ => false

end

variable {value : Value} {items : List Value} {pairs : List (Value × Value)}

theorem isSimple_of_mem (h : (Value.list items).isSimple = true) (hmem : value ∈ items) :
    value.isSimple = true := by
  rw [isSimple] at h
  induction items with
  | nil => cases hmem
  | cons item items ih =>
      rw [itemsAreSimple, Bool.and_eq_true] at h
      rcases List.mem_cons.1 hmem with rfl | hrest
      · exact h.1
      · exact ih h.2 hrest

theorem isSimple_of_pair {pair : Value × Value} (h : (Value.mapping pairs).isSimple = true)
    (hmem : pair ∈ pairs) : (∃ key, pair.1 = .text key) ∧ pair.2.isSimple = true := by
  rw [isSimple] at h
  induction pairs with
  | nil => cases hmem
  | cons first pairs ih =>
      rw [entriesAreSimple, Bool.and_eq_true] at h
      rcases List.mem_cons.1 hmem with rfl | hrest
      · obtain ⟨key, held⟩ := pair
        cases key with
        | text key => exact ⟨⟨key, rfl⟩, h.1⟩
        | _ => simp [entryIsSimple] at h
      · exact ih h.2 hrest

theorem unrolled_of_isSimple (h : value.isSimple = true) : value.unrolled = value := by
  cases value with
  | loop name body => simp [isSimple] at h
  | _ => rfl

/-! ## Actions inside each other -/

def entries? (value : Value) : Option Entries :=
  match value.unrolled with
  | .mapping pairs => (Entries.ofMapping "" pairs []).1.toOption
  | _ => none

/-- Whether a value is written where an action stands, so deep inside a value. -/
inductive Nests : Value → Nat → Value → Prop
  | here (value : Value) : Nests value 0 value
  | inside {value item inner : Value} {entries : Entries} {items : List Value} {depth : Nat}
      (hentries : value.entries? = some entries)
      (hitems : ActionTree.childValues? entries = some items) (hitem : item ∈ items)
      (hinner : Nests item depth inner) : Nests value (depth + 1) inner

/-- Whether a value inside a value is an action with an entry. -/
def Writes (value : Value) (entry : SettingKey × Value) : Prop :=
  ∃ depth inner entries, value.Nests depth inner ∧ inner.entries? = some entries ∧ entry ∈ entries

theorem writes_of_mem {entries : Entries} {entry : SettingKey × Value}
    (h : value.entries? = some entries) (hmem : entry ∈ entries) : value.Writes entry :=
  ⟨0, value, entries, .here value, h, hmem⟩

theorem Writes.inside {item : Value} {entries : Entries} {entry : SettingKey × Value}
    (h : item.Writes entry) (hentries : value.entries? = some entries)
    (hitems : ActionTree.childValues? entries = some items) (hitem : item ∈ items) :
    value.Writes entry := by
  obtain ⟨depth, inner, held, hinner, hheld, hmem⟩ := h
  exact ⟨depth + 1, inner, held, .inside hentries hitems hitem hinner, hheld, hmem⟩

end Value

/-! ## Entries of a mapping -/

namespace Entries

variable {place : String} {pairs : List (Value × Value)} {entries found : Entries}
  {entry : SettingKey × Value}

theorem mem_insert {key : SettingKey} {value : Value} (h : entry ∈ insert key value entries) :
    entry = (key, value) ∨ entry ∈ entries := by
  induction entries with
  | nil => exact Or.inl (List.mem_singleton.1 h)
  | cons first rest ih =>
      rw [insert] at h
      split at h
      · exact (List.mem_cons.1 h).imp_right (List.mem_cons_of_mem first)
      · rcases List.mem_cons.1 h with rfl | hrest
        · exact Or.inr List.mem_cons_self
        · exact (ih hrest).imp_right (List.mem_cons_of_mem first)

theorem ofMapping_fst (place other : String) (pairs : List (Value × Value)) (entries : Entries) :
    (ofMapping place pairs entries).1 = (ofMapping other pairs entries).1 := by
  induction pairs generalizing entries with
  | nil => rfl
  | cons pair pairs ih =>
      obtain ⟨key, value⟩ := pair
      rw [ofMapping, ofMapping]
      split
      · cases SettingKey.ofText? key.plain with
        | some known => exact ih _
        | none => exact ih _
      · rfl

theorem exists_of_isSimple (h : (Value.mapping pairs).isSimple = true) (place : String)
    (entries : Entries) : ∃ found, (ofMapping place pairs entries).1 = .ok found := by
  induction pairs generalizing entries with
  | nil => exact ⟨entries, rfl⟩
  | cons pair pairs ih =>
      obtain ⟨⟨key, hkey⟩, -⟩ := Value.isSimple_of_pair h List.mem_cons_self
      obtain ⟨_, value⟩ := pair
      dsimp only at hkey
      subst hkey
      have hrest : (Value.mapping pairs).isSimple = true := by
        rw [Value.isSimple, Value.entriesAreSimple, Bool.and_eq_true] at h
        rw [Value.isSimple]
        exact h.2
      have htext : (Value.text key).hasText = true := rfl
      rw [ofMapping, if_pos htext]
      cases SettingKey.ofText? (Value.text key).plain with
      | some known => exact ih hrest _
      | none => exact ih hrest _

theorem mem_of_ofMapping (h : (ofMapping place pairs entries).1 = .ok found)
    (hmem : entry ∈ found) : entry ∈ entries ∨ ∃ pair ∈ pairs, pair.2 = entry.2 := by
  induction pairs generalizing entries with
  | nil =>
      cases h
      exact Or.inl hmem
  | cons pair pairs ih =>
      obtain ⟨key, value⟩ := pair
      rw [ofMapping] at h
      have hlater : (∃ later ∈ pairs, later.2 = entry.2) →
          ∃ later ∈ (key, value) :: pairs, later.2 = entry.2 :=
        fun ⟨later, hmem, hlater⟩ => ⟨later, List.mem_cons_of_mem _ hmem, hlater⟩
      split at h
      · cases hknown : SettingKey.ofText? key.plain with
        | some known =>
            rw [hknown] at h
            rcases ih h with hinsert | hrest
            · rcases mem_insert hinsert with rfl | hold
              · exact Or.inr ⟨_, List.mem_cons_self, rfl⟩
              · exact Or.inl hold
            · exact Or.inr (hlater hrest)
        | none =>
            rw [hknown] at h
            exact (ih h).imp_right hlater
      · cases h

theorem entries?_mapping (place : String) (h : (ofMapping place pairs []).1 = .ok found) :
    (Value.mapping pairs).entries? = some found := by
  rw [ofMapping_fst place ""] at h
  simp [Value.entries?, Value.unrolled, h, Except.toOption]

theorem exists_of_entries? {value : Value} (h : value.entries? = some found) :
    ∃ pairs, value.unrolled = .mapping pairs ∧ (ofMapping "" pairs []).1 = .ok found := by
  unfold Value.entries? at h
  cases hvalue : value.unrolled with
  | mapping pairs =>
      rw [hvalue] at h
      refine ⟨pairs, rfl, ?_⟩
      cases hfound : (ofMapping "" pairs []).1 with
      | error failure => simp [hfound, Except.toOption] at h
      | ok other =>
          simp only [hfound, Except.toOption, Option.some.injEq] at h
          rw [h]
  | _ => simp [hvalue] at h

theorem isSimple_of_entries? {value : Value} (hsimple : value.isSimple = true)
    (h : value.entries? = some found) (hmem : entry ∈ found) : entry.2.isSimple = true := by
  obtain ⟨pairs, hvalue, hfound⟩ := exists_of_entries? h
  rw [Value.unrolled_of_isSimple hsimple] at hvalue
  subst hvalue
  rcases mem_of_ofMapping hfound hmem with hnone | ⟨pair, hpair, hheld⟩
  · cases hnone
  · exact hheld ▸ (Value.isSimple_of_pair hsimple hpair).2

theorem isSimple_of_child {value item : Value} {items : List Value}
    (hsimple : value.isSimple = true) (h : value.entries? = some found)
    (hitems : ActionTree.childValues? found = some items) (hitem : item ∈ items) :
    item.isSimple = true := by
  unfold ActionTree.childValues? at hitems
  cases hlookup : found.lookup .actions with
  | none =>
      simp only [hlookup, Option.getD_none, Value.isGiven_null] at hitems
      cases hitems
      cases hitem
  | some held =>
      obtain ⟨before, after, rfl, -⟩ := List.lookup_eq_some_iff.1 hlookup
      have hmem : (SettingKey.actions, held) ∈ before ++ (.actions, held) :: after := by simp
      have hheld : held.isSimple = true := isSimple_of_entries? hsimple h hmem
      simp only [hlookup, Option.getD_some] at hitems
      split at hitems
      · rw [Value.unrolled_of_isSimple hheld] at hitems
        cases held with
        | list others =>
            cases hitems
            exact Value.isSimple_of_mem hheld hitem
        | _ => cases hitems
      · cases hitems
        cases hitem

end Entries

/-! ## Values that are not taken -/

namespace Value

def isLevelForm : Value → Bool
  | .null => true
  | .bool _ => true
  | .integer _ => true
  | .text _ => true
  | _ => false

/-- How a value is refused: by a fault of the settings, unless it has no text to be quoted. -/
def Refuses (value : Value) (failure : Failure) : Prop :=
  (∃ fault, failure = .settings fault) ∨ failure = .tooManyDigits ∧ value.hasText = false

variable {value : Value} {failure : Failure}

theorem refuses_of_plainOrFault (h : value.plainOrFault = .error failure) :
    value.Refuses failure := by
  unfold plainOrFault at h
  split at h
  · cases h
  · rename_i htext
    cases h
    exact Or.inr ⟨rfl, by simpa using htext⟩

theorem refuses_of_refuse {α : Type} {fault : String → SettingsFault}
    (h : (value.refuse fault : Except Failure α) = .error failure) : value.Refuses failure := by
  unfold refuse at h
  split at h
  · cases h
    exact Or.inl ⟨_, rfl⟩
  · rename_i htext
    cases h
    exact Or.inr ⟨rfl, by simpa using htext⟩

theorem refuses_of_kind (h : ActionKind.ofValue value = .error failure) :
    value.Refuses failure := by
  unfold ActionKind.ofValue at h
  split at h
  · cases h
  · rcases error_of_bind h with hplain | ⟨text, -, h⟩
    · exact refuses_of_plainOrFault hplain
    · split at h
      · cases h
      · exact refuses_of_refuse h

theorem refuses_of_yes (h : yesOfValue value = .error failure) : value.Refuses failure := by
  unfold yesOfValue at h
  split at h
  · cases h
  · cases h
  · exact refuses_of_plainOrFault (error_of_map h)

theorem refuses_of_text (h : textOfValue value = .error failure) : value.Refuses failure := by
  unfold textOfValue at h
  split at h
  · cases h
  · exact refuses_of_plainOrFault h

theorem hasText_of_mem {items : List Value} {item : Value} (hmem : item ∈ items)
    (h : item.hasText = false) : (Value.list items).hasText = false := by
  rw [hasText]
  induction items with
  | nil => cases hmem
  | cons first items ih =>
      rw [itemsHaveText, Bool.and_eq_false_iff]
      rcases List.mem_cons.1 hmem with rfl | hrest
      · exact Or.inl h
      · exact Or.inr (ih hrest)

theorem refuses_of_texts (hsimple : value.isSimple = true)
    (h : textsOfValue value = .error failure) : value.Refuses failure := by
  unfold textsOfValue at h
  rw [unrolled_of_isSimple hsimple] at h
  split at h
  · cases h
  · obtain ⟨item, hmem, hitem⟩ := exists_of_mapM h
    rcases refuses_of_plainOrFault hitem with hfault | ⟨hdigits, htext⟩
    · exact Or.inl hfault
    · exact Or.inr ⟨hdigits, hasText_of_mem hmem htext⟩
  · cases hsimple
  · exact refuses_of_plainOrFault (error_of_map h)

theorem refuses_of_major {place : String} (h : majorOfValue place value = .error failure) :
    value.Refuses failure ∨
      failure = .infiniteInteger ∧ ∃ negative, value = .real (.infinite negative) := by
  unfold majorOfValue at h
  dsimp only at h
  split at h
  · cases h
  · split at h
    · cases h
    · cases h
    · cases h
      exact Or.inr ⟨rfl, _, rfl⟩
    case h_7 => exact Or.inl (refuses_of_refuse h)
    all_goals
      split at h
      · cases h
      · exact Or.inl (refuses_of_refuse h)

theorem refuses_of_level (hsimple : value.isSimple = true)
    (h : BuildLevel.ofValue value = .error failure) :
    value.Refuses failure ∨ failure = .levelWithoutText ∧ value.isLevelForm = false := by
  cases value with
  | null => cases h
  | bool value => cases h
  | integer rank =>
      left
      rw [BuildLevel.ofValue] at h
      split at h
      · cases h
      · exact refuses_of_refuse h
  | text text =>
      left
      rw [BuildLevel.ofValue] at h
      split at h
      · cases h
      · exact refuses_of_refuse h
  | bytes content => cases hsimple
  | _ =>
      cases h
      exact Or.inr ⟨rfl, rfl⟩

end Value

/-- What an entry does to an action beside being refused: an integer in it has too many digits to be
written, its level has no form of one, or its .NET major version is infinite. -/
inductive Mishap : SettingKey × Value → Failure → Prop
  | digits {key : SettingKey} {value : Value} (hkey : key ≠ .actions)
      (h : value.hasText = false) : Mishap (key, value) .tooManyDigits
  | level {value : Value} (h : value.isLevelForm = false) :
      Mishap (.projectBuildLevel, value) .levelWithoutText
  | infinite (negative : Bool) :
      Mishap (.netMajorVersion, .real (.infinite negative)) .infiniteInteger

namespace Mishap

variable {key : SettingKey} {value : Value} {failure : Failure}

theorem of_refuses (hkey : key ≠ .actions) (h : value.Refuses failure) :
    (∃ fault, failure = .settings fault) ∨ Mishap (key, value) failure := by
  rcases h with hfault | ⟨rfl, htext⟩
  · exact Or.inl hfault
  · exact Or.inr (.digits hkey htext)

theorem of_assign {place : String} {action : Action} (hsimple : value.isSimple = true)
    (h : action.assign place (key, value) = .error failure) :
    (∃ fault, failure = .settings fault) ∨ Mishap (key, value) failure := by
  cases key with
  | name => exact of_refuses (by simp) (Value.refuses_of_text (error_of_map h))
  | actionType => exact of_refuses (by simp) (Value.refuses_of_kind (error_of_map h))
  | active => exact of_refuses (by simp) (Value.refuses_of_yes (error_of_map h))
  | remarks => exact of_refuses (by simp) (Value.refuses_of_texts hsimple (error_of_map h))
  | options => exact of_refuses (by simp) (Value.refuses_of_texts hsimple (error_of_map h))
  | actions => cases h
  | netMajorVersion =>
      rcases Value.refuses_of_major (error_of_map h) with hrefuses | ⟨rfl, negative, rfl⟩
      · exact of_refuses (by simp) hrefuses
      · exact Or.inr (.infinite negative)
  | projectBuildLevel =>
      rcases Value.refuses_of_level hsimple (error_of_map h) with hrefuses | ⟨rfl, hform⟩
      · exact of_refuses (by simp) hrefuses
      · exact Or.inr (.level hform)
  | text field => exact of_refuses (by simp) (Value.refuses_of_text (error_of_map h))

theorem of_ofEntries {place : String} {action : Action} {entries : Entries}
    (hsimple : ∀ entry ∈ entries, entry.2.isSimple = true)
    (h : Action.ofEntries place action entries = .error failure) :
    (∃ fault, failure = .settings fault) ∨ ∃ entry ∈ entries, Mishap entry failure := by
  induction entries generalizing action with
  | nil => cases h
  | cons entry entries ih =>
      rw [Action.ofEntries] at h
      split at h
      · rcases ih (fun other hmem => hsimple other (List.mem_cons_of_mem entry hmem)) h with
          hfault | ⟨other, hmem, hother⟩
        · exact Or.inl hfault
        · exact Or.inr ⟨other, List.mem_cons_of_mem entry hmem, hother⟩
      · rename_i other hassign
        cases h
        exact (of_assign (hsimple entry List.mem_cons_self) hassign).imp_right
          fun hmishap => ⟨entry, List.mem_cons_self, hmishap⟩

end Mishap

/-! ## Reading the tree -/

/-- What stops reading a simple value as a tree of actions that are less than `room` deep inside
each other, beside a fault of the settings. -/
inductive Value.Stops (room : Nat) (value : Value) : Failure → Prop
  | entry {entry : SettingKey × Value} {failure : Failure} (hentry : value.Writes entry)
      (h : Mishap entry failure) : Stops room value failure
  | deep {inner : Value} (h : value.Nests room inner) : Stops room value .tooDeep

namespace ActionTree

variable {read : String → Value → Reading ActionTree} {place : String} {failure : Failure}
  {room : Nat} {value : Value}

theorem exists_error_of_ofItems {index : Nat} {items : List Value}
    (h : (ofItems read place index items).1 = .error failure) :
    ∃ item ∈ items, ∃ place, (read place item).1 = .error failure := by
  induction items generalizing index with
  | nil => cases h
  | cons item items ih =>
      rw [ofItems] at h
      cases hread : read (childPlace place index) item with
      | mk result warnings =>
          rw [hread] at h
          cases result with
          | error other =>
              cases h
              exact ⟨item, List.mem_cons_self, childPlace place index, by rw [hread]⟩
          | ok tree =>
              obtain ⟨other, hmem, hother⟩ := ih (error_of_map h)
              exact ⟨other, List.mem_cons_of_mem item hmem, hother⟩

theorem exists_ok_of_ofItems {index : Nat} {items : List Value} {trees : List ActionTree}
    (h : (ofItems read place index items).1 = .ok trees) :
    ∀ tree ∈ trees, ∃ item ∈ items, ∃ place, (read place item).1 = .ok tree := by
  induction items generalizing index trees with
  | nil =>
      cases h
      simp
  | cons item items ih =>
      rw [ofItems] at h
      cases hread : read (childPlace place index) item with
      | mk result warnings =>
          rw [hread] at h
          cases result with
          | error other => cases h
          | ok tree =>
              obtain ⟨rest, hrest, rfl⟩ := exists_of_map h
              refine List.forall_mem_cons.2 ⟨?_, fun other hother => ?_⟩
              · exact ⟨item, List.mem_cons_self, childPlace place index, by rw [hread]⟩
              · obtain ⟨later, hmem, hlater⟩ := ih hrest other hother
                exact ⟨later, List.mem_cons_of_mem item hmem, hlater⟩

/-- A simple value is refused, or read by its children and then its entries. -/
theorem ofValueFuel_cases (hsimple : value.isSimple = true) (room : Nat) (place : String) :
    (∃ fault, (ofValueFuel (room + 1) place value).1 = .error (.settings fault)) ∨
      ∃ entries items, value.entries? = some entries ∧ childValues? entries = some items ∧
        (ofValueFuel (room + 1) place value).1 = (do
          let children ← (ofItems (ofValueFuel room) place 0 items).1
          let own ← Action.ofEntries place {} entries
          .ok (.node own children)) := by
  rw [ofValueFuel, Value.unrolled_of_isSimple hsimple]
  split
  · rename_i pairs
    obtain ⟨entries, hentries⟩ := Entries.exists_of_isSimple hsimple place []
    have hvalue := Entries.entries?_mapping place hentries
    rw [ofPairs]
    cases hmapping : Entries.ofMapping place pairs [] with
    | mk result warnings =>
        rw [hmapping] at hentries
        dsimp only at hentries
        subst hentries
        dsimp only
        cases hitems : childValues? entries with
        | none => exact Or.inl ⟨_, rfl⟩
        | some items => exact Or.inr ⟨entries, items, hvalue, hitems, rfl⟩
  · exact Or.inl ⟨_, rfl⟩

theorem stops_of_ofValueFuel (hsimple : value.isSimple = true)
    (h : (ofValueFuel room place value).1 = .error failure) :
    (∃ fault, failure = .settings fault) ∨ value.Stops room failure := by
  induction room generalizing place value with
  | zero =>
      cases h
      exact Or.inr (.deep (.here value))
  | succ room ih =>
      rcases ofValueFuel_cases hsimple room place with
        ⟨fault, hfault⟩ | ⟨entries, items, hentries, hitems, hread⟩
      · rw [hfault] at h
        cases h
        exact Or.inl ⟨fault, rfl⟩
      · rw [hread] at h
        rcases error_of_bind h with hchildren | ⟨children, -, h⟩
        · obtain ⟨item, hitem, place, hchild⟩ := exists_error_of_ofItems hchildren
          refine (ih (Entries.isSimple_of_child hsimple hentries hitems hitem) hchild).imp_right ?_
          rintro (⟨hentry, hmishap⟩ | hinner)
          · exact .entry (hentry.inside hentries hitems hitem) hmishap
          · exact .deep (.inside hentries hitems hitem hinner)
        · rcases error_of_bind h with hown | ⟨own, -, h⟩
          · have hheld : ∀ entry ∈ entries, entry.2.isSimple = true :=
              fun entry => Entries.isSimple_of_entries? hsimple hentries
            refine (Mishap.of_ofEntries hheld hown).imp_right ?_
            rintro ⟨entry, hmem, hmishap⟩
            exact .entry (Value.writes_of_mem hentries hmem) hmishap
          · cases h

end ActionTree

/-! ## Expanding variables -/

namespace Expand

variable {around : Surroundings} {failure : Failure}

theorem homeUnknown_of_home (h : home around = .error failure) : failure = .homeUnknown := by
  unfold home at h
  split at h
  · cases h
    rfl
  · split at h <;> cases h
    rfl

/-- Variables are expanded unless the home folder is asked for and nobody knows it. -/
theorem home_of_expandFrom {skip : Nat} {text : List Char}
    (h : expandFrom around skip text = .error failure) :
    home around = .error failure := by
  fun_induction expandFrom around skip text with
  | case1 => cases h
  | case2 skip c rest ih => exact ih h
  | case3 rest name hname ih =>
      rcases error_of_bind h with hvalue | ⟨value, -, h⟩
      · unfold value? at hvalue
        split at hvalue
        · exact error_of_map hvalue
        · cases hvalue
      · rcases error_of_bind h with hrest | ⟨later, -, h⟩
        · exact ih hrest
        · cases h
  | case4 rest hname ih => exact ih (error_of_map h)
  | case5 c rest hsign ih => exact ih (error_of_map h)

theorem home_of_expand {text : String} (h : expand around text = .error failure) :
    home around = .error failure := home_of_expandFrom (error_of_map h)

end Expand

theorem Action.home_of_expandedIn {around : Surroundings} {failure : Failure} {action : Action}
    {fields : List TextField} (h : expandedIn around action fields = .error failure) :
    Expand.home around = .error failure := by
  induction fields generalizing action with
  | nil => cases h
  | cons field fields ih =>
      rcases error_of_bind h with htext | ⟨text, -, hrest⟩
      · exact Expand.home_of_expand htext
      · exact ih hrest

/-! ## Resolving -/

/-- What stops resolving a simple value beside a fault of the settings: a mishap with an entry,
actions too deep inside each other, or a home folder that nobody knows. -/
def Value.Upsets (around : Surroundings) (value : Value) (failure : Failure) : Prop :=
  value.Stops ActionTree.deepest failure ∨
    failure = .homeUnknown ∧ Expand.home around = .error .homeUnknown

theorem ActionTree.upsets_of_resolve {around : Surroundings} {workingPath : Option Path}
    {value : Value} {failure : Failure} (hsimple : value.isSimple = true)
    (h : (resolve around workingPath value).1 = .error failure) :
    (∃ fault, failure = .settings fault) ∨ value.Upsets around failure := by
  unfold resolve at h
  cases hread : ofValue "root" value with
  | mk result warnings =>
      rw [hread] at h
      cases result with
      | error other =>
          cases h
          have hstops : (ofValueFuel deepest "root" value).1 = .error failure := by
            rw [ofValue] at hread
            rw [hread]
          exact (stops_of_ofValueFuel hsimple hstops).imp_right Or.inl
      | ok tree =>
          obtain ⟨action, -, hexpanded⟩ := exists_of_mapM h
          have hhome := Action.home_of_expandedIn hexpanded
          obtain rfl := Expand.homeUnknown_of_home hhome
          exact Or.inr (Or.inr ⟨rfl, hhome⟩)

end SetupForge
