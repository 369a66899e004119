import SetupForge.Number.Binary64
import SetupForge.Text.Utf8
import SetupForge.Value.Stamp

/-! # Settings values

The values that a settings file can hold, before their meaning is looked at. Mappings keep
the order of their entries. A list or mapping may hold itself; it then has a name, under which
the places inside it refer back to it.
-/

namespace SetupForge

inductive Value where
  | null
  | bool (value : Bool)
  | integer (value : Int)
  | real (value : Binary64)
  | text (value : String)
  | stamp (value : Stamp)
  | bytes (content : Bytes)
  | list (items : List Value)
  /-- Two values that belong together. -/
  | pair (first second : Value)
  /-- Values that count once each. -/
  | set (items : List Value)
  | mapping (entries : List (Value × Value))
  /-- A value that can hold itself: inside it, `again` stands for it. -/
  | loop (name : Nat) (body : Value)
  /-- The value of a name around this place, and how it is shown here. -/
  | again (name : Nat) (shown : String)
deriving Repr

namespace Value

/-- Whether a value counts as given: not null, false, zero or empty. -/
def isGiven : Value → Bool
  | .null => false
  | .bool value => value
  | .integer value => value != 0
  | .real value => !value.isZero
  | .text value => !value.isEmpty
  | .stamp _ => true
  | .bytes content => !content.isEmpty
  | .list items => !items.isEmpty
  | .pair _ _ => true
  | .set items => !items.isEmpty
  | .mapping entries => !entries.isEmpty
  | .loop _ body => body.isGiven
  | .again _ _ => true

def exactInt? : Value → Option Int
  | .bool value => some (if value then 1 else 0)
  | .integer value => some value
  | .real value => value.exactInt?
  | _ => none

/-- Whether two values are the same key: numbers and booleans by value, points in time by their
instant, texts and bytes as they are. -/
def sameKey (a b : Value) : Bool :=
  match a, b with
  | .null, .null => true
  | .text a, .text b => a == b
  | .stamp a, .stamp b => a.isSame b
  | .bytes a, .bytes b => a == b
  | .real (.infinite a), .real (.infinite b) => a == b
  | .real a, .real b =>
      match a.signedRatio?, b.signedRatio? with
      | some (n, d), some (m, e) => n * e == m * d
      | _, _ => false
  | a, b =>
      match a.exactInt?, b.exactInt? with
      | some a, some b => a == b
      | _, _ => false

/-- Puts a value under a key: in the place of the same key, or at the end. -/
def insertEntry (key value : Value) : List (Value × Value) → List (Value × Value)
  | [] => [(key, value)]
  | entry :: entries =>
      if sameKey entry.1 key then (entry.1, value) :: entries
      else entry :: insertEntry key value entries

/-- The mapping of some pairs in order; of a repeated key the first spelling and the last value
stay. -/
def ofPairs (pairs : List (Value × Value)) : List (Value × Value) :=
  pairs.foldl (fun entries pair => insertEntry pair.1 pair.2 entries) []

def field? (name : String) : Value → Option Value
  | .mapping entries => (entries.find? fun entry => sameKey entry.1 (.text name)).map (·.2)
  | _ => none

mutual

/-- Puts a value in all places that refer to a name. -/
def replace (name : Nat) (new : Value) : Value → Value
  | .list items => .list (replaceItems name new items)
  | .pair first second => .pair (replace name new first) (replace name new second)
  | .mapping entries => .mapping (replaceEntries name new entries)
  | .loop other body => .loop other (if other = name then body else replace name new body)
  | .again other shown => if other = name then new else .again other shown
  | value => value

def replaceItems (name : Nat) (new : Value) : List Value → List Value
  | [] => []
  | item :: items => replace name new item :: replaceItems name new items

def replaceEntries (name : Nat) (new : Value) : List (Value × Value) → List (Value × Value)
  | [] => []
  | entry :: entries => replaceEntry name new entry :: replaceEntries name new entries

/-- Puts a value in all places of an entry that refer to a name; its key cannot hold any. -/
def replaceEntry (name : Nat) (new : Value) : Value × Value → Value × Value
  | (key, value) => (key, replace name new value)

end

/-- The value itself: one that can hold itself is unrolled once. -/
def unrolled : Value → Value
  | .loop name body => replace name (.loop name body) body
  | value => value

def isMapping (value : Value) : Bool :=
  match value.unrolled with
  | .mapping _ => true
  | _ => false

mutual

def refersBack : Value → Bool
  | .again _ _ => true
  | .loop _ body => body.refersBack
  | .list items => itemsReferBack items
  | .pair first second => first.refersBack || second.refersBack
  | .mapping entries => entriesReferBack entries
  | _ => false

def itemsReferBack : List Value → Bool
  | [] => false
  | item :: items => item.refersBack || itemsReferBack items

def entriesReferBack : List (Value × Value) → Bool
  | [] => false
  | entry :: entries => entryRefersBack entry || entriesReferBack entries

def entryRefersBack : Value × Value → Bool
  | (_, value) => value.refersBack

end

@[simp] theorem isGiven_null : isGiven .null = false := rfl

end Value

end SetupForge
