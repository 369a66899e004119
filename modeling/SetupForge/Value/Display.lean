import SetupForge.Text.Digit
import SetupForge.Text.Quoted
import SetupForge.Value.Basic

/-! # The text of a value

Two texts: the plain one that a value contributes to settings, and the quoted one that
messages and the items of collections use.
-/

namespace SetupForge

open Text (padded)

namespace Stamp

def zoneText (minutes : Int) : String :=
  let size := minutes.natAbs
  (if minutes < 0 then "-" else "+") ++ padded 2 (size / 60) ++ ":" ++ padded 2 (size % 60)

def plain (stamp : Stamp) : String :=
  let date := padded 4 stamp.year ++ "-" ++ padded 2 stamp.month ++ "-" ++ padded 2 stamp.day
  match stamp.time with
  | none => date
  | some time =>
      date ++ " " ++ padded 2 time.hour ++ ":" ++ padded 2 time.minute ++ ":" ++
        padded 2 time.second ++ (if time.micros = 0 then "" else "." ++ padded 6 time.micros) ++
        (match time.zone with
          | none => ""
          | some minutes => zoneText minutes)

def quotedZone (minutes : Int) : String :=
  if minutes = 0 then "datetime.timezone.utc"
  else
    let seconds := minutes * 60
    let days := seconds / 86400
    let rest := seconds % 86400
    let parts :=
      (if days = 0 then [] else [s!"days={days}"]) ++
        (if rest = 0 then [] else [s!"seconds={rest}"])
    "datetime.timezone(datetime.timedelta(" ++ ", ".intercalate parts ++ "))"

def quoted (stamp : Stamp) : String :=
  let date := [stamp.year, stamp.month, stamp.day].map fun n => s!"{n}"
  match stamp.time with
  | none => "datetime.date(" ++ ", ".intercalate date ++ ")"
  | some time =>
      let clock :=
        if time.micros ≠ 0 then [time.hour, time.minute, time.second, time.micros]
        else if time.second ≠ 0 then [time.hour, time.minute, time.second]
        else [time.hour, time.minute]
      let zone :=
        match time.zone with
        | none => []
        | some minutes => ["tzinfo=" ++ quotedZone minutes]
      "datetime.datetime(" ++ ", ".intercalate (date ++ clock.map (fun n => s!"{n}") ++ zone) ++ ")"

end Stamp

namespace Value

def quotedByte (quote : Char) (byte : UInt8) : List Char :=
  let c := Char.ofNat byte.toNat
  if byte.toNat < 0x80 then Text.quotedChar quote c else Text.codeEscape c

def quotedBytes (content : Bytes) : String :=
  let quote := Text.quoteFor (content.map fun byte => Char.ofNat byte.toNat)
  String.ofList ('b' :: quote :: content.flatMap (quotedByte quote) ++ [quote])

def enclosed (opening closing : String) (texts : List String) : String :=
  opening ++ ", ".intercalate texts ++ closing

def innerText : Value → String
  | .list _ => "[...]"
  | .pair _ _ => "(...)"
  | _ => "\x7b...\x7d"

mutual

/-- The quoted text of a value inside those of some names. -/
def quotedIn (around : List Nat) : Value → String
  | .null => "None"
  | .bool value => if value then "True" else "False"
  | .integer value => s!"{value}"
  | .real value => value.toString
  | .text value => Text.quoted value
  | .stamp value => value.quoted
  | .bytes content => quotedBytes content
  | .list items => enclosed "[" "]" (quotedItems around items)
  | .pair first second => enclosed "(" ")" [quotedIn around first, quotedIn around second]
  | .set [] => "set()"
  | .set (item :: items) =>
      enclosed "\x7b" "\x7d" (quotedIn around item :: quotedItems around items)
  | .mapping entries => enclosed "\x7b" "\x7d" (quotedEntries around entries)
  | .loop name body =>
      if name ∈ around then body.innerText else quotedIn (name :: around) body
  | .again _ shown => shown

def quotedItems (around : List Nat) : List Value → List String
  | [] => []
  | item :: items => quotedIn around item :: quotedItems around items

def quotedEntries (around : List Nat) : List (Value × Value) → List String
  | [] => []
  | entry :: entries => quotedEntry around entry :: quotedEntries around entries

def quotedEntry (around : List Nat) : Value × Value → String
  | (key, value) => quotedIn around key ++ ": " ++ quotedIn around value

end

def quoted (value : Value) : String := value.quotedIn []

/-- The plain text of a value: texts and dates as they are, all else quoted. -/
def plain : Value → String
  | .text value => value
  | .stamp value => value.plain
  | value => value.quoted

mutual

/-- Whether a value has a text: whether every integer in it has one. -/
def hasText : Value → Bool
  | .integer value => Text.hasText value
  | .list items => itemsHaveText items
  | .pair first second => first.hasText && second.hasText
  | .set items => itemsHaveText items
  | .mapping entries => entriesHaveText entries
  | .loop _ body => body.hasText
  | _ => true

def itemsHaveText : List Value → Bool
  | [] => true
  | item :: items => item.hasText && itemsHaveText items

def entriesHaveText : List (Value × Value) → Bool
  | [] => true
  | entry :: entries => entryHasText entry && entriesHaveText entries

def entryHasText : Value × Value → Bool
  | (key, value) => key.hasText && value.hasText

end

def kindName : Value → String
  | .null => "NoneType"
  | .bool _ => "bool"
  | .integer _ => "int"
  | .real _ => "float"
  | .text _ => "str"
  | .stamp value => if value.time.isSome then "datetime" else "date"
  | .bytes _ => "bytes"
  | .list _ => "list"
  | .pair _ _ => "tuple"
  | .set _ => "set"
  | .mapping _ => "dict"
  | .loop _ body => body.kindName
  | .again _ _ => "dict"

example : (Value.list [.integer 1, .text "a", .null]).plain = "[1, 'a', None]" := by decide +kernel

end Value

end SetupForge
