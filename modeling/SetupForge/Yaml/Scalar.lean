import SetupForge.Json.Read
import SetupForge.Text.Base64
import SetupForge.Text.LetterCase
import SetupForge.Text.Search
import SetupForge.Yaml.Cursor

/-! # What scalars mean

The tag of a scalar says how its text is read. A plain scalar without a tag gets the first
one whose form its text has, and is a text if there is none. A line feed at the end of a text
does not count for its form.
-/

namespace SetupForge.Yaml

inductive Tag where
  | null
  | bool
  | integer
  | real
  | stamp
  | bytes
  | text
  | list
  | pairs
  | set
  | mapping
  | merge
  | equals
  /-- A tag without a meaning. -/
  | other (name : String)
deriving DecidableEq, Repr

namespace Tag

def standard : String := "tag:yaml.org,2002:"

def names : List (String × Tag) := [
  ("null", .null), ("bool", .bool), ("int", .integer), ("float", .real), ("timestamp", .stamp),
  ("binary", .bytes), ("str", .text), ("seq", .list), ("omap", .pairs), ("pairs", .pairs),
  ("set", .set), ("map", .mapping), ("merge", .merge), ("value", .equals)]

def ofName (name : String) : Tag :=
  ((names.find? fun entry => standard ++ entry.1 == name).map (·.2)).getD (.other name)

def indicator : Tag := .other (standard ++ "yaml")

end Tag

namespace Scalar

def boolWords : List (String × Bool) := [
  ("yes", true), ("Yes", true), ("YES", true), ("no", false), ("No", false), ("NO", false),
  ("true", true), ("True", true), ("TRUE", true), ("false", false), ("False", false),
  ("FALSE", false), ("on", true), ("On", true), ("ON", true), ("off", false), ("Off", false),
  ("OFF", false)]

def nullWords : List String := ["", "~", "null", "Null", "NULL"]

def dropSign : List Char → Bool × List Char
  | '-' :: text => (true, text)
  | '+' :: text => (false, text)
  | text => (false, text)

def isDigitIn (base : Nat) (c : Char) : Bool :=
  match Json.hexDigit? c with
  | some digit => digit < base
  | none => false

/-- Whether a text is some digits of a base and underscores, at least one of them. -/
def isGrouped (base : Nat) (text : List Char) : Bool :=
  !text.isEmpty && text.all fun c => isDigitIn base c || c = '_'

def isWhole : List Char → Bool
  | [] => false
  | c :: text => c.isDigit && text.all fun c => c.isDigit || c = '_'

/-- Whether a text is a number below 60, in one or two digits. -/
def isSixtieth : List Char → Bool
  | [c] => c.isDigit
  | [c, d] => '0' ≤ c && c ≤ '5' && d.isDigit
  | _ => false

/-- Whether a text is a whole number and sixtieths behind colons. -/
def isSexagesimal (text : List Char) : Bool :=
  match Text.splitOn ':' text with
  | first :: second :: rest => isWhole first && (second :: rest).all isSixtieth
  | _ => false

def isInteger (text : List Char) : Bool :=
  match (dropSign text).2 with
  | '0' :: 'b' :: digits => isGrouped 2 digits
  | '0' :: 'x' :: digits => isGrouped 16 digits
  | '0' :: digits => digits.isEmpty || isGrouped 8 digits
  | unsigned => isWhole unsigned || isSexagesimal unsigned

def isExponent : List Char → Bool
  | mark :: sign :: digits =>
      (mark = 'e' || mark = 'E') && (sign = '-' || sign = '+') && !digits.isEmpty &&
        digits.all Char.isDigit
  | _ => false

def isFraction (text : List Char) : Bool :=
  let rest := text.dropWhile fun c => c.isDigit || c = '_'
  rest.isEmpty || isExponent rest

def isReal (text : List Char) : Bool :=
  let unsigned := (dropSign text).2
  let whole := unsigned.takeWhile (· ≠ '.')
  match unsigned.dropWhile (· ≠ '.') with
  | '.' :: fraction =>
      let word := String.ofList fraction
      (isWhole whole && isFraction fraction) ||
        (isSexagesimal whole && fraction.all fun c => c.isDigit || c = '_') ||
        (whole.isEmpty && word ∈ ["inf", "Inf", "INF"]) ||
        (text.head? == some '.' &&
          ((isWhole (fraction.take 1) && isFraction fraction) || word ∈ ["nan", "NaN", "NAN"]))
  | _ => false

def readDigits? (most : Nat) (text : List Char) : Option (List Nat × List Char) :=
  let digits := (text.take most).takeWhile Char.isDigit
  if digits.isEmpty then none
  else some (digits.filterMap Text.asciiDigit?, text.drop digits.length)

def readExactly? (count : Nat) (text : List Char) : Option (List Nat × List Char) :=
  (readDigits? count text).filter fun (digits, _) => digits.length = count

def readChar? (c : Char) : List Char → Option (List Char)
  | d :: text => if d = c then some text else none
  | [] => none

def decimal (digits : List Nat) : Nat := Text.ofDigits 10 digits

/-- Reads the zone of a time up to the end of the text: none, or minutes from universal time. -/
def readZone? (text : List Char) : Option (Option Int) :=
  match text with
  | [] => some none
  | _ =>
      match text.dropWhile isTabOrSpace with
      | ['Z'] => some (some 0)
      | sign :: text =>
          if sign = '-' ∨ sign = '+' then do
            let (hours, text) ← readDigits? 2 text
            let minutes ←
              match text with
              | [] => some []
              | ':' :: text => (readExactly? 2 text).bind fun (minutes, text) =>
                  if text.isEmpty then some minutes else none
              | _ => none
            let size : Int := decimal hours * 60 + decimal minutes
            some (some (if sign = '-' then -size else size))
          else none
      | [] => none

def readTime? (text : List Char) : Option TimeOfDay := do
  let (hour, text) ← readDigits? 2 text
  let text ← readChar? ':' text
  let (minute, text) ← readExactly? 2 text
  let text ← readChar? ':' text
  let (second, text) ← readExactly? 2 text
  let (fraction, text) : List Char × List Char :=
    match text with
    | '.' :: text => (text.takeWhile Char.isDigit, text.dropWhile Char.isDigit)
    | text => ([], text)
  let micros := ((fraction ++ List.replicate 6 '0').take 6).filterMap Text.asciiDigit?
  let zone ← readZone? text
  some ⟨decimal hour, decimal minute, decimal second, decimal micros, zone⟩

/-- Reads a date, and a time if one follows; month and day may have one digit. -/
def readStamp? (text : List Char) : Option Stamp := do
  let (year, text) ← readExactly? 4 text
  let text ← readChar? '-' text
  let (month, text) ← readDigits? 2 text
  let text ← readChar? '-' text
  let (day, text) ← readDigits? 2 text
  let date (time : Option TimeOfDay) : Stamp := ⟨decimal year, decimal month, decimal day, time⟩
  match text with
  | [] => some (date none)
  | c :: rest =>
      if c = 'T' ∨ c = 't' then (readTime? rest).map fun time => date (some time)
      else if isTabOrSpace c then
        (readTime? (rest.dropWhile isTabOrSpace)).map fun time => date (some time)
      else none

def fullDateLength : Nat := 10

/-- Whether a text has the form of a date or time. A date alone has two digits for its month and
its day. -/
def isStamp (text : List Char) : Bool :=
  match readStamp? text with
  | none => false
  | some stamp => stamp.time.isSome || text.length == fullDateLength

/-- A text without the line feed at its end, unless there is nothing else. -/
def dropLineFeed (text : List Char) : List Char :=
  if text.getLast? = some '\n' ∧ text.length ≠ 1 then text.dropLast else text

def indicators : List String := ["!", "&", "*"]

def tagOfForm (text : String) : Tag :=
  let chars := dropLineFeed text.toList
  let word := String.ofList chars
  if (boolWords.lookup word).isSome then .bool
  else if isReal chars then .real
  else if isInteger chars then .integer
  else if word == "<<" then .merge
  else if word ∈ nullWords then .null
  else if isStamp chars then .stamp
  else if word == "=" then .equals
  else if word ∈ indicators then .indicator
  else .text

def digitsIn? (base : Nat) (digits : List Char) : Option Int :=
  if digits.isEmpty || !digits.all (isDigitIn base) then none
  else (digits.mapM Json.hexDigit?).map fun values => (Text.ofDigits base values : Int)

def baseLetter (base : Nat) : Char :=
  match base with
  | 2 => 'b'
  | 8 => 'o'
  | _ => 'x'

/-- Digits without a zero and the letter of their base before them. -/
def dropMark (base : Nat) (digits : List Char) : List Char :=
  match digits with
  | '0' :: letter :: rest => if letter.toLower = baseLetter base then rest else digits
  | _ => digits

/-- The integer of digits in a base up to 16, after blanks, a sign and the mark of the base.
Decimal digits may be of any script. -/
def integerIn? (base : Nat) (text : List Char) : Option Int :=
  let (negative, digits) := dropSign ((Text.trimNumber text).map Text.asAsciiDigit)
  (digitsIn? base (dropMark base digits)).map fun size => if negative then -size else size

/-- The sum of numbers behind colons, each counting 60 times the next. -/
def sexagesimal (parts : List Int) : Int := parts.foldl (fun sum part => sum * 60 + part) 0

def readUnsigned? (text : List Char) : Option Int :=
  match text with
  | '0' :: 'b' :: digits => integerIn? 2 digits
  | '0' :: 'x' :: digits => integerIn? 16 digits
  | '0' :: _ => integerIn? 8 text
  | _ =>
      if ':' ∈ text then
        ((Text.splitOn ':' text).mapM fun part => Text.integer? (String.ofList part)).map
          sexagesimal
      else Text.integer? (String.ofList text)

def readInteger (text : List Char) : Except Fault Value :=
  let (negative, unsigned) := dropSign (text.filter (· ≠ '_'))
  if unsigned.isEmpty then .error .emptyNumber
  else
    match readUnsigned? unsigned with
    | some n => .ok (.integer (if negative then -n else n))
    | none => .error .scalar

/-- The sum of numbers behind colons, the last counting once and each other 60 times the next. -/
def sexagesimalReal (parts : List Binary64) : Binary64 :=
  (parts.reverse.foldl
    (fun (sum, unit) part => (sum.add (part.scale unit), unit * 60))
    (Binary64.zero false, 1)).1

/-- The most parts behind colons whose units are floating-point numbers. -/
def mostRealParts : Nat := 174

def realWord (text : List Char) : List Char := Text.lowerChars (text.filter (· ≠ '_'))

/-- Whether a text is the word for no number. All such words give one and the same value. -/
def isNotNumber (text : List Char) : Bool := (dropSign (realWord text)).2 = ".nan".toList

def readReal (text : List Char) : Except Fault Value :=
  let word := realWord text
  let (negative, unsigned) := dropSign word
  let signed (value : Binary64) : Except Fault Value :=
    .ok (.real (if negative then value.negate else value))
  if word.isEmpty then .error .emptyNumber
  else if unsigned = ".inf".toList then signed (.infinite false)
  else if isNotNumber text then .ok (.real .notNumber)
  else if ':' ∈ unsigned then
    match (Text.splitOn ':' unsigned).mapM Binary64.ofText? with
    | some parts =>
        if mostRealParts < parts.length then .error .oversized
        else signed (sexagesimalReal parts)
    | none => .error .scalar
  else
    match Binary64.ofText? unsigned with
    | some value => signed value
    | none => .error .scalar

def readStamp (text : List Char) : Except Fault Value :=
  match readStamp? (dropLineFeed text) with
  | some stamp => if stamp.isOnCalendar then .ok (.stamp stamp) else .error .scalar
  | none => .error .stamp

def readBytes (text : List Char) : Except Fault Value :=
  if text.all fun c => c.toNat < 0x80 then
    match Base64.decode? text with
    | some content => .ok (.bytes content)
    | none => .error .tag
  else .error .tag

def read (tag : Tag) (text : String) : Except Fault Value :=
  match tag with
  | .text => .ok (.text text)
  | .null => .ok .null
  | .bool =>
      match boolWords.lookup (Text.lower text) with
      | some value => .ok (.bool value)
      | none => .error .word
  | .integer => readInteger text.toList
  | .real => readReal text.toList
  | .stamp => readStamp text.toList
  | .bytes => readBytes text.toList
  | _ => .error .tag

end Scalar

end SetupForge.Yaml
