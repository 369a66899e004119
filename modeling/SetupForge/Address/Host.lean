import SetupForge.Address.Escape
import SetupForge.Text.Search

/-! # Hosts by number

A host is named by labels or by an Internet address: four numbers with dots between them, or
eight groups of hexadecimal digits in brackets. A double colon stands for groups that are zero,
and the last two groups may be written as four numbers.
-/

namespace SetupForge.Address

open Text

def looksIpv4 (text : List Char) : Bool :=
  let numbers := splitOn '.' text
  numbers.length == 4 &&
    numbers.all fun number =>
      1 ≤ number.length && number.length ≤ 3 && number.all Char.isDigit

def isOctet (number : List Char) : Bool :=
  (number.head? != some '0' || number.length == 1) &&
    ofDigits 10 (number.filterMap asciiDigit?) ≤ 255

def isIpv4 (text : List Char) : Bool := looksIpv4 text && (splitOn '.' text).all isOctet

def isGroup (text : List Char) : Bool :=
  1 ≤ text.length && text.length ≤ 4 && text.all fun c => (Json.hexDigit? c).isSome

/-- How many groups a text writes, whose end may be a text of another class that writes two. -/
def groupCount? (isEnd : List Char → Bool) (text : List Char) : Option Nat :=
  if text.isEmpty then some 0
  else
    let groups := splitOn ':' text
    if groups.all isGroup then some groups.length
    else if groups.dropLast.all isGroup && groups.getLast?.any isEnd then some (groups.length + 1)
    else none

/-- Whether a text is an address of eight groups, whose end may be a text of another class. -/
def isIpv6 (isEnd : List Char → Bool) (text : List Char) : Bool :=
  match cut? [':', ':'] text with
  | none => groupCount? isEnd text == some 8
  | some (before, after) =>
      match groupCount? (fun _ => false) before, groupCount? isEnd after with
      | some before, some after => before + after < 8
      | _, _ => false

/-- Whether a text holds characters that need no escape, and escapes, only. -/
def isZone : List Char → Bool
  | [] => true
  | '%' :: a :: b :: text => (escaped? a b).isSome && isZone text
  | c :: text => isUnreserved c && isZone text

/-- Divides what stands in brackets into an address and what follows a percent sign, its zone. -/
def cutZone (text : List Char) : List Char × Option (List Char) :=
  match text.dropWhile (· ≠ '%') with
  | _ :: zone => (text.takeWhile (· ≠ '%'), some zone)
  | [] => (text, none)

def isBracketed (text : List Char) : Bool :=
  let (address, zone?) := cutZone text
  isIpv6 looksIpv4 address && zone?.all fun zone => !zone.isEmpty && isZone zone

/-- What stands in the brackets of a host in its normal form: the address in lowercase, and the
zone after one percent sign that is not escaped. -/
def normalBracketed (text : List Char) : List Char :=
  let (address, zone?) := cutZone text
  match zone? with
  | none => address.map Char.toLower
  | some zone =>
      let zone :=
        match zone with
        | '2' :: '5' :: c :: zone => c :: zone
        | zone => zone
      address.map Char.toLower ++ '%' :: escape isUnreserved zone

/-- Whether a host in brackets has a meaning: an address of a version to come, or one of eight
groups whose zone holds no percent sign. -/
def isMeaningful (text : List Char) : Bool :=
  match text with
  | 'v' :: text =>
      match text.dropWhile (· ≠ '.') with
      | _ :: _ :: _ =>
          let version := text.takeWhile (· ≠ '.')
          !version.isEmpty && version.all fun c => (Json.hexDigit? c).isSome
      | _ => false
  | _ =>
      let (address, zone?) := cutZone text
      isIpv6 isIpv4 address && zone?.all fun zone => !zone.isEmpty && !zone.contains '%'

example : isIpv6 isIpv4 "::1".toList = true := by decide +kernel
example : isIpv6 isIpv4 "1:2:3:4:5:6:7:8:9".toList = false := by decide +kernel
example : isIpv6 isIpv4 "1::2::3".toList = false := by decide +kernel
example : isIpv6 isIpv4 "::ffff:10.0.0.1".toList = true := by decide +kernel

end SetupForge.Address
