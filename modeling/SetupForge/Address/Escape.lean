import SetupForge.Json.Read
import SetupForge.Text.Quoted
import SetupForge.Text.Utf8
import SetupForge.Text.Word

/-! # Escapes of an address

A percent sign and two hexadecimal digits write a byte. Every part of an address has characters
of its own that stand for themselves there; all others have to be escaped.
-/

namespace SetupForge.Address

open Text

def isUnreserved (c : Char) : Bool := c.isAlphanum || "-._~".toList.contains c

def isUserChar (c : Char) : Bool := isUnreserved c || "!$&'()*+,;=:".toList.contains c

def isPathChar (c : Char) : Bool := isUserChar c || c = '@' || c = '/'

def isQueryChar (c : Char) : Bool := isPathChar c || c = '?'

def isSafe (c : Char) : Bool := isUnreserved c || "!#$&'()*+,/:;=?@[]".toList.contains c

def escaped? (a b : Char) : Option Nat := Json.hexValue? [a, b]

def escapeByte (byte : UInt8) : List Char :=
  '%' :: (hexDigits 2 byte.toNat).map Char.toUpper

def escapeChar (c : Char) : List Char := (Utf8.encodeChar c).flatMap escapeByte

def quote (test : Char → Bool) (text : List Char) : List Char :=
  text.flatMap fun c => if test c then [c] else escapeChar c

/-- Whether every percent sign of a text starts an escape. -/
def isEscaped : List Char → Bool
  | [] => true
  | '%' :: a :: b :: text => (escaped? a b).isSome && isEscaped text
  | '%' :: _ => false
  | _ :: text => isEscaped text

def upperEscapes : List Char → List Char
  | '%' :: a :: b :: text =>
      if (escaped? a b).isSome then '%' :: a.toUpper :: b.toUpper :: upperEscapes text
      else '%' :: upperEscapes (a :: b :: text)
  | c :: text => c :: upperEscapes text
  | [] => []

/-- Escapes the characters outside a class. Escapes of the text stay if all of it is escaped. -/
def escape (test : Char → Bool) (text : List Char) : List Char :=
  let keepsEscapes := isEscaped text
  quote (fun c => (keepsEscapes && c = '%') || test c) (upperEscapes text)

def isLetterOrNumber (c : Char) : Bool := isWordChar c && c ≠ '_'

/-- Replaces the escapes of characters that need none. Digits that write no byte are a failure. -/
def unescape? : List Char → Option (List Char)
  | '%' :: a :: b :: text =>
      if isLetterOrNumber a && isLetterOrNumber b then
        match escaped? (asAsciiDigit a) (asAsciiDigit b) with
        | some byte => do
            let rest ← unescape? text
            pure (if isUnreserved (Char.ofNat byte) then Char.ofNat byte :: rest
              else '%' :: a :: b :: rest)
        | none => none
      else (unescape? (a :: b :: text)).map ('%' :: ·)
  | c :: text => (unescape? text).map (c :: ·)
  | [] => some []

/-- The text with exactly the escapes that it needs. -/
def requote (text : List Char) : List Char :=
  match unescape? text with
  | some text => quote (fun c => isSafe c || c = '%') text
  | none => quote isSafe text

def bytesOf : List Char → Bytes
  | '%' :: a :: b :: text =>
      match escaped? a b with
      | some byte => UInt8.ofNat byte :: bytesOf text
      | none => UInt8.ofNat '%'.toNat :: bytesOf (a :: b :: text)
  | c :: text => UInt8.ofNat c.toNat :: bytesOf text
  | [] => []

/-- The text that some text stands for after ASCII characters, which are given from their end. -/
def plainFrom (before : List Char) : List Char → List Char
  | [] => Utf8.decodeAny (bytesOf before.reverse)
  | c :: text =>
      if c.toNat < 0x80 then plainFrom (c :: before) text
      else Utf8.decodeAny (bytesOf before.reverse) ++ c :: plainFrom [] text

def plain (text : List Char) : List Char := plainFrom [] text

end SetupForge.Address
