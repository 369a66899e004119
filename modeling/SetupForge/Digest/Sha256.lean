import SetupForge.Text.Quoted
import SetupForge.Text.Utf8

/-! # SHA-256

The digest of some bytes: the padded message goes block by block through a compression of
eight words, and the final words are the digest.
-/

namespace SetupForge.Sha256

def roundWords : List UInt32 := [
  0x428a2f98, 0x71374491, 0xb5c0fbcf, 0xe9b5dba5, 0x3956c25b, 0x59f111f1, 0x923f82a4, 0xab1c5ed5,
  0xd807aa98, 0x12835b01, 0x243185be, 0x550c7dc3, 0x72be5d74, 0x80deb1fe, 0x9bdc06a7, 0xc19bf174,
  0xe49b69c1, 0xefbe4786, 0x0fc19dc6, 0x240ca1cc, 0x2de92c6f, 0x4a7484aa, 0x5cb0a9dc, 0x76f988da,
  0x983e5152, 0xa831c66d, 0xb00327c8, 0xbf597fc7, 0xc6e00bf3, 0xd5a79147, 0x06ca6351, 0x14292967,
  0x27b70a85, 0x2e1b2138, 0x4d2c6dfc, 0x53380d13, 0x650a7354, 0x766a0abb, 0x81c2c92e, 0x92722c85,
  0xa2bfe8a1, 0xa81a664b, 0xc24b8b70, 0xc76c51a3, 0xd192e819, 0xd6990624, 0xf40e3585, 0x106aa070,
  0x19a4c116, 0x1e376c08, 0x2748774c, 0x34b0bcb5, 0x391c0cb3, 0x4ed8aa4a, 0x5b9cca4f, 0x682e6ff3,
  0x748f82ee, 0x78a5636f, 0x84c87814, 0x8cc70208, 0x90befffa, 0xa4506ceb, 0xbef9a3f7, 0xc67178f2]

structure State where
  a : UInt32
  b : UInt32
  c : UInt32
  d : UInt32
  e : UInt32
  f : UInt32
  g : UInt32
  h : UInt32
deriving DecidableEq, Repr

namespace State

def start : State :=
  ⟨0x6a09e667, 0xbb67ae85, 0x3c6ef372, 0xa54ff53a, 0x510e527f, 0x9b05688c, 0x1f83d9ab, 0x5be0cd19⟩

def add (s t : State) : State :=
  ⟨s.a + t.a, s.b + t.b, s.c + t.c, s.d + t.d, s.e + t.e, s.f + t.f, s.g + t.g, s.h + t.h⟩

def words (s : State) : List UInt32 := [s.a, s.b, s.c, s.d, s.e, s.f, s.g, s.h]

end State

def rotate (count : UInt32) (word : UInt32) : UInt32 :=
  (word >>> count) ||| (word <<< (32 - count))

/-- Rotates a word by three counts and adds the results without carry. -/
def mix (i j k : UInt32) (word : UInt32) : UInt32 :=
  rotate i word ^^^ rotate j word ^^^ rotate k word

/-- Rotates a word by two counts, shifts it by a third, and adds the results without carry. -/
def mixShift (i j k : UInt32) (word : UInt32) : UInt32 :=
  rotate i word ^^^ rotate j word ^^^ (word >>> k)

def round (s : State) (word constant : UInt32) : State :=
  let choice := (s.e &&& s.f) ^^^ (~~~s.e &&& s.g)
  let majority := (s.a &&& s.b) ^^^ (s.a &&& s.c) ^^^ (s.b &&& s.c)
  let first := s.h + mix 6 11 25 s.e + choice + constant + word
  let second := mix 2 13 22 s.a + majority
  ⟨first + second, s.a, s.b, s.c, s.d + first, s.e, s.f, s.g⟩

/-- The word of the message that follows some others, given the latest first. -/
def nextWord (latest : List UInt32) : UInt32 :=
  mixShift 17 19 10 (latest.getD 1 0) + latest.getD 6 0 +
    mixShift 7 18 3 (latest.getD 14 0) + latest.getD 15 0

def extend : Nat → List UInt32 → List UInt32
  | 0, latest => latest
  | count + 1, latest => extend count (nextWord latest :: latest)

/-- The word of four bytes, the most significant first. -/
def wordOf (bytes : Bytes) : UInt32 :=
  bytes.foldl (fun word byte => (word <<< 8) ||| byte.toUInt32) 0

def wordsOf : Nat → Bytes → List UInt32
  | 0, _ => []
  | count + 1, bytes => wordOf (bytes.take 4) :: wordsOf count (bytes.drop 4)

def schedule (block : Bytes) : List UInt32 := (extend 48 (wordsOf 16 block).reverse).reverse

def compress (s : State) (block : Bytes) : State :=
  s.add (((schedule block).zip roundWords).foldl
    (fun s (word, constant) => round s word constant) s)

def blockSize : Nat := 64

/-- The bytes of a number, the most significant first. -/
def bytesOf : Nat → Nat → Bytes
  | 0, _ => []
  | count + 1, n => bytesOf count (n / 256) ++ [UInt8.ofNat n]

/-- What follows a message of some length: a one bit, zeros up to the end of a block, and the
length in bits as the last eight bytes of that block. -/
def padding (length : Nat) : Bytes :=
  let zeros := (2 * blockSize - 9 - length % blockSize) % blockSize
  0x80 :: List.replicate zeros 0 ++ bytesOf 8 (8 * length)

def compressBlocks : Nat → State → Bytes → State
  | 0, s, _ => s
  | count + 1, s, bytes =>
      compressBlocks count (compress s (bytes.take blockSize)) (bytes.drop blockSize)

def digest (message : Bytes) : Bytes :=
  let padded := message ++ padding message.length
  (compressBlocks (padded.length / blockSize) State.start padded).words.flatMap fun word =>
    bytesOf 4 word.toNat

def hex (message : Bytes) : String :=
  String.ofList ((digest message).flatMap fun byte => Text.hexDigits 2 byte.toNat)

end SetupForge.Sha256
