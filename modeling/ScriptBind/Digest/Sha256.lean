import ScriptBind.Text.Hex

/-!
# ScriptBind.Digest.Sha256

The hash function SHA-256 on byte strings, and the two things made from it here: the fingerprint
of a text and the name of a struct type that has none of its own.

* `Sha256.digest` - the eight words of the hash.
* `fingerprint` - the hash of a text as 64 hexadecimal digits.
* `structAlias` - the name made from the first eight bytes of the hash.
-/

namespace ScriptBind
namespace Sha256

/-- The working variables, and between blocks the hash so far. -/
structure State where
  a : UInt32
  b : UInt32
  c : UInt32
  d : UInt32
  e : UInt32
  f : UInt32
  g : UInt32
  h : UInt32
deriving DecidableEq, Repr

def start : State :=
  ⟨0x6a09e667, 0xbb67ae85, 0x3c6ef372, 0xa54ff53a, 0x510e527f, 0x9b05688c, 0x1f83d9ab, 0x5be0cd19⟩

def roundConstants : List UInt32 :=
  [0x428a2f98, 0x71374491, 0xb5c0fbcf, 0xe9b5dba5, 0x3956c25b, 0x59f111f1, 0x923f82a4, 0xab1c5ed5,
   0xd807aa98, 0x12835b01, 0x243185be, 0x550c7dc3, 0x72be5d74, 0x80deb1fe, 0x9bdc06a7, 0xc19bf174,
   0xe49b69c1, 0xefbe4786, 0x0fc19dc6, 0x240ca1cc, 0x2de92c6f, 0x4a7484aa, 0x5cb0a9dc, 0x76f988da,
   0x983e5152, 0xa831c66d, 0xb00327c8, 0xbf597fc7, 0xc6e00bf3, 0xd5a79147, 0x06ca6351, 0x14292967,
   0x27b70a85, 0x2e1b2138, 0x4d2c6dfc, 0x53380d13, 0x650a7354, 0x766a0abb, 0x81c2c92e, 0x92722c85,
   0xa2bfe8a1, 0xa81a664b, 0xc24b8b70, 0xc76c51a3, 0xd192e819, 0xd6990624, 0xf40e3585, 0x106aa070,
   0x19a4c116, 0x1e376c08, 0x2748774c, 0x34b0bcb5, 0x391c0cb3, 0x4ed8aa4a, 0x5b9cca4f, 0x682e6ff3,
   0x748f82ee, 0x78a5636f, 0x84c87814, 0x8cc70208, 0x90befffa, 0xa4506ceb, 0xbef9a3f7, 0xc67178f2]

def rotateRight (x : UInt32) (n : UInt32) : UInt32 := (x >>> n) ||| (x <<< (32 - n))

def choose (x y z : UInt32) : UInt32 := (x &&& y) ^^^ ((~~~x) &&& z)

def majority (x y z : UInt32) : UInt32 := (x &&& y) ^^^ (x &&& z) ^^^ (y &&& z)

def bigSigma0 (x : UInt32) : UInt32 := rotateRight x 2 ^^^ rotateRight x 13 ^^^ rotateRight x 22

def bigSigma1 (x : UInt32) : UInt32 := rotateRight x 6 ^^^ rotateRight x 11 ^^^ rotateRight x 25

def smallSigma0 (x : UInt32) : UInt32 := rotateRight x 7 ^^^ rotateRight x 18 ^^^ (x >>> 3)

def smallSigma1 (x : UInt32) : UInt32 := rotateRight x 17 ^^^ rotateRight x 19 ^^^ (x >>> 10)

/-- Lengthen the message schedule by `n` words; the words stand last first. -/
def extend : Nat → List UInt32 → List UInt32
  | 0, words => words
  | n + 1, words =>
    extend n
      ((smallSigma1 (words.getD 1 0) + words.getD 6 0 + smallSigma0 (words.getD 14 0) +
        words.getD 15 0) :: words)

def round (s : State) (constant word : UInt32) : State :=
  let t1 := s.h + bigSigma1 s.e + choose s.e s.f s.g + constant + word
  let t2 := bigSigma0 s.a + majority s.a s.b s.c
  ⟨t1 + t2, s.a, s.b, s.c, s.d + t1, s.e, s.f, s.g⟩

def rounds : List UInt32 → List UInt32 → State → State
  | constant :: constants, word :: words, s => rounds constants words (round s constant word)
  | _, _, s => s

/-- Take in one block of sixteen words. -/
def absorb (s : State) (block : List UInt32) : State :=
  let r := rounds roundConstants (extend 48 block.reverse).reverse s
  ⟨s.a + r.a, s.b + r.b, s.c + r.c, s.d + r.d, s.e + r.e, s.f + r.f, s.g + r.g, s.h + r.h⟩

/-- The length in bits as eight bytes, the most significant first. -/
def lengthBytes (bits : Nat) : List UInt8 :=
  [56, 48, 40, 32, 24, 16, 8, 0].map fun shift => (bits >>> shift).toUInt8

/-- A one bit, zeros up to eight bytes short of a full block, and the length. -/
def pad (bytes : List UInt8) : List UInt8 :=
  let n := bytes.length
  bytes ++ 0x80 :: List.replicate ((119 - n % 64) % 64) 0 ++ lengthBytes (8 * n)

def toWords : List UInt8 → List UInt32
  | b0 :: b1 :: b2 :: b3 :: rest =>
    ((b0.toUInt32 <<< 24) ||| (b1.toUInt32 <<< 16) ||| (b2.toUInt32 <<< 8) ||| b3.toUInt32) ::
      toWords rest
  | _ => []

/-- Take in the words block by block; `n` is at least the number of blocks. -/
def absorbAll : Nat → List UInt32 → State → State
  | 0, _, s => s
  | n + 1, words, s =>
    if words.isEmpty then s else absorbAll n (words.drop 16) (absorb s (words.take 16))

def digest (bytes : List UInt8) : List UInt32 :=
  let words := toWords (pad bytes)
  let s := absorbAll words.length words start
  [s.a, s.b, s.c, s.d, s.e, s.f, s.g, s.h]

end Sha256

open Text

def fingerprint (text : String) : String :=
  String.join ((Sha256.digest text.toUTF8.toList).map fun word => hexPadded 8 word.toNat)

/-- The first eight bytes of the hash as a number. -/
def structHash (listing : String) : Nat :=
  match Sha256.digest listing.toUTF8.toList with
  | high :: low :: _ => high.toNat <<< 32 + low.toNat
  | _ => 0

def structAliasStem : String := "Struct_"

def structAlias (listing : String) : String :=
  structAliasStem ++ hexPadded 16 (structHash listing)

end ScriptBind
