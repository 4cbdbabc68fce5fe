import Mathlib
import Tiai.Lib.Utf8

/-!
# SHA-256

The hash function of FIPS 180-4, on bytes.  A message is padded to whole blocks of sixteen words; each block is
extended to a schedule of sixty-four words, one for each round.

* `sha256` — the digest; `length_sha256` — it has 32 bytes.
-/

namespace Tiai.Lib.Sha256

open Utf8

/-! ### Rounds -/

/-- The state, and the initial one. -/
structure Words where
  a : UInt32
  b : UInt32
  c : UInt32
  d : UInt32
  e : UInt32
  f : UInt32
  g : UInt32
  h : UInt32

def initial : Words :=
  ⟨0x6a09e667, 0xbb67ae85, 0x3c6ef372, 0xa54ff53a, 0x510e527f, 0x9b05688c, 0x1f83d9ab, 0x5be0cd19⟩

def roundConstants : List UInt32 :=
  [0x428a2f98, 0x71374491, 0xb5c0fbcf, 0xe9b5dba5, 0x3956c25b, 0x59f111f1, 0x923f82a4, 0xab1c5ed5,
    0xd807aa98, 0x12835b01, 0x243185be, 0x550c7dc3, 0x72be5d74, 0x80deb1fe, 0x9bdc06a7, 0xc19bf174,
    0xe49b69c1, 0xefbe4786, 0x0fc19dc6, 0x240ca1cc, 0x2de92c6f, 0x4a7484aa, 0x5cb0a9dc, 0x76f988da,
    0x983e5152, 0xa831c66d, 0xb00327c8, 0xbf597fc7, 0xc6e00bf3, 0xd5a79147, 0x06ca6351, 0x14292967,
    0x27b70a85, 0x2e1b2138, 0x4d2c6dfc, 0x53380d13, 0x650a7354, 0x766a0abb, 0x81c2c92e, 0x92722c85,
    0xa2bfe8a1, 0xa81a664b, 0xc24b8b70, 0xc76c51a3, 0xd192e819, 0xd6990624, 0xf40e3585, 0x106aa070,
    0x19a4c116, 0x1e376c08, 0x2748774c, 0x34b0bcb5, 0x391c0cb3, 0x4ed8aa4a, 0x5b9cca4f, 0x682e6ff3,
    0x748f82ee, 0x78a5636f, 0x84c87814, 0x8cc70208, 0x90befffa, 0xa4506ceb, 0xbef9a3f7, 0xc67178f2]

def rotr (x n : UInt32) : UInt32 := x >>> n ||| x <<< (32 - n)

def round (s : Words) (k w : UInt32) : Words :=
  let t₁ := s.h + (rotr s.e 6 ^^^ rotr s.e 11 ^^^ rotr s.e 25) + (s.e &&& s.f ^^^ ~~~s.e &&& s.g) + k + w
  let t₂ := (rotr s.a 2 ^^^ rotr s.a 13 ^^^ rotr s.a 22) + (s.a &&& s.b ^^^ s.a &&& s.c ^^^ s.b &&& s.c)
  ⟨t₁ + t₂, s.a, s.b, s.c, s.d + t₁, s.e, s.f, s.g⟩

/-- The next word of a schedule whose words are listed from the latest. -/
def nextWord (w : List UInt32) : UInt32 :=
  let w₂ := w.getD 1 0
  let w₁₅ := w.getD 14 0
  (rotr w₂ 17 ^^^ rotr w₂ 19 ^^^ w₂ >>> 10) + w.getD 6 0 + (rotr w₁₅ 7 ^^^ rotr w₁₅ 18 ^^^ w₁₅ >>> 3) + w.getD 15 0

/-- The rounds of a block; the word of a round is the sixteenth from the latest. -/
def rounds : List UInt32 → List UInt32 → Words → Words
  | [], _, s => s
  | k :: ks, w, s => rounds ks (nextWord w :: w) (round s k (w.getD 15 0))

def Words.add (s t : Words) : Words :=
  ⟨s.a + t.a, s.b + t.b, s.c + t.c, s.d + t.d, s.e + t.e, s.f + t.f, s.g + t.g, s.h + t.h⟩

/-! ### Messages -/

/-- `k` bytes, most significant first. -/
def bigEndian (k n : ℕ) : Bytes := (List.range k).reverse.map fun i => UInt8.ofNat (n / 256 ^ i)

def wordsOf : Bytes → List UInt32
  | a :: b :: c :: d :: s =>
    (a.toUInt32 <<< 24 ||| b.toUInt32 <<< 16 ||| c.toUInt32 <<< 8 ||| d.toUInt32) :: wordsOf s
  | _ => []

/-- The message, a bit, zeros up to eight bytes before the end of a block, and the length in bits. -/
def pad (s : Bytes) : Bytes :=
  s ++ 0x80 :: (List.replicate ((119 - s.length % 64) % 64) 0 ++ bigEndian 8 (8 * s.length))

/-- The blocks of some words. -/
def blocks : ℕ → List UInt32 → Words → Words
  | 0, _, s => s
  | n + 1, w, s => blocks n (w.drop 16) (s.add (rounds roundConstants (w.take 16).reverse s))

@[irreducible] def sha256 (s : Bytes) : Bytes :=
  let t := blocks ((pad s).length / 64) (wordsOf (pad s)) initial
  [t.a, t.b, t.c, t.d, t.e, t.f, t.g, t.h].flatMap fun w => bigEndian 4 w.toNat

lemma length_bigEndian (k n : ℕ) : (bigEndian k n).length = k := by
  rw [bigEndian, List.length_map, List.length_reverse, List.length_range]

theorem length_sha256 (s : Bytes) : (sha256 s).length = 32 := by
  rw [sha256, List.length_flatMap]
  simp [length_bigEndian]

/-- The digest of `abc`. -/
example : sha256 [97, 98, 99] = [0xba, 0x78, 0x16, 0xbf, 0x8f, 0x01, 0xcf, 0xea, 0x41, 0x41, 0x40, 0xde, 0x5d, 0xae,
    0x22, 0x23, 0xb0, 0x03, 0x61, 0xa3, 0x96, 0x17, 0x7a, 0x9c, 0xb4, 0x10, 0xff, 0x61, 0xf2, 0x00, 0x15, 0xad] := by
  decide +kernel

end Tiai.Lib.Sha256
