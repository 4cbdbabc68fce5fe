import Mathlib

/-!
# Base64

The standard alphabet, padded, with no check of the bits that the padding stands for; line breaks are passed over.

* `encode`, `decode` — three bytes in four characters, and back;
* `decode_encode` — what was encoded is read back.
-/

namespace Tiai.Lib.Base64

def alphabet : List Char := "ABCDEFGHIJKLMNOPQRSTUVWXYZabcdefghijklmnopqrstuvwxyz0123456789+/".toList

def digit (d : ℕ) : Char := alphabet.getD d 'A'

def value? (c : Char) : Option ℕ := alphabet.idxOf? c

/-- The first `k` of the three bytes of 24 bits. -/
def bytesOf (n k : ℕ) : List UInt8 := [UInt8.ofNat (n / 65536), UInt8.ofNat (n / 256), UInt8.ofNat n].take k

/-- The first `k` of the four digits of 24 bits. -/
def digitsOf (n k : ℕ) : List Char :=
  [digit (n / 262144), digit (n / 4096 % 64), digit (n / 64 % 64), digit (n % 64)].take k

def encode : List UInt8 → List Char
  | [] => []
  | [a] => digitsOf (a.toNat * 65536) 2 ++ ['=', '=']
  | [a, b] => digitsOf (a.toNat * 65536 + b.toNat * 256) 3 ++ ['=']
  | a :: b :: c :: rest => digitsOf (a.toNat * 65536 + b.toNat * 256 + c.toNat) 4 ++ encode rest

def decodeGroups : List Char → Option (List UInt8)
  | [] => some []
  | w :: x :: y :: z :: rest => do
    let n := (← value? w) * 262144 + (← value? x) * 4096
    if z = '=' ∧ rest = [] then
      if y = '=' then return bytesOf n 1
      return bytesOf (n + (← value? y) * 64) 2
    return bytesOf (n + (← value? y) * 64 + (← value? z)) 3 ++ (← decodeGroups rest)
  | _ => none

def decode (text : List Char) : Option (List UInt8) := decodeGroups (text.filter fun c => c ≠ '\n' && c ≠ '\r')

/-! ### Digits -/

lemma digit_facts : ∀ d < 64, value? (digit d) = some d ∧ digit d ≠ '=' := by
  decide +kernel

lemma value_digit {d : ℕ} (h : d < 64) : value? (digit d) = some d := (digit_facts d h).1

lemma digit_ne_pad {d : ℕ} (h : d < 64) : digit d ≠ '=' := (digit_facts d h).2

/-! ### Reading back -/

lemma bytesOf_three (a b c : UInt8) :
    bytesOf (a.toNat * 65536 + b.toNat * 256 + c.toNat) 3 = [a, b, c] := by
  have ha := a.toNat_lt
  have hb := b.toNat_lt
  have hc := c.toNat_lt
  have h1 : (a.toNat * 65536 + b.toNat * 256 + c.toNat) / 65536 = a.toNat := by omega
  have h2 : UInt8.ofNat ((a.toNat * 65536 + b.toNat * 256 + c.toNat) / 256) = b := by
    apply UInt8.toNat_inj.1
    rw [UInt8.toNat_ofNat']
    omega
  have h3 : UInt8.ofNat (a.toNat * 65536 + b.toNat * 256 + c.toNat) = c := by
    apply UInt8.toNat_inj.1
    rw [UInt8.toNat_ofNat']
    omega
  unfold bytesOf
  rw [h1, h2, h3, UInt8.ofNat_toNat]
  rfl

/-- Four digits of 24 bits are read back as these bits. -/
lemma digits_sum {n : ℕ} (h : n < 16777216) :
    n / 262144 < 64 ∧ n / 262144 * 262144 + n / 4096 % 64 * 4096 + n / 64 % 64 * 64 + n % 64 = n := by
  omega

lemma digit_lt (n : ℕ) : n % 64 < 64 := Nat.mod_lt _ (by decide)

lemma decodeGroups_encode (bytes : List UInt8) : decodeGroups (encode bytes) = some bytes := by
  induction bytes using encode.induct with
  | case1 => rfl
  | case2 a =>
    have ha := a.toNat_lt
    obtain ⟨hlt, hsum⟩ := digits_sum (n := a.toNat * 65536) (by omega)
    have hthird : a.toNat * 65536 / 64 % 64 = 0 := by
      rw [show a.toNat * 65536 = a.toNat * 16 * 64 * 64 by ring, Nat.mul_div_cancel _ (by decide), Nat.mul_mod_left]
    have hlast : a.toNat * 65536 % 64 = 0 := by
      rw [show a.toNat * 65536 = a.toNat * 1024 * 64 by ring, Nat.mul_mod_left]
    rw [hthird, hlast, Nat.zero_mul, Nat.add_zero] at hsum
    simp only [encode, digitsOf, List.take_succ_cons, List.take_zero, List.cons_append, List.nil_append, decodeGroups,
      value_digit hlt, value_digit (digit_lt _)]
    simp only [Option.bind_eq_bind, Option.bind_some, and_self, if_true, hsum]
    simp [bytesOf]
  | case3 a b =>
    have ha := a.toNat_lt
    have hb := b.toNat_lt
    obtain ⟨hlt, hsum⟩ := digits_sum (n := a.toNat * 65536 + b.toNat * 256) (by omega)
    have hlast : (a.toNat * 65536 + b.toNat * 256) % 64 = 0 := by
      rw [show a.toNat * 65536 + b.toNat * 256 = (a.toNat * 1024 + b.toNat * 4) * 64 by ring, Nat.mul_mod_left]
    rw [hlast, Nat.add_zero] at hsum
    have hback := bytesOf_three a b 0
    simp only [encode, digitsOf, List.take_succ_cons, List.take_zero, List.cons_append, List.nil_append, decodeGroups,
      value_digit hlt, value_digit (digit_lt _)]
    simp only [Option.bind_eq_bind, Option.bind_some, and_self, if_true, if_neg (digit_ne_pad (digit_lt _)), hsum]
    simpa [bytesOf] using congrArg (List.take 2) hback
  | case4 a b c rest ih =>
    have ha := a.toNat_lt
    have hb := b.toNat_lt
    have hc := c.toNat_lt
    obtain ⟨hlt, hsum⟩ := digits_sum (n := a.toNat * 65536 + b.toNat * 256 + c.toNat) (by omega)
    simp only [encode, digitsOf, List.take_succ_cons, List.take_zero, List.cons_append, List.nil_append, decodeGroups,
      value_digit hlt, value_digit (digit_lt _)]
    simp only [Option.bind_eq_bind, Option.bind_some, digit_ne_pad (digit_lt _), false_and, if_false, ih, hsum]
    rw [bytesOf_three]
    rfl

/-- A digit of 24 bits, or a pad. -/
lemma mem_encode {bytes : List UInt8} {c : Char} (h : c ∈ encode bytes) : c = '=' ∨ ∃ d < 64, c = digit d := by
  have hdigits {n k : ℕ} (hn : n < 16777216) (hc : c ∈ digitsOf n k) : ∃ d < 64, c = digit d := by
    have hc := List.mem_of_mem_take hc
    simp only [List.mem_cons, List.not_mem_nil, or_false] at hc
    rcases hc with rfl | rfl | rfl | rfl
    · exact ⟨_, (digits_sum hn).1, rfl⟩
    · exact ⟨_, digit_lt _, rfl⟩
    · exact ⟨_, digit_lt _, rfl⟩
    · exact ⟨_, digit_lt _, rfl⟩
  induction bytes using encode.induct with
  | case1 => cases h
  | case2 a =>
    have ha := a.toNat_lt
    rcases List.mem_append.1 h with h | h
    · exact .inr (hdigits (by omega) h)
    · exact .inl (by simpa using h)
  | case3 a b =>
    have ha := a.toNat_lt
    have hb := b.toNat_lt
    rcases List.mem_append.1 h with h | h
    · exact .inr (hdigits (by omega) h)
    · exact .inl (by simpa using h)
  | case4 a b d rest ih =>
    have ha := a.toNat_lt
    have hb := b.toNat_lt
    have hd := d.toNat_lt
    rcases List.mem_append.1 h with h | h
    · exact .inr (hdigits (by omega) h)
    · exact ih h

/-- No white space: what is trimmed off, or passed over, is not there. -/
lemma encode_plain {bytes : List UInt8} {c : Char} (h : c ∈ encode bytes) : c ≠ '\n' ∧ c ≠ '\r' ∧ 32 < c.toNat ∧ c.toNat < 128 := by
  have hall : ∀ d < 64, digit d ≠ '\n' ∧ digit d ≠ '\r' ∧ 32 < (digit d).toNat ∧ (digit d).toNat < 128 := by
    decide +kernel
  rcases mem_encode h with rfl | ⟨d, hd, rfl⟩
  · decide
  · exact hall d hd

/-- **Round trip.** -/
theorem decode_encode (bytes : List UInt8) : decode (encode bytes) = some bytes := by
  have hplain : (encode bytes).filter (fun c => c ≠ '\n' && c ≠ '\r') = encode bytes := by
    refine List.filter_eq_self.2 fun c hc => ?_
    obtain ⟨h1, h2, -⟩ := encode_plain hc
    simp [h1, h2]
  unfold decode
  rw [hplain]
  exact decodeGroups_encode bytes

example : encode "Tiai!".toUTF8.toList = "VGlhaSE=".toList := by decide +kernel

end Tiai.Lib.Base64
