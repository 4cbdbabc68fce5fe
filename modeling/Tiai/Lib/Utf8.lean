import Mathlib.Data.List.Basic

/-!
# Bytes and the runes they hold

A string of bytes is read rune by rune: a well-formed sequence is a character, and a byte that starts none is on its
own.  A NUL byte is a rune of its own wherever it stands, and cuts the reading in two.

* `runes`, `flatMap_runes` — the reading, which loses nothing;
* `runes_append_single` — a byte that is a character by itself is read alone, and changes nothing before it;
* `Readable` — runes whose bytes are read back;
* `runes_encode` — encoded characters are read back;
* `text` — the characters, with the replacement character for a byte that is on its own.
-/

namespace Tiai.Lib.Utf8

abbrev Bytes := List UInt8

/-- The UTF-8 bytes of some characters. -/
def encode (cs : List Char) : Bytes := cs.flatMap String.utf8EncodeChar

/-- The UTF-8 bytes of a literal. -/
def utf8 (s : String) : Bytes := encode s.toList

/-- The first rune, if it is well formed. -/
def decodeRune (s : Bytes) : Option Char := s.toByteArray.utf8DecodeChar? 0

inductive Rune
  | char (c : Char)
  | stray (b : UInt8)
  deriving DecidableEq, Repr

def Rune.bytes : Rune → Bytes
  | char c => String.utf8EncodeChar c
  | stray b => [b]

def Rune.isStray : Rune → Bool
  | char _ => false
  | stray _ => true

/-- U+FFFD stands for a byte that is on its own. -/
def Rune.toChar : Rune → Char
  | char c => c
  | stray _ => '\uFFFD'

def runes (s : Bytes) : List Rune :=
  match s with
  | [] => []
  | b :: rest =>
    match decodeRune (b :: rest) with
    | some c => .char c :: runes (rest.drop (c.utf8Size - 1))
    | none => .stray b :: runes rest
termination_by s.length
decreasing_by
  · simp only [List.length_drop, List.length_cons]
    omega
  · simp

/-- Every rune is well formed. -/
def validUtf8 (s : Bytes) : Bool := (runes s).all fun r => !r.isStray

/-- What a reader of UTF-8 that replaces what is malformed reads. -/
def text (s : Bytes) : List Char := (runes s).map Rune.toChar

variable {c : Char} {cs : List Char} {s x y : Bytes} {b : UInt8}

/-! ### The first rune -/

lemma decodeRune_encode (c : Char) (s : Bytes) : decodeRune (String.utf8EncodeChar c ++ s) = some c := by
  unfold decodeRune
  rw [List.toByteArray_append]
  exact ByteArray.utf8DecodeChar?_utf8EncodeChar_append

/-- What is decoded was encoded. -/
lemma exists_of_decodeRune (h : decodeRune s = some c) : ∃ rest, s = String.utf8EncodeChar c ++ rest := by
  obtain ⟨l, hl⟩ := ByteArray.exists_of_utf8DecodeChar?_eq_some h
  refine ⟨l.data.toList, ?_⟩
  have hlist := congrArg (fun a : ByteArray => a.data.toList) hl
  simpa using hlist

/-- A byte that is a character by itself is below 128, and all bytes of the longer sequences are not. -/
lemma mem_utf8EncodeChar {d : Char} (hc : String.utf8EncodeChar c = [b]) : b ∈ String.utf8EncodeChar d ↔ d = c := by
  have hsmall : b.toNat < 128 := by
    unfold String.utf8EncodeChar at hc
    dsimp only at hc
    split at hc
    · rename_i hle
      rw [← (List.cons.inj hc).1, UInt8.toNat_ofNat']
      omega
    · split at hc <;> try split at hc
      all_goals cases (List.cons.inj hc).2
  have hlarge : ∀ n : ℕ, 128 ≤ n % 256 → b ≠ UInt8.ofNat n := by
    intro n hn heq
    rw [heq, UInt8.toNat_ofNat'] at hsmall
    omega
  constructor
  · intro h
    have hone : String.utf8EncodeChar d = [b] := by
      unfold String.utf8EncodeChar at h ⊢
      dsimp only at h ⊢
      split at h
      · rename_i hle
        rw [if_pos hle, List.mem_singleton.1 h]
      split at h
      · simp only [List.mem_cons, List.not_mem_nil, or_false] at h
        rcases h with h | h <;> exact absurd h (hlarge _ (by omega))
      split at h
      · simp only [List.mem_cons, List.not_mem_nil, or_false] at h
        rcases h with h | h | h <;> exact absurd h (hlarge _ (by omega))
      · simp only [List.mem_cons, List.not_mem_nil, or_false] at h
        rcases h with h | h | h | h <;> exact absurd h (hlarge _ (by omega))
    have hd := decodeRune_encode d []
    rw [hone, ← hc, decodeRune_encode] at hd
    exact (Option.some_inj.1 hd).symm
  · rintro rfl
    rw [hc]
    exact List.mem_cons_self

/-- A NUL is the encoding of one character, and of no other. -/
lemma nul_mem_utf8EncodeChar : 0 ∈ String.utf8EncodeChar c ↔ c = '\x00' := mem_utf8EncodeChar (by decide)

/-! ### Every rune -/

lemma runes_char (c : Char) (s : Bytes) : runes (String.utf8EncodeChar c ++ s) = .char c :: runes s := by
  obtain ⟨b, rest, hrest⟩ := List.exists_cons_of_ne_nil (String.utf8EncodeChar_ne_nil (c := c))
  have hdecode : decodeRune (b :: (rest ++ s)) = some c := by
    rw [← List.cons_append, ← hrest]
    exact decodeRune_encode c s
  have hlength : c.utf8Size - 1 = rest.length := by
    rw [← String.length_utf8EncodeChar, hrest]
    rfl
  rw [hrest, List.cons_append, runes, hdecode]
  dsimp only
  rw [hlength, List.drop_left]

lemma runes_stray (h : decodeRune (b :: s) = none) : runes (b :: s) = .stray b :: runes s := by
  rw [runes, h]

/-- Bytes are read from the left, a rune at a time. -/
theorem runes_rec {P : Bytes → Prop} (nil : P []) (char : ∀ c s, P s → P (String.utf8EncodeChar c ++ s))
    (stray : ∀ b s, decodeRune (b :: s) = none → P s → P (b :: s)) (s : Bytes) : P s := by
  induction hn : s.length using Nat.strongRecOn generalizing s with
  | _ n ih =>
    cases s with
    | nil => exact nil
    | cons b s =>
      cases hdecode : decodeRune (b :: s) with
      | none => exact stray b s hdecode (ih s.length (by rw [← hn]; exact Nat.lt_succ_self _) s rfl)
      | some c =>
        obtain ⟨rest, hrest⟩ := exists_of_decodeRune hdecode
        have hpos : 0 < (String.utf8EncodeChar c).length := List.length_pos_of_ne_nil String.utf8EncodeChar_ne_nil
        have hlt : rest.length < n := by
          rw [← hn, hrest, List.length_append]
          omega
        rw [hrest]
        exact char c rest (ih rest.length hlt rest rfl)

/-- Nothing is lost. -/
theorem flatMap_runes (s : Bytes) : (runes s).flatMap Rune.bytes = s := by
  induction s using runes_rec with
  | nil => simp [runes]
  | char c s ih => rw [runes_char, List.flatMap_cons, ih]; rfl
  | stray b s h ih => rw [runes_stray h, List.flatMap_cons, ih]; rfl

/-- **A byte that is a character by itself stands alone**, and what is before it is read as if nothing followed. -/
theorem runes_append_single (hc : String.utf8EncodeChar c = [b]) (x y : Bytes) :
    runes (x ++ b :: y) = runes x ++ .char c :: runes y := by
  have hfirst : runes (b :: y) = .char c :: runes y := by
    rw [← List.singleton_append, ← hc, runes_char]
  induction x using runes_rec with
  | nil =>
    rw [List.nil_append, runes, List.nil_append]
    exact hfirst
  | char d x ih => rw [List.append_assoc, runes_char, runes_char, ih, List.cons_append]
  | stray e x h ih =>
    have hstray : decodeRune (e :: (x ++ b :: y)) = none := by
      cases hdecode : decodeRune (e :: (x ++ b :: y)) with
      | none => rfl
      | some d =>
        obtain ⟨rest, hrest⟩ := exists_of_decodeRune hdecode
        rw [← List.cons_append] at hrest
        rcases List.append_eq_append_iff.1 hrest with ⟨a, ha, htail⟩ | ⟨a, ha, -⟩
        · cases a with
          | nil =>
            have hsome : decodeRune (e :: x ++ []) = some d := by
              rw [← ha, ← List.append_nil (String.utf8EncodeChar d)]
              exact decodeRune_encode d []
            rw [List.append_nil, h] at hsome
            cases hsome
          | cons f a =>
            -- the rune would hold the byte, and more than it
            rw [List.cons_append] at htail
            have hd : d = c := by
              refine (mem_utf8EncodeChar hc).1 ?_
              rw [ha, (List.cons.inj htail).1]
              simp
            rw [hd, hc] at ha
            have hone := congrArg List.length ha
            simp at hone
        · rw [ha, decodeRune_encode] at h
          cases h
    rw [List.cons_append, runes_stray hstray, runes_stray h, ih, List.cons_append]

theorem runes_append_nul (x y : Bytes) : runes (x ++ 0 :: y) = runes x ++ .char '\x00' :: runes y :=
  runes_append_single (by decide) x y

/-- The bytes below 128 are characters by themselves. -/
lemma utf8EncodeChar_ascii (h : b.toNat < 128) : String.utf8EncodeChar (Char.ofNat b.toNat) = [b] := by
  have hall : ∀ n < 128, String.utf8EncodeChar (Char.ofNat n) = [UInt8.ofNat n] := by decide
  rw [hall b.toNat h, UInt8.ofNat_toNat]

/-- A byte that is on its own is none of these. -/
lemma stray_mem_runes (h : .stray b ∈ runes s) : 128 ≤ b := by
  induction s using runes_rec with
  | nil => simp [runes] at h
  | char c s ih =>
    rw [runes_char] at h
    exact ih ((List.mem_cons.1 h).resolve_left (by simp))
  | stray d s hstray ih =>
    rw [runes_stray hstray] at h
    rcases List.mem_cons.1 h with heq | h
    · obtain rfl := Rune.stray.inj heq
      by_contra hlt
      have hsmall : b.toNat < 128 := by simpa [UInt8.le_iff_toNat_le] using hlt
      have hsome := decodeRune_encode (Char.ofNat b.toNat) s
      rw [utf8EncodeChar_ascii hsmall, List.singleton_append, hstray] at hsome
      cases hsome
    · exact ih h

/-! ### Runes that are read back -/

/-- Their bytes are read as they are. -/
def Readable (rs : List Rune) : Prop := runes (rs.flatMap Rune.bytes) = rs

lemma readable_runes (s : Bytes) : Readable (runes s) := by rw [Readable, flatMap_runes]

lemma readable_nil : Readable [] := by simp [Readable, runes]

lemma readable_char_cons {rs : List Rune} : Readable (.char c :: rs) ↔ Readable rs := by
  rw [Readable, List.flatMap_cons, Rune.bytes, runes_char, List.cons_inj_right]
  rfl

/-- A byte on its own is one before what follows, too. -/
lemma readable_stray_cons {rs : List Rune} : Readable (.stray b :: rs) ↔
    decodeRune (b :: rs.flatMap Rune.bytes) = none ∧ Readable rs := by
  rw [Readable, List.flatMap_cons, Rune.bytes, List.singleton_append]
  cases hdecode : decodeRune (b :: rs.flatMap Rune.bytes) with
  | none =>
    rw [runes_stray hdecode, List.cons_inj_right, and_iff_right rfl]
    rfl
  | some c =>
    rw [runes, hdecode]
    simp

lemma Readable.right {xs ys : List Rune} (h : Readable (xs ++ ys)) : Readable ys := by
  induction xs with
  | nil => exact h
  | cons r xs ih =>
    cases r with
    | char c => exact ih (readable_char_cons.1 h)
    | stray b => exact ih (readable_stray_cons.1 h).2

/-- What no longer sequence starts with, no shorter one does. -/
lemma decodeRune_left (h : decodeRune (x ++ y) = none) : decodeRune x = none := by
  cases hdecode : decodeRune x with
  | none => rfl
  | some c =>
    obtain ⟨rest, rfl⟩ := exists_of_decodeRune hdecode
    rw [List.append_assoc, decodeRune_encode] at h
    cases h

lemma Readable.left {xs ys : List Rune} (h : Readable (xs ++ ys)) : Readable xs := by
  induction xs with
  | nil => exact readable_nil
  | cons r xs ih =>
    cases r with
    | char c => exact readable_char_cons.2 (ih (readable_char_cons.1 h))
    | stray b =>
      rw [List.cons_append] at h
      obtain ⟨hstray, hrest⟩ := readable_stray_cons.1 h
      rw [List.flatMap_append, ← List.cons_append] at hstray
      exact readable_stray_cons.2 ⟨decodeRune_left hstray, ih hrest⟩

lemma Readable.of_within {xs ys : List Rune} (h : Readable ys) (hin : xs <:+: ys) : Readable xs := by
  obtain ⟨a, c, rfl⟩ := hin
  exact h.left.right

/-- Runes with such a byte between them are read as they are. -/
lemma Readable.append_single {xs ys : List Rune} (hc : String.utf8EncodeChar c = [b]) (hx : Readable xs)
    (hy : Readable ys) : Readable (xs ++ .char c :: ys) := by
  rw [Readable, List.flatMap_append, List.flatMap_cons, Rune.bytes, hc, List.singleton_append,
    runes_append_single hc, hx, hy]

lemma runes_encode (cs : List Char) : runes (encode cs) = cs.map Rune.char := by
  induction cs with
  | nil => simp [encode, runes]
  | cons c cs ih =>
    have hcons : encode (c :: cs) = String.utf8EncodeChar c ++ encode cs := List.flatMap_cons
    rw [hcons, runes_char, ih, List.map_cons]

/-- Encoded characters are well formed. -/
lemma validUtf8_encode (cs : List Char) : validUtf8 (encode cs) = true := by
  rw [validUtf8, runes_encode, List.all_map]
  exact List.all_eq_true.2 fun c _ => rfl

lemma encode_injective : Function.Injective encode := by
  intro cs cs' h
  have hrunes : cs.map Rune.char = cs'.map Rune.char := by rw [← runes_encode, h, runes_encode]
  exact List.map_injective_iff.2 (fun _ _ => Rune.char.inj) hrunes

lemma nul_mem_encode : 0 ∈ encode cs ↔ '\x00' ∈ cs := by
  rw [encode, List.mem_flatMap]
  constructor
  · rintro ⟨c, hc, h⟩
    exact nul_mem_utf8EncodeChar.1 h ▸ hc
  · exact fun h => ⟨_, h, nul_mem_utf8EncodeChar.2 rfl⟩

/-! ### Texts without a NUL -/

def NulFree (s : String) : Prop := '\x00' ∉ s.toList

instance (s : String) : Decidable (NulFree s) := inferInstanceAs (Decidable (¬ _))

/-- A literal is read by its characters. -/
lemma nulFree_ofList {l : List Char} (h : '\x00' ∉ l) : NulFree (String.ofList l) := by
  rwa [NulFree, String.toList_ofList]

lemma NulFree.append {s t : String} (hs : NulFree s) (ht : NulFree t) : NulFree (s ++ t) := by
  unfold NulFree
  rw [String.toList_append, List.mem_append, not_or]
  exact ⟨hs, ht⟩

/-- A text between two literals. -/
lemma NulFree.between {s : String} {l m : List Char} (hs : NulFree s) (hl : '\x00' ∉ l) (hm : '\x00' ∉ m) :
    NulFree (String.ofList l ++ s ++ String.ofList m) :=
  ((nulFree_ofList hl).append hs).append (nulFree_ofList hm)

lemma nulFree_toString (n : ℕ) : NulFree (toString n) := by
  intro h
  rw [Nat.toString_eq_ofList_toDigits, String.toList_ofList] at h
  have hdigit := Nat.isDigit_of_mem_toDigits (by decide) (by decide) h
  exact absurd hdigit (by decide)

lemma nul_mem_utf8 {s : String} : 0 ∈ utf8 s ↔ ¬ NulFree s := by
  rw [utf8, nul_mem_encode, NulFree, not_not]

/-! ### The text -/

lemma text_append_nul (x y : Bytes) : text (x ++ 0 :: y) = text x ++ '\x00' :: text y := by
  rw [text, runes_append_nul, List.map_append, List.map_cons]
  rfl

lemma length_text_le (s : Bytes) : (text s).length ≤ s.length := by
  rw [text, List.length_map]
  induction s using runes_rec with
  | nil => simp [runes]
  | char c s ih =>
    have hpos : 0 < (String.utf8EncodeChar c).length := List.length_pos_of_ne_nil String.utf8EncodeChar_ne_nil
    rw [runes_char, List.length_cons, List.length_append]
    omega
  | stray b s h ih =>
    rw [runes_stray h, List.length_cons, List.length_cons]
    omega

/-- **A NUL is read where there is one**, and nowhere else. -/
theorem nul_mem_text (s : Bytes) : '\x00' ∈ text s ↔ 0 ∈ s := by
  constructor
  · intro h
    obtain ⟨r, hr, hchar⟩ := List.mem_map.1 h
    rw [← flatMap_runes s]
    refine List.mem_flatMap.2 ⟨r, hr, ?_⟩
    cases r with
    | char c => exact nul_mem_utf8EncodeChar.2 hchar
    | stray b => exact absurd hchar (show ('\uFFFD' : Char) ≠ '\x00' by decide)
  · intro h
    obtain ⟨x, y, rfl⟩ := List.append_of_mem h
    rw [text_append_nul]
    exact List.mem_append_right _ List.mem_cons_self

end Tiai.Lib.Utf8
