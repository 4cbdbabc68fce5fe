import Mathlib
import Tiai.Deploy.Names
import Tiai.Lib.Regex
import Tiai.Lib.Trim
import Tiai.Wol.Packet

/-!
# One address, two parsers

`parse_mac` and `magic_packet` of `features/wol/packet.py` beside `parseWakeMAC` and `magicPacket` of
`internal/collector/wol.go`.  Both strip, drop the separators, count twelve and decode; `bytes.fromhex`
skips white space that `hex.DecodeString` refuses, and `str.strip` takes off four characters more than
`strings.TrimSpace`.

* `parseMac_isSome_iff` — the texts `parse_mac` reads, by their spelling;
* `parseMac_of_wake` — what the agent reads, the server does, with the same bytes;
* `agrees_iff` — on which texts the two agree and an address is six bytes.
-/

namespace Tiai.Wol

open Tiai.Lib
open Deploy (goIsSpace trimSpace)

/-! ### The agent's parser -/

/-- `len` of a Go string: its bytes in UTF-8. -/
def byteLength (cs : List Char) : ℕ := (cs.map Char.utf8Size).sum

/-- `hex.DecodeString`. -/
def decodeString : List Char → Option (List UInt8)
  | [] => some []
  | [_] => none
  | c :: d :: ds =>
    match hexDigit c, hexDigit d, decodeString ds with
    | some hi, some lo, some raw => some (UInt8.ofNat (16 * hi + lo) :: raw)
    | _, _, _ => none

/-- The agent's `cleaned`. -/
def wakeCleaned (value : String) : List Char :=
  (trimSpace value).toList.filter fun c => decide (c ∉ separators)

/-- `parseWakeMAC`; `quote` is `%q`. -/
def parseWakeMAC (quote : String → String) (value : String) : Except String (List UInt8) :=
  let refusal := "adresse MAC à réveiller invalide : " ++ quote value
  if byteLength (wakeCleaned value) ≠ macLength * 2 then .error refusal
  else match decodeString (wakeCleaned value) with
    | none => .error refusal
    | some hw =>
      if hw = List.replicate macLength 0 ∨ hw = List.replicate macLength 0xFF then .error refusal
      else .ok hw

/-! ### The magic packet -/

/-- `_SYNC_STREAM` and `wolSyncStream`. -/
def syncStream : List UInt8 := List.replicate 6 0xFF

/-- `_MAC_REPEATS` and `wolMACRepeats`. -/
def macRepeats : ℕ := 16

/-- The frame both sides build. -/
def frame (hw : List UInt8) : List UInt8 := syncStream ++ (List.replicate macRepeats hw).flatten

/-- `magic_packet`; `repr` is `!r`. -/
def magicPacket (repr : String → String) (mac : String) : Except String (List UInt8) :=
  match parseMac (some mac) with
  | none => .error ("not a usable hardware address: " ++ repr mac)
  | some raw => .ok (frame raw)

/-- What is asked of the two parsers on one text. -/
structure Agrees (quote repr : String → String) (s : String) : Prop where
  six : ∀ raw, parseMac (some s) = some raw → raw.length = macLength
  same : ∀ raw, parseMac (some s) = some raw ↔ parseWakeMAC quote s = .ok raw
  again : ∀ mac, normalizeMac (some s) = some mac →
    normalizeMac (some mac) = some mac ∧ parseMac (some mac) = parseMac (some s)
  packet : ∀ bytes, magicPacket repr s = .ok bytes → bytes.length = 102
  relayed : ∀ hw, parseWakeMAC quote s = .ok hw → (frame hw).length = 102

/-! ### How an address is spelled -/

inductive Mark where
  | digit
  | space

def Mark.holds : Mark → Char → Bool
  | .digit, c => (hexDigit c).isSome
  | .space, c => isAsciiSpace c

/-- Pairs of hexadecimal digits, white space between the pairs. -/
def pairs : Regex Mark := .star (.alt (.seq (.cls .digit) (.cls .digit)) (.cls .space))

/-- Twelve characters in pairs, not all of them a zero, not all of them an F. -/
structure Spells (cs : List Char) : Prop where
  length : cs.length = macLength * 2
  paired : cs ∈ pairs.lang Mark.holds
  notNull : ∃ c ∈ cs, hexDigit c ≠ some 0
  notBroadcast : ∃ c ∈ cs, hexDigit c ≠ some 15

/-- The text is an address for the server alone: with white space inside it, or with a character around
it that only Python strips. -/
def Astray (s : String) : Prop :=
  Spells (cleaned s) ∧ ((∃ c ∈ cleaned s, isAsciiSpace c = true) ∨ strip s ≠ trimSpace s)

section Digits

variable {c d : Char} {cs ds : List Char} {raw : List UInt8} {hi lo n : ℕ}

lemma hexDigit_bounds (h : hexDigit c = some n) : c.toNat < 128 ∧ n < 16 ∧ isSpace c = false := by
  have hnat (x y : Char) : x ≤ y ↔ x.toNat ≤ y.toNat := UInt32.le_iff_toNat_le
  unfold hexDigit at h
  have h0 : '0'.toNat = 48 := rfl
  have h9 : '9'.toNat = 57 := rfl
  have ha : 'a'.toNat = 97 := rfl
  have hf : 'f'.toNat = 102 := rfl
  have hA : 'A'.toNat = 65 := rfl
  have hF : 'F'.toNat = 70 := rfl
  simp only [hnat, h0, h9, ha, hf, hA, hF] at h
  have hspace (hc : 48 ≤ c.toNat ∧ c.toNat ≤ 102) : isSpace c = false := by
    simp only [isSpace, Bool.or_eq_false_iff, decide_eq_false_iff_not]
    omega
  split at h
  · obtain rfl := Option.some.inj h
    exact ⟨by omega, by omega, hspace (by omega)⟩
  · split at h
    · obtain rfl := Option.some.inj h
      exact ⟨by omega, by omega, hspace (by omega)⟩
    · split at h
      · obtain rfl := Option.some.inj h
        exact ⟨by omega, by omega, hspace (by omega)⟩
      · cases h

lemma isSpace_of_ascii (h : isAsciiSpace c = true) : isSpace c = true := by
  simp only [isAsciiSpace, isSpace, Bool.or_eq_true, decide_eq_true_iff] at h ⊢
  omega

lemma hexDigit_of_space (h : isSpace c = true) : hexDigit c = none := by
  cases hd : hexDigit c with
  | none => rfl
  | some n =>
    rw [(hexDigit_bounds hd).2.2] at h
    cases h

lemma digit_not_ascii (h : hexDigit c = some n) : isAsciiSpace c = false := by
  by_contra hs
  rw [Bool.not_eq_false] at hs
  rw [hexDigit_of_space (isSpace_of_ascii hs)] at h
  cases h

lemma fromHex_space (h : isAsciiSpace c = true) : fromHex (c :: cs) = fromHex cs := by
  rw [fromHex.eq_def]
  exact if_pos h

lemma fromHex_pair (hc : hexDigit c = some hi) (hd : hexDigit d = some lo) :
    fromHex (c :: d :: ds) = (fromHex ds).map (UInt8.ofNat (16 * hi + lo) :: ·) := by
  rw [fromHex, if_neg (by simp [digit_not_ascii hc])]
  simp only [hc, hd]
  cases fromHex ds <;> rfl

/-- `bytes.fromhex`, case by case: the end, white space, or two digits and the rest. -/
lemma fromHex_cases (h : fromHex cs = some raw) :
    (cs = [] ∧ raw = []) ∨
      (∃ c rest, cs = c :: rest ∧ isAsciiSpace c = true ∧ fromHex rest = some raw) ∨
      ∃ c d rest hi lo bytes, cs = c :: d :: rest ∧ hexDigit c = some hi ∧ hexDigit d = some lo ∧
        fromHex rest = some bytes ∧ raw = UInt8.ofNat (16 * hi + lo) :: bytes := by
  cases cs with
  | nil => exact .inl ⟨rfl, (Option.some.inj h).symm⟩
  | cons c rest =>
    cases hspace : isAsciiSpace c with
    | true => exact .inr (.inl ⟨c, rest, rfl, hspace, fromHex_space hspace ▸ h⟩)
    | false =>
      rw [fromHex.eq_def] at h
      simp only [hspace, Bool.false_eq_true, if_false] at h
      cases rest with
      | nil => cases h
      | cons d rest =>
        simp only at h
        split at h
        · rename_i _ _ _ hi lo bytes hc hd hrest
          exact .inr (.inr ⟨c, d, rest, hi, lo, bytes, rfl, hc, hd, hrest, (Option.some.inj h).symm⟩)
        · cases h

lemma decodeString_cases (h : decodeString cs = some raw) :
    (cs = [] ∧ raw = []) ∨
      ∃ c d rest hi lo bytes, cs = c :: d :: rest ∧ hexDigit c = some hi ∧ hexDigit d = some lo ∧
        decodeString rest = some bytes ∧ raw = UInt8.ofNat (16 * hi + lo) :: bytes := by
  unfold decodeString at h
  split at h
  · exact .inl ⟨rfl, (Option.some.inj h).symm⟩
  · cases h
  · split at h
    · rename_i c d rest _ _ _ hi lo bytes hc hd hrest
      exact .inr ⟨c, d, rest, hi, lo, bytes, rfl, hc, hd, hrest, (Option.some.inj h).symm⟩
    · cases h

/-- Two characters a byte, one a white space. -/
lemma fromHex_length (h : fromHex cs = some raw) :
    cs.length = 2 * raw.length + cs.countP isAsciiSpace := by
  induction hn : cs.length using Nat.strong_induction_on generalizing cs raw with
  | _ n ih =>
    rcases fromHex_cases h with ⟨rfl, rfl⟩ | ⟨c, rest, rfl, hspace, hrest⟩ |
      ⟨c, d, rest, hi, lo, bytes, rfl, hc, hd, hrest, rfl⟩
    · exact hn.symm
    · have := ih rest.length (by simp only [List.length_cons] at hn; omega) hrest rfl
      rw [List.countP_cons_of_pos hspace]
      simp only [List.length_cons] at hn
      omega
    · have := ih rest.length (by simp only [List.length_cons] at hn; omega) hrest rfl
      have hcs : ¬isAsciiSpace c = true := by simp [digit_not_ascii hc]
      have hds : ¬isAsciiSpace d = true := by simp [digit_not_ascii hd]
      rw [List.countP_cons_of_neg hcs, List.countP_cons_of_neg hds]
      simp only [List.length_cons] at hn ⊢
      omega

/-- Off white space, the two decoders are one. -/
lemma fromHex_eq_decodeString (h : ∀ c ∈ cs, isAsciiSpace c = false) : fromHex cs = decodeString cs := by
  induction hn : cs.length using Nat.strong_induction_on generalizing cs with
  | _ n ih =>
    match cs, h with
    | [], _ => rfl
    | [c], h =>
      rw [fromHex.eq_def]
      simp [h c (by simp), decodeString]
    | c :: d :: rest, h =>
      have hrest : fromHex rest = decodeString rest :=
        ih rest.length (by simp only [List.length_cons] at hn; omega) (fun x hx => h x (by simp [hx])) rfl
      have hc : ¬isAsciiSpace c = true := Bool.eq_false_iff.1 (h c List.mem_cons_self)
      rw [fromHex.eq_def, decodeString, ← hrest]
      exact if_neg hc

lemma decodeString_digits (h : decodeString cs = some raw) :
    ∀ c ∈ cs, ∃ n, hexDigit c = some n := by
  induction raw generalizing cs with
  | nil =>
    rcases decodeString_cases h with ⟨rfl, -⟩ | ⟨c, d, rest, hi, lo, bytes, rfl, -, -, -, hraw⟩
    · exact nofun
    · cases hraw
  | cons b raw ih =>
    rcases decodeString_cases h with ⟨-, hraw⟩ | ⟨c, d, rest, hi, lo, bytes, rfl, hc, hd, hrest, hraw⟩
    · cases hraw
    · obtain rfl := (List.cons.inj hraw).2
      exact List.forall_mem_cons.2 ⟨⟨hi, hc⟩, List.forall_mem_cons.2 ⟨⟨lo, hd⟩, ih hrest⟩⟩

/-- The bytes are all `nn` when the digits are all `n`. -/
lemma decodeString_all (hn : n < 16) (h : decodeString cs = some raw) :
    (∀ b ∈ raw, b = UInt8.ofNat (17 * n)) ↔ ∀ c ∈ cs, hexDigit c = some n := by
  induction raw generalizing cs with
  | nil =>
    rcases decodeString_cases h with ⟨rfl, -⟩ | ⟨c, d, rest, hi, lo, bytes, rfl, -, -, -, hraw⟩
    · exact iff_of_true nofun nofun
    · cases hraw
  | cons b raw ih =>
    rcases decodeString_cases h with ⟨-, hraw⟩ | ⟨c, d, rest, hi, lo, bytes, rfl, hc, hd, hrest, hraw⟩
    · cases hraw
    · obtain ⟨rfl, rfl⟩ := List.cons.inj hraw
      have hhi := (hexDigit_bounds hc).2.1
      have hlo := (hexDigit_bounds hd).2.1
      have hbyte : UInt8.ofNat (16 * hi + lo) = UInt8.ofNat (17 * n) ↔ hi = n ∧ lo = n := by
        constructor
        · intro hb
          have := congrArg UInt8.toNat hb
          rw [UInt8.toNat_ofNat', UInt8.toNat_ofNat', Nat.mod_eq_of_lt (by omega),
            Nat.mod_eq_of_lt (by omega)] at this
          omega
        · rintro ⟨rfl, rfl⟩
          congr 1
          omega
      rw [List.forall_mem_cons, List.forall_mem_cons, List.forall_mem_cons, ih hrest, hbyte, hc, hd,
        Option.some_inj, Option.some_inj, and_assoc]

/-- **What `bytes.fromhex` reads** is pairs of digits with white space between them. -/
theorem fromHex_isSome_iff : (∃ raw, fromHex cs = some raw) ↔ cs ∈ pairs.lang Mark.holds := by
  induction hn : cs.length using Nat.strong_induction_on generalizing cs with
  | _ n ih =>
    have hrec (rest : List Char) (hlt : rest.length < n) :
        (∃ raw, fromHex rest = some raw) ↔ rest ∈ pairs.lang Mark.holds := ih rest.length hlt rfl
    rw [pairs, Regex.mem_star]
    constructor
    · rintro ⟨raw, h⟩
      rcases fromHex_cases h with ⟨rfl, -⟩ | ⟨c, rest, rfl, hspace, hrest⟩ |
        ⟨c, d, rest, hi, lo, bytes, rfl, hc, hd, hrest, -⟩
      · exact .inl rfl
      · simp only [List.length_cons] at hn
        exact .inr ⟨[c], .inr ⟨c, hspace, rfl⟩, rest, (hrec rest (by omega)).1 ⟨raw, hrest⟩, rfl⟩
      · simp only [List.length_cons] at hn
        have hpair : [c, d] ∈ (Regex.seq (.cls Mark.digit) (.cls .digit)).lang Mark.holds :=
          Regex.mem_seq_cls.2 ⟨c, [d], rfl, by simp [Mark.holds, hc], d, by simp [Mark.holds, hd], rfl⟩
        exact .inr ⟨[c, d], .inl hpair, rest, (hrec rest (by omega)).1 ⟨bytes, hrest⟩, rfl⟩
    · rintro (rfl | ⟨u, hpair | ⟨c, hspace, rfl⟩, v, hv, rfl⟩)
      · exact ⟨[], rfl⟩
      · obtain ⟨c, _, rfl, hc, d, hd, rfl⟩ := Regex.mem_seq_cls.1 hpair
        obtain ⟨hi, hc⟩ := Option.isSome_iff_exists.1 hc
        obtain ⟨lo, hd⟩ := Option.isSome_iff_exists.1 hd
        simp only [List.length_append, List.length_cons, List.length_nil] at hn
        obtain ⟨bytes, hrest⟩ := (hrec v (by omega)).2 hv
        exact ⟨_, (fromHex_pair hc hd).trans (congrArg (Option.map _) hrest)⟩
      · simp only [List.length_append, List.length_cons, List.length_nil] at hn
        obtain ⟨raw, hrest⟩ := (hrec v (by omega)).2 hv
        exact ⟨raw, (fromHex_space hspace).trans hrest⟩

end Digits

/-! ### Trimming -/

section Trim

variable {c : Char} {s : String}

lemma goIsSpace_isSpace (h : goIsSpace c = true) : isSpace c = true := by
  simp only [goIsSpace, isSpace, Bool.or_eq_true, decide_eq_true_iff] at h ⊢
  omega

/-- White space that Go keeps is no separator, and stays in the agent's text. -/
lemma mem_wakeCleaned (hmem : c ∈ trimBy goIsSpace s.toList) (hgo : goIsSpace c = false)
    (hs : isSpace c = true) : c ∈ wakeCleaned s := by
  have hsep : c ∉ separators := by
    intro h
    simp only [separators, List.mem_cons, List.not_mem_nil, or_false] at h
    rcases h with rfl | rfl | rfl | rfl
    · exact absurd hs (by decide)
    · exact absurd hs (by decide)
    · exact absurd hs (by decide)
    · exact absurd hgo (by decide)
  rw [wakeCleaned, trimSpace, String.toList_ofList]
  exact List.mem_filter.2 ⟨hmem, decide_eq_true hsep⟩

/-- The two trims differ only when Go leaves white space in the text. -/
lemma strip_eq_trimSpace (h : ∀ c ∈ wakeCleaned s, isSpace c = false) : strip s = trimSpace s := by
  have stays (c : Char) (hmem : c ∈ trimBy goIsSpace s.toList) (hgo : goIsSpace c = false) :
      isSpace c = false := by
    by_contra hs
    rw [Bool.not_eq_false] at hs
    exact absurd (h c (mem_wakeCleaned hmem hgo hs)) (by simp [hs])
  have hsame : trimBy isSpace s.toList = trimBy goIsSpace s.toList :=
    trimBy_eq (fun c => goIsSpace_isSpace)
      (fun c hc => stays c (List.mem_of_mem_head? hc) (trimBy_head hc))
      (fun c hc => stays c (List.mem_of_getLast? hc) (trimBy_last hc))
  exact congrArg String.ofList hsame

lemma cleaned_eq (h : strip s = trimSpace s) : cleaned s = wakeCleaned s := by
  rw [cleaned, ← toList_strip, h, wakeCleaned]

end Trim

/-! ### What each parser reads -/

section Parsers

variable {cs : List Char} {s : String} {raw : List UInt8} {quote repr : String → String}

/-- `parse_mac`, in one line. -/
lemma parseMac_iff : parseMac (some s) = some raw ↔
    (cleaned s).length = macLength * 2 ∧ fromHex (cleaned s) = some raw ∧
      raw ≠ List.replicate macLength 0 ∧ raw ≠ List.replicate macLength 0xFF := by
  have hempty : s = "" → ¬(cleaned s).length = macLength * 2 := by
    rintro rfl
    decide
  constructor
  · intro h
    simp only [parseMac] at h
    split at h
    · cases h
    · split at h
      · cases h
      · rename_i hlen
        split at h
        · cases h
        · rename_i hraw
          split at h
          · cases h
          · rename_i hreserved
            obtain rfl := Option.some.inj h
            exact ⟨not_not.1 hlen, hraw, not_or.1 hreserved⟩
  · rintro ⟨hlen, hraw, hnull, hbroadcast⟩
    have hne : s ≠ "" := fun h => hempty h hlen
    simp [parseMac, hne, hlen, hraw, hnull, hbroadcast]

lemma byteLength_eq (h : ∀ c ∈ cs, c.toNat < 128) : byteLength cs = cs.length := by
  induction cs with
  | nil => rfl
  | cons c cs ih =>
    obtain ⟨hc, hcs⟩ := List.forall_mem_cons.1 h
    have hone : c.utf8Size = 1 := Char.utf8Size_eq_one_iff.2 (by
      have : c.toNat = c.val.toNat := rfl
      exact UInt32.le_iff_toNat_le.2 (by rw [← this]; exact Nat.le_of_lt_succ hc))
    have := ih hcs
    simp only [byteLength, List.map_cons, List.sum_cons, List.length_cons] at this ⊢
    omega

/-- `parseWakeMAC`, in one line. -/
lemma parseWakeMAC_iff : parseWakeMAC quote s = .ok raw ↔
    (wakeCleaned s).length = macLength * 2 ∧ decodeString (wakeCleaned s) = some raw ∧
      raw ≠ List.replicate macLength 0 ∧ raw ≠ List.replicate macLength 0xFF := by
  have hbytes (h : decodeString (wakeCleaned s) = some raw) :
      byteLength (wakeCleaned s) = (wakeCleaned s).length :=
    byteLength_eq fun c hc => (hexDigit_bounds (decodeString_digits h c hc).choose_spec).1
  constructor
  · intro h
    simp only [parseWakeMAC] at h
    split at h
    · cases h
    · rename_i hlen
      split at h
      · cases h
      · rename_i hraw
        split at h
        · cases h
        · rename_i hreserved
          obtain rfl := Except.ok.inj h
          exact ⟨hbytes hraw ▸ not_not.1 hlen, hraw, not_or.1 hreserved⟩
  · rintro ⟨hlen, hraw, hnull, hbroadcast⟩
    simp [parseWakeMAC, hbytes hraw, hlen, hraw, hnull, hbroadcast]

/-- Reserved or not, by the digits: white space is no digit, and fewer than six bytes are not reserved. -/
lemma notAll_iff (n : ℕ) (hn : n < 16) {b : UInt8} (hb : UInt8.ofNat (17 * n) = b)
    (hlen : cs.length = macLength * 2) (h : fromHex cs = some raw) :
    raw ≠ List.replicate macLength b ↔ ∃ c ∈ cs, hexDigit c ≠ some n := by
  have hcount := fromHex_length h
  rw [macLength] at hlen
  by_cases hspace : ∃ c ∈ cs, isAsciiSpace c = true
  · obtain ⟨c, hc, hs⟩ := hspace
    have hpos : 0 < cs.countP isAsciiSpace := List.countP_pos_iff.2 ⟨c, hc, hs⟩
    refine iff_of_true (fun heq => ?_) ⟨c, hc, ?_⟩
    · rw [heq, List.length_replicate, macLength] at hcount
      omega
    · rw [hexDigit_of_space (isSpace_of_ascii hs)]
      exact nofun
  · have hnone : ∀ c ∈ cs, isAsciiSpace c = false := fun c hc => by
      by_contra hs
      exact hspace ⟨c, hc, by simpa using hs⟩
    rw [fromHex_eq_decodeString hnone] at h
    have hsix : raw.length = 6 := by
      rw [List.countP_eq_zero.2 (by simpa using hnone)] at hcount
      omega
    rw [ne_eq, List.eq_replicate_iff, macLength, and_iff_right hsix, ← hb, decodeString_all hn h]
    simp

/-- **The texts `parse_mac` reads**, by their spelling. -/
theorem parseMac_isSome_iff : (∃ raw, parseMac (some s) = some raw) ↔ Spells (cleaned s) := by
  constructor
  · rintro ⟨raw, h⟩
    obtain ⟨hlen, hraw, hnull, hbroadcast⟩ := parseMac_iff.1 h
    exact ⟨hlen, fromHex_isSome_iff.1 ⟨raw, hraw⟩, (notAll_iff 0 (by decide) rfl hlen hraw).1 hnull,
      (notAll_iff 15 (by decide) rfl hlen hraw).1 hbroadcast⟩
  · rintro ⟨hlen, hpaired, hnull, hbroadcast⟩
    obtain ⟨raw, hraw⟩ := fromHex_isSome_iff.2 hpaired
    exact ⟨raw, parseMac_iff.2 ⟨hlen, hraw, (notAll_iff 0 (by decide) rfl hlen hraw).2 hnull,
      (notAll_iff 15 (by decide) rfl hlen hraw).2 hbroadcast⟩⟩

/-- **What the agent reads, the server does**, with the same bytes and nothing to skip or strip. -/
theorem parseMac_of_wake (h : parseWakeMAC quote s = .ok raw) :
    parseMac (some s) = some raw ∧ strip s = trimSpace s ∧
      ∀ c ∈ cleaned s, isAsciiSpace c = false := by
  obtain ⟨hlen, hraw, hnull, hbroadcast⟩ := parseWakeMAC_iff.1 h
  have hdigits := decodeString_digits hraw
  have hstrip : strip s = trimSpace s :=
    strip_eq_trimSpace fun c hc => (hexDigit_bounds (hdigits c hc).choose_spec).2.2
  have hcleaned := cleaned_eq hstrip
  have hnone : ∀ c ∈ cleaned s, isAsciiSpace c = false := fun c hc =>
    digit_not_ascii (hdigits c (hcleaned ▸ hc)).choose_spec
  refine ⟨parseMac_iff.2 ⟨hcleaned ▸ hlen, ?_, hnull, hbroadcast⟩, hstrip, hnone⟩
  rw [fromHex_eq_decodeString hnone, hcleaned]
  exact hraw

/-- What `normalize_mac` writes of six usable bytes is read back. -/
lemma parseMac_written (hlen : raw.length = macLength) (hnull : raw ≠ List.replicate macLength 0)
    (hbroadcast : raw ≠ List.replicate macLength 0xFF) : parseMac (some (formatMac raw)) = some raw := by
  refine parseMac_iff.2 ⟨?_, ?_, hnull, hbroadcast⟩
  · rw [cleaned_formatMac, length_hexBytes, hlen, Nat.mul_comm]
  · rw [cleaned_formatMac, fromHex_hexBytes]

lemma length_frame (h : raw.length = macLength) : (frame raw).length = 102 := by
  simp [frame, syncStream, macRepeats, h, macLength]

lemma magicPacket_ok {bytes : List UInt8} (h : magicPacket repr s = .ok bytes) :
    ∃ raw, parseMac (some s) = some raw ∧ bytes = frame raw := by
  unfold magicPacket at h
  split at h
  · cases h
  · rename_i raw hraw
    exact ⟨raw, hraw, (Except.ok.inj h).symm⟩

end Parsers

/-! ### Where they agree -/

section Agrees

variable {s : String} {quote repr : String → String}

/-- Off the astray texts, what the server reads has nothing in it to skip, and the agent reads it. -/
lemma agrees_of_not_astray (h : ¬Astray s) : Agrees quote repr s := by
  have read {raw : List UInt8} (hraw : parseMac (some s) = some raw) :
      raw.length = macLength ∧ parseWakeMAC quote s = .ok raw := by
    have hnot := not_or.1 (not_and.1 h (parseMac_isSome_iff.1 ⟨raw, hraw⟩))
    have hnone : ∀ c ∈ cleaned s, isAsciiSpace c = false := fun c hc => by
      by_contra hs
      exact hnot.1 ⟨c, hc, by simpa using hs⟩
    have hcleaned := cleaned_eq (not_not.1 hnot.2)
    obtain ⟨hlen, hhex, hreserved⟩ := parseMac_iff.1 hraw
    have hcount := fromHex_length hhex
    rw [List.countP_eq_zero.2 (by simpa using hnone), hlen] at hcount
    rw [fromHex_eq_decodeString hnone, hcleaned] at hhex
    exact ⟨by omega, parseWakeMAC_iff.2 ⟨hcleaned ▸ hlen, hhex, hreserved⟩⟩
  refine ⟨fun raw hraw => (read hraw).1, fun raw => ⟨fun hraw => (read hraw).2, fun hwake => ?_⟩, ?_,
    ?_, fun hw hwake => ?_⟩
  · exact (parseMac_of_wake hwake).1
  · intro mac hmac
    obtain ⟨raw, hraw, rfl⟩ := Option.map_eq_some_iff.1 hmac
    obtain ⟨-, -, hnull, hbroadcast⟩ := parseMac_iff.1 hraw
    have hback := parseMac_written (read hraw).1 hnull hbroadcast
    exact ⟨congrArg (Option.map formatMac) hback, hback.trans hraw.symm⟩
  · intro bytes hbytes
    obtain ⟨raw, hraw, rfl⟩ := magicPacket_ok hbytes
    exact length_frame (read hraw).1
  · exact length_frame (read (parseMac_of_wake hwake).1).1

/-- **The parsers agree on a text, and an address is six bytes,** exactly when it is not astray. -/
theorem agrees_iff (quote repr : String → String) (s : String) :
    Agrees quote repr s ↔ ¬Astray s := by
  refine ⟨?_, agrees_of_not_astray⟩
  rintro hagrees ⟨hspells, hspace | hstrip⟩
  · -- A character that is skipped is missing from the six bytes.
    obtain ⟨raw, hraw⟩ := parseMac_isSome_iff.2 hspells
    obtain ⟨hlen, hhex, -⟩ := parseMac_iff.1 hraw
    obtain ⟨c, hc, hs⟩ := hspace
    have hpos : 0 < (cleaned s).countP isAsciiSpace := List.countP_pos_iff.2 ⟨c, hc, hs⟩
    have hcount := fromHex_length hhex
    rw [hlen, hagrees.six raw hraw] at hcount
    omega
  · obtain ⟨raw, hraw⟩ := parseMac_isSome_iff.2 hspells
    exact hstrip (parseMac_of_wake ((hagrees.same raw).1 hraw)).2.1

/-- Two tabs stand for the sixth byte. -/
theorem not_agrees : ¬∀ (quote repr : String → String) (s : String), Agrees quote repr s := by
  intro h
  have hcleaned : cleaned "AA:BB:CC\t\tDD:EE" = "AABBCC\t\tDDEE".toList := by decide
  have hbytes : fromHex "AABBCC\t\tDDEE".toList = some [0xAA, 0xBB, 0xCC, 0xDD, 0xEE] := by
    simp [fromHex, hexDigit, isAsciiSpace]
  have hfive : parseMac (some "AA:BB:CC\t\tDD:EE") = some [0xAA, 0xBB, 0xCC, 0xDD, 0xEE] :=
    parseMac_iff.2 ⟨by rw [hcleaned]; decide, hcleaned ▸ hbytes, by decide, by decide⟩
  exact absurd ((h id id _).six _ hfive) (by decide)

end Agrees

end Tiai.Wol
