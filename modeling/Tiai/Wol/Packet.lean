import Tiai.Text

/-!
# Hardware addresses

`features/wol/packet.py`: `parse_mac` and `normalize_mac`.  A stored address has been through
`normalize_mac` once (the heartbeat's validator) and is put through it again when a wake is handed
out.  The first pass alone does not promise six bytes — `bytes.fromhex` skips the white space that
`cleaned` may still hold, so twelve characters may spell fewer — but the second one does:
`normalizeMac_stored`.
-/

namespace Tiai.Wol

/-- `MAC_LENGTH`. -/
def macLength : ℕ := 6

/-- `_SEPARATORS`. -/
def separators : List Char := [':', '-', '.', ' ']

/-- The white space `bytes.fromhex` skips. -/
def isAsciiSpace (c : Char) : Bool := c.toNat = 32 || (9 ≤ c.toNat ∧ c.toNat ≤ 13)

/-- The value of a hexadecimal digit. -/
def hexDigit (c : Char) : Option ℕ :=
  if '0' ≤ c ∧ c ≤ '9' then some (c.toNat - 48)
  else if 'a' ≤ c ∧ c ≤ 'f' then some (c.toNat - 87)
  else if 'A' ≤ c ∧ c ≤ 'F' then some (c.toNat - 55)
  else none

/-- `bytes.fromhex`: pairs of digits, white space skipped between the pairs; `none` is the
`ValueError`. -/
def fromHex : List Char → Option (List UInt8)
  | [] => some []
  | c :: cs =>
    if isAsciiSpace c then fromHex cs
    else match cs with
      | [] => none
      | d :: ds =>
        match hexDigit c, hexDigit d, fromHex ds with
        | some hi, some lo, some raw => some (UInt8.ofNat (16 * hi + lo) :: raw)
        | _, _, _ => none

/-- `cleaned`: the value stripped, then every separator replaced by nothing. -/
def cleaned (value : String) : List Char :=
  (stripChars value.toList).filter fun c => decide (c ∉ separators)

/-- `parse_mac`. -/
def parseMac (value : Option String) : Option (List UInt8) :=
  match value with
  | none => none
  | some v =>
    if v = "" then none
    else if (cleaned v).length ≠ macLength * 2 then none
    else match fromHex (cleaned v) with
      | none => none
      | some raw =>
        if raw = List.replicate macLength 0 ∨ raw = List.replicate macLength 0xFF then none
        else some raw

/-- The upper-case hexadecimal digit of a number below 16. -/
def upperDigit (n : ℕ) : Char := if n < 10 then Char.ofNat (48 + n) else Char.ofNat (55 + n)

/-- `f"{b:02X}"`. -/
def hexByte (b : UInt8) : List Char := [upperDigit (b.toNat / 16), upperDigit (b.toNat % 16)]

/-- `":".join(f"{b:02X}" for b in raw)`. -/
def formatMac (raw : List UInt8) : String :=
  String.ofList ([':'].intercalate (raw.map hexByte))

/-- `normalize_mac`. -/
def normalizeMac (value : Option String) : Option String := (parseMac value).map formatMac

/-! ### The digits -/

lemma upperDigit_table : ∀ n < 16, hexDigit (upperDigit n) = some n ∧
    isAsciiSpace (upperDigit n) = false ∧ isSpace (upperDigit n) = false ∧
    upperDigit n ∉ separators := by decide

lemma fromHex_hexBytes (raw : List UInt8) : fromHex (raw.flatMap hexByte) = some raw := by
  induction raw with
  | nil => rfl
  | cons b raw ih =>
    have hb : b.toNat < 256 := b.toNat_lt
    obtain ⟨hi, hs, -, -⟩ := upperDigit_table (b.toNat / 16) (by omega)
    obtain ⟨lo, -, -, -⟩ := upperDigit_table (b.toNat % 16) (by omega)
    have hsum : 16 * (b.toNat / 16) + b.toNat % 16 = b.toNat := by omega
    simp only [List.flatMap_cons, hexByte, List.cons_append, List.nil_append]
    simp [fromHex, hs, hi, lo, ih, hsum]

lemma cleaned_hexBytes (raw : List UInt8) :
    ([':'].intercalate (raw.map hexByte)).filter (fun c => decide (c ∉ separators)) =
      raw.flatMap hexByte := by
  have digits : ∀ b : UInt8, (hexByte b).filter (fun c => decide (c ∉ separators)) = hexByte b := by
    intro b
    have hb : b.toNat < 256 := b.toNat_lt
    obtain ⟨-, -, -, hi⟩ := upperDigit_table (b.toNat / 16) (by omega)
    obtain ⟨-, -, -, lo⟩ := upperDigit_table (b.toNat % 16) (by omega)
    simp [hexByte, hi, lo]
  induction raw with
  | nil => rfl
  | cons b raw ih =>
    cases raw with
    | nil => simpa using digits b
    | cons c raw =>
      simp only [List.map_cons, List.intercalate_cons_cons] at ih ⊢
      rw [List.append_assoc, List.filter_append, digits b, List.filter_append, ih]
      simp [separators]

lemma isSpace_hexBytes (raw : List UInt8) :
    ∀ c ∈ [':'].intercalate (raw.map hexByte), isSpace c = false := by
  have digits : ∀ b : UInt8, ∀ c ∈ hexByte b, isSpace c = false := by
    intro b c hc
    have hb : b.toNat < 256 := b.toNat_lt
    obtain ⟨-, -, hi, -⟩ := upperDigit_table (b.toNat / 16) (by omega)
    obtain ⟨-, -, lo, -⟩ := upperDigit_table (b.toNat % 16) (by omega)
    simp only [hexByte, List.mem_cons, List.not_mem_nil, or_false] at hc
    rcases hc with rfl | rfl
    · exact hi
    · exact lo
  induction raw with
  | nil => simp
  | cons b raw ih =>
    cases raw with
    | nil => simpa using digits b
    | cons c raw =>
      simp only [List.map_cons, List.intercalate_cons_cons] at ih ⊢
      intro x hx
      rcases List.mem_append.mp hx with hx | hx
      · rcases List.mem_append.mp hx with hx | hx
        · exact digits b x hx
        · rw [List.mem_singleton.mp hx]; rfl
      · exact ih x hx

/-! ### What a stored address is read back as -/

/-- Six bytes that are neither the null nor the broadcast address, in the form the column holds. -/
def IsCanonicalMac (s : String) : Prop :=
  ∃ raw : List UInt8, raw.length = macLength ∧ raw ≠ List.replicate macLength 0 ∧
    raw ≠ List.replicate macLength 0xFF ∧ s = formatMac raw

lemma cleaned_formatMac (raw : List UInt8) : cleaned (formatMac raw) = raw.flatMap hexByte := by
  unfold cleaned formatMac
  rw [String.toList_ofList, stripChars_of_forall (isSpace_hexBytes raw), cleaned_hexBytes]

lemma length_hexBytes (raw : List UInt8) : (raw.flatMap hexByte).length = 2 * raw.length := by
  induction raw with
  | nil => rfl
  | cons b raw ih => simp [ih, hexByte]; omega

/-- Reading back what `normalize_mac` wrote gives its bytes, provided there are six of them. -/
theorem parseMac_formatMac {raw raw' : List UInt8} (h : parseMac (some (formatMac raw)) = some raw') :
    raw' = raw ∧ raw.length = macLength ∧ raw ≠ List.replicate macLength 0 ∧
      raw ≠ List.replicate macLength 0xFF := by
  unfold parseMac at h
  simp only [cleaned_formatMac, fromHex_hexBytes, length_hexBytes] at h
  split at h
  · cases h
  · split at h
    · cases h
    · rename_i hlen
      split at h
      · cases h
      · rename_i hraw
        obtain ⟨h0, h1⟩ := not_or.mp hraw
        have hlen : raw.length = macLength := by
          have := not_not.mp hlen
          omega
        exact ⟨(Option.some.inj h).symm, hlen, h0, h1⟩

/-- **A stored address is handed out in the six-byte form or not at all.**  The column only ever
receives what `normalize_mac` returned; normalising that once more yields a canonical address. -/
theorem normalizeMac_stored {value : Option String} {stored out : String}
    (hs : normalizeMac value = some stored) (ho : normalizeMac (some stored) = some out) :
    IsCanonicalMac out ∧ out = stored := by
  obtain ⟨raw, -, rfl⟩ := Option.map_eq_some_iff.mp hs
  obtain ⟨raw', hraw', rfl⟩ := Option.map_eq_some_iff.mp ho
  obtain ⟨rfl, hlen, h0, h1⟩ := parseMac_formatMac hraw'
  exact ⟨⟨raw', hlen, h0, h1, rfl⟩, rfl⟩

end Tiai.Wol
