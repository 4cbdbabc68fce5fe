import Mathlib
import Tiai.Lib.Like
import Tiai.Lib.Trim
import Tiai.Machine.AgentVersion
import Tiai.Wol.Packet

/-!
# Searching the parc

`_search_clause` and the substring facets of `_filtered_machines` (`api/routes/machines.py`), and `_search_clause` of
`api/routes/software.py`.  The other facets are a predicate; a value that is null fits nothing; PostgreSQL refuses a text
with U+0000.

* `Hexadecimal`, `readsHexadecimal` — a run of hexadecimal digits, and what `int(text, 16)` reads;
* `filteredMachines`, `searchSoftware` — the rows that are selected;
* `Wanted`, `WantedSoftware` — the rows that contain what was typed;
* `mac_leg_iff` — the leniency of `int` selects nothing more;
* `finds_iff` — the rows selected are those wanted, in every parc, for exactly the texts without a special character.
-/

namespace Tiai.MachineSearch

open Lib Lib.Like
open AgentVersion (Digits)
open Wol (hexDigit separators isAsciiSpace)

abbrev Text : Type := List Char

/-! ### Hexadecimal -/

def isHex (c : Char) : Bool := (hexDigit c).isSome

/-- A run of hexadecimal digits. -/
def Hexadecimal (text : Text) : Prop := text ≠ [] ∧ ∀ c ∈ text, isHex c = true

instance (text : Text) : Decidable (Hexadecimal text) := by
  unfold Hexadecimal
  infer_instance

section Statements

variable (py : Digits)

/-- Digits and blanks of other scripts are read as those of ASCII. -/
def toAscii (c : Char) : Char :=
  if c.toNat < 127 then c else
  if isSpace c then ' ' else
  match py.value c with
  | some n => Char.ofNat (48 + n)
  | none => '?'

/-- Groups of digits with single underscores between. -/
def readsGroups (text : Text) : Bool := (text.splitOn '_').all fun group => group ≠ [] && group.all isHex

/-- Whether `int(text, 16)` reads the text: blanks around it, a sign, a prefix, underscores. -/
def readsHexadecimal (text : Text) : Bool :=
  match trimBy isAsciiSpace (text.map (toAscii py)) with
  | '+' :: rest | '-' :: rest => readsUnsigned rest
  | rest => readsUnsigned rest
where
  readsUnsigned : Text → Bool
    | '0' :: 'x' :: '_' :: rest | '0' :: 'X' :: '_' :: rest => readsGroups rest
    | '0' :: 'x' :: rest | '0' :: 'X' :: rest => readsGroups rest
    | rest => readsGroups rest

/-! ### The rows -/

/-- What the search and the substring facets look at of a machine. -/
structure Machine where
  hostname : Option Text
  machineUuid : Text
  ipAddress : Option Text
  /-- In the form the column holds. -/
  macAddress : Option {s : String // Wol.IsCanonicalMac s}
  avProductName : Option Text
  osVersion : Option Text
  hwModel : Option Text
  hwManufacturer : Option Text
  cpuModel : Option Text

structure Software where
  name : Text
  publisher : Text

/-- The search and the substring facets. -/
structure MachineFilters where
  search : Option Text
  antivirus : Option Text
  osVersion : Option Text
  hwModel : Option Text
  hwManufacturer : Option Text
  cpuModel : Option Text

/-- `if filters.…`: an empty text is no filter. -/
def given (text : Option Text) : Option Text := text.filter (· ≠ [])

/-- The texts that reach the statement. -/
def MachineFilters.texts (filters : MachineFilters) : List Text :=
  [filters.search, filters.antivirus, filters.osVersion, filters.hwModel, filters.hwManufacturer,
    filters.cpuModel].filterMap given

/-- PostgreSQL has no text with U+0000. -/
def refused (texts : List Text) : Bool := texts.any ('\x00' ∈ ·)

/-- Lower case, which makes a hexadecimal digit of those alone. -/
structure Locale extends Folding where
  hexadecimal : ∀ c, isHex (lower c) = isHex c

/-! ### The statements -/

variable (locale : Locale)

/-- `col.ilike`, of the text between two runs. -/
def ilikeAround (text : Text) (value : Option Text) : Bool := value.any (ilike locale.toFolding (around text))

/-- `search.translate(_MAC_SEARCH_STRIP)`. -/
def compact (search : Text) : Text := search.filter (· ∉ separators)

/-- `func.replace(col(Machine.mac_address), ":", "")`. -/
def replaced (m : Machine) : Option Text := m.macAddress.map fun mac => mac.1.toList.filter (· ≠ ':')

/-- `_search_clause`, of the machines. -/
def searchClause (search : Text) (m : Machine) : Bool :=
  ilikeAround locale search m.hostname || ilikeAround locale search (some m.machineUuid) ||
    ilikeAround locale search m.ipAddress || ilikeAround locale search m.avProductName ||
    (readsHexadecimal py (compact search) && ilikeAround locale (compact search) (replaced m))

/-- The search and the substring facets of `_filtered_machines`. -/
def selects (filters : MachineFilters) (m : Machine) : Bool :=
  (given filters.search).all (searchClause py locale · m) &&
    ((given filters.antivirus).all (ilikeAround locale · m.avProductName) &&
    ((given filters.osVersion).all (ilikeAround locale · m.osVersion) &&
    ((given filters.hwModel).all (ilikeAround locale · m.hwModel) &&
    ((given filters.hwManufacturer).all (ilikeAround locale · m.hwManufacturer) &&
    (given filters.cpuModel).all (ilikeAround locale · m.cpuModel)))))

/-- `_filtered_machines`; `others` are the other facets. -/
def filteredMachines (filters : MachineFilters) (others : Machine → Bool) (fleet : List Machine) :
    Option (List Machine) :=
  if refused filters.texts then none else some (fleet.filter fun m => others m && selects py locale filters m)

/-- The catalogue with `_search_clause`, of the software; `others` is that a machine carries it. -/
def searchSoftware (search : Option Text) (others : Software → Bool) (catalogue : List Software) :
    Option (List Software) :=
  if refused (given search).toList then none else some (catalogue.filter fun s =>
    others s && (given search).all fun text =>
      ilikeAround locale text (some s.name) || ilikeAround locale text (some s.publisher))

/-! ### What was typed -/

/-- The value contains the text, ignoring case. -/
def Has (text : Text) (value : Option Text) : Prop := ∃ v ∈ value, Contains locale.toFolding text v

/-- The digits of the machine's address. -/
def macDigits (m : Machine) : Option Text := m.macAddress.map fun mac => mac.1.toList.filter isHex

/-- The free search: one of four values, or the digits of the address. -/
def Searched (search : Text) (m : Machine) : Prop :=
  Has locale search m.hostname ∨ Has locale search (some m.machineUuid) ∨ Has locale search m.ipAddress ∨
    Has locale search m.avProductName ∨ Hexadecimal (compact search) ∧ Has locale (compact search) (macDigits m)

/-- The machine has what was typed, of each text that is given. -/
def Wanted (filters : MachineFilters) (m : Machine) : Prop :=
  (∀ text ∈ given filters.search, Searched locale text m) ∧
    (∀ text ∈ given filters.antivirus, Has locale text m.avProductName) ∧
    (∀ text ∈ given filters.osVersion, Has locale text m.osVersion) ∧
    (∀ text ∈ given filters.hwModel, Has locale text m.hwModel) ∧
    (∀ text ∈ given filters.hwManufacturer, Has locale text m.hwManufacturer) ∧
    ∀ text ∈ given filters.cpuModel, Has locale text m.cpuModel

def WantedSoftware (search : Option Text) (s : Software) : Prop :=
  ∀ text ∈ given search, Has locale text (some s.name) ∨ Has locale text (some s.publisher)

/-- **The claim on the machines**: of every parc, under whatever other facets, the list has those that are wanted. -/
def FindsMachines (filters : MachineFilters) : Prop := ∀ others fleet, ∃ rows,
  filteredMachines py locale filters others fleet = some rows ∧
    ∀ m, m ∈ rows ↔ m ∈ fleet ∧ others m = true ∧ Wanted locale filters m

/-- **The claim on the software**. -/
def FindsSoftware (search : Option Text) : Prop := ∀ others catalogue, ∃ rows,
  searchSoftware locale search others catalogue = some rows ∧
    ∀ s, s ∈ rows ↔ s ∈ catalogue ∧ others s = true ∧ WantedSoftware locale search s

/-- None of the three special characters of a pattern, and no U+0000. -/
def Ordinary (text : Text) : Prop := Plain text ∧ '\x00' ∉ text

end Statements

/-! ### The hexadecimal test -/

lemma toNat_of_isHex {c : Char} (h : isHex c = true) :
    (48 ≤ c.toNat ∧ c.toNat ≤ 57) ∨ (97 ≤ c.toNat ∧ c.toNat ≤ 102) ∨ (65 ≤ c.toNat ∧ c.toNat ≤ 70) := by
  unfold isHex hexDigit at h
  split at h
  · next hdigit => exact .inl ⟨Char.le_def.1 hdigit.1, Char.le_def.1 hdigit.2⟩
  · split at h
    · next hsmall => exact .inr (.inl ⟨Char.le_def.1 hsmall.1, Char.le_def.1 hsmall.2⟩)
    · split at h
      · next hcapital => exact .inr (.inr ⟨Char.le_def.1 hcapital.1, Char.le_def.1 hcapital.2⟩)
      · cases h

/-- No sign, no prefix and no underscore is a digit. -/
lemma ne_of_isHex {c d : Char} (h : isHex c = true) (hd : isHex d = false) : c ≠ d := by
  rintro rfl
  rw [h] at hd
  cases hd

lemma toAscii_of_isHex (py : Digits) {c : Char} (h : isHex c = true) : toAscii py c = c := by
  have := toNat_of_isHex h
  exact if_pos (by omega)

lemma isAsciiSpace_of_isHex {c : Char} (h : isHex c = true) : isAsciiSpace c = false := by
  have := toNat_of_isHex h
  simp only [isAsciiSpace, Bool.or_eq_false_iff, decide_eq_false_iff_not]
  omega

lemma readsGroups_of_hexadecimal {text : Text} (h : Hexadecimal text) : readsGroups text = true := by
  have hone : text.splitOn '_' = [text] :=
    List.splitOn_eq_singleton fun hmem => ne_of_isHex (h.2 _ hmem) (by decide) rfl
  simp [readsGroups, hone, h.1, List.all_eq_true.2 h.2]

/-- `int` reads every run of hexadecimal digits. -/
lemma readsHexadecimal_of_hexadecimal (py : Digits) {text : Text} (h : Hexadecimal text) :
    readsHexadecimal py text = true := by
  have hmap : text.map (toAscii py) = text := by
    conv_rhs => rw [← List.map_id text]
    exact List.map_congr_left fun c hc => toAscii_of_isHex py (h.2 c hc)
  have htrim : trimBy isAsciiSpace text = text :=
    trimBy_of_ends (fun c hc => isAsciiSpace_of_isHex (h.2 c (List.mem_of_mem_head? hc)))
      fun c hc => isAsciiSpace_of_isHex (h.2 c (List.mem_of_getLast? hc))
  have hunsigned : readsHexadecimal.readsUnsigned text = true := by
    unfold readsHexadecimal.readsUnsigned
    split
    case h_5 => exact readsGroups_of_hexadecimal h
    all_goals exact absurd (h.2 _ (List.mem_cons_of_mem _ List.mem_cons_self)) (by decide)
  unfold readsHexadecimal
  rw [hmap, htrim]
  split
  · exact absurd (h.2 _ List.mem_cons_self) (by decide)
  · exact absurd (h.2 _ List.mem_cons_self) (by decide)
  · exact hunsigned

lemma readsHexadecimal_nil (py : Digits) : readsHexadecimal py [] = false := rfl

/-! ### The address -/

lemma mem_formatMac {raw : List UInt8} {c : Char} (h : c ∈ (Wol.formatMac raw).toList) : c = ':' ∨ isHex c = true := by
  have digits : ∀ b : UInt8, ∀ c ∈ Wol.hexByte b, isHex c = true := by
    intro b c hc
    have hb : b.toNat < 256 := b.toNat_lt
    obtain ⟨hi, -, -, -⟩ := Wol.upperDigit_table (b.toNat / 16) (by omega)
    obtain ⟨lo, -, -, -⟩ := Wol.upperDigit_table (b.toNat % 16) (by omega)
    simp only [Wol.hexByte, List.mem_cons, List.not_mem_nil, or_false] at hc
    rcases hc with rfl | rfl
    · rw [isHex, hi, Option.isSome_some]
    · rw [isHex, lo, Option.isSome_some]
  rw [Wol.formatMac, String.toList_ofList] at h
  induction raw with
  | nil => simp at h
  | cons b raw ih =>
    cases raw with
    | nil =>
      rw [List.map_singleton, List.intercalate_singleton] at h
      exact .inr (digits b c h)
    | cons d raw =>
      rw [List.map_cons, List.map_cons, List.intercalate_cons_cons, ← List.map_cons, List.mem_append, List.mem_append,
        List.mem_singleton] at h
      rcases h with (h | h) | h
      · exact .inr (digits b c h)
      · exact .inl h
      · exact ih h

/-- Without its colons a stored address is its digits. -/
lemma replaced_eq (m : Machine) : replaced m = macDigits m := by
  unfold replaced macDigits
  refine Option.map_congr fun mac _ => List.filter_congr fun c hc => ?_
  obtain ⟨raw, -, -, -, hraw⟩ := mac.2
  rw [hraw] at hc
  rcases mem_formatMac hc with rfl | hhex
  · rfl
  · rw [hhex, decide_eq_true_iff]
    exact ne_of_isHex hhex (by decide)

section Legs

variable {py : Digits} {locale : Locale} {text : Text} {value : Option Text}

/-- A plain text finds the values that contain it. -/
lemma ilikeAround_iff (h : Plain text) : ilikeAround locale text value = true ↔ Has locale text value := by
  unfold ilikeAround Has
  rw [Option.any_eq_true]
  simp only [ilike_around_iff h, Option.mem_def]

lemma plain_compact (h : Plain text) : Plain (compact text) := fun c hc => h c (List.mem_of_mem_filter hc)

/-- What is contained in digits is digits. -/
lemma isHex_of_has {m : Machine} (h : Has locale text (macDigits m)) : ∀ c ∈ text, isHex c = true := by
  intro c hc
  obtain ⟨v, hv, hcontains⟩ := h
  obtain ⟨mac, -, rfl⟩ := Option.map_eq_some_iff.1 hv
  obtain ⟨d, hd, hlower⟩ := List.mem_map.1 (hcontains.subset (List.mem_map_of_mem hc))
  have hhex := List.of_mem_filter hd
  rw [← locale.hexadecimal, hlower, locale.hexadecimal] at hhex
  exact hhex

/-- **The leg of the address**: what `int` reads beside the digits is in no address. -/
theorem mac_leg_iff (h : Plain text) (m : Machine) :
    (readsHexadecimal py (compact text) && ilikeAround locale (compact text) (replaced m)) = true ↔
      Hexadecimal (compact text) ∧ Has locale (compact text) (macDigits m) := by
  rw [Bool.and_eq_true, replaced_eq, ilikeAround_iff (plain_compact h)]
  constructor
  · rintro ⟨hreads, hhas⟩
    refine ⟨⟨fun hnil => ?_, isHex_of_has hhas⟩, hhas⟩
    rw [hnil, readsHexadecimal_nil] at hreads
    cases hreads
  · rintro ⟨hhex, hhas⟩
    exact ⟨readsHexadecimal_of_hexadecimal py hhex, hhas⟩

theorem searchClause_iff (h : Plain text) (m : Machine) :
    searchClause py locale text m = true ↔ Searched locale text m := by
  unfold searchClause Searched
  rw [Bool.or_eq_true, Bool.or_eq_true, Bool.or_eq_true, Bool.or_eq_true, mac_leg_iff h, ilikeAround_iff h,
    ilikeAround_iff h, ilikeAround_iff h, ilikeAround_iff h, or_assoc, or_assoc, or_assoc]

/-- Every text finds the shortest that fits it. -/
lemma ilikeAround_found (locale : Locale) (text : Text) : ilikeAround locale text (some (found text)) = true := by
  rw [ilikeAround, Option.any_some]
  exact ilike_found _ text

lemma plain_of_has_found (h : Has locale text (some (found text))) : Plain text := by
  obtain ⟨v, hv, hcontains⟩ := h
  rw [Option.mem_some] at hv
  subst hv
  by_contra hnot
  exact not_contains_found hnot hcontains

end Legs

lemma refused_eq_false_iff {texts : List Text} : refused texts = false ↔ ∀ text ∈ texts, '\x00' ∉ text := by
  simp [refused]

/-! ### Every parc -/

section Finds

variable {py : Digits} {locale : Locale} {filters : MachineFilters} {search : Option Text}

lemma mem_texts {text : Text} : text ∈ filters.texts ↔ text ∈ given filters.search ∨ text ∈ given filters.antivirus ∨
    text ∈ given filters.osVersion ∨ text ∈ given filters.hwModel ∨ text ∈ given filters.hwManufacturer ∨
    text ∈ given filters.cpuModel := by
  simp [MachineFilters.texts, List.mem_filterMap]

lemma all_iff {value : Option Text} {p : Text → Bool} {P : Text → Prop} (h : ∀ text ∈ value, (p text = true ↔ P text)) :
    value.all p = true ↔ ∀ text ∈ value, P text := by
  cases value with
  | none => simp
  | some text => simpa using h text rfl

/-- What is selected, of plain texts. -/
lemma selects_iff (h : ∀ text ∈ filters.texts, Plain text) (m : Machine) :
    selects py locale filters m = true ↔ Wanted locale filters m := by
  simp only [mem_texts] at h
  unfold selects
  rw [Bool.and_eq_true, Bool.and_eq_true, Bool.and_eq_true, Bool.and_eq_true, Bool.and_eq_true,
    all_iff fun text ht => searchClause_iff (h text (by simp [ht])) m,
    all_iff fun text ht => ilikeAround_iff (h text (by simp [ht])),
    all_iff fun text ht => ilikeAround_iff (h text (by simp [ht])),
    all_iff fun text ht => ilikeAround_iff (h text (by simp [ht])),
    all_iff fun text ht => ilikeAround_iff (h text (by simp [ht])),
    all_iff fun text ht => ilikeAround_iff (h text (by simp [ht]))]
  rfl

/-- A machine that every text that is given selects, and with as little as does. -/
def sample (filters : MachineFilters) : Machine where
  hostname := (given filters.search).map found
  machineUuid := []
  ipAddress := none
  macAddress := none
  avProductName := (given filters.antivirus).map found
  osVersion := (given filters.osVersion).map found
  hwModel := (given filters.hwModel).map found
  hwManufacturer := (given filters.hwManufacturer).map found
  cpuModel := (given filters.cpuModel).map found

lemma all_found (locale : Locale) (value : Option Text) :
    value.all (ilikeAround locale · (value.map found)) = true := by
  cases value with
  | none => rfl
  | some text => exact ilikeAround_found locale text

lemma selects_sample (py : Digits) (locale : Locale) (filters : MachineFilters) :
    selects py locale filters (sample filters) = true := by
  have hsearch : (given filters.search).all (searchClause py locale · (sample filters)) = true := by
    unfold searchClause sample
    cases given filters.search with
    | none => rfl
    | some text => simp [ilikeAround_found]
  rw [selects, hsearch]
  simp [sample, all_found]

lemma plain_of_has_map {value : Option Text} (h : ∀ text ∈ value, Has locale text (value.map found)) :
    ∀ text ∈ value, Plain text := by
  intro text ht
  have hhas := h text ht
  rw [Option.mem_def.1 ht, Option.map_some] at hhas
  exact plain_of_has_found hhas

/-- A plain value contains plain texts alone. -/
lemma plain_of_contains {text value : Text} (hvalue : Plain value) (h : Contains locale.toFolding text value) :
    Plain text := by
  have hlowered := (@plain_map_iff locale.toFolding value).2 hvalue
  exact (@plain_map_iff locale.toFolding text).1 fun c hc => hlowered c (h.subset hc)

/-- What is searched of the sample is plain, when the antivirus that it has is. -/
lemma plain_of_searched (hantivirus : ∀ text ∈ given filters.antivirus, Plain text) {text : Text}
    (ht : text ∈ given filters.search) (h : Searched locale text (sample filters)) : Plain text := by
  rcases h with ⟨v, hv, hhas⟩ | ⟨v, hv, hhas⟩ | ⟨v, hv, -⟩ | ⟨v, hv, hhas⟩ | ⟨-, v, hv, -⟩
  · refine plain_of_has_found ⟨v, ?_, hhas⟩
    rwa [sample, Option.mem_def.1 ht, Option.map_some] at hv
  · obtain rfl : [] = v := Option.some.inj hv
    exact plain_of_contains (fun c hc => absurd hc List.not_mem_nil) hhas
  · cases hv
  · obtain ⟨antivirus, ha, rfl⟩ := Option.map_eq_some_iff.1 (Option.mem_def.1 hv)
    have hplain := hantivirus antivirus ha
    rw [found_plain hplain] at hhas
    exact plain_of_contains hplain hhas
  · cases hv

/-- **The machine list** has the machines wanted in every parc exactly for ordinary texts. -/
theorem findsMachines_iff : FindsMachines py locale filters ↔ ∀ text ∈ filters.texts, Ordinary text := by
  constructor
  · intro hfinds
    obtain ⟨rows, hrows, hmem⟩ := hfinds (fun _ => true) [sample filters]
    rw [filteredMachines, Option.ite_none_left_eq_some, Option.some.injEq, Bool.not_eq_true,
      refused_eq_false_iff] at hrows
    obtain ⟨hnul, rfl⟩ := hrows
    have hselected : sample filters ∈ [sample filters].filter fun m => true && selects py locale filters m := by
      rw [List.mem_filter, Bool.true_and]
      exact ⟨List.mem_cons_self, selects_sample py locale filters⟩
    obtain ⟨-, -, hsearch, hantivirus, hos, hmodel, hmanufacturer, hcpu⟩ := (hmem _).1 hselected
    have hplain := plain_of_has_map hantivirus
    refine fun text ht => ⟨?_, hnul text ht⟩
    rcases mem_texts.1 ht with ht | ht | ht | ht | ht | ht
    · exact plain_of_searched hplain ht (hsearch text ht)
    · exact hplain text ht
    · exact plain_of_has_map hos text ht
    · exact plain_of_has_map hmodel text ht
    · exact plain_of_has_map hmanufacturer text ht
    · exact plain_of_has_map hcpu text ht
  · intro h others fleet
    refine ⟨_, if_neg (by simpa using refused_eq_false_iff.2 fun text ht => (h text ht).2), fun m => ?_⟩
    rw [List.mem_filter, Bool.and_eq_true, selects_iff fun text ht => (h text ht).1]

/-- **The software list** has the software wanted in every catalogue exactly for ordinary texts. -/
theorem findsSoftware_iff : FindsSoftware locale search ↔ ∀ text ∈ given search, Ordinary text := by
  constructor
  · intro hfinds text ht
    obtain ⟨rows, hrows, hmem⟩ := hfinds (fun _ => true) [⟨found text, []⟩]
    rw [searchSoftware, Option.mem_def.1 ht, Option.ite_none_left_eq_some, Option.some.injEq, Bool.not_eq_true,
      refused_eq_false_iff] at hrows
    obtain ⟨hnul, rfl⟩ := hrows
    refine ⟨?_, hnul text (by simp)⟩
    obtain ⟨-, -, hwanted⟩ := (hmem ⟨found text, []⟩).1 (by simp [ilikeAround_found])
    rcases hwanted text ht with hhas | ⟨v, hv, hhas⟩
    · exact plain_of_has_found hhas
    · obtain rfl : [] = v := Option.some.inj hv
      exact plain_of_contains (fun c hc => absurd hc List.not_mem_nil) hhas
  · intro h others catalogue
    refine ⟨_, if_neg ?_, fun s => ?_⟩
    · simpa [refused_eq_false_iff] using fun text ht => (h text ht).2
    · rw [List.mem_filter, Bool.and_eq_true, all_iff fun text ht => by
        rw [Bool.or_eq_true, ilikeAround_iff (h text ht).1, ilikeAround_iff (h text ht).1]]
      rfl

/-- **Search finds what was typed**, of machines and of software, exactly for ordinary texts. -/
theorem finds_iff (py : Digits) (locale : Locale) (filters : MachineFilters) (search : Option Text) :
    (FindsMachines py locale filters ↔ ∀ text ∈ filters.texts, Ordinary text) ∧
      (FindsSoftware locale search ↔ ∀ text ∈ given search, Ordinary text) :=
  ⟨findsMachines_iff, findsSoftware_iff⟩

end Finds

/-- Beyond ASCII no capital is lowered. -/
lemma toLower_of_le {c : Char} (h : 128 ≤ c.toNat) : c.toLower = c := by
  refine dif_neg fun hcapital => ?_
  have hle : c.toNat ≤ 'Z'.toNat := UInt32.le_iff_toNat_le.1 hcapital.2
  have : 'Z'.toNat = 90 := rfl
  omega

/-- The lower case of ASCII. -/
def asciiLower : Locale where
  lower := Char.toLower
  special w hw c := by
    by_cases hc : c.toNat < 128
    · have hascii : ∀ n < 128, ((Char.ofNat n).toLower = '%' ↔ Char.ofNat n = '%') ∧
          ((Char.ofNat n).toLower = '_' ↔ Char.ofNat n = '_') ∧
          ((Char.ofNat n).toLower = escape ↔ Char.ofNat n = escape) := by decide
      obtain ⟨hpercent, hunderscore, hescape⟩ := hascii c.toNat hc
      rw [Char.ofNat_toNat] at hpercent hunderscore hescape
      simp only [specials, List.mem_cons, List.not_mem_nil, or_false] at hw
      rcases hw with rfl | rfl | rfl
      · exact hpercent
      · exact hunderscore
      · exact hescape
    · rw [toLower_of_le (by omega)]
  hexadecimal c := by
    by_cases hc : c.toNat < 128
    · have hascii : ∀ n < 128, isHex (Char.ofNat n).toLower = isHex (Char.ofNat n) := by decide
      have := hascii c.toNat hc
      rwa [Char.ofNat_toNat] at this
    · rw [toLower_of_le (by omega)]

def labSearch : MachineFilters := ⟨some "lab_1".toList, none, none, none, none, none⟩

def labMachine : Machine := ⟨some "LABX1".toList, [], none, none, none, none, none, none, none⟩

/-- An underscore finds any character, and a percent sign any run of them. -/
theorem underscore_finds : filteredMachines Digits.ascii asciiLower labSearch (fun _ => true) [labMachine] =
      some [labMachine] ∧ ¬ FindsMachines Digits.ascii asciiLower labSearch ∧
    ¬ FindsSoftware asciiLower (some "100%".toList) := by
  refine ⟨rfl, fun h => ?_, fun h => ?_⟩
  · have hplain := ((findsMachines_iff.1 h) "lab_1".toList (by decide)).1
    exact hplain '_' (by decide) (by decide)
  · have hplain := ((findsSoftware_iff.1 h) "100%".toList rfl).1
    exact hplain '%' (by decide) (by decide)

end Tiai.MachineSearch
