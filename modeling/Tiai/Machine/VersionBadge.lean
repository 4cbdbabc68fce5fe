import Mathlib
import Tiai.JsText
import Tiai.Lib.Dictionary
import Tiai.Lib.Double
import Tiai.Machine.AgentVersion
import Tiai.Machine.Model

/-!
# The badge of an agent that is behind

`frontend/src/utils/agentVersion.ts`: the console ranks the version of a poste and the reference by a key of its own,
beside the server's `outdated_versions`.

* `versionKey`, `compareVersions`, `isAgentOutdated` — the console's comparison;
* `reference` — the version that both are given;
* `badge_iff` — the versions that the badge and the filter agree on.
-/

namespace Tiai.VersionBadge

open Lib Double AgentVersion

/-! ### The console -/

/-- `localeCompare`: the order of the console's language, in which a string is where it is itself. -/
structure Collation where
  compare : List Char → List Char → Ordering
  compare_self : ∀ s, compare s s = .eq

/-- The sign of a difference of two numbers; `Infinity - Infinity` is `NaN`. -/
inductive Difference
  | negative
  | zero
  | positive
  | nan
  deriving DecidableEq

/-- A number that the loop subtracts. -/
inductive Number
  | finite (n : ℤ)
  | infinity

def Number.ofDouble : WithTop ℕ → Number
  | some n => .finite n
  | none => .infinity

/-- `x - y`. -/
def difference : Number → Number → Difference
  | .finite m, .finite n => if m < n then .negative else if n < m then .positive else .zero
  | .finite _, .infinity => .negative
  | .infinity, .finite _ => .positive
  | .infinity, .infinity => .nan

structure Key where
  numbers : List (WithTop ℕ)
  release : ℕ
  pre : List Char
  deriving DecidableEq

/-- The text without its `v`. -/
def unmarked (text : List Char) : List Char :=
  if text.take 1 = ['v'] ∨ text.take 1 = ['V'] then text.drop 1 else text

/-- `Number(n)`. -/
def toNumber (numeral : List Char) : WithTop ℕ := toDouble (toInt Digits.ascii numeral)

/-- `\d` is an ASCII digit here. -/
def versionKey (version : String) : Key :=
  let text := unmarked (trimBy isJsSpace version.toList)
  let main := text.takeWhile fun c => c ≠ '-'
  let pre := (text.dropWhile fun c => c ≠ '-').drop 1
  { numbers := (numerals Digits.ascii main).map toNumber
    release := if pre = [] then 1 else 0
    pre := pre }

/-- `numbers[i] ?? -1`. -/
def padded (numbers : List (WithTop ℕ)) (i : ℕ) : Number :=
  match numbers[i]? with
  | some n => .ofDouble n
  | none => .finite (-1)

/-- The loop over the numbers: the first difference that is not zero, if there is one. -/
def compareNumbers (ka kb : List (WithTop ℕ)) : Option Difference :=
  (List.range (max ka.length kb.length)).findSome? fun i =>
    let diff := difference (padded ka i) (padded kb i)
    if diff = .zero then none else some diff

variable (collation : Collation)

def compareVersions (a b : String) : Difference :=
  let ka := versionKey a
  let kb := versionKey b
  match compareNumbers ka.numbers kb.numbers with
  | some diff => diff
  | none =>
    if ka.release ≠ kb.release then difference (.finite ka.release) (.finite kb.release)
    else match collation.compare ka.pre kb.pre with
      | .lt => .negative
      | .eq => .zero
      | .gt => .positive

def isAgentOutdated (version latest : Option String) : Bool :=
  match version, latest with
  | some version, some latest =>
    if version = "" ∨ latest = "" then false else compareVersions collation version latest = .negative
  | _, _ => false

/-! ### The reference -/

variable (py : Digits)

/-- `fleet_versions`: the version that is pinned, or the highest one that is reported. -/
def reference (pinned : Option String) (names : List String) : Option String :=
  match pinned with
  | some version => if version = "" then latestVersion py names else some version
  | none => latestVersion py names

/-! ### The comparison of the numbers -/

variable {collation : Collation} {py : Digits} {a b : List (WithTop ℕ)} {x y : WithTop ℕ} {v l : String}

@[simp] lemma padded_nil (i : ℕ) : padded [] i = .finite (-1) := rfl

@[simp] lemma padded_cons_zero (x : WithTop ℕ) (a : List (WithTop ℕ)) : padded (x :: a) 0 = .ofDouble x := rfl

@[simp] lemma padded_cons_succ (x : WithTop ℕ) (a : List (WithTop ℕ)) (i : ℕ) :
    padded (x :: a) (i + 1) = padded a i := rfl

@[simp] lemma ofDouble_top : Number.ofDouble ⊤ = .infinity := rfl

@[simp] lemma ofDouble_coe (n : ℕ) : Number.ofDouble (WithTop.some n) = .finite n := rfl

lemma difference_ofDouble (hx : x ≠ ⊤) : difference (.ofDouble x) (.ofDouble y) =
    if x < y then .negative else if y < x then .positive else .zero := by
  obtain ⟨m, rfl⟩ := WithTop.ne_top_iff_exists.1 hx
  cases y with
  | top => rw [ofDouble_coe, ofDouble_top, difference, if_pos (WithTop.coe_lt_top m)]
  | coe n =>
    rw [ofDouble_coe, ofDouble_coe, difference]
    simp only [WithTop.coe_lt_coe, Int.ofNat_lt]

lemma minus_one_first (y : WithTop ℕ) : difference (.finite (-1)) (.ofDouble y) = .negative := by
  cases y with
  | top => rfl
  | coe n =>
    have hlt : (-1 : ℤ) < n := lt_of_lt_of_le (by decide) (Int.natCast_nonneg n)
    rw [ofDouble_coe, difference, if_pos hlt]

lemma minus_one_second (x : WithTop ℕ) : difference (.ofDouble x) (.finite (-1)) = .positive := by
  cases x with
  | top => rfl
  | coe n =>
    have hlt : (-1 : ℤ) < n := lt_of_lt_of_le (by decide) (Int.natCast_nonneg n)
    rw [ofDouble_coe, difference, if_neg hlt.not_gt, if_pos hlt]

lemma compareNumbers_nil_cons (y : WithTop ℕ) (b : List (WithTop ℕ)) : compareNumbers [] (y :: b) = some .negative := by
  rw [compareNumbers, List.length_cons, List.length_nil, Nat.zero_max, List.range_succ_eq_map, List.findSome?_cons]
  simp [minus_one_first]

lemma compareNumbers_cons_nil (x : WithTop ℕ) (a : List (WithTop ℕ)) : compareNumbers (x :: a) [] = some .positive := by
  rw [compareNumbers, List.length_cons, List.length_nil, Nat.max_zero, List.range_succ_eq_map, List.findSome?_cons]
  simp [minus_one_second]

lemma compareNumbers_cons_cons (x y : WithTop ℕ) (a b : List (WithTop ℕ)) : compareNumbers (x :: a) (y :: b) =
    if difference (.ofDouble x) (.ofDouble y) = .zero then compareNumbers a b
    else some (difference (.ofDouble x) (.ofDouble y)) := by
  rw [compareNumbers, List.length_cons, List.length_cons, Nat.succ_max_succ, List.range_succ_eq_map,
    List.findSome?_cons, List.findSome?_map]
  by_cases hdiff : difference (.ofDouble x) (.ofDouble y) = .zero
  · simp only [padded_cons_zero, hdiff, if_true]
    rfl
  · simp only [padded_cons_zero, hdiff, if_false]

/-- The loop says where the one list stands in the dictionary, seen from the other. -/
lemma compareNumbers_eq (ha : ∀ x ∈ a, x ≠ ⊤) :
    compareNumbers a b = if a < b then some .negative else if b < a then some .positive else none := by
  induction a generalizing b with
  | nil => cases b with
    | nil => simp [compareNumbers]
    | cons y b => simp [compareNumbers_nil_cons]
  | cons x a ih => cases b with
    | nil => simp [compareNumbers_cons_nil]
    | cons y b =>
      have hx := ha x List.mem_cons_self
      have hrest := ih (b := b) fun x hmem => ha x (List.mem_cons_of_mem _ hmem)
      rw [compareNumbers_cons_cons, difference_ofDouble hx, hrest]
      simp only [List.cons_lt_cons_iff]
      rcases lt_trichotomy x y with hlt | rfl | hgt
      · simp [hlt]
      · simp
      · simp [hgt, hgt.not_gt, hgt.ne']

/-! ### The two comparisons -/

/-- A pre-release is behind its release, and behind the pre-releases of it with a greater suffix. -/
def Behind (below : List Char → List Char → Prop) (own other : List Char) : Prop :=
  own ≠ [] ∧ (other = [] ∨ below own other)

/-- The numbers as the server reads them. -/
def serverNumbers (py : Digits) (version : String) : List ℕ := (numerals py (mainOf version)).map (toInt py)

/-- `localeCompare` puts the one before the other. -/
def Collation.Before (collation : Collation) (s t : List Char) : Prop := collation.compare s t = .lt

lemma release_eq (version : String) : (versionKey version).release = if (versionKey version).pre = [] then 1 else 0 := by
  unfold versionKey
  rfl

lemma compareVersions_iff (hv : ∀ x ∈ (versionKey v).numbers, x ≠ ⊤) : compareVersions collation v l = .negative ↔
    (versionKey v).numbers < (versionKey l).numbers ∨ (versionKey v).numbers = (versionKey l).numbers ∧
      Behind collation.Before (versionKey v).pre (versionKey l).pre := by
  rw [compareVersions]
  simp only [compareNumbers_eq hv, release_eq]
  rcases lt_trichotomy (versionKey v).numbers (versionKey l).numbers with hlt | heq | hgt
  · simp [hlt]
  · rw [heq, if_neg (lt_irrefl _), if_neg (lt_irrefl _)]
    by_cases hown : (versionKey v).pre = []
    · by_cases hother : (versionKey l).pre = []
      · simp [hown, hother, Behind, collation.compare_self]
      · simp [hown, hother, Behind, difference]
    · by_cases hother : (versionKey l).pre = []
      · simp [hown, hother, Behind, difference]
      · simp only [hown, hother, if_false, ne_eq, not_true_eq_false, lt_irrefl, false_or, true_and, Behind,
          not_false_eq_true, Collation.Before]
        cases collation.compare (versionKey v).pre (versionKey l).pre <;> simp
  · simp [hgt, hgt.not_gt, hgt.ne']

lemma versionKey_lt_iff : AgentVersion.versionKey py v < AgentVersion.versionKey py l ↔
    serverNumbers py v < serverNumbers py l ∨ serverNumbers py v = serverNumbers py l ∧
      Behind (· < ·) (suffixOf v) (suffixOf l) := by
  simp only [AgentVersion.versionKey, Prod.Lex.toLex_lt_toLex, serverNumbers]
  refine or_congr_right (and_congr_right fun _ => ?_)
  by_cases hown : suffixOf v = []
  · by_cases hother : suffixOf l = []
    · simp [hown, hother, Behind]
    · simp [hown, hother, Behind]
  · by_cases hother : suffixOf l = []
    · simp [hown, hother, Behind]
    · simp [hown, hother, Behind]

/-! ### The numbers that both read -/

/-- What is before the first hyphen, as the agent wrote it. -/
def head (version : String) : List Char := version.toList.takeWhile fun c => c ≠ '-'

/-- Before the first hyphen no digit is outside ASCII. -/
def Readable (py : Digits) (version : String) : Prop := ∀ c ∈ head version, py.value c ≠ none → c.isDigit = true

section

variable {isBreak space : Char → Bool} {text : List Char}

lemma unmarked_cases (text : List Char) : unmarked text = text ∨
    ∃ mark rest, text = mark :: rest ∧ (mark = 'v' ∨ mark = 'V') ∧ unmarked text = rest := by
  cases text with
  | nil => exact Or.inl rfl
  | cons mark rest =>
    by_cases hmark : mark = 'v' ∨ mark = 'V'
    · exact Or.inr ⟨mark, rest, rfl, hmark, if_pos (by simpa using hmark)⟩
    · exact Or.inl (if_neg (by simpa using hmark))

/-- The mark has no part in the numbers. -/
lemma pieces_unmarked (text : List Char) (hlower : isBreak 'v' = true) (hupper : isBreak 'V' = true) :
    pieces isBreak ((unmarked text).takeWhile fun c => c ≠ '-') = pieces isBreak (text.takeWhile fun c => c ≠ '-') := by
  rcases unmarked_cases text with h | ⟨mark, rest, rfl, rfl | rfl, h⟩
  · rw [h]
  · rw [h, List.takeWhile_cons_of_pos (by decide), pieces_cons_break hlower]
  · rw [h, List.takeWhile_cons_of_pos (by decide), pieces_cons_break hupper]

/-- White space before the first hyphen has no part in the numbers. -/
lemma pieces_trimBy (hhyphen : space '-' = false)
    (h : ∀ c ∈ text.takeWhile fun c => c ≠ '-', space c = true → isBreak c = true) :
    pieces isBreak ((trimBy space text).takeWhile fun c => c ≠ '-') =
      pieces isBreak (text.takeWhile fun c => c ≠ '-') := by
  obtain ⟨x, y, hsplit, hx, hy⟩ := trimBy_split space text
  have hother : ∀ c, space c = true → decide (c ≠ '-') = true := by
    intro c hc
    refine decide_eq_true ?_
    rintro rfl
    rw [hhyphen] at hc
    cases hc
  generalize trimBy space text = middle at hsplit ⊢
  subst hsplit
  rw [List.append_assoc, List.takeWhile_append_of_pos fun c hc => hother c (hx c hc)] at h ⊢
  rw [pieces_append_of_breaks fun c hc => h c (List.mem_append_left _ hc) (hx c hc)]
  by_cases hall : ∀ c ∈ middle, decide (c ≠ '-') = true
  · -- There is no hyphen, and the white space at the end is before none.
    have hmiddle : middle.takeWhile (fun c => c ≠ '-') = middle := List.takeWhile_eq_self_iff.2 hall
    have hend : y.takeWhile (fun c => c ≠ '-') = y := List.takeWhile_eq_self_iff.2 fun c hc => hother c (hy c hc)
    rw [List.takeWhile_append_of_pos hall, hend] at h ⊢
    rw [hmiddle, pieces_append_of_breaks_right fun c hc =>
      h c (List.mem_append_right _ (List.mem_append_right _ hc)) (hy c hc)]
  · obtain ⟨c, hc, hhyph⟩ := not_forall₂.1 hall
    obtain ⟨p, q, rfl⟩ := List.append_of_mem hc
    have hwall : ∀ rest, (p ++ c :: rest).takeWhile (fun c => c ≠ '-') = p.takeWhile fun c => c ≠ '-' := fun _ =>
      takeWhile_wall (Bool.eq_false_iff.2 hhyph)
    rw [List.append_assoc, List.cons_append, hwall, hwall]

end

lemma isDigit_of_isJsSpace {c : Char} (h : isJsSpace c = true) : c.isDigit = false := by
  rw [Bool.eq_false_iff]
  intro hdigit
  have := toNat_of_isDigit hdigit
  unfold isJsSpace at h
  simp only [Bool.or_eq_true, decide_eq_true_eq] at h
  omega

lemma isSpace_of_isDigit {c : Char} (h : c.isDigit = true) : isSpace c = false := by
  have := toNat_of_isDigit h
  exact isSpace_of_visible (by omega)

lemma ascii_isOther (c : Char) : Digits.ascii.isOther c = !c.isDigit := by
  simp only [Digits.isOther, Digits.ascii]
  cases c.isDigit <;> rfl

lemma isOther_letter (py : Digits) {c : Char} (h : c.toNat < 128) (hc : c.isDigit = false) : py.isOther c = true := by
  rw [Digits.isOther, py.value_ascii c h, hc]
  rfl

lemma console_numerals (version : String) :
    (versionKey version).numbers = (numerals Digits.ascii (head version)).map toNumber := by
  have htrim : pieces Digits.ascii.isOther ((trimBy isJsSpace version.toList).takeWhile fun c => c ≠ '-') =
      pieces Digits.ascii.isOther (head version) := by
    refine pieces_trimBy rfl fun c _ hspace => ?_
    rw [ascii_isOther, isDigit_of_isJsSpace hspace]
    rfl
  have hmark := pieces_unmarked (trimBy isJsSpace version.toList)
    (isOther_letter Digits.ascii (c := 'v') (by decide) rfl) (isOther_letter Digits.ascii (c := 'V') (by decide) rfl)
  rw [numerals, ← htrim, ← hmark]
  rfl

/-- A text without digits outside ASCII has the same numbers for both. -/
lemma serverNumbers_of_readable (h : Readable py v) :
    serverNumbers py v = (numerals Digits.ascii (head v)).map (toInt Digits.ascii) := by
  have hother : ∀ c ∈ head v, py.isOther c = Digits.ascii.isOther c := by
    intro c hc
    rw [ascii_isOther]
    cases hdigit : c.isDigit with
    | true =>
      rw [Digits.isOther, value_of_isDigit py hdigit]
      rfl
    | false =>
      refine isOther_eq_true.2 ?_
      by_contra hvalue
      rw [h c hc hvalue] at hdigit
      cases hdigit
  have htrim : pieces py.isOther ((trimBy isSpace v.toList).takeWhile fun c => c ≠ '-') = pieces py.isOther (head v) := by
    refine pieces_trimBy rfl fun c hc hspace => ?_
    rw [hother c hc, ascii_isOther, Bool.not_eq_true', Bool.eq_false_iff]
    intro hdigit
    rw [isSpace_of_isDigit hdigit] at hspace
    cases hspace
  have hmark := pieces_unmarked (trimBy isSpace v.toList)
    (isOther_letter py (c := 'v') (by decide) rfl) (isOther_letter py (c := 'V') (by decide) rfl)
  have hnumerals : numerals py (mainOf v) = numerals Digits.ascii (head v) := by
    rw [numerals, numerals, ← pieces_congr hother, ← htrim, ← hmark]
    rfl
  rw [serverNumbers, hnumerals]
  refine List.map_congr_left fun numeral hnumeral => List.foldl_ext _ _ _ fun n c hc => ?_
  have hdigit : c.isDigit = true := by
    have hfalse := (of_mem_pieces hnumeral).2 c hc
    rw [ascii_isOther, Bool.not_eq_false'] at hfalse
    exact hfalse
  rw [value_of_isDigit py hdigit, value_of_isDigit Digits.ascii hdigit]

lemma console_of_readable (h : Readable py v) : (versionKey v).numbers = (serverNumbers py v).map toDouble := by
  rw [console_numerals, serverNumbers_of_readable h, List.map_map]
  exact List.map_congr_left fun numeral _ => by rw [toNumber, Function.comp_apply]

/-! ### Numbers that are no infinity -/

lemma toInt_lt (numeral : List Char) : toInt Digits.ascii numeral < 2 ^ (4 * numeral.length) := by
  have hfold : ∀ n, numeral.foldl (fun n c => 10 * n + (Digits.ascii.value c).getD 0) n + 1 ≤
      (n + 1) * 2 ^ (4 * numeral.length) := by
    induction numeral with
    | nil => simp
    | cons c numeral ih =>
      intro n
      have hvalue : (Digits.ascii.value c).getD 0 ≤ 9 := by
        unfold Digits.ascii
        cases hdigit : c.isDigit with
        | false => simp [hdigit]
        | true =>
          have := toNat_of_isDigit hdigit
          simp [hdigit]
          omega
      calc _ ≤ (10 * n + (Digits.ascii.value c).getD 0 + 1) * 2 ^ (4 * numeral.length) := ih _
        _ ≤ ((n + 1) * 2 ^ 4) * 2 ^ (4 * numeral.length) := Nat.mul_le_mul_right _ (by omega)
        _ = (n + 1) * 2 ^ (4 * (c :: numeral).length) := by
          rw [List.length_cons, Nat.mul_assoc, ← Nat.pow_add, Nat.mul_add, Nat.add_comm 4]
  have hzero := hfold 0
  rw [Nat.zero_add, Nat.one_mul] at hzero
  exact hzero

/-- A version that is held is too short for such a number. -/
lemma console_finite {sent : Option String} (h : boundText sent textMax = some v) :
    ∀ x ∈ (versionKey v).numbers, x ≠ ⊤ := by
  intro x hx
  rw [console_numerals] at hx
  obtain ⟨numeral, hnumeral, rfl⟩ := List.mem_map.1 hx
  obtain ⟨text, -, rfl⟩ := Option.map_eq_some_iff.1 h
  have hlen : numeral.length ≤ 200 := by
    have hpiece := (of_mem_pieces hnumeral).1.length_le
    have hhead := (List.takeWhile_prefix (l := (truncate textMax text).toList) fun c => decide (c ≠ '-')).length_le
    have hcut : (truncate textMax text).toList.length ≤ 200 := by
      rw [truncate, String.toList_ofList]
      exact List.length_take_le 200 _
    exact (hpiece.trans hhead).trans hcut
  rw [toNumber]
  exact toDouble_ne_top (toInt_lt numeral) (by omega)

/-- What is not too long is held as it was sent. -/
lemma boundText_of_length {limit : ℕ} (h : v.toList.length ≤ limit) : boundText (some v) limit = some v := by
  rw [boundText, Option.map_some, truncate, List.take_of_length_le h, String.ofList_toList]

/-! ### Where they agree -/

lemma reference_ne_empty {pinned : Option String} {names : List String} (h : reference py pinned names = some l) :
    l ≠ "" := by
  have hlatest : latestVersion py names = some l → l ≠ "" := by
    intro h
    have hmem := (latestVersion_leading h).1
    exact (of_decide_eq_true (List.mem_filter.1 hmem).2).1
  unfold reference at h
  split at h
  · split at h
    · exact hlatest h
    · rename_i hne
      rw [← Option.some_inj.1 h]
      exact hne
  · exact hlatest h

/-- The badge is shown exactly when the filter finds the version. -/
def Agrees (collation : Collation) (py : Digits) (pinned : Option String) (names : List String) (v : String) : Prop :=
  isAgentOutdated collation (some v) (reference py pinned names) = true ↔
    v ∈ outdatedVersions py names (reference py pinned names)

/-- The suffixes are ordered alike. -/
def SuffixesAlike (collation : Collation) (v l : String) : Prop :=
  Behind (· < ·) (suffixOf v) (suffixOf l) ↔ Behind collation.Before (versionKey v).pre (versionKey l).pre

/-- The two keys are ordered alike: by the numbers where both have different numbers, by the suffixes where both have
the same, and by the numbers of the one as by the suffixes of the other where only the one has different numbers. -/
structure OrderedAlike (collation : Collation) (py : Digits) (v l : String) : Prop where
  numbers : serverNumbers py v ≠ serverNumbers py l → (versionKey v).numbers ≠ (versionKey l).numbers →
    (serverNumbers py v < serverNumbers py l ↔ (versionKey v).numbers < (versionKey l).numbers)
  suffixes : serverNumbers py v = serverNumbers py l → (versionKey v).numbers = (versionKey l).numbers →
    SuffixesAlike collation v l
  merged : serverNumbers py v ≠ serverNumbers py l → (versionKey v).numbers = (versionKey l).numbers →
    (serverNumbers py v < serverNumbers py l ↔ Behind collation.Before (versionKey v).pre (versionKey l).pre)
  unread : serverNumbers py v = serverNumbers py l → (versionKey v).numbers ≠ (versionKey l).numbers →
    (Behind (· < ·) (suffixOf v) (suffixOf l) ↔ (versionKey v).numbers < (versionKey l).numbers)

/-- Digits that both read, in numbers that stay different as doubles. -/
structure Plain (py : Digits) (v l : String) : Prop where
  own : Readable py v
  other : Readable py l
  apart : ToldApart toDouble (serverNumbers py v) (serverNumbers py l)

lemma orderedAlike_iff : OrderedAlike collation py v l ↔
    ((serverNumbers py v < serverNumbers py l ∨ serverNumbers py v = serverNumbers py l ∧
      Behind (· < ·) (suffixOf v) (suffixOf l)) ↔
    ((versionKey v).numbers < (versionKey l).numbers ∨ (versionKey v).numbers = (versionKey l).numbers ∧
      Behind collation.Before (versionKey v).pre (versionKey l).pre)) := by
  by_cases hserver : serverNumbers py v = serverNumbers py l
  · by_cases hconsole : (versionKey v).numbers = (versionKey l).numbers
    · simp only [hserver, hconsole, lt_irrefl, false_or, true_and]
      exact ⟨fun h => h.suffixes hserver hconsole, fun h => ⟨fun hne => absurd hserver hne, fun _ _ => h,
        fun hne => absurd hserver hne, fun _ hne => absurd hconsole hne⟩⟩
    · simp only [hserver, hconsole, lt_irrefl, false_or, true_and, false_and, or_false]
      exact ⟨fun h => h.unread hserver hconsole, fun h => ⟨fun hne => absurd hserver hne,
        fun _ heq => absurd heq hconsole, fun hne => absurd hserver hne, fun _ _ => h⟩⟩
  · by_cases hconsole : (versionKey v).numbers = (versionKey l).numbers
    · simp only [hserver, hconsole, lt_irrefl, false_or, true_and, false_and, or_false]
      exact ⟨fun h => h.merged hserver hconsole, fun h => ⟨fun _ hne => absurd hconsole hne,
        fun heq => absurd heq hserver, fun _ _ => h, fun heq => absurd heq hserver⟩⟩
    · simp only [hserver, hconsole, false_and, or_false]
      exact ⟨fun h => h.numbers hserver hconsole, fun h => ⟨fun _ _ => h, fun heq => absurd heq hserver,
        fun _ heq => absurd heq hconsole, fun heq => absurd heq hserver⟩⟩

/-- On plain versions only the suffixes can part them. -/
lemma Plain.suffixes_iff (h : Plain py v l) : OrderedAlike collation py v l ↔
    (serverNumbers py v = serverNumbers py l → SuffixesAlike collation v l) := by
  have hlt := map_lt_map_iff toDouble_mono h.apart
  have heq := map_eq_map_iff h.apart
  rw [← console_of_readable h.own, ← console_of_readable h.other] at hlt heq
  constructor
  · exact fun hordered hserver => hordered.suffixes hserver (heq.2 hserver)
  · exact fun hsuffixes => ⟨fun _ _ => hlt.symm, fun hserver _ => hsuffixes hserver,
      fun hne hconsole => absurd (heq.1 hconsole) hne, fun hserver hne => absurd (heq.2 hserver) hne⟩

/-- **Where the badge and the filter agree.**  They do exactly when the two keys are ordered alike, which of versions
whose numbers both read and keep apart is to order the suffixes alike when the numbers are the same. -/
theorem badge_iff (collation : Collation) (py : Digits) (pinned : Option String) (names : List String)
    (sent : Option String) (v : String) (hsent : boundText sent textMax = some v) (hv : v ∈ names) :
    (Agrees collation py pinned names v ↔
      ∀ l, reference py pinned names = some l → v ≠ "" → OrderedAlike collation py v l) ∧
    ∀ l, reference py pinned names = some l → v ≠ "" → Plain py v l →
      (Agrees collation py pinned names v ↔
        (serverNumbers py v = serverNumbers py l → SuffixesAlike collation v l)) := by
  have hmain : Agrees collation py pinned names v ↔
      ∀ l, reference py pinned names = some l → v ≠ "" → OrderedAlike collation py v l := by
    unfold Agrees
    cases href : reference py pinned names with
    | none => simp [isAgentOutdated, outdatedVersions]
    | some l =>
      have hl := reference_ne_empty href
      by_cases hne : v = ""
      · simp [isAgentOutdated, outdatedVersions, hne]
      · have hbadge : isAgentOutdated collation (some v) (some l) = true ↔ compareVersions collation v l = .negative := by
          simp [isAgentOutdated, hne, hl]
        have hfilter : v ∈ outdatedVersions py names (some l) ↔
            AgentVersion.versionKey py v < AgentVersion.versionKey py l := by
          simp [outdatedVersions, hv, hne]
        rw [hbadge, hfilter, compareVersions_iff (console_finite hsent), versionKey_lt_iff]
        refine iff_comm.trans ?_
        rw [← orderedAlike_iff]
        constructor
        · rintro h m hm -
          rw [← Option.some_inj.1 hm]
          exact h
        · exact fun h => h l rfl hne
  refine ⟨hmain, fun l hl hne hplain => ?_⟩
  rw [hmain, ← hplain.suffixes_iff]
  constructor
  · exact fun h => h l hl hne
  · intro h m hm _
    rw [hl] at hm
    rw [← Option.some_inj.1 hm]
    exact h

/-! ### Pre-releases of one version -/

/-- A collation of letters: by the letters first, and then the small ones before the capitals. -/
def letters : Collation where
  compare s t := (cmp (s.map Char.toLower) (t.map Char.toLower)).then (cmp t s)
  compare_self s := by simp [cmp, cmpUsing]

/-- An older version is behind, for both. -/
theorem badge_iff_older : Agrees letters Digits.ascii (some "1.0.0") ["0.9.0"] "0.9.0" := by
  have h := (badge_iff letters Digits.ascii (some "1.0.0") ["0.9.0"] (some "0.9.0") "0.9.0"
    (boundText_of_length (by decide)) List.mem_cons_self).1
  refine h.2 fun l hl _ => ?_
  obtain rfl : "1.0.0" = l := by simpa [reference] using hl
  have hserver : serverNumbers Digits.ascii "0.9.0" ≠ serverNumbers Digits.ascii "1.0.0" := by decide +kernel
  have hconsole : (versionKey "0.9.0").numbers ≠ (versionKey "1.0.0").numbers := by decide +kernel
  exact ⟨fun _ _ => by decide +kernel, fun heq => absurd heq hserver, fun _ heq => absurd heq hconsole,
    fun heq => absurd heq hserver⟩

/-- The versions of a parc with two builds of one version. -/
def parc : List String := ["1.0.0-dev.a", "1.0.0-dev.B"]

/-- The filter finds the poste with the capital, whose badge says that it is up to date. -/
theorem capital_parts : boundText (some "1.0.0-dev.B") textMax = some "1.0.0-dev.B" ∧ "1.0.0-dev.B" ∈ parc ∧
    reference Digits.ascii none parc = some "1.0.0-dev.a" ∧ ¬ Agrees letters Digits.ascii none parc "1.0.0-dev.B" := by
  refine ⟨boundText_of_length (by decide), by decide, by decide +kernel, ?_⟩
  unfold Agrees
  decide +kernel

end Tiai.VersionBadge
