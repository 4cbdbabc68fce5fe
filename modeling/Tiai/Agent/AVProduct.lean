import Tiai.Agent.Console
import Tiai.Agent.InventoryState
import Tiai.Lib.Election

/-!
# The antivirus the agent reports

`collector/avproduct.go`: one of the products that are registered is reported, whatever order they are enumerated in.

* `decodeProductState`, `isDefenderProduct` — what is read of a product;
* `betterAVProduct`, `electAVProduct`, `buildAVProductState` — which one is reported, and what of it;
* `betterAVProduct_iff` — the comparison is the strict order of a key;
* `verdict_perm_iff` — the order changes nothing exactly when the leading products agree on their signatures.
-/

namespace Tiai.Collector

open Lib Utf8 Console

/-! ### The functions -/

structure RawAVProduct where
  name : Bytes
  state : UInt32
  instanceGuid : Bytes
  productExe : Bytes
deriving DecidableEq

structure AVProductState where
  name : Bytes := []
  enabled : Option Bool := none
  signaturesUpToDate : Option Bool := none
  isDefender : Bool := false
deriving DecidableEq

/-- `avStateRTPShift`. -/
def avStateRTPShift : UInt32 := 8

/-- `avStateByteMask`. -/
def avStateByteMask : UInt32 := 0xff

def decodeProductState (state : UInt32) : Option Bool × Option Bool :=
  let rtp := (state >>> avStateRTPShift) &&& avStateByteMask
  let signatures := state &&& avStateByteMask
  (if rtp = 0x10 ∨ rtp = 0x11 then some true else if rtp = 0x00 ∨ rtp = 0x01 then some false else none,
    if signatures = 0x00 then some true else if signatures = 0x10 then some false else none)

/-- `unicode.ToLower`, as far as a text in ASCII can tell: two letters outside of it have their lower case in it. -/
def lowerRune (c : Char) : Char :=
  if c = '\u0130' then 'i' else if c = '\u212A' then 'k' else c.toLower

/-- `strings.ToLower`. -/
def toLower (s : Bytes) : List Char := (text s).map lowerRune

/-- `strings.EqualFold` to a text in ASCII without `k` and `s`, the letters that other letters fold to. -/
def equalFold (s : Bytes) (t : List Char) : Bool := (text s).map Char.toLower = t.map Char.toLower

/-- `defenderInstanceGUID`. -/
def defenderInstanceGUID : String := "\x7bd68ddc3a-831f-4fae-9e44-da132c1acf46\x7d"

def isDefenderProduct (p : RawAVProduct) : Bool :=
  if equalFold (trimSpace p.instanceGuid) defenderInstanceGUID.toList then true
  else if "windowsdefender:".toList.isPrefixOf (toLower (trimSpace p.productExe)) then true
  else
    -- never a bare "defender", which other vendors have in their names
    let name := toLower p.name
    decide ("windows defender".toList <:+: name) || decide ("microsoft defender".toList <:+: name)

/-- Running, unknown, stopped. -/
def enabledRank : Option Bool → ℕ
  | none => 1
  | some true => 2
  | some false => 0

def betterAVProduct (a b : RawAVProduct) : Bool :=
  let ra := enabledRank (decodeProductState a.state).1
  let rb := enabledRank (decodeProductState b.state).1
  if ra ≠ rb then ra > rb
  else if isDefenderProduct a ≠ isDefenderProduct b then !isDefenderProduct a
  else a.name < b.name

/-- There is nothing to show of a product without a name. -/
def named (p : RawAVProduct) : Bool := trimSpace p.name ≠ []

def electAVProduct (products : List RawAVProduct) : Option RawAVProduct :=
  electBy betterAVProduct (products.filter named)

/-- What is reported of a product. -/
def RawAVProduct.report (p : RawAVProduct) : AVProductState where
  name := trimSpace p.name
  enabled := (decodeProductState p.state).1
  signaturesUpToDate := (decodeProductState p.state).2
  isDefender := isDefenderProduct p

def buildAVProductState (products : List RawAVProduct) : AVProductState :=
  match electAVProduct products with
  | none => {}
  | some elected => elected.report

/-! ### The comparison is a strict order -/

/-- The criteria, most significant first, each lower when it is better. -/
def avProductKey (p : RawAVProduct) : ℕᵒᵈ ×ₗ Bool ×ₗ Bytes :=
  toLex (OrderDual.toDual (enabledRank (decodeProductState p.state).1), toLex (isDefenderProduct p, p.name))

theorem betterAVProduct_iff (a b : RawAVProduct) :
    betterAVProduct a b = true ↔ avProductKey a < avProductKey b := by
  unfold betterAVProduct avProductKey
  simp only [Prod.Lex.toLex_lt_toLex, OrderDual.toDual_lt_toDual, OrderDual.toDual_inj]
  by_cases hrank : enabledRank (decodeProductState a.state).1 = enabledRank (decodeProductState b.state).1
  · by_cases hdefender : isDefenderProduct a = isDefenderProduct b
    · simp [hrank, hdefender]
    · cases ha : isDefenderProduct a <;> cases hb : isDefenderProduct b <;> simp_all
  · simp [hrank]

/-! ### The order of the enumeration -/

variable {products : List RawAVProduct} {a b : RawAVProduct}

lemma enabledRank_injective : Function.Injective enabledRank := by
  intro x y h
  rcases x with _ | _ | _ <;> rcases y with _ | _ | _ <;> first | rfl | cases h

/-- A product with a name that no other product with a name outranks. -/
def LeadingProduct (products : List RawAVProduct) (p : RawAVProduct) : Prop :=
  Leading betterAVProduct (products.filter named) p

/-- Products that lead together differ, in what is reported, in their signatures only. -/
lemma report_eq_iff (ha : LeadingProduct products a) (hb : LeadingProduct products b) :
    a.report = b.report ↔ (decodeProductState a.state).2 = (decodeProductState b.state).2 := by
  constructor
  · exact congrArg AVProductState.signaturesUpToDate
  · intro hsignatures
    have hkeys : avProductKey a = avProductKey b := ha.key_eq betterAVProduct_iff hb
    have hkey := Prod.mk.inj (toLex_inj.1 hkeys)
    have henabled := enabledRank_injective (OrderDual.toDual_inj.1 hkey.1)
    have hrest := Prod.mk.inj (toLex_inj.1 hkey.2)
    unfold RawAVProduct.report
    rw [henabled, hsignatures, hrest.1, hrest.2]

/-- The empty block is of no product that is elected. -/
lemma buildAVProductState_eq_iff (l l' : List RawAVProduct) :
    buildAVProductState l' = buildAVProductState l ↔
      (electAVProduct l').map RawAVProduct.report = (electAVProduct l).map RawAVProduct.report := by
  have hreport : ∀ {l p}, electAVProduct l = some p → p.report ≠ {} := by
    intro l p helected hempty
    have hnamed := List.of_mem_filter (electBy_leading betterAVProduct_iff helected).1
    have hname : trimSpace p.name = [] := congrArg AVProductState.name hempty
    rw [named, hname] at hnamed
    cases hnamed
  unfold buildAVProductState
  cases helected' : electAVProduct l' with
  | none =>
    cases helected : electAVProduct l with
    | none => exact iff_of_true rfl rfl
    | some p => exact iff_of_false (fun h => hreport helected h.symm) (fun h => by cases h)
  | some p' =>
    cases helected : electAVProduct l with
    | none => exact iff_of_false (hreport helected') (fun h => by cases h)
    | some p => exact Option.some_inj.symm

/-- **Which of equals is enumerated first shows in the signatures, and nowhere else.**  Every order of the products
gives the same verdict exactly when the products that no other outranks say the same of their signatures. -/
theorem verdict_perm_iff (products : List RawAVProduct) :
    (∀ products', products'.Perm products → buildAVProductState products' = buildAVProductState products) ↔
      ∀ a b, LeadingProduct products a → LeadingProduct products b →
        (decodeProductState a.state).2 = (decodeProductState b.state).2 := by
  have hreport : (∀ a b, LeadingProduct products a → LeadingProduct products b →
      (decodeProductState a.state).2 = (decodeProductState b.state).2) ↔
      ∀ a b, LeadingProduct products a → LeadingProduct products b → a.report = b.report :=
    forall₄_congr fun a b ha hb => (report_eq_iff ha hb).symm
  rw [hreport]
  simp only [buildAVProductState_eq_iff]
  exact electBy_map_perm_iff RawAVProduct.report named betterAVProduct_iff

/-- A product that was updated in place: it is registered twice under its name, once with stale signatures. -/
def registeredTwice : List RawAVProduct :=
  [⟨utf8 "ESET", 0x041000, [], utf8 "ecmd.exe"⟩, ⟨utf8 "ESET", 0x041010, [], utf8 "ecmd.exe"⟩]

/-- The verdict follows the order. -/
theorem verdict_flaps : registeredTwice.reverse.Perm registeredTwice ∧
    buildAVProductState registeredTwice = ⟨utf8 "ESET", some true, some true, false⟩ ∧
    buildAVProductState registeredTwice.reverse = ⟨utf8 "ESET", some true, some false, false⟩ :=
  ⟨List.reverse_perm _, by decide +kernel, by decide +kernel⟩

end Tiai.Collector
