import Mathlib.Data.List.Perm.Basic
import Mathlib.Data.Set.Insert
import Mathlib.Tactic.Tauto
import Tiai.Lib.AccessList

/-!
# The agent's two sensitive locations

`internal/acl`: the registry key and the data directory are restricted to SYSTEM and Administrators, unless the access
list that is read back already is such a list.

* `Policy.restricted`, `summarize`, `Policy.harden` — the judgement, what it is about, and what follows from it;
* `Entry.meaning` — what Windows makes of an entry;
* `Closed` — nobody but the two has any access, and they have full control, of the location and of all that is created
  below it;
* `restricted_iff` — what the judgement looks at;
* `judged_iff` — when it is right.
-/

namespace Tiai.Acl

open Lib AccessList

/-! ### The judgement -/

def registryKeySddl : String := "D:P(A;CI;KA;;;SY)(A;CI;KA;;;BA)"
def dataDirSddl : String := "D:P(A;OICI;FA;;;SY)(A;OICI;FA;;;BA)"

def sidLocalSystem : String := "S-1-5-18"
def sidAdministrators : String := "S-1-5-32-544"

def keyAllAccess : BitVec 32 := 0x000F003F
def fileAllAccess : BitVec 32 := 0x001F01FF

def aceTypeAccessAllowed : BitVec 8 := 0x0
def aceObjectInherit : BitVec 8 := 0x1
def aceContainerInherit : BitVec 8 := 0x2

structure Policy where
  sddl : String
  mask : BitVec 32
  inherit : BitVec 8

def registryPolicy : Policy := ⟨registryKeySddl, keyAllAccess, aceContainerInherit⟩
def dataDirPolicy : Policy := ⟨dataDirSddl, fileAllAccess, aceObjectInherit ||| aceContainerInherit⟩

structure Ace where
  typ : BitVec 8
  flags : BitVec 8
  mask : BitVec 32
  sid : String

namespace Policy

variable (p : Policy)

/-- `full`. -/
def full (a : Ace) : Bool := a.mask &&& p.mask = p.mask && a.flags &&& p.inherit = p.inherit

/-- The loop of `restricted`. -/
def scan (system admins : Bool) : List Ace → Bool
  | [] => system && admins
  | a :: aces =>
    if a.typ ≠ aceTypeAccessAllowed then false
    else if a.sid ≠ sidLocalSystem ∧ a.sid ≠ sidAdministrators then false
    else if !p.full a then scan system admins aces
    else if a.sid = sidLocalSystem then scan true admins aces
    else scan system true aces

def restricted (isProtected : Bool) (aces : List Ace) : Bool :=
  if !isProtected then false else p.scan false false aces

end Policy

/-! ### What is judged -/

/-- An entry of an access list as Windows has it. -/
structure Entry where
  typ : BitVec 8
  flags : BitVec 8
  mask : BitVec 32
  trustee : String

/-- What is read of it: the SID only where it follows the mask. -/
def Entry.ace (e : Entry) : Ace :=
  ⟨e.typ, e.flags, e.mask, if e.typ = aceTypeAccessAllowed then e.trustee else ""⟩

/-- A security descriptor; a NULL list is none. -/
structure Descriptor where
  isProtected : Bool
  dacl : Option (List Entry)

def summarize (sd : Option Descriptor) : Option (Bool × List Ace) := do
  let sd ← sd
  let dacl ← sd.dacl
  some (sd.isProtected, dacl.map Entry.ace)

namespace Policy

variable (p : Policy)

/-- `matches`. -/
def matchesDescriptor (sd : Option Descriptor) : Bool := (summarize sd).any fun s => p.restricted s.1 s.2

/-- `dacl`: the entries that the SDDL writes. -/
def dacl : List Entry :=
  [⟨aceTypeAccessAllowed, p.inherit, p.mask, sidLocalSystem⟩,
    ⟨aceTypeAccessAllowed, p.inherit, p.mask, sidAdministrators⟩]

/-- `hardenKey`, `HardenDataDir`, when nothing fails: whether the list is written, and what it is then. -/
def harden (sd : Option Descriptor) : Bool × Option Descriptor :=
  if p.matchesDescriptor sd then (false, sd) else (true, some ⟨true, some p.dacl⟩)

end Policy

/-! ### What Windows makes of a list -/

/-- Whether an entry allows, denies or does neither: of an entry that is no plain allow or deny nothing is assumed. -/
structure Windows where
  verdict : Entry → Option Bool
  verdict_allowed : ∀ e, e.typ = aceTypeAccessAllowed → verdict e = some true
  verdict_denied : ∀ e, e.typ = 0x1 → verdict e = some false

/-- The two kinds of locations. -/
inductive Location | registryKey | dataDir

namespace Location

def policy : Location → Policy
  | registryKey => registryPolicy
  | dataDir => dataDirPolicy

/-- What can be created in it: containers, and in a directory files. -/
def kinds : Location → List Bool
  | registryKey => [false]
  | dataDir => [false, true]

/-- What the generic rights stand for: read, write, execute, all. -/
def generic : Location → List (ℕ × BitVec 32)
  | registryKey => [(31, 0x20019), (30, 0x20006), (29, 0x20019), (28, keyAllAccess)]
  | dataDir => [(31, 0x120089), (30, 0x120116), (29, 0x1200A0), (28, fileAllAccess)]

/-- Whether a mask has the right of a bit. -/
def right (loc : Location) (mask : BitVec 32) (i : ℕ) : Bool :=
  mask.getLsbD i || loc.generic.any fun g => mask.getLsbD g.1 && g.2.getLsbD i

/-- The rights of full control. -/
def fullControl (loc : Location) : Set ℕ := {i | loc.policy.mask.getLsbD i = true}

end Location

namespace Entry

variable (e : Entry)

def objectInherit : Bool := e.flags.getLsbD 0
def containerInherit : Bool := e.flags.getLsbD 1
def noPropagate : Bool := e.flags.getLsbD 2
def inheritOnly : Bool := e.flags.getLsbD 3

def meaning (w : Windows) (loc : Location) : Option (AccessList.Entry String ℕ) :=
  (w.verdict e).map fun allow =>
    ⟨e.trustee, allow, loc.right e.mask, e.objectInherit, e.containerInherit, e.noPropagate, e.inheritOnly⟩

end Entry

def meant (w : Windows) (loc : Location) (es : List Entry) : List (AccessList.Entry String ℕ) :=
  es.filterMap fun e => e.meaning w loc

def principals : Set String := {sidLocalSystem, sidAdministrators}

/-- Nobody but the two has any access, and each of them has full control. -/
structure Closed (w : Windows) (loc : Location) (es : List Entry) : Prop where
  own : ∀ who ∈ principals, Holds (meant w loc es) who loc.fullControl
  below : ∀ who ∈ principals, ∀ leaf ∈ loc.kinds, ∀ n, Holds (created (meant w loc es) n leaf) who loc.fullControl
  shut : Shut (meant w loc es) principals
  shutBelow : ∀ leaf ∈ loc.kinds, ∀ n, Shut (created (meant w loc es) n leaf) principals

/-- The policy's own entries and others for the same two, in any order. -/
def Obtained (loc : Location) (es : List Entry) : Prop :=
  ∃ extra, es.Perm (loc.policy.dacl ++ extra) ∧ ∀ e ∈ extra, e.ace.sid ∈ principals

/-- What is asked of the judgement of a list. -/
structure Judged (w : Windows) (loc : Location) (isProtected : Bool) (es : List Entry) : Prop where
  sound : loc.policy.restricted isProtected (es.map Entry.ace) = true → Closed w loc es
  complete : isProtected = true → Obtained loc es → loc.policy.restricted isProtected (es.map Entry.ace) = true

/-! ### What the judgement looks at -/

variable {w : Windows} {loc : Location} {p : Policy} {isProtected system admins : Bool} {aces : List Ace}
  {es : List Entry} {e : Entry} {who : String}

/-- An entry for the one whose mask is full and whose flags are the policy's. -/
def FullFor (p : Policy) (who : String) (es : List Entry) : Prop :=
  ∃ e ∈ es, e.trustee = who ∧ e.mask &&& p.mask = p.mask ∧ e.flags &&& p.inherit = p.inherit

/-- The list names the two and allows alone, and has such an entry for each. -/
structure Passes (p : Policy) (isProtected : Bool) (es : List Entry) : Prop where
  isProtected : isProtected = true
  allowed : ∀ e ∈ es, e.typ = aceTypeAccessAllowed ∧ e.trustee ∈ principals
  full : ∀ who ∈ principals, FullFor p who es

lemma full_iff {a : Ace} : p.full a = true ↔ a.mask &&& p.mask = p.mask ∧ a.flags &&& p.inherit = p.inherit := by
  rw [Policy.full, Bool.and_eq_true, decide_eq_true_eq, decide_eq_true_eq]

lemma scan_iff : p.scan system admins (es.map Entry.ace) = true ↔
    (∀ e ∈ es, e.typ = aceTypeAccessAllowed ∧ e.trustee ∈ principals) ∧
      (system = true ∨ FullFor p sidLocalSystem es) ∧ (admins = true ∨ FullFor p sidAdministrators es) := by
  induction es generalizing system admins with
  | nil => simp [Policy.scan, FullFor]
  | cons e es ih =>
    have hcons : ∀ who, FullFor p who (e :: es) ↔ (e.trustee = who ∧ p.full e.ace = true) ∨ FullFor p who es := by
      intro who
      rw [full_iff, FullFor, List.exists_mem_cons_iff]
      rfl
    rw [List.map_cons, Policy.scan, List.forall_mem_cons, hcons, hcons]
    have hnames : sidAdministrators ≠ sidLocalSystem := by decide
    by_cases htype : e.typ = aceTypeAccessAllowed
    · have hsid : e.ace.sid = e.trustee := if_pos htype
      have htyp : e.ace.typ = aceTypeAccessAllowed := htype
      rw [if_neg (not_not.2 htyp), hsid]
      by_cases hsystem : e.trustee = sidLocalSystem
      · by_cases hfull : p.full e.ace = true <;>
          simp [hsystem, hfull, ih, htype, principals, hnames.symm]
      · by_cases hadmins : e.trustee = sidAdministrators
        · by_cases hfull : p.full e.ace = true <;>
            simp [hadmins, hfull, ih, htype, principals, hnames]
        · simp [hsystem, hadmins, principals]
    · have htyp : e.ace.typ ≠ aceTypeAccessAllowed := htype
      rw [if_pos htyp]
      simp [htype]

theorem restricted_iff : p.restricted isProtected (es.map Entry.ace) = true ↔ Passes p isProtected es := by
  cases isProtected with
  | false => exact iff_of_false (by simp [Policy.restricted]) fun h => by cases h.isProtected
  | true =>
    have hscan : p.restricted true (es.map Entry.ace) = p.scan false false (es.map Entry.ace) := rfl
    rw [hscan, scan_iff]
    constructor
    · rintro ⟨hallowed, hsystem, hadmins⟩
      refine ⟨rfl, hallowed, ?_⟩
      rintro who (rfl | rfl)
      · exact hsystem.resolve_left (by simp)
      · exact hadmins.resolve_left (by simp)
    · exact fun h => ⟨h.allowed, .inr (h.full _ (.inl rfl)), .inr (h.full _ (.inr rfl))⟩

theorem restricted_of_obtained (h : Obtained loc es) : loc.policy.restricted true (es.map Entry.ace) = true := by
  obtain ⟨extra, hperm, hextra⟩ := h
  have hown : ∀ e ∈ loc.policy.dacl, e.typ = aceTypeAccessAllowed ∧ e.trustee ∈ principals := by
    intro e he
    rcases List.mem_pair.1 he with rfl | rfl
    · exact ⟨rfl, .inl rfl⟩
    · exact ⟨rfl, .inr rfl⟩
  refine restricted_iff.2 ⟨rfl, fun e he => ?_, ?_⟩
  · rcases List.mem_append.1 (hperm.mem_iff.1 he) with he | he
    · exact hown e he
    · -- The SID of an entry is read when it is an allow, and is then its trustee.
      have hsid := hextra e he
      unfold Entry.ace at hsid
      dsimp only at hsid
      split at hsid
      · rename_i htype
        exact ⟨htype, hsid⟩
      · rcases hsid with hsid | hsid
        · exact absurd hsid (by decide)
        · exact absurd hsid (by decide)
  · have hentry : ∀ who : String, (⟨aceTypeAccessAllowed, loc.policy.inherit, loc.policy.mask, who⟩ : Entry) ∈
        loc.policy.dacl → FullFor loc.policy who es := fun who hwho =>
      ⟨_, hperm.mem_iff.2 (List.mem_append_left _ hwho), rfl, BitVec.and_self, BitVec.and_self⟩
    rintro who (rfl | rfl)
    · exact hentry _ List.mem_cons_self
    · exact hentry _ (List.mem_cons_of_mem _ List.mem_cons_self)

/-- What is restricted is left alone the next time. -/
theorem harden_again (loc : Location) (sd : Option Descriptor) :
    loc.policy.harden (loc.policy.harden sd).2 = (false, (loc.policy.harden sd).2) := by
  have hmatch : loc.policy.matchesDescriptor (loc.policy.harden sd).2 = true := by
    unfold Policy.harden
    split
    · assumption
    · have hown : Obtained loc loc.policy.dacl := ⟨[], by rw [List.append_nil], by simp⟩
      simpa [Policy.matchesDescriptor, summarize] using restricted_of_obtained hown
  conv_lhs => rw [Policy.harden, if_pos hmatch]

/-! ### When it is right -/

/-- The entries for the one make up full control of the location, and those that are passed on without end make it up
of everything below. -/
structure MakesUp (loc : Location) (es : List Entry) (who : String) : Prop where
  own : ∀ i ∈ loc.fullControl, ∃ e ∈ es, e.trustee = who ∧ e.inheritOnly = false ∧ loc.right e.mask i = true
  below : ∀ leaf ∈ loc.kinds, ∀ i ∈ loc.fullControl, ∃ e ∈ es, e.trustee = who ∧
    (if leaf then e.objectInherit else e.containerInherit) = true ∧ e.noPropagate = false ∧ loc.right e.mask i = true

/-- A list that allows alone is a list of grants, one for each entry. -/
lemma exists_meant_iff (h : ∀ e ∈ es, e.typ = aceTypeAccessAllowed) {P : AccessList.Entry String ℕ → Prop} :
    (∃ m ∈ meant w loc es, P m) ↔ ∃ e ∈ es, P ⟨e.trustee, true, loc.right e.mask, e.objectInherit,
      e.containerInherit, e.noPropagate, e.inheritOnly⟩ := by
  have hmeaning : ∀ e ∈ es, e.meaning w loc = some ⟨e.trustee, true, loc.right e.mask, e.objectInherit,
      e.containerInherit, e.noPropagate, e.inheritOnly⟩ := by
    intro e he
    rw [Entry.meaning, w.verdict_allowed e (h e he)]
    rfl
  constructor
  · rintro ⟨m, hm, hP⟩
    obtain ⟨e, he, heq⟩ := List.mem_filterMap.1 hm
    obtain rfl := Option.some.inj ((hmeaning e he).symm.trans heq)
    exact ⟨e, he, hP⟩
  · rintro ⟨e, he, hP⟩
    exact ⟨_, List.mem_filterMap.2 ⟨e, he, hmeaning e he⟩, hP⟩

lemma grants_meant (h : ∀ e ∈ es, e.typ = aceTypeAccessAllowed) : Grants (meant w loc es) := by
  intro m hm
  by_contra hdeny
  obtain ⟨e, -, hallow⟩ := (exists_meant_iff h (P := fun m => ¬ m.allow = true)).1 ⟨m, hm, hdeny⟩
  exact hallow rfl

lemma trustee_meant (h : ∀ e ∈ es, e.trustee ∈ principals) : ∀ m ∈ meant w loc es, m.trustee ∈ principals := by
  intro m hm
  obtain ⟨e, he, heq⟩ := List.mem_filterMap.1 hm
  obtain ⟨allow, -, rfl⟩ := Option.map_eq_some_iff.1 heq
  exact h e he

theorem closed_iff (h : ∀ e ∈ es, e.typ = aceTypeAccessAllowed ∧ e.trustee ∈ principals) :
    Closed w loc es ↔ ∀ who ∈ principals, MakesUp loc es who := by
  have hallowed : ∀ e ∈ es, e.typ = aceTypeAccessAllowed := fun e he => (h e he).1
  have hgrants : Grants (meant w loc es) := grants_meant hallowed
  have htrustee : ∀ m ∈ meant w loc es, m.trustee ∈ principals := trustee_meant fun e he => (h e he).2
  have hown : ∀ who, Holds (meant w loc es) who loc.fullControl ↔ ∀ i ∈ loc.fullControl,
      ∃ e ∈ es, e.trustee = who ∧ e.inheritOnly = false ∧ loc.right e.mask i = true := by
    intro who
    rw [holds_iff hgrants]
    refine forall₂_congr fun i _ => (exists_meant_iff hallowed).trans ?_
    exact exists_congr fun e => and_congr_right fun _ => and_left_comm
  have hbelow : ∀ who leaf, (∀ n, Holds (created (meant w loc es) n leaf) who loc.fullControl) ↔
      ∀ i ∈ loc.fullControl, ∃ e ∈ es, e.trustee = who ∧
        (if leaf then e.objectInherit else e.containerInherit) = true ∧ e.noPropagate = false ∧
          loc.right e.mask i = true := by
    intro who leaf
    rw [holds_created_iff hgrants]
    refine forall₂_congr fun i _ => (exists_meant_iff hallowed).trans ?_
    refine exists_congr fun e => and_congr_right fun _ => ?_
    simp only [AccessList.Entry.Reaches, Nat.one_ne_zero, false_or]
    tauto
  constructor
  · intro hclosed who hwho
    exact ⟨(hown who).1 (hclosed.own who hwho), fun leaf hleaf => (hbelow who leaf).1 (hclosed.below who hwho leaf hleaf)⟩
  · intro hmakes
    exact
      { own := fun who hwho => (hown who).2 (hmakes who hwho).own
        below := fun who hwho leaf hleaf => (hbelow who leaf).2 ((hmakes who hwho).below leaf hleaf)
        shut := shut_of_forall htrustee
        shutBelow := fun leaf _ n =>
          shut_of_forall (forall_created (P := fun trustee _ _ => trustee ∈ principals) htrustee) }

/-- **When the judgement is right.**  A list that passes, because it allows the two alone and has for each an entry of
full mask that is inherited, closes the location exactly when the entries that apply to it, and those that are passed on
without end, make up full control for each.  Lists made of the policy's own pass. -/
theorem judged_iff (w : Windows) (loc : Location) (isProtected : Bool) (es : List Entry) :
    Judged w loc isProtected es ↔
      (Passes loc.policy isProtected es → ∀ who ∈ principals, MakesUp loc es who) := by
  constructor
  · intro h hpasses
    exact (closed_iff hpasses.allowed).1 (h.sound (restricted_iff.2 hpasses))
  · intro h
    refine ⟨fun hrestricted => ?_, ?_⟩
    · have hpasses := restricted_iff.1 hrestricted
      exact (closed_iff hpasses.allowed).2 (h hpasses)
    · rintro rfl hobtained
      exact restricted_of_obtained hobtained

/-- Windows, for which an entry of any other type says nothing. -/
def plain : Windows where
  verdict e := if e.typ = aceTypeAccessAllowed then some true else if e.typ = 0x1 then some false else none
  verdict_allowed _ h := if_pos h
  verdict_denied _ h := by rw [h]; rfl

/-- The service's entry is there for what is created below, and for nothing else. -/
def lockedOut : List Entry :=
  [⟨aceTypeAccessAllowed, 0xB, fileAllAccess, sidLocalSystem⟩,
    ⟨aceTypeAccessAllowed, 0x3, fileAllAccess, sidAdministrators⟩]

/-- It passes, and the service has no access to the directory. -/
theorem locked_out_passes : dataDirPolicy.restricted true (lockedOut.map Entry.ace) = true ∧
    allows (meant plain .dataDir lockedOut) (fun sid => sid = sidLocalSystem) 0 = false ∧
    ¬ Judged plain .dataDir true lockedOut := by
  have hpasses : dataDirPolicy.restricted true (lockedOut.map Entry.ace) = true := by decide
  have hrefused : allows (meant plain .dataDir lockedOut) (fun sid => sid = sidLocalSystem) 0 = false := by decide
  refine ⟨hpasses, hrefused, fun h => ?_⟩
  have hholds := (h.sound hpasses).own sidLocalSystem (.inl rfl) (fun sid => sid = sidLocalSystem) (by simp) 0 (by
    change fileAllAccess.getLsbD 0 = true
    decide)
  rw [hrefused] at hholds
  cases hholds

end Tiai.Acl
