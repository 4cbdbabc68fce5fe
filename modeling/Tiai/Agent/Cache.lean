import Mathlib.Order.Basic
import Tiai.Lib.Runs

/-!
# The agent's caches

`internal/agent/cache.go`, and the two goroutines around it: the collections of `wu.go` and
`inventory.go` store readings, the heartbeat of `agent.go` picks up what is pending, and marks it as
sent once the server has answered.  Every point where one can overtake the other is a step of its own.

* `nothing_lost` — in every state the two reach: what is stored while a heartbeat is on its way is not
  marked as sent by it, and while nothing is pending the server holds the last collection's hash.

The generations are natural numbers: no agent stores `2 ^ 64` readings.
-/

namespace Tiai.Cache

open Lib

/-! ### The cache -/

/-- `stateCache`. -/
structure StateCache (α : Type*) where
  state : Option α
  gen : ℕ
  sentGen : ℕ
  deriving DecidableEq, Repr

section StateCache

variable {α : Type*}

def StateCache.zero : StateCache α := ⟨none, 0, 0⟩

/-- `store`. -/
def StateCache.store (c : StateCache α) (state : Option α) : StateCache α :=
  match state with
  | none => c
  | some x => { c with state := some x, gen := c.gen + 1 }

/-- `pending`: what to attach, and the generation to acknowledge. -/
def StateCache.pending (c : StateCache α) : Option (α × ℕ) :=
  match c.state with
  | none => none
  | some x => if c.gen = c.sentGen then none else some (x, c.gen)

/-- `markSent`. -/
def StateCache.markSent (c : StateCache α) (gen : ℕ) : StateCache α :=
  if gen > c.sentGen then { c with sentGen := gen } else c

/-- What a heartbeat does of what it carried, once the server has answered. -/
def StateCache.acknowledge (c : StateCache α) (carried : Option (α × ℕ)) : StateCache α :=
  match carried with
  | none => c
  | some (_, gen) => c.markSent gen

variable (c : StateCache α)

@[simp] lemma store_sentGen (x : Option α) : (c.store x).sentGen = c.sentGen := by cases x <;> rfl

lemma store_gen (x : Option α) : c.gen ≤ (c.store x).gen := by
  cases x with
  | none => exact Nat.le_refl _
  | some x => exact Nat.le_succ _

@[simp] lemma markSent_gen (g : ℕ) : (c.markSent g).gen = c.gen := by
  unfold StateCache.markSent; split <;> rfl

@[simp] lemma markSent_state (g : ℕ) : (c.markSent g).state = c.state := by
  unfold StateCache.markSent; split <;> rfl

@[simp] lemma acknowledge_gen (carried : Option (α × ℕ)) : (c.acknowledge carried).gen = c.gen := by
  cases carried with
  | none => rfl
  | some p => exact markSent_gen c p.2

@[simp] lemma acknowledge_state (carried : Option (α × ℕ)) :
    (c.acknowledge carried).state = c.state := by
  cases carried with
  | none => rfl
  | some p => exact markSent_state c p.2

/-- What is marked as sent was so before, or is what was carried. -/
lemma acknowledge_sentGen (carried : Option (α × ℕ)) :
    (c.acknowledge carried).sentGen = c.sentGen ∨
      ∃ x g, carried = some (x, g) ∧ (c.acknowledge carried).sentGen = g := by
  cases carried with
  | none => exact Or.inl rfl
  | some p =>
    unfold StateCache.acknowledge StateCache.markSent
    dsimp only
    split
    · exact Or.inr ⟨p.1, p.2, rfl, rfl⟩
    · exact Or.inl rfl

lemma pending_some {x : α} {g : ℕ} (h : c.pending = some (x, g)) :
    c.state = some x ∧ g = c.gen ∧ c.gen ≠ c.sentGen := by
  unfold StateCache.pending at h
  cases hs : c.state with
  | none => rw [hs] at h; cases h
  | some y =>
    rw [hs] at h
    dsimp only at h
    split at h
    · cases h
    · rename_i hne
      obtain ⟨rfl, rfl⟩ : y = x ∧ c.gen = g := by simpa using h
      exact ⟨rfl, rfl, hne⟩

lemma pending_none {x : α} (hs : c.state = some x) (h : c.pending = none) : c.gen = c.sentGen := by
  unfold StateCache.pending at h
  rw [hs] at h
  dsimp only at h
  split at h
  · assumption
  · cases h

lemma pending_of_lt {x : α} (hs : c.state = some x) (h : c.sentGen < c.gen) :
    c.pending = some (x, c.gen) := by
  unfold StateCache.pending
  rw [hs]
  exact if_neg (by omega)

end StateCache

/-! ### The agent -/

/-- `models.InventoryState`: its hash, and the rest. -/
structure InventoryState (β : Type*) where
  hash : String
  content : β
  deriving DecidableEq, Repr

/-- What holds `inventoryOp`; `forced` is `runInventoryScan`. -/
inductive Collection (β : Type*)
  | idle
  | reading (forced : Bool)
  /-- `inventorySent` is written, the cache not yet. -/
  | storing (inv : InventoryState β)
  deriving DecidableEq, Repr

/-- `pollOnce`, with what it carries of either cache. -/
inductive Heartbeat (α β : Type*)
  | idle
  | picked (wu : Option (α × ℕ))
  | sent (wu : Option (α × ℕ)) (inv : Option (InventoryState β × ℕ))
  | accepted (wu : Option (α × ℕ)) (inv : Option (InventoryState β × ℕ))
  | wuMarked (inv : Option (InventoryState β × ℕ))
  deriving DecidableEq, Repr

structure Caches (α β : Type*) where
  wu : StateCache α
  inventory : StateCache (InventoryState β)
  inventorySent : String
  collection : Collection β
  heartbeat : Heartbeat α β
  /-- The inventory of the last heartbeat that carried one and was answered. -/
  acknowledged : Option (InventoryState β)
  /-- The inventory of the last collection that succeeded. -/
  collected : Option (InventoryState β)
  deriving DecidableEq, Repr

inductive Event (α β : Type*)
  /-- A Windows Update state is read and stored: `collectWU`, `runWUScan`, `runWUInstall`. -/
  | storeWu (state : Option α)
  /-- `inventoryOp` is taken, by `collectInventory` or `runInventoryScan`. -/
  | lock (forced : Bool)
  /-- `ReadInventory` returns; no reading is an error, or a host with none. -/
  | readInventory (inv : Option (InventoryState β))
  | storeInventory
  | pendingWu
  | pendingInventory
  /-- The heartbeat's call returns. -/
  | answer (ok : Bool)
  | markWu
  | markInventory
  deriving DecidableEq, Repr

section Agent

variable {α β : Type*}

/-- The middle of `collectInventory` and of `runInventoryScan`. -/
def Caches.readInventory (s : Caches α β) (inv : Option (InventoryState β)) : Caches α β :=
  match s.collection, inv with
  | .reading _, none => { s with collection := .idle }
  | .reading forced, some inv =>
    if forced = false ∧ inv.hash ≠ "" ∧ inv.hash = s.inventorySent then
      { s with collection := .idle, collected := some inv }
    else { s with inventorySent := inv.hash, collection := .storing inv }
  | _, _ => s

def Caches.storeInventory (s : Caches α β) : Caches α β :=
  match s.collection with
  | .storing inv =>
    { s with
      inventory := s.inventory.store (some inv)
      collection := .idle
      collected := some inv }
  | _ => s

/-- The server has answered; or the call has failed, and everything is left alone. -/
def Caches.answer (s : Caches α β) (ok : Bool) : Caches α β :=
  match s.heartbeat with
  | .sent wu inv =>
    if ok then
      { s with
        heartbeat := .accepted wu inv
        acknowledged := match inv with
          | none => s.acknowledged
          | some (inv, _) => some inv }
    else { s with heartbeat := .idle }
  | _ => s

def step (s : Caches α β) : Event α β → Caches α β
  | .storeWu state => { s with wu := s.wu.store state }
  | .lock forced =>
    match s.collection with
    | .idle => { s with collection := .reading forced }
    | _ => s
  | .readInventory inv => s.readInventory inv
  | .storeInventory => s.storeInventory
  | .pendingWu =>
    match s.heartbeat with
    | .idle => { s with heartbeat := .picked s.wu.pending }
    | _ => s
  | .pendingInventory =>
    match s.heartbeat with
    | .picked wu => { s with heartbeat := .sent wu s.inventory.pending }
    | _ => s
  | .answer ok => s.answer ok
  | .markWu =>
    match s.heartbeat with
    | .accepted wu inv => { s with wu := s.wu.acknowledge wu, heartbeat := .wuMarked inv }
    | _ => s
  | .markInventory =>
    match s.heartbeat with
    | .wuMarked inv => { s with inventory := s.inventory.acknowledge inv, heartbeat := .idle }
    | _ => s

/-- A process that has just started; an earlier one may have reported an inventory. -/
def Caches.started (acknowledged : Option (InventoryState β)) : Caches α β :=
  ⟨.zero, .zero, "", .idle, .idle, acknowledged, none⟩

/-! ### What is asked of it -/

/-- A step other than the end of the heartbeat on its way. -/
def Underway (last e : Event α β) : Prop := e ≠ last ∧ e ≠ .answer false

/-- Nothing is lost from here on: a reading stored between a heartbeat's `pending` and its `markSent`
has a generation that heartbeat does not mark, and the newest reading is pending after it; and while no
inventory is pending, the one the server has acknowledged has the hash of the last one collected. -/
structure Lossless (s : Caches α β) : Prop where
  wu : s.heartbeat = .idle → ∀ fs x gs, (∀ e ∈ fs ++ gs, Underway .markWu e) →
    let stored := step (run step (step s .pendingWu) fs) (.storeWu (some x))
    let marked := step (run step stored gs) .markWu
    marked.wu.sentGen < stored.wu.gen ∧
      ∃ y, marked.wu.state = some y ∧ marked.wu.pending = some (y, marked.wu.gen)
  inventory : ∀ wu, s.heartbeat = .picked wu → ∀ fs inv gs,
    (∀ e ∈ fs ++ gs, Underway .markInventory e) →
    (run step (step s .pendingInventory) fs).collection = .storing inv →
    let stored := step (run step (step s .pendingInventory) fs) .storeInventory
    let marked := step (run step stored gs) .markInventory
    marked.inventory.sentGen < stored.inventory.gen ∧
      ∃ y, marked.inventory.state = some y ∧
        marked.inventory.pending = some (y, marked.inventory.gen)
  settled : s.inventory.pending = none → ∀ inv, s.collected = some inv →
    ∃ sent, s.acknowledged = some sent ∧ sent.hash = inv.hash

/-! ### A heartbeat on its way -/

/-- What a heartbeat carries of the Windows Update cache, until it is marked. -/
def Heartbeat.wu : Heartbeat α β → Option (Option (α × ℕ))
  | .picked wu | .sent wu _ | .accepted wu _ => some wu
  | .idle | .wuMarked _ => none

/-- What it carries of the inventory's. -/
def Heartbeat.inventory : Heartbeat α β → Option (Option (InventoryState β × ℕ))
  | .sent _ inv | .accepted _ inv | .wuMarked inv => some inv
  | .idle | .picked _ => none

/-- What a cache goes through while no mark of its own comes. -/
structure Onward {γ : Type*} (c c' : StateCache γ) : Prop where
  sentGen : c'.sentGen = c.sentGen
  gen : c.gen ≤ c'.gen
  state : c.state.isSome → c'.state.isSome

lemma Onward.refl {γ : Type*} (c : StateCache γ) : Onward c c := ⟨rfl, Nat.le_refl _, id⟩

lemma Onward.trans {γ : Type*} {c d e : StateCache γ} (h : Onward c d) (h' : Onward d e) :
    Onward c e :=
  ⟨h'.sentGen.trans h.sentGen, Nat.le_trans h.gen h'.gen, h'.state ∘ h.state⟩

lemma onward_store {γ : Type*} (c : StateCache γ) (x : Option γ) : Onward c (c.store x) := by
  refine ⟨store_sentGen c x, store_gen c x, fun hs => ?_⟩
  cases x with
  | none => exact hs
  | some x => rfl

/-- **The race.**  A heartbeat marks what it carried, at most the generation it was picked at: what has
been stored since stays pending. -/
lemma Onward.stored {γ : Type*} {c d e : StateCache γ} {x : γ} {carried : Option (γ × ℕ)}
    (hc : c.sentGen ≤ c.gen) (hcarried : ∀ y g, carried = some (y, g) → g ≤ c.gen)
    (hd : Onward c d) (he : Onward (d.store (some x)) e) :
    (e.acknowledge carried).sentGen < (d.store (some x)).gen ∧
      ∃ y, (e.acknowledge carried).state = some y ∧
        (e.acknowledge carried).pending = some (y, (e.acknowledge carried).gen) := by
  have hgen : (d.store (some x)).gen = d.gen + 1 := rfl
  have hold : e.sentGen ≤ c.gen := by
    rw [he.sentGen, store_sentGen, hd.sentGen]
    exact hc
  have hlt : (e.acknowledge carried).sentGen < (d.store (some x)).gen := by
    have := hd.gen
    rcases acknowledge_sentGen e carried with h | ⟨y, g, hcar, h⟩
    · omega
    · have := hcarried y g hcar
      omega
  refine ⟨hlt, ?_⟩
  obtain ⟨y, hy⟩ := Option.isSome_iff_exists.mp (he.state rfl)
  have hstate : (e.acknowledge carried).state = some y := (acknowledge_state e carried).trans hy
  refine ⟨y, hstate, pending_of_lt _ hstate ?_⟩
  rw [acknowledge_gen]
  exact Nat.lt_of_lt_of_le hlt he.gen

lemma readInventory_inventory (s : Caches α β) (inv : Option (InventoryState β)) :
    (s.readInventory inv).inventory = s.inventory := by
  unfold Caches.readInventory
  split
  · rfl
  · split <;> rfl
  · rfl

lemma readInventory_wu (s : Caches α β) (inv : Option (InventoryState β)) :
    (s.readInventory inv).wu = s.wu ∧ (s.readInventory inv).heartbeat = s.heartbeat := by
  unfold Caches.readInventory
  split
  · exact ⟨rfl, rfl⟩
  · split <;> exact ⟨rfl, rfl⟩
  · exact ⟨rfl, rfl⟩

lemma storeInventory_wu (s : Caches α β) :
    s.storeInventory.wu = s.wu ∧ s.storeInventory.heartbeat = s.heartbeat := by
  unfold Caches.storeInventory
  split <;> exact ⟨rfl, rfl⟩

lemma storeInventory_onward (s : Caches α β) : Onward s.inventory s.storeInventory.inventory := by
  unfold Caches.storeInventory
  split
  · rename_i inv _
    exact onward_store s.inventory (some inv)
  · exact Onward.refl _

/-- Until it is marked, a heartbeat keeps what it carries of the Windows Update cache. -/
lemma step_underway_wu {s : Caches α β} {e : Event α β} {w : Option (α × ℕ)}
    (he : Underway .markWu e) (hw : s.heartbeat.wu = some w) :
    (step s e).heartbeat.wu = some w ∧ Onward s.wu (step s e).wu := by
  cases e with
  | storeWu x => exact ⟨hw, onward_store _ _⟩
  | lock forced =>
    unfold step
    dsimp only
    split <;> exact ⟨hw, Onward.refl _⟩
  | readInventory inv =>
    obtain ⟨hwu, hh⟩ := readInventory_wu s inv
    change (s.readInventory inv).heartbeat.wu = some w ∧ Onward s.wu (s.readInventory inv).wu
    rw [hwu, hh]
    exact ⟨hw, Onward.refl _⟩
  | storeInventory =>
    obtain ⟨hwu, hh⟩ := storeInventory_wu s
    change s.storeInventory.heartbeat.wu = some w ∧ Onward s.wu s.storeInventory.wu
    rw [hwu, hh]
    exact ⟨hw, Onward.refl _⟩
  | pendingWu =>
    unfold step
    dsimp only
    split
    · rename_i hh
      rw [hh] at hw
      cases hw
    · exact ⟨hw, Onward.refl _⟩
  | pendingInventory =>
    unfold step
    dsimp only
    split
    · rename_i hh
      rw [hh] at hw
      exact ⟨hw, Onward.refl _⟩
    · exact ⟨hw, Onward.refl _⟩
  | answer ok =>
    cases ok with
    | false => exact absurd rfl he.2
    | true =>
      unfold step Caches.answer
      dsimp only
      split
      · rename_i hh
        rw [hh] at hw
        exact ⟨hw, Onward.refl _⟩
      · exact ⟨hw, Onward.refl _⟩
  | markWu => exact absurd rfl he.1
  | markInventory =>
    unfold step
    dsimp only
    split
    · rename_i hh
      rw [hh] at hw
      cases hw
    · exact ⟨hw, Onward.refl _⟩

/-- Until it is marked, a heartbeat keeps what it carries of the inventory's cache. -/
lemma step_underway_inventory {s : Caches α β} {e : Event α β}
    {w : Option (InventoryState β × ℕ)} (he : Underway .markInventory e)
    (hw : s.heartbeat.inventory = some w) :
    (step s e).heartbeat.inventory = some w ∧ Onward s.inventory (step s e).inventory := by
  cases e with
  | storeWu x => exact ⟨hw, Onward.refl _⟩
  | lock forced =>
    unfold step
    dsimp only
    split <;> exact ⟨hw, Onward.refl _⟩
  | readInventory inv =>
    obtain ⟨-, hh⟩ := readInventory_wu s inv
    change (s.readInventory inv).heartbeat.inventory = some w ∧
      Onward s.inventory (s.readInventory inv).inventory
    rw [readInventory_inventory, hh]
    exact ⟨hw, Onward.refl _⟩
  | storeInventory =>
    obtain ⟨-, hh⟩ := storeInventory_wu s
    change s.storeInventory.heartbeat.inventory = some w ∧ _
    rw [hh]
    exact ⟨hw, storeInventory_onward s⟩
  | pendingWu =>
    unfold step
    dsimp only
    split
    · rename_i hh
      rw [hh] at hw
      cases hw
    · exact ⟨hw, Onward.refl _⟩
  | pendingInventory =>
    unfold step
    dsimp only
    split
    · rename_i hh
      rw [hh] at hw
      cases hw
    · exact ⟨hw, Onward.refl _⟩
  | answer ok =>
    cases ok with
    | false => exact absurd rfl he.2
    | true =>
      unfold step Caches.answer
      dsimp only
      split
      · rename_i hh
        rw [hh] at hw
        exact ⟨hw, Onward.refl _⟩
      · exact ⟨hw, Onward.refl _⟩
  | markWu =>
    unfold step
    dsimp only
    split
    · rename_i hh
      rw [hh] at hw
      exact ⟨hw, Onward.refl _⟩
    · exact ⟨hw, Onward.refl _⟩
  | markInventory => exact absurd rfl he.1

/-- What each step of a heartbeat on its way keeps, all of them do. -/
lemma run_underway {γ δ : Type*} {last : Event α β} {carried : Heartbeat α β → Option δ}
    {cache : Caches α β → StateCache γ}
    (hstep : ∀ {s e w}, Underway last e → carried s.heartbeat = some w →
      carried (step s e).heartbeat = some w ∧ Onward (cache s) (cache (step s e)))
    {es : List (Event α β)} {w : δ} {s : Caches α β} (he : ∀ e ∈ es, Underway last e)
    (hw : carried s.heartbeat = some w) :
    carried (run step s es).heartbeat = some w ∧ Onward (cache s) (cache (run step s es)) := by
  induction es generalizing s with
  | nil => exact ⟨hw, Onward.refl _⟩
  | cons e es ih =>
    obtain ⟨hw', ho⟩ := hstep (he e List.mem_cons_self) hw
    obtain ⟨hw'', ho'⟩ := ih (fun e' h' => he e' (List.mem_cons_of_mem _ h')) hw'
    exact ⟨hw'', ho.trans ho'⟩

lemma run_underway_wu {es : List (Event α β)} {w : Option (α × ℕ)} {s : Caches α β}
    (he : ∀ e ∈ es, Underway .markWu e) (hw : s.heartbeat.wu = some w) :
    (run step s es).heartbeat.wu = some w ∧ Onward s.wu (run step s es).wu :=
  run_underway step_underway_wu he hw

lemma run_underway_inventory {es : List (Event α β)} {w : Option (InventoryState β × ℕ)}
    {s : Caches α β} (he : ∀ e ∈ es, Underway .markInventory e)
    (hw : s.heartbeat.inventory = some w) :
    (run step s es).heartbeat.inventory = some w ∧ Onward s.inventory (run step s es).inventory :=
  run_underway step_underway_inventory he hw

/-- The mark applies to what is carried, or does not come at all. -/
lemma markWu_wu {s : Caches α β} {w : Option (α × ℕ)} (hw : s.heartbeat.wu = some w) :
    ∃ carried, (carried = none ∨ carried = w) ∧ (step s .markWu).wu = s.wu.acknowledge carried := by
  unfold step
  dsimp only
  split
  · rename_i wu inv hh
    rw [hh] at hw
    obtain rfl : wu = w := Option.some.inj hw
    exact ⟨wu, Or.inr rfl, rfl⟩
  · exact ⟨none, Or.inl rfl, rfl⟩

lemma markInventory_inventory {s : Caches α β} {w : Option (InventoryState β × ℕ)}
    (hw : s.heartbeat.inventory = some w) :
    ∃ carried, (carried = none ∨ carried = w) ∧
      (step s .markInventory).inventory = s.inventory.acknowledge carried := by
  unfold step
  dsimp only
  split
  · rename_i inv hh
    rw [hh] at hw
    obtain rfl : inv = w := Option.some.inj hw
    exact ⟨inv, Or.inr rfl, rfl⟩
  · exact ⟨none, Or.inl rfl, rfl⟩

/-! ### The invariant -/

/-- The server has answered the heartbeat. -/
def Heartbeat.answered : Heartbeat α β → Bool
  | .accepted _ _ | .wuMarked _ => true
  | .idle | .picked _ | .sent _ _ => false

structure Sound (s : Caches α β) : Prop where
  wu : s.wu.sentGen ≤ s.wu.gen
  wuCarried : ∀ x g, s.heartbeat.wu = some (some (x, g)) → g ≤ s.wu.gen
  inventory : s.inventory.sentGen ≤ s.inventory.gen
  carried : ∀ x g, s.heartbeat.inventory = some (some (x, g)) →
    s.inventory.sentGen < g ∧ g ≤ s.inventory.gen ∧
      (g = s.inventory.gen → s.inventory.state = some x) ∧
      (s.heartbeat.answered = true → s.acknowledged = some x)
  sent : (∀ inv, s.collection ≠ .storing inv) →
    s.inventorySent = (s.inventory.state.map InventoryState.hash).getD ""
  storing : ∀ inv, s.collection = .storing inv → s.inventorySent = inv.hash
  collected : ∀ inv, s.collected = some inv →
    ∃ x, s.inventory.state = some x ∧ x.hash = inv.hash
  settled : s.inventory.gen = s.inventory.sentGen →
    ∀ x, s.inventory.state = some x → s.acknowledged = some x

lemma Sound.started (acknowledged : Option (InventoryState β)) :
    Sound (.started acknowledged : Caches α β) where
  wu := Nat.le_refl _
  wuCarried := by intro x g h; cases h
  inventory := Nat.le_refl _
  carried := by intro x g h; cases h
  sent := by intro _; rfl
  storing := by intro inv h; cases h
  collected := by intro inv h; cases h
  settled := by intro _ x h; cases h

variable {s : Caches α β}

lemma Sound.storeWu (h : Sound s) (x : Option α) : Sound { s with wu := s.wu.store x } where
  wu := by
    rw [store_sentGen]
    exact Nat.le_trans h.wu (store_gen s.wu x)
  wuCarried := fun y g hy => Nat.le_trans (h.wuCarried y g hy) (store_gen s.wu x)
  inventory := h.inventory
  carried := h.carried
  sent := h.sent
  storing := h.storing
  collected := h.collected
  settled := h.settled

/-- The lock moves, and nothing else. -/
lemma Sound.move (h : Sound s) {c : Collection β} (hs : ∀ inv, s.collection ≠ .storing inv)
    (hc : ∀ inv, c ≠ .storing inv) : Sound { s with collection := c } where
  wu := h.wu
  wuCarried := h.wuCarried
  inventory := h.inventory
  carried := h.carried
  sent := fun _ => h.sent hs
  storing := fun inv hinv => absurd hinv (hc inv)
  collected := h.collected
  settled := h.settled

lemma Sound.readInventory (h : Sound s) (inv : Option (InventoryState β)) :
    Sound (s.readInventory inv) := by
  unfold Caches.readInventory
  split
  · rename_i hc
    refine h.move (fun inv hinv => ?_) (fun inv hinv => by cases hinv)
    rw [hc] at hinv
    cases hinv
  · rename_i inv hc
    have hidle : ∀ inv, s.collection ≠ .storing inv := fun inv hinv => by
      rw [hc] at hinv
      cases hinv
    split
    · -- unchanged: the hash is the one of the reading in the cache
      rename_i hskip
      obtain ⟨-, hne, heq⟩ := hskip
      refine ⟨h.wu, h.wuCarried, h.inventory, h.carried, fun _ => h.sent hidle,
        (fun _ hinv => by cases hinv), ?_, h.settled⟩
      intro inv' hinv
      obtain rfl : inv = inv' := Option.some.inj hinv
      have hsent := h.sent hidle
      rw [← heq] at hsent
      cases hst : s.inventory.state with
      | none =>
        rw [hst] at hsent
        exact absurd hsent hne
      | some x =>
        rw [hst] at hsent
        exact ⟨x, rfl, hsent.symm⟩
    · refine ⟨h.wu, h.wuCarried, h.inventory, h.carried, fun hno => absurd rfl (hno inv), ?_,
        h.collected, h.settled⟩
      intro inv' hinv
      obtain rfl : inv = inv' := by simpa using hinv
      rfl
  · exact h

lemma Sound.storeInventory (h : Sound s) : Sound s.storeInventory := by
  unfold Caches.storeInventory
  split
  · rename_i inv hc
    refine ⟨h.wu, h.wuCarried, ?_, ?_, ?_, (fun _ hinv => by cases hinv), ?_, ?_⟩
    · exact Nat.le_trans h.inventory (Nat.le_succ _)
    · intro x g hx
      obtain ⟨hlt, hle, -, hack⟩ := h.carried x g hx
      refine ⟨hlt, Nat.le_trans hle (Nat.le_succ _), fun heq => ?_, hack⟩
      change g = s.inventory.gen + 1 at heq
      omega
    · intro _
      exact h.storing inv hc
    · intro x hx
      exact ⟨x, hx, rfl⟩
    · intro heq
      have := h.inventory
      change s.inventory.gen + 1 = s.inventory.sentGen at heq
      omega
  · exact h

/-- A heartbeat picks up what is pending of the Windows Update cache. -/
lemma Sound.pick (h : Sound s) : Sound { s with heartbeat := .picked s.wu.pending } where
  wu := h.wu
  wuCarried := by
    intro x g hx
    have hp : s.wu.pending = some (x, g) := Option.some.inj hx
    exact Nat.le_of_eq (pending_some _ hp).2.1
  inventory := h.inventory
  carried := by intro x g hx; cases hx
  sent := h.sent
  storing := h.storing
  collected := h.collected
  settled := h.settled

/-- And of the inventory's: what it carries is the cache's own reading. -/
lemma Sound.send (h : Sound s) {wu : Option (α × ℕ)} (hh : s.heartbeat = .picked wu) :
    Sound { s with heartbeat := .sent wu s.inventory.pending } where
  wu := h.wu
  wuCarried := fun x g hx => h.wuCarried x g (by rw [hh]; exact hx)
  inventory := h.inventory
  carried := by
    intro x g hx
    have hp : s.inventory.pending = some (x, g) := Option.some.inj hx
    obtain ⟨hst, rfl, hne⟩ := pending_some _ hp
    have hlt : s.inventory.sentGen < s.inventory.gen := by
      have := h.inventory
      omega
    exact ⟨hlt, Nat.le_refl _, fun _ => hst, fun ha => by cases ha⟩
  sent := h.sent
  storing := h.storing
  collected := h.collected
  settled := h.settled

lemma Sound.answer (h : Sound s) (ok : Bool) : Sound (s.answer ok) := by
  unfold Caches.answer
  split
  · rename_i wu inv hh
    have hwu : ∀ x g, wu = some (x, g) → g ≤ s.wu.gen := fun x g hx =>
      h.wuCarried x g (by rw [hh, ← hx]; rfl)
    split
    · refine ⟨h.wu, fun x g hx => hwu x g (Option.some.inj hx), h.inventory, ?_, h.sent, h.storing,
        h.collected, ?_⟩
      · intro x g hx
        obtain rfl : inv = some (x, g) := Option.some.inj hx
        obtain ⟨hlt, hle, hst, -⟩ := h.carried x g (by rw [hh]; rfl)
        exact ⟨hlt, hle, hst, fun _ => rfl⟩
      · -- what is carried has not been marked yet, so the cache is not settled
        intro heq x hx
        cases inv with
        | none => exact h.settled heq x hx
        | some p =>
          obtain ⟨hlt, hle, -, -⟩ := h.carried p.1 p.2 (by rw [hh]; rfl)
          change s.inventory.gen = s.inventory.sentGen at heq
          omega
    · exact ⟨h.wu, (fun x g hx => by cases hx), h.inventory, (fun x g hx => by cases hx), h.sent,
        h.storing, h.collected, h.settled⟩
  · exact h

lemma Sound.markWu (h : Sound s) {wu : Option (α × ℕ)} {inv : Option (InventoryState β × ℕ)}
    (hh : s.heartbeat = .accepted wu inv) :
    Sound { s with wu := s.wu.acknowledge wu, heartbeat := .wuMarked inv } where
  wu := by
    rw [acknowledge_gen]
    rcases acknowledge_sentGen s.wu wu with heq | ⟨x, g, rfl, heq⟩
    · rw [heq]
      exact h.wu
    · rw [heq]
      exact h.wuCarried x g (by rw [hh]; rfl)
  wuCarried := by intro x g hx; cases hx
  inventory := h.inventory
  carried := by
    intro x g hx
    obtain rfl : inv = some (x, g) := Option.some.inj hx
    obtain ⟨hlt, hle, hst, hack⟩ := h.carried x g (by rw [hh]; rfl)
    exact ⟨hlt, hle, hst, fun _ => hack (by rw [hh]; rfl)⟩
  sent := h.sent
  storing := h.storing
  collected := h.collected
  settled := h.settled

/-- The inventory carried is marked: if it is the cache's last one, it is the one acknowledged. -/
lemma Sound.markInventory (h : Sound s) {inv : Option (InventoryState β × ℕ)}
    (hh : s.heartbeat = .wuMarked inv) :
    Sound { s with inventory := s.inventory.acknowledge inv, heartbeat := .idle } where
  wu := h.wu
  wuCarried := by intro x g hx; cases hx
  inventory := by
    rw [acknowledge_gen]
    rcases acknowledge_sentGen s.inventory inv with heq | ⟨x, g, rfl, heq⟩
    · rw [heq]
      exact h.inventory
    · rw [heq]
      exact (h.carried x g (by rw [hh]; rfl)).2.1
  carried := by intro x g hx; cases hx
  sent := by
    intro hno
    rw [acknowledge_state]
    exact h.sent hno
  storing := h.storing
  collected := by
    intro x hx
    rw [acknowledge_state]
    exact h.collected x hx
  settled := by
    intro heq x hx
    rw [acknowledge_gen] at heq
    rw [acknowledge_state] at hx
    rcases acknowledge_sentGen s.inventory inv with hold | ⟨y, g, rfl, hnew⟩
    · rw [hold] at heq
      exact h.settled heq x hx
    · rw [hnew] at heq
      obtain ⟨-, -, hst, hack⟩ := h.carried y g (by rw [hh]; rfl)
      have hy := hst heq.symm
      rw [hx] at hy
      rw [Option.some.inj hy]
      exact hack (by rw [hh]; rfl)

theorem step_sound (s : Caches α β) (e : Event α β) (h : Sound s) : Sound (step s e) := by
  cases e with
  | storeWu x => exact h.storeWu x
  | lock forced =>
    unfold step
    dsimp only
    split
    · rename_i hc
      refine h.move (fun inv hinv => ?_) (fun inv hinv => by cases hinv)
      rw [hc] at hinv
      cases hinv
    · exact h
  | readInventory inv => exact h.readInventory inv
  | storeInventory => exact h.storeInventory
  | pendingWu =>
    unfold step
    dsimp only
    split
    · exact h.pick
    · exact h
  | pendingInventory =>
    unfold step
    dsimp only
    split
    · rename_i hh
      exact h.send hh
    · exact h
  | answer ok => exact h.answer ok
  | markWu =>
    unfold step
    dsimp only
    split
    · rename_i hh
      exact h.markWu hh
    · exact h
  | markInventory =>
    unfold step
    dsimp only
    split
    · rename_i hh
      exact h.markInventory hh
    · exact h

/-! ### The law -/

lemma Sound.lossless (h : Sound s) : Lossless s where
  wu := by
    intro hidle fs x gs hes
    have hpick : step s .pendingWu = { s with heartbeat := .picked s.wu.pending } := by
      simp only [step, hidle]
    have hwu : (step s .pendingWu).wu = s.wu := by rw [hpick]
    obtain ⟨hw, ho⟩ := run_underway_wu (s := step s .pendingWu) (w := s.wu.pending)
      (fun e he => hes e (List.mem_append_left _ he)) (by rw [hpick]; rfl)
    obtain ⟨hw', ho'⟩ := run_underway_wu
      (s := step (run step (step s .pendingWu) fs) (.storeWu (some x))) (w := s.wu.pending)
      (fun e he => hes e (List.mem_append_right _ he)) hw
    obtain ⟨carried, hcar, hmark⟩ := markWu_wu hw'
    rw [hwu] at ho
    dsimp only
    rw [hmark]
    refine Onward.stored (c := s.wu) h.wu (fun y g hy => ?_) ho ho'
    rcases hcar with rfl | rfl
    · cases hy
    · exact Nat.le_of_eq (pending_some _ hy).2.1
  inventory := by
    intro wu hpicked fs inv gs hes hcol
    have hpick : step s .pendingInventory =
        { s with heartbeat := .sent wu s.inventory.pending } := by simp only [step, hpicked]
    have hinventory : (step s .pendingInventory).inventory = s.inventory := by rw [hpick]
    obtain ⟨hw, ho⟩ := run_underway_inventory (s := step s .pendingInventory)
      (w := s.inventory.pending) (fun e he => hes e (List.mem_append_left _ he))
      (by rw [hpick]; rfl)
    have hstore : step (run step (step s .pendingInventory) fs) .storeInventory =
        { run step (step s .pendingInventory) fs with
          inventory := (run step (step s .pendingInventory) fs).inventory.store (some inv)
          collection := .idle
          collected := some inv } := by
      change Caches.storeInventory _ = _
      unfold Caches.storeInventory
      rw [hcol]
    rw [hstore]
    obtain ⟨hw', ho'⟩ := run_underway_inventory
      (s := { run step (step s .pendingInventory) fs with
          inventory := (run step (step s .pendingInventory) fs).inventory.store (some inv)
          collection := .idle
          collected := some inv }) (w := s.inventory.pending)
      (fun e he => hes e (List.mem_append_right _ he)) hw
    obtain ⟨carried, hcar, hmark⟩ := markInventory_inventory hw'
    rw [hinventory] at ho
    dsimp only
    rw [hmark]
    refine Onward.stored (c := s.inventory) h.inventory (fun y g hy => ?_) ho ho'
    rcases hcar with rfl | rfl
    · cases hy
    · exact Nat.le_of_eq (pending_some _ hy).2.1
  settled := by
    intro hnone inv hinv
    obtain ⟨x, hx, hhash⟩ := h.collected inv hinv
    exact ⟨x, h.settled (pending_none _ hx hnone) x hx, hhash⟩

/-- **No reading is lost.**  In every state the collections and the heartbeats of a process reach,
whatever the order of their steps and whichever calls fail. -/
theorem nothing_lost (acknowledged : Option (InventoryState β)) (es : List (Event α β)) :
    Lossless (run step (.started acknowledged) es) :=
  (run_invariant (P := Sound) step_sound (.started acknowledged) es).lossless

/-- The race: the second reading is stored while the first one is on its way. -/
example : (run step (.started none : Caches ℕ ℕ)
    [.lock false, .readInventory (some ⟨"a", 0⟩), .storeInventory, .pendingWu, .pendingInventory,
      .lock true, .readInventory (some ⟨"b", 1⟩), .storeInventory, .answer true, .markWu,
      .markInventory]).inventory.pending = some (⟨"b", 1⟩, 2) := by decide

end Agent

end Tiai.Cache
