import Mathlib.Init

/-!
# Actions, and what they leave true

An action runs in a state, and answers or fails; either way it leaves the state changed.  What the
world around it decides is asked for in the state, so a triple speaks of every world at once.

* `Action` — the monad, with `Action.fail`, `Action.attempt`, `Action.mapError`;
* `Triple P x Q E` — from a state in `P`, an answer of `x` leaves `Q` and a failure `E`;
* `Triple.bind`, `Triple.forEach`, … — the rules, one for each way to build an action;
* `Keeps I x` — `x` keeps `I`, however it ends, with the same rules.
-/

namespace Tiai.Lib

/-- An action over states `σ`, with errors `ε`. -/
def Action (σ ε α : Type) : Type := σ → Except ε α × σ

namespace Action

variable {σ ε ε' α β : Type}

protected def bind (x : Action σ ε α) (f : α → Action σ ε β) : Action σ ε β := fun s =>
  match x s with
  | (.ok a, s') => f a s'
  | (.error e, s') => (.error e, s')

instance : Monad (Action σ ε) where
  pure a := fun s => (.ok a, s)
  bind := Action.bind

def fail (e : ε) : Action σ ε α := fun s => (.error e, s)

/-- A pure result. -/
def lift (r : Except ε α) : Action σ ε α := fun s => (r, s)

def get : Action σ ε σ := fun s => (.ok s, s)

def modify (f : σ → σ) : Action σ ε Unit := fun s => (.ok (), f s)

/-- The result, failure included, as an answer. -/
def attempt (x : Action σ ε α) : Action σ ε' (Except ε α) := fun s =>
  let (r, s') := x s
  (.ok r, s')

def mapError (f : ε → ε') (x : Action σ ε α) : Action σ ε' α := fun s =>
  let (r, s') := x s
  (r.mapError f, s')

/-- A loop that ends at the first failure. -/
def forEach (xs : List α) (f : α → Action σ ε Unit) : Action σ ε Unit :=
  match xs with
  | [] => pure ()
  | x :: xs => do
    f x
    forEach xs f

end Action

/-! ### Triples -/

/-- From a state in `P`, an answer leaves `Q`, and a failure `E`. -/
def Triple {σ ε α : Type} (P : σ → Prop) (x : Action σ ε α) (Q : α → σ → Prop) (E : ε → σ → Prop) :
    Prop :=
  ∀ s, P s → match x s with
    | (.ok a, s') => Q a s'
    | (.error e, s') => E e s'

namespace Triple

variable {σ ε ε' α β : Type} {P P' : σ → Prop} {x : Action σ ε α} {Q Q' : α → σ → Prop}
  {E E' : ε → σ → Prop}

theorem ret {a : α} (h : ∀ s, P s → Q a s) : Triple P (pure a : Action σ ε α) Q E := h

theorem fail {e : ε} (h : ∀ s, P s → E e s) : Triple P (.fail e : Action σ ε α) Q E := h

theorem modify {f : σ → σ} {R : Unit → σ → Prop} (h : ∀ s, P s → R () (f s)) :
    Triple P (.modify f : Action σ ε Unit) R E := h

theorem get {R : σ → σ → Prop} (h : ∀ s, P s → R s s) : Triple P (.get : Action σ ε σ) R E := h

theorem lift {r : Except ε α} (hok : ∀ a, r = .ok a → ∀ s, P s → Q a s)
    (herr : ∀ e, r = .error e → ∀ s, P s → E e s) : Triple P (.lift r) Q E := by
  intro s hs
  cases r with
  | ok a => exact hok a rfl s hs
  | error e => exact herr e rfl s hs

theorem conseq (h : Triple P x Q E) (hP : ∀ s, P' s → P s) (hQ : ∀ a s, Q a s → Q' a s)
    (hE : ∀ e s, E e s → E' e s) : Triple P' x Q' E' := by
  intro s hs
  have := h s (hP s hs)
  rcases hx : x s with ⟨_ | a, s'⟩
  · rw [hx] at this
    exact hE _ _ this
  · rw [hx] at this
    exact hQ _ _ this

theorem mono_pre (h : Triple P x Q E) (hP : ∀ s, P' s → P s) : Triple P' x Q E :=
  h.conseq hP (fun _ _ hs => hs) fun _ _ hs => hs

theorem mono_error (h : Triple P x Q E) (hE : ∀ e s, E e s → E' e s) : Triple P x Q E' :=
  h.conseq (fun _ hs => hs) (fun _ _ hs => hs) hE

/-- **Sequencing.** -/
theorem bind {R : β → σ → Prop} {f : α → Action σ ε β} (hx : Triple P x Q E)
    (hf : ∀ a, Triple (Q a) (f a) R E) : Triple P (x >>= f) R E := by
  intro s hs
  have h := hx s hs
  show match Action.bind x f s with
    | (.ok a, s') => R a s'
    | (.error e, s') => E e s'
  unfold Action.bind
  rcases hr : x s with ⟨_ | a, s'⟩
  · rw [hr] at h
    exact h
  · rw [hr] at h
    exact hf a s' h

theorem attempt {E'' : ε' → σ → Prop} {R : Except ε α → σ → Prop}
    (h : Triple P x (fun a => R (.ok a)) (fun e => R (.error e))) :
    Triple P (x.attempt : Action σ ε' (Except ε α)) R E'' := by
  intro s hs
  have := h s hs
  unfold Action.attempt
  rcases hx : x s with ⟨_ | a, s'⟩ <;> rw [hx] at this <;> exact this

theorem mapError {E'' : ε' → σ → Prop} {f : ε → ε'} (h : Triple P x Q fun e => E'' (f e)) :
    Triple P (x.mapError f) Q E'' := by
  intro s hs
  have := h s hs
  unfold Action.mapError
  rcases hx : x s with ⟨_ | a, s'⟩ <;> rw [hx] at this <;> exact this

theorem ite {c : Prop} [Decidable c] {y : Action σ ε α} (hx : c → Triple P x Q E)
    (hy : ¬c → Triple P y Q E) : Triple P (if c then x else y) Q E := by
  split
  · rename_i h; exact hx h
  · rename_i h; exact hy h

/-- **The loop rule**: an invariant of each turn, indexed by what is still to come. -/
theorem forEach {I : List β → σ → Prop} {f : β → Action σ ε Unit} {xs : List β}
    (hf : ∀ y ys, Triple (I (y :: ys)) (f y) (fun _ => I ys) E) :
    Triple (I xs) (.forEach xs f) (fun _ => I []) E := by
  induction xs with
  | nil => exact ret fun _ h => h
  | cons y ys ih => exact bind (hf y ys) fun _ => ih

/-- What holds at both ends holds in the state the action ends in. -/
theorem final {R : σ → Prop} (h : Triple P x (fun _ => R) fun _ => R) {s : σ} (hs : P s) :
    R (x s).2 := by
  have := h s hs
  rcases hx : x s with ⟨_ | a, s'⟩ <;> rw [hx] at this <;> exact this

end Triple

/-! ### What an action keeps -/

/-- `I` holds again when the action ends, either way. -/
def Keeps {σ ε α : Type} (I : σ → Prop) (x : Action σ ε α) : Prop :=
  Triple I x (fun _ => I) fun _ => I

namespace Keeps

variable {σ ε ε' α β : Type} {P I : σ → Prop} {x : Action σ ε α} {Q : α → σ → Prop}
  {E : ε → σ → Prop}

lemma ret (a : α) : Keeps I (pure a : Action σ ε α) := Triple.ret fun _ h => h

lemma fail (e : ε) : Keeps I (.fail e : Action σ ε α) := Triple.fail fun _ h => h

lemma lift (r : Except ε α) : Keeps I (.lift r) :=
  Triple.lift (fun _ _ _ h => h) fun _ _ _ h => h

lemma get : Keeps I (.get : Action σ ε σ) := Triple.get fun _ h => h

lemma modify {f : σ → σ} (h : ∀ s, I s → I (f s)) : Keeps I (.modify f : Action σ ε Unit) :=
  Triple.modify h

lemma bind {f : α → Action σ ε β} (hx : Keeps I x) (hf : ∀ a, Keeps I (f a)) :
    Keeps I (x >>= f) := Triple.bind hx hf

lemma attempt (h : Keeps I x) : Keeps I (x.attempt : Action σ ε' (Except ε α)) :=
  Triple.attempt h

lemma mapError {f : ε → ε'} (h : Keeps I x) : Keeps I (x.mapError f) := Triple.mapError h

lemma ite {c : Prop} [Decidable c] {y : Action σ ε α} (hx : Keeps I x) (hy : Keeps I y) :
    Keeps I (if c then x else y) := Triple.ite (fun _ => hx) fun _ => hy

lemma forEach {f : β → Action σ ε Unit} {xs : List β} (h : ∀ y ∈ xs, Keeps I (f y)) :
    Keeps I (.forEach xs f) := by
  induction xs with
  | nil => exact ret ()
  | cons y ys ih =>
    exact bind (h y List.mem_cons_self) fun _ => ih fun z hz => h z (List.mem_cons_of_mem _ hz)

end Keeps

end Tiai.Lib
