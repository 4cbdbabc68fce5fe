import Mathlib.Data.List.Basic

/-!
# Runs of a deterministic machine

A machine is a total step function `step : σ → ε → σ`.  Everything its environment decides — which
message arrives, whether a write fails, how much time passes — is part of the event, so a list of
events *is* an interleaving and quantifying over lists quantifies over all of them.

* `run step s es` — the state after the events `es`;
* `Guarded step G s es` — every step of that run meets the condition `G` in the state it starts from;
* `Guarded.invariant` — what every guarded step preserves, a guarded run preserves; with the trivial
  guard this is `run_invariant`;
* `Guarded.iff_snoc`, `Guarded.iff_prefixes` — a run is guarded step by step, and when a property holds in every state
  of a run;
* `Guarded.iff_claim` — a claim that guarded steps keep and every other step breaks holds in exactly the guarded runs;
* `Guarded.simulation` — a run and the same run without its silent events stay related.
-/

namespace Tiai.Lib

variable {σ ε : Type*} (step : σ → ε → σ)

/-- The state a run ends in. -/
def run (s : σ) (es : List ε) : σ := es.foldl step s

@[simp] lemma run_nil (s : σ) : run step s [] = s := rfl

@[simp] lemma run_cons (s : σ) (e : ε) (es : List ε) :
    run step s (e :: es) = run step (step s e) es := rfl

lemma run_append (s : σ) (es fs : List ε) :
    run step s (es ++ fs) = run step (run step s es) fs := List.foldl_append ..

/-- Every step of the run meets `G` in the state it starts from. -/
def Guarded (G : σ → ε → Prop) : σ → List ε → Prop
  | _, [] => True
  | s, e :: es => G s e ∧ Guarded G (step s e) es

instance decidableGuarded (G : σ → ε → Prop) [∀ s e, Decidable (G s e)] :
    ∀ (s : σ) (es : List ε), Decidable (Guarded step G s es)
  | _, [] => isTrue trivial
  | s, e :: es => by
      haveI := decidableGuarded G (step s e) es
      unfold Guarded
      infer_instance

variable {step} {G : σ → ε → Prop} {P : σ → Prop}

theorem Guarded.append_iff {s : σ} {es fs : List ε} :
    Guarded step G s (es ++ fs) ↔ Guarded step G s es ∧ Guarded step G (run step s es) fs := by
  induction es generalizing s with
  | nil => simp [Guarded]
  | cons e es ih => simp [Guarded, ih, and_assoc]

/-- A run is guarded when each of its steps is, after the steps before it. -/
theorem Guarded.iff_snoc {s : σ} {es : List ε} :
    Guarded step G s es ↔ ∀ fs e, fs ++ [e] <+: es → G (run step s fs) e := by
  constructor
  · rintro h fs e ⟨gs, rfl⟩
    exact (Guarded.append_iff.1 (Guarded.append_iff.1 h).1).2.1
  · intro h
    induction es generalizing s with
    | nil => trivial
    | cons e es ih =>
      refine ⟨h [] e (List.prefix_append [e] es), ih fun fs f hfs => ?_⟩
      exact h (e :: fs) f (List.cons_prefix_cons.2 ⟨rfl, hfs⟩)

/-- **The invariant rule.**  A property that every guarded step preserves holds at the end of every
guarded run — hence, prefixes of guarded runs being guarded, in every state it goes through. -/
theorem Guarded.invariant (hstep : ∀ s e, G s e → P s → P (step s e)) {s : σ} {es : List ε}
    (hg : Guarded step G s es) (h : P s) : P (run step s es) := by
  induction es generalizing s with
  | nil => exact h
  | cons e es ih => exact ih hg.2 (hstep s e hg.1 h)

/-- The invariant rule without a guard. -/
theorem run_invariant (hstep : ∀ s e, P s → P (step s e)) {s : σ} (h : P s) (es : List ε) :
    P (run step s es) := by
  induction es generalizing s with
  | nil => exact h
  | cons e es ih => exact ih (hstep s e h)

/-- **The exact guard.**  A property that a step keeps exactly when it is guarded holds in every state of a run
exactly when the run is guarded. -/
theorem Guarded.iff_prefixes {I : σ → Prop} (hI : ∀ s e, I s → I (step s e))
    (hP : ∀ s e, I s → P s → (P (step s e) ↔ G s e)) {s : σ} (hs : I s) (h : P s) (es : List ε) :
    (∀ fs, fs <+: es → P (run step s fs)) ↔ Guarded step G s es := by
  induction es generalizing s with
  | nil =>
    refine ⟨fun _ => trivial, fun _ fs hfs => ?_⟩
    rw [List.prefix_nil.1 hfs]
    exact h
  | cons e es ih =>
    constructor
    · intro hall
      have hstep : P (step s e) := hall [e] (List.prefix_cons_inj e |>.2 es.nil_prefix)
      refine ⟨(hP s e hs h).1 hstep, (ih (hI s e hs) hstep).1 fun fs hfs => ?_⟩
      exact hall (e :: fs) ((List.prefix_cons_inj e).2 hfs)
    · rintro ⟨hg, hrest⟩ fs hfs
      have hstep : P (step s e) := (hP s e hs h).2 hg
      cases fs with
      | nil => exact h
      | cons f fs =>
        obtain ⟨rfl, htail⟩ := List.cons_prefix_cons.1 hfs
        exact (ih (hI s f hs) hstep).2 hrest fs htail

/-- **The guard of a claim.**  When guarded steps keep an invariant that the claim follows from, and a step that is not
guarded breaks the claim, then the claim holds in every state of a run exactly when the run is guarded. -/
theorem Guarded.iff_claim {I : σ → Prop} (hI : ∀ s e, I s → G s e → I (step s e)) (hP : ∀ s, I s → P s)
    (hbreaks : ∀ s e, I s → ¬ G s e → ¬ P (step s e)) {s : σ} (hs : I s) (es : List ε) :
    (∀ fs, fs <+: es → P (run step s fs)) ↔ Guarded step G s es := by
  induction es generalizing s with
  | nil =>
    refine ⟨fun _ => trivial, fun _ fs hfs => ?_⟩
    rw [List.prefix_nil.1 hfs]
    exact hP s hs
  | cons e es ih =>
    constructor
    · intro hall
      have hg : G s e := by
        by_contra hnot
        exact hbreaks s e hs hnot (hall [e] ((List.prefix_cons_inj e).2 es.nil_prefix))
      exact ⟨hg, (ih (hI s e hs hg)).1 fun fs hfs => hall (e :: fs) ((List.prefix_cons_inj e).2 hfs)⟩
    · rintro ⟨hg, hrest⟩ fs hfs
      cases fs with
      | nil => exact hP s hs
      | cons f fs =>
        obtain ⟨rfl, htail⟩ := List.cons_prefix_cons.1 hfs
        exact (ih (hI s f hs hg)).2 hrest fs htail

/-- Two guards that agree where an invariant holds guard the same runs. -/
theorem Guarded.congr {G' : σ → ε → Prop} {I : σ → Prop} (hG : ∀ s e, I s → (G s e ↔ G' s e))
    (hI : ∀ s e, I s → G s e → I (step s e)) {s : σ} (hs : I s) (es : List ε) :
    Guarded step G s es ↔ Guarded step G' s es := by
  induction es generalizing s with
  | nil => exact Iff.rfl
  | cons e es ih =>
    unfold Guarded
    rw [← hG s e hs]
    exact and_congr_right fun hg => ih (hI s e hs hg)

/-- **The simulation rule.**  A relation that an event taken by both sides keeps, and that a silent event
taken by the left side alone keeps, relates a guarded run to the run of its other events. -/
theorem Guarded.simulation {R : σ → σ → Prop} (silent : ε → Bool)
    (hboth : ∀ s t e, G s e → silent e = false → R s t → R (step s e) (step t e))
    (hsilent : ∀ s t e, G s e → silent e = true → R s t → R (step s e) t) {s t : σ} {es : List ε}
    (hg : Guarded step G s es) (h : R s t) :
    R (run step s es) (run step t (es.filter (!silent ·))) := by
  induction es generalizing s t with
  | nil => exact h
  | cons e es ih =>
    cases hs : silent e with
    | true =>
      rw [List.filter_cons_of_neg (by simp [hs])]
      exact ih hg.2 (hsilent s t e hg.1 hs h)
    | false =>
      rw [List.filter_cons_of_pos (by simp [hs])]
      exact ih hg.2 (hboth s t e hg.1 hs h)

end Tiai.Lib
