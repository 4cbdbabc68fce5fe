import Tiai.Lib.Runs

/-!
# Detecting that a reported value has changed

A machine remembers at most one value of some kind, receives events that may report one, and raises
a flag.  Suppose every step of a run

* `keep` — remembers what is reported, and otherwise does not forget (unless the flag is up);
* `detect` — raises the flag on a report that contradicts what is remembered;
* `sticky` — never lowers it.

Then two different reports, however far apart, leave the flag up (`Detector.complete`): comparing
each report with the last one is enough.  `keep` is what makes it so — a step that forgets lets the
two values pass on either side of it.
-/

namespace Tiai.Lib

/-- What each step of a detecting machine does, on the steps that meet the guard `G`. -/
structure Detector {σ ε κ : Type*} (step : σ → ε → σ) (G : σ → ε → Prop)
    (memory : σ → Option κ) (flag : σ → Prop) (report : ε → Option κ) : Prop where
  keep : ∀ s e a, G s e → (report e).or (memory s) = some a →
    flag (step s e) ∨ memory (step s e) = some a
  detect : ∀ s e a b, G s e → memory s = some a → report e = some b → a ≠ b → flag (step s e)
  sticky : ∀ s e, G s e → flag s → flag (step s e)

namespace Detector

variable {σ ε κ : Type*} {step : σ → ε → σ} {G : σ → ε → Prop} {memory : σ → Option κ}
  {flag : σ → Prop} {report : ε → Option κ}

theorem flag_of_flag (D : Detector step G memory flag report) {s : σ} {es : List ε}
    (hg : Guarded step G s es) (h : flag s) : flag (run step s es) :=
  hg.invariant (fun s e hG => D.sticky s e hG) h

/-- A remembered value stays remembered until the flag is raised. -/
theorem flag_or_memory (D : Detector step G memory flag report) {a : κ} {s : σ} {es : List ε}
    (hg : Guarded step G s es) (h : flag s ∨ memory s = some a) :
    flag (run step s es) ∨ memory (run step s es) = some a := by
  classical
  refine hg.invariant (P := fun s => flag s ∨ memory s = some a) (fun s e hG hs => ?_) h
  rcases hs with hf | hm
  · exact Or.inl (D.sticky s e hG hf)
  · cases hr : report e with
    | none => exact D.keep s e a hG (by simp [hr, hm])
    | some b =>
      by_cases hab : a = b
      · exact D.keep s e a hG (by simp [hr, hab])
      · exact Or.inl (D.detect s e a b hG hm hr hab)

/-- **Completeness of the comparison with the last report.** -/
theorem complete (D : Detector step G memory flag report) {a b : κ} (hab : a ≠ b) {s : σ}
    {e₁ e₂ : ε} {es fs : List ε} (h₁ : report e₁ = some a) (h₂ : report e₂ = some b)
    (hg : Guarded step G s (e₁ :: (es ++ e₂ :: fs))) :
    flag (run step s (e₁ :: (es ++ e₂ :: fs))) := by
  obtain ⟨hG₁, hrest⟩ := hg
  obtain ⟨hes, hG₂, hfs⟩ := Guarded.append_iff.mp hrest
  have first : flag (step s e₁) ∨ memory (step s e₁) = some a :=
    D.keep s e₁ a hG₁ (by simp [h₁])
  have second : flag (step (run step (step s e₁) es) e₂) := by
    rcases D.flag_or_memory hes first with hf | hm
    · exact D.sticky _ e₂ hG₂ hf
    · exact D.detect _ e₂ a b hG₂ hm h₂ hab
  rw [run_cons, run_append, run_cons]
  exact D.flag_of_flag hfs second

end Detector

end Tiai.Lib
