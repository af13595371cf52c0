import Mathlib.Data.List.Basic
import Mathlib.Tactic.Common

/-! Runs of a labelled transition relation. -/
namespace AntiScrapling

/-- A run from one state to another, with the labels of its steps in order. -/
inductive Steps {σ ε : Type} (R : σ → ε → σ → Prop) (s : σ) : List ε → σ → Prop
  | refl : Steps R s [] s
  | snoc {es : List ε} {e : ε} {s₁ s₂ : σ} : Steps R s es s₁ → R s₁ e s₂ → Steps R s (es++[e]) s₂

namespace Steps

variable {σ ε : Type} {R : σ → ε → σ → Prop}

/-- What holds at the start and is kept by every step holds at the end. -/
theorem invariant {P : σ → Prop} {s s' : σ} {es : List ε} (h : Steps R s es s') (hs : P s)
    (hstep : ∀ s₁ e s₂, P s₁ → R s₁ e s₂ → P s₂) : P s' := by
  induction h with
  | refl => exact hs
  | snoc _ hr ih => exact hstep _ _ _ ih hr

theorem mono {R' : σ → ε → σ → Prop} (hsub : ∀ s e s', R s e s' → R' s e s') {s s' : σ} {es : List ε}
    (h : Steps R s es s') : Steps R' s es s' := by
  induction h with
  | refl => exact .refl
  | snoc _ hr ih => exact ih.snoc (hsub _ _ _ hr)

/-- The same with what is known of the labels of the run. -/
theorem mono_of_mem {R' : σ → ε → σ → Prop} {s s' : σ} {es : List ε} (h : Steps R s es s')
    (hsub : ∀ s e s', e ∈ es → R s e s' → R' s e s') : Steps R' s es s' := by
  induction h with
  | refl => exact .refl
  | snoc _ hr ih =>
    exact (ih fun s e s' he => hsub s e s' (List.mem_append_left _ he)).snoc (hsub _ _ _ (by simp) hr)

/-- The step that a label of the run names, with the run before it. -/
theorem before {s s' : σ} {es es₁ es₂ : List ε} {e : ε} (h : Steps R s es s')
    (hes : es = es₁++e::es₂) : ∃ s₁ s₂, Steps R s es₁ s₁ ∧ R s₁ e s₂ := by
  induction h generalizing es₂ with
  | refl => simp at hes
  | @snoc es _ _ _ hrun hr ih =>
    rcases List.eq_nil_or_concat es₂ with rfl | ⟨es₃,e',rfl⟩
    · obtain ⟨rfl,hlast⟩ := List.append_inj' hes rfl
      cases hlast
      exact ⟨_,_,hrun,hr⟩
    · have hinit : es = es₁++e::es₃ := by
        rw [List.concat_eq_append,← List.cons_append,← List.append_assoc] at hes
        exact (List.append_inj' hes rfl).1
      exact ih hinit

end Steps
end AntiScrapling
