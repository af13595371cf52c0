import Mathlib.Data.List.Basic
import Mathlib.Tactic.Common

/-! Noninterference by unwinding.  Events that are not one's own leave one's view of the
state alone, and one's own events change it in a way that depends on the view only; then
the view after a run depends on one's own events only. -/
namespace AntiScrapling

variable {σ ε β : Type}

structure Unwinding (step : σ → ε → σ) (own : ε → Bool) (view : σ → β) : Prop where
  foreign : ∀ s e, own e = false → view (step s e) = view s
  mine : ∀ s s' e, own e = true → view s = view s' → view (step s e) = view (step s' e)

namespace Unwinding

variable {step : σ → ε → σ} {own : ε → Bool} {view : σ → β}

/-- Foreign events may as well not have happened. -/
theorem purge (h : Unwinding step own view) (es : List ε) {s s' : σ} (hs : view s = view s') :
    view (es.foldl step s) = view ((es.filter own).foldl step s') := by
  induction es generalizing s s' with
  | nil => exact hs
  | cons e es ih =>
    cases hown : own e with
    | true =>
      rw [List.filter_cons_of_pos hown,List.foldl_cons,List.foldl_cons]
      exact ih (h.mine s s' e hown hs)
    | false =>
      rw [List.filter_cons_of_neg (by simp [hown]),List.foldl_cons]
      exact ih ((h.foreign s e hown).trans hs)

/-- Two runs with the same own events give the same view. -/
theorem run (h : Unwinding step own view) {es es' : List ε} (hes : es.filter own = es'.filter own) (s : σ) :
    view (es.foldl step s) = view (es'.foldl step s) := by
  rw [h.purge es rfl,h.purge es' rfl,hes]

end Unwinding
end AntiScrapling
