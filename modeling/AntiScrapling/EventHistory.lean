import Mathlib.Data.List.Basic
import Mathlib.Tactic.Common

/-! State machines in parts, each with events of its own, and what a part remembers of the
events: their last one, and the pairs of neighbours. -/
namespace AntiScrapling
namespace EventHistory

variable {σ ε α β : Type}

section Parts

/-- The step of a part, for events that may not be its own. -/
def partStep (f : β → α → β) (b : β) : Option α → β
  | none => b
  | some a => f b a

/-- A part of the state moves with its own events, whatever the rest of the state is. -/
def IsPart (step : σ → ε → σ) (part : σ → β) (proj : ε → Option α) (f : β → α → β) : Prop :=
  ∀ s e, part (step s e) = partStep f (part s) (proj e)

variable {step : σ → ε → σ} {part : σ → β} {proj : ε → Option α} {f : β → α → β}

theorem IsPart.run (h : IsPart step part proj f) (s : σ) (es : List ε) :
    part (es.foldl step s) = (es.filterMap proj).foldl f (part s) := by
  induction es generalizing s with
  | nil => rfl
  | cons e es ih =>
    rw [List.foldl_cons,ih,h,List.filterMap_cons]
    cases proj e <;> rfl

end Parts

section Pairs

def pairs (l : List α) : List (α × α) := l.zip l.tail

theorem pairs_snoc (l : List α) (x : α) : pairs (l++[x]) = pairs l++(l.getLast?.map (·,x)).toList := by
  induction l with
  | nil => rfl
  | cons a l ih =>
    cases l with
    | nil => rfl
    | cons b l =>
      have hcons (rest : List α) : pairs (a::b::rest) = (a,b)::pairs (b::rest) := rfl
      rw [List.cons_append,List.cons_append,hcons,hcons,← List.cons_append,ih,List.getLast?_cons_cons]
      rfl

theorem mem_of_mem_pairs {l : List α} {p : α × α} (h : p ∈ pairs l) : p.1 ∈ l ∧ p.2 ∈ l :=
  ⟨(List.of_mem_zip h).1,List.mem_of_mem_tail (List.of_mem_zip h).2⟩

theorem length_pairs (l : List α) : (pairs l).length = l.length-1 := by
  simp [pairs]

end Pairs

end EventHistory
end AntiScrapling
