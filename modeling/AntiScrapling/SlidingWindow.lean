import Mathlib.Data.List.DropRight
import Mathlib.Tactic.Common

/-! Windows over a growing history: the last `n` items among those that are kept.
Dropping items that are no longer kept and cutting to the last `n` can be done in any
order, as long as items fall out in the order in which they came. -/
namespace AntiScrapling
namespace SlidingWindow

variable {α : Type}

section InPlace

/-- Place `i` of an array is read as it is now, and moved to the next free place if it
is kept. -/
def compactStep (keep : α → Bool) (s : List α × ℕ) (i : ℕ) : List α × ℕ :=
  match s.1[i]? with
  | some x => if keep x then (s.1.set s.2 x,s.2+1) else s
  | none => s

/-- Keep some items of an array without a second array. -/
def compact (keep : α → Bool) (xs : List α) : List α :=
  let s := (List.range xs.length).foldl (compactStep keep) (xs,0)
  s.1.take s.2

/-- After `i` steps the front holds what was kept, and nothing from place `i` on has
been overwritten. -/
structure Compacted (keep : α → Bool) (xs : List α) (i : ℕ) (s : List α × ℕ) : Prop where
  front : s.1.take s.2 = (xs.take i).filter keep
  rest : s.1.drop i = xs.drop i
  behind : s.2 ≤ i
  size : s.1.length = xs.length

theorem Compacted.step {keep : α → Bool} {xs : List α} {i : ℕ} {s : List α × ℕ}
    (h : Compacted keep xs i s) (hi : i < xs.length) :
    Compacted keep xs (i+1) (compactStep keep s i) := by
  obtain ⟨ys,j⟩ := s
  obtain ⟨front,rest,behind,size⟩ := h
  simp only at front rest behind size
  have hget : ys[i]? = some xs[i] := by
    have := congrArg List.head? rest
    simpa [List.head?_drop,hi] using this
  have hdrop : ys.drop (i+1) = xs.drop (i+1) := by
    have := congrArg List.tail rest
    simpa [List.tail_drop] using this
  have htake : (xs.take (i+1)).filter keep = (xs.take i).filter keep++[xs[i]].filter keep := by
    rw [List.take_succ_eq_append_getElem hi,List.filter_append]
  simp only [compactStep,hget]
  split_ifs with hkeep
  · have hj : j < ys.length := by omega
    refine ⟨?_,?_,by simp only; omega,by simpa using size⟩
    · simp only
      rw [htake,← front,List.take_succ_eq_append_getElem (by simpa using hj),
        List.take_set_of_le le_rfl]
      simp [hkeep]
    · simp only
      rw [List.drop_set_of_lt (by omega),hdrop]
  · refine ⟨?_,hdrop,by simp only; omega,size⟩
    rw [htake,← front]
    simp [hkeep]

theorem compact_eq_filter (keep : α → Bool) (xs : List α) : compact keep xs = xs.filter keep := by
  have h : ∀ i, i ≤ xs.length →
      Compacted keep xs i ((List.range i).foldl (compactStep keep) (xs,0)) := by
    intro i
    induction i with
    | zero => exact fun _ => ⟨by simp,rfl,le_rfl,rfl⟩
    | succ i ih =>
      intro hi
      rw [List.range_succ,List.foldl_append]
      exact (ih (by omega)).step (by omega)
  have := (h xs.length le_rfl).front
  rwa [List.take_length] at this

end InPlace

/-- The last `n` of the items that are kept. -/
def window (n : ℕ) (keep : α → Bool) (xs : List α) : List α := (xs.filter keep).rtake n

def KeepsLater (keep : α → Bool) (xs : List α) : Prop :=
  xs.Pairwise fun x y => keep x = true → keep y = true

theorem rtake_cons (n : ℕ) (x : α) (xs : List α) :
    (x::xs).rtake n = if xs.length < n then x::xs else xs.rtake n := by
  unfold List.rtake
  split_ifs with h
  · have h0 : (x::xs).length-n = 0 := by rw [List.length_cons]; omega
    rw [h0,List.drop_zero]
  · have h1 : (x::xs).length-n = xs.length-n+1 := by rw [List.length_cons]; omega
    rw [h1,List.drop_succ_cons]

theorem rtake_of_length_le {n : ℕ} {xs : List α} (h : xs.length ≤ n) : xs.rtake n = xs := by
  unfold List.rtake
  rw [Nat.sub_eq_zero_of_le h,List.drop_zero]

theorem filter_rtake {keep : α → Bool} {xs : List α} (h : KeepsLater keep xs) (n : ℕ) :
    (xs.rtake n).filter keep = (xs.filter keep).rtake n := by
  induction xs with
  | nil => simp
  | cons x xs ih =>
    obtain ⟨hx,hxs⟩ := List.pairwise_cons.mp h
    have ih := ih hxs
    by_cases hk : keep x = true
    · -- everything from here on is kept, so filtering does nothing on either side
      have hall : ∀ y ∈ x::xs, keep y = true := by
        intro y hy
        rcases List.mem_cons.mp hy with rfl | hy
        · exact hk
        · exact hx y hy hk
      rw [List.filter_eq_self.mpr hall,List.filter_eq_self]
      exact fun y hy => hall y (List.mem_of_mem_drop hy)
    · rw [rtake_cons,List.filter_cons_of_neg hk]
      split_ifs with hn
      · have hle := List.length_filter_le keep xs
        rw [List.filter_cons_of_neg hk,rtake_of_length_le (by omega)]
      · exact ih

theorem filter_window {keep keep' : α → Bool} {xs : List α}
    (hsub : ∀ x, keep' x = true → keep x = true) (h : KeepsLater keep' xs) (n : ℕ) :
    (window n keep xs).filter keep' = window n keep' xs := by
  have hlater : KeepsLater keep' (xs.filter keep) := List.Pairwise.sublist List.filter_sublist h
  unfold window
  rw [filter_rtake hlater,List.filter_filter]
  congr 1
  apply List.filter_congr
  intro x _
  cases hx : keep' x with
  | false => simp
  | true => simp [hsub x hx]

theorem rtake_append_singleton (n : ℕ) (xs : List α) (x : α) :
    (xs.rtake n++[x]).rtake n = (xs++[x]).rtake n := by
  cases n with
  | zero => simp
  | succ n =>
    rw [List.rtake_concat_succ,List.rtake_concat_succ]
    congr 1
    simp [List.rtake_eq_reverse_take_reverse,List.take_take]

theorem window_push {keep : α → Bool} {x : α} (hx : keep x = true) (n : ℕ) (xs : List α) :
    (window n keep xs++[x]).rtake n = window n keep (xs++[x]) := by
  unfold window
  rw [rtake_append_singleton,List.filter_append,List.filter_cons_of_pos hx,List.filter_nil]

/-- The newest item of a window is the newest one of all, unless nothing is kept. -/
theorem getLast?_window {keep : α → Bool} {xs : List α} (h : KeepsLater keep xs) {n : ℕ} (hn : 0 < n) :
    (window n keep xs).getLast? = xs.getLast?.filter keep := by
  have hfilter : (xs.filter keep).getLast? = xs.getLast?.filter keep := by
    rcases List.eq_nil_or_concat xs with rfl | ⟨ys,y,rfl⟩
    · rfl
    · rw [List.concat_eq_append] at h ⊢
      have hlast := (List.pairwise_append.mp h).2.2
      by_cases hy : keep y = true
      · simp [List.filter_append,Option.filter,hy]
      · have hys : ys.filter keep = [] := by
          rw [List.filter_eq_nil_iff]
          exact fun x hx hkeep => hy (hlast x hx y List.mem_cons_self hkeep)
        simp [List.filter_append,Option.filter,hys,hy]
  rw [window,List.rtake,List.getLast?_drop,← hfilter]
  split_ifs with hlen
  · rw [List.length_eq_zero_iff.mp (by omega : (xs.filter keep).length = 0)]
    rfl
  · rfl

end SlidingWindow
end AntiScrapling
