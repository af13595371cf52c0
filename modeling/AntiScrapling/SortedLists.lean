import Mathlib.Data.List.Sort

/-! Sorting by a total order.  A sorted list is determined by its elements, so that neither
the order before nor the way of sorting matters. -/
namespace AntiScrapling
namespace SortedLists

variable {α β : Type} {r : α → α → Prop} {s : β → β → Prop} [DecidableRel r] [Std.Total r] [IsTrans α r]

section Unique
variable [Std.Antisymm r] {xs ys sorted : List α}

theorem eq_insertionSort (hperm : sorted.Perm xs) (hsorted : sorted.Pairwise r) :
    sorted = xs.insertionSort r :=
  (hperm.trans (List.perm_insertionSort r xs).symm).eq_of_pairwise' hsorted (List.pairwise_insertionSort r xs)

theorem insertionSort_congr (h : xs.Perm ys) : xs.insertionSort r = ys.insertionSort r :=
  eq_insertionSort ((List.perm_insertionSort r xs).trans h) (List.pairwise_insertionSort r xs)

theorem filter_insertionSort (p : α → Bool) (xs : List α) :
    (xs.insertionSort r).filter p = (xs.filter p).insertionSort r :=
  eq_insertionSort ((List.perm_insertionSort r xs).filter p) ((List.pairwise_insertionSort r xs).filter p)

end Unique

/-- A monotone function keeps a list sorted. -/
theorem map_insertionSort_of_mono [DecidableRel s] [Std.Total s] [IsTrans β s] [Std.Antisymm s] {f : α → β}
    (hf : ∀ a b, r a b → s (f a) (f b)) (xs : List α) :
    (xs.insertionSort r).map f = (xs.map f).insertionSort s :=
  eq_insertionSort ((List.perm_insertionSort r xs).map f) ((List.pairwise_insertionSort r xs).map f hf)

end SortedLists
end AntiScrapling
