import Mathlib.Data.List.Perm.Basic
import Mathlib.Logic.Relation
import Mathlib.Tactic.Common

/-! Lists in which some elements do not count: what stays the same when such elements are
put in or taken out, and when the elements change places. -/
namespace AntiScrapling
namespace ListEdits

variable {α : Type} {p : α → Bool} {xs ys : List α}

/-- The elements that count; `p` picks those that do not. -/
def kept (p : α → Bool) (xs : List α) : List α := xs.filter fun x => !p x

/-- One element more of those that do not count. -/
inductive Inserted (p : α → Bool) : List α → List α → Prop
  | intro (pre post : List α) {x : α} (hx : p x = true) : Inserted p (pre++post) (pre++x::post)

theorem kept_append (xs ys : List α) : kept p (xs++ys) = kept p xs++kept p ys := List.filter_append xs ys

theorem kept_cons_of_pos {x : α} (hx : p x = true) (xs : List α) : kept p (x::xs) = kept p xs :=
  List.filter_cons_of_neg (by simp [hx])

theorem kept_cons_of_neg {x : α} (hx : p x = false) (xs : List α) : kept p (x::xs) = x::kept p xs :=
  List.filter_cons_of_pos (by simp [hx])

theorem Inserted.kept_eq (h : Inserted p xs ys) : kept p xs = kept p ys := by
  cases h with
  | intro pre post hx => rw [kept_append,kept_append,kept_cons_of_pos hx]

theorem Inserted.cons (x : α) (h : Inserted p xs ys) : Inserted p (x::xs) (x::ys) := by
  cases h with
  | intro pre post hx => exact .intro (x::pre) post hx

theorem eqvGen_cons (x : α) (h : Relation.EqvGen (Inserted p) xs ys) :
    Relation.EqvGen (Inserted p) (x::xs) (x::ys) := by
  induction h with
  | rel xs ys h => exact .rel _ _ (h.cons x)
  | refl xs => exact .refl _
  | symm xs ys _ ih => exact .symm _ _ ih
  | trans xs ys zs _ _ ih₁ ih₂ => exact .trans _ _ _ ih₁ ih₂

theorem eqvGen_kept (xs : List α) : Relation.EqvGen (Inserted p) (kept p xs) xs := by
  induction xs with
  | nil => exact .refl _
  | cons x xs ih =>
    cases hx : p x with
    | true =>
      rw [kept_cons_of_pos hx]
      exact .trans _ _ _ ih (.rel _ _ (.intro [] xs hx))
    | false =>
      rw [kept_cons_of_neg hx]
      exact eqvGen_cons x ih

/-- Insertions and removals of what does not count lead from one list to the other exactly
if the rest is the same. -/
theorem eqvGen_inserted_iff : Relation.EqvGen (Inserted p) xs ys ↔ kept p xs = kept p ys := by
  constructor
  · intro h
    induction h with
    | rel xs ys h => exact h.kept_eq
    | refl xs => rfl
    | symm xs ys _ ih => exact ih.symm
    | trans xs ys zs _ _ ih₁ ih₂ => exact ih₁.trans ih₂
  · intro h
    exact .trans _ _ _ (.symm _ _ (eqvGen_kept xs)) (h ▸ eqvGen_kept ys)

/-- One change of a list: its elements change places, or one that does not count is put in
or taken out. -/
inductive Edit (p : α → Bool) : List α → List α → Prop
  | permute {xs ys : List α} (h : xs.Perm ys) : Edit p xs ys
  | insert {xs ys : List α} (h : Inserted p xs ys) : Edit p xs ys
  | remove {xs ys : List α} (h : Inserted p ys xs) : Edit p xs ys

theorem Edit.kept_perm (h : Edit p xs ys) : (kept p xs).Perm (kept p ys) := by
  cases h with
  | permute h => exact h.filter _
  | insert h => exact List.Perm.of_eq h.kept_eq
  | remove h => exact List.Perm.of_eq h.kept_eq.symm

end ListEdits
end AntiScrapling
