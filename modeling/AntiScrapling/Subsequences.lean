import Mathlib.Data.List.Basic
import Mathlib.Data.List.Forall2
import Mathlib.Data.Set.Defs
import Mathlib.Order.Bounds.Defs
import Mathlib.Tactic.Common

/-! Two ways to compare a list with a pattern: the greedy scan, which counts how far the
pattern is found from its front, and the longest common subsequence.  A subsequence of a
table without repeated keys is given by its keys. -/
namespace AntiScrapling
namespace Subsequences

open scoped List

variable {α : Type} [DecidableEq α]

section Scan

/-- How many elements of the pattern, from its front, are found one after the other. -/
def scan : List α → List α → ℕ
  | [],_ => 0
  | _::_,[] => 0
  | x::xs,y::ys => if x = y then scan xs ys+1 else scan xs (y::ys)

@[simp] theorem scan_nil_right (xs : List α) : scan xs [] = 0 := by
  cases xs <;> rfl

theorem scan_cons_self (x : α) (xs ys : List α) : scan (x::xs) (x::ys) = scan xs ys+1 := if_pos rfl

theorem scan_cons_of_ne {x y : α} (h : x ≠ y) (xs ys : List α) :
    scan (x::xs) (y::ys) = scan xs (y::ys) := if_neg h

theorem scan_le_length (xs ys : List α) : scan xs ys ≤ ys.length := by
  induction xs generalizing ys with
  | nil => exact Nat.zero_le _
  | cons x xs ih =>
    cases ys with
    | nil => exact Nat.le_refl _
    | cons y ys =>
      by_cases h : x = y
      · subst h
        rw [scan_cons_self]
        exact Nat.succ_le_succ (ih ys)
      · rw [scan_cons_of_ne h]
        exact ih (y::ys)

/-- The scan finds every part from the front that occurs at all. -/
theorem take_sublist_iff {xs ys : List α} {k : ℕ} (hk : k ≤ ys.length) :
    ys.take k <+ xs ↔ k ≤ scan xs ys := by
  induction xs generalizing ys k with
  | nil =>
    rw [List.sublist_nil,List.take_eq_nil_iff,scan,Nat.le_zero]
    constructor
    · rintro (hzero | rfl)
      · exact hzero
      · exact Nat.le_zero.mp hk
    · exact Or.inl
  | cons x xs ih =>
    cases ys with
    | nil => simpa using hk
    | cons y ys =>
      cases k with
      | zero => simp
      | succ k =>
        have hk' : k ≤ ys.length := Nat.le_of_succ_le_succ hk
        by_cases h : x = y
        · subst h
          rw [List.take_succ_cons,List.cons_sublist_cons,ih hk',scan_cons_self,Nat.succ_le_succ_iff]
        · rw [scan_cons_of_ne h,← ih hk,List.take_succ_cons]
          constructor
          · intro hsub
            rcases List.sublist_cons_iff.mp hsub with hsub | ⟨r,hr,-⟩
            · exact hsub
            · exact absurd (List.cons.inj hr).1.symm h
          · exact List.Sublist.cons x

theorem scan_isGreatest (xs ys : List α) :
    IsGreatest {k | k ≤ ys.length ∧ ys.take k <+ xs} (scan xs ys) := by
  refine ⟨⟨scan_le_length xs ys,(take_sublist_iff (scan_le_length xs ys)).mpr (Nat.le_refl _)⟩,?_⟩
  rintro k ⟨hk,hsub⟩
  exact (take_sublist_iff hk).mp hsub

end Scan

section Common

def lcs : List α → List α → ℕ
  | [],_ => 0
  | _::_,[] => 0
  | x::xs,y::ys => if x = y then lcs xs ys+1 else max (lcs xs (y::ys)) (lcs (x::xs) ys)
termination_by xs ys => xs.length+ys.length

theorem exists_common (xs ys : List α) : ∃ s, s <+ xs ∧ s <+ ys ∧ s.length = lcs xs ys := by
  induction xs, ys using lcs.induct with
  | case1 ys => exact ⟨[],by simp,by simp,by simp [lcs]⟩
  | case2 x xs => exact ⟨[],by simp,by simp,by simp [lcs]⟩
  | case3 xs y ys ih =>
    obtain ⟨s,hx,hy,hlen⟩ := ih
    exact ⟨y::s,hx.cons_cons y,hy.cons_cons y,by simp [lcs,hlen]⟩
  | case4 x xs y ys h ihx ihy =>
    rw [lcs,if_neg h]
    rcases Nat.le_total (lcs (x::xs) ys) (lcs xs (y::ys)) with hle | hle
    · obtain ⟨s,hx,hy,hlen⟩ := ihx
      exact ⟨s,hx.cons x,hy,by rw [hlen,Nat.max_eq_left hle]⟩
    · obtain ⟨s,hx,hy,hlen⟩ := ihy
      exact ⟨s,hx,hy.cons y,by rw [hlen,Nat.max_eq_right hle]⟩

theorem length_le_lcs {s xs ys : List α} (hx : s <+ xs) (hy : s <+ ys) : s.length ≤ lcs xs ys := by
  induction xs, ys using lcs.induct generalizing s with
  | case1 ys => simp [List.sublist_nil.mp hx]
  | case2 x xs => simp [List.sublist_nil.mp hy]
  | case3 xs y ys ih =>
    have htail := ih hx.tail hy.tail
    rw [List.length_tail] at htail
    rw [lcs,if_pos rfl]
    omega
  | case4 x xs y ys h ihx ihy =>
    rw [lcs,if_neg h]
    rcases List.sublist_cons_iff.mp hx with hx' | ⟨r,rfl,-⟩
    · exact Nat.le_trans (ihx hx' hy) (Nat.le_max_left _ _)
    · rcases List.sublist_cons_iff.mp hy with hy' | ⟨r',hr,-⟩
      · exact Nat.le_trans (ihy hx hy') (Nat.le_max_right _ _)
      · exact absurd (List.cons.inj hr).1 h

theorem lcs_le_left (xs ys : List α) : lcs xs ys ≤ xs.length := by
  obtain ⟨s,hx,-,hlen⟩ := exists_common xs ys
  exact hlen ▸ hx.length_le

end Common

section Tables
variable {β κ : Type} [DecidableEq κ]

theorem flatten_sublist_flatten {xss tables : List (List β)} (h : List.Forall₂ (· <+ ·) xss tables) :
    xss.flatten <+ tables.flatten := by
  induction h with
  | nil => exact .slnil
  | cons hx _ ih => exact hx.append ih

theorem eq_filter_of_sublist {key : β → κ} {xs table : List β} (h : xs <+ table)
    (hkeys : (table.map key).Nodup) : xs = table.filter fun t => key t ∈ xs.map key := by
  induction h with
  | slnil => rfl
  | @cons xs table t h ih =>
    rw [List.map_cons,List.nodup_cons] at hkeys
    have hmem : key t ∉ xs.map key := fun hmem => hkeys.1 ((h.map key).subset hmem)
    rw [List.filter_cons_of_neg (by simpa using hmem)]
    exact ih hkeys.2
  | @cons_cons xs table t h ih =>
    rw [List.map_cons,List.nodup_cons] at hkeys
    rw [List.filter_cons_of_pos (by simp)]
    congr 1
    refine (ih hkeys.2).trans (List.filter_congr fun u hu => ?_)
    have hne : key u ≠ key t := fun heq => hkeys.1 (heq ▸ List.mem_map_of_mem hu)
    simp [hne]

end Tables

end Subsequences
end AntiScrapling
