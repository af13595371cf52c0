import Mathlib.Data.List.DropRight
import Mathlib.Data.List.Rotate
import Mathlib.Tactic.Common

/-! Cells that are written one after the other, and from the first one again when the
last one is written.  They hold the last items of the history of all writes. -/
namespace AntiScrapling
namespace RingBuffer

variable {α : Type} {cells xs : List α}

/-- The items that are not overwritten lie in their cells: item `i` in cell `i` modulo the
size. -/
def Holds (cells xs : List α) : Prop :=
  ∀ i, i < xs.length → xs.length ≤ i+cells.length → cells[i%cells.length]? = xs[i]?

def count (cells xs : List α) : ℕ := min xs.length cells.length

def start (cells xs : List α) : ℕ := if cells.length ≤ xs.length then xs.length%cells.length else 0

theorem holds_nil (cells : List α) : Holds cells [] := by
  intro i hi
  simp at hi

theorem mod_ne_mod {i n size : ℕ} (hlt : i < n) (hle : n < i+size) : n%size ≠ i%size := by
  intro h
  have hzero := Nat.sub_mod_eq_zero_of_mod_eq h
  rw [Nat.mod_eq_of_lt (by omega)] at hzero
  omega

theorem Holds.write (h : Holds cells xs) (hpos : 0 < cells.length) (x : α) :
    Holds (cells.set (xs.length%cells.length) x) (xs++[x]) := by
  intro i hi hle
  rw [List.length_append,List.length_singleton] at hi hle
  rw [List.length_set] at hle ⊢
  by_cases hlast : i = xs.length
  · subst hlast
    have hcell : xs.length%cells.length < cells.length := Nat.mod_lt _ hpos
    rw [List.getElem?_set_self hcell]
    simp
  · have hne := mod_ne_mod (show i < xs.length by omega) (show xs.length < i+cells.length by omega)
    rw [List.getElem?_set_ne hne,List.getElem?_append_left (by omega)]
    exact h i (by omega) (by omega)

/-- The items in the order of the writes, from the oldest one on. -/
theorem Holds.read (h : Holds cells xs) {i : ℕ} (hi : i < count cells xs) :
    cells[(start cells xs+i)%cells.length]? = (xs.rtake (count cells xs))[i]? := by
  unfold count at hi ⊢
  unfold start List.rtake
  rw [List.getElem?_drop]
  by_cases hfull : cells.length ≤ xs.length
  · rw [if_pos hfull,Nat.min_eq_right hfull]
    have hcell := h (xs.length-cells.length+i) (by omega) (by omega)
    rw [← hcell,Nat.mod_add_mod]
    congr 1
    have hsum : xs.length+i = (xs.length-cells.length+i)+cells.length := by omega
    rw [hsum,Nat.add_mod_right]
  · rw [if_neg hfull,Nat.min_eq_left (by omega),Nat.sub_self]
    exact h (0+i) (by omega) (by omega)

/-- In another order, the written cells are the last items. -/
theorem Holds.perm (h : Holds cells xs) :
    (cells.take (count cells xs)).Perm (xs.rtake (count cells xs)) := by
  by_cases hfull : cells.length ≤ xs.length
  · have hcount : count cells xs = cells.length := Nat.min_eq_right hfull
    have hturn : cells.rotate (start cells xs) = xs.rtake (count cells xs) := by
      apply List.ext_getElem?
      intro i
      by_cases hi : i < cells.length
      · rw [List.getElem?_rotate hi,Nat.add_comm i]
        exact h.read (by omega)
      · rw [List.getElem?_eq_none (by rw [List.length_rotate]; omega),List.getElem?_eq_none]
        rw [List.rtake,List.length_drop]
        omega
    rw [← hturn,hcount,List.take_length]
    exact (List.rotate_perm cells _).symm
  · have hcount : count cells xs = xs.length := Nat.min_eq_left (by omega)
    have hall : cells.take xs.length = xs := by
      apply List.ext_getElem?
      intro i
      by_cases hi : i < xs.length
      · have hcell := h i hi (by omega)
        rw [Nat.mod_eq_of_lt (by omega)] at hcell
        rw [List.getElem?_take_of_lt hi,hcell]
      · rw [List.getElem?_eq_none (by rw [List.length_take]; omega),List.getElem?_eq_none (by omega)]
    rw [hcount,hall,List.rtake,Nat.sub_self,List.drop_zero]

end RingBuffer
end AntiScrapling
