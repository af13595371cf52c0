import Mathlib.Data.List.Basic
import Mathlib.Tactic.Common

/-! Texts that are joined with a separator, and when the parts can be read back.
Parts that do not hold the separator are determined by the joined text, up to the
difference between no part and one empty part. -/
namespace AntiScrapling
namespace SeparatedText

section Lists
variable {α : Type} {c : α} {xs ys as bs : List α}

/-- Two lists with a mark in them agree on both sides of it, where the first parts have no
other mark. -/
theorem append_cons_cancel (hxs : c ∉ xs) (hys : c ∉ ys) (h : xs++c::as = ys++c::bs) :
    xs = ys ∧ as = bs := by
  induction xs generalizing ys with
  | nil =>
    cases ys with
    | nil => exact ⟨rfl,(List.cons.inj h).2⟩
    | cons y ys => exact absurd (List.cons.inj h).1 fun heq => hys (heq ▸ List.mem_cons_self)
  | cons x xs ih =>
    cases ys with
    | nil => exact absurd (List.cons.inj h).1 fun heq => hxs (heq ▸ List.mem_cons_self)
    | cons y ys =>
      obtain ⟨rfl,htail⟩ := List.cons.inj h
      obtain ⟨rfl,hrest⟩ := ih (fun hc => hxs (List.mem_cons_of_mem _ hc))
        (fun hc => hys (List.mem_cons_of_mem _ hc)) htail
      exact ⟨rfl,hrest⟩

/-- The same where the last parts have no other mark. -/
theorem append_cons_cancel_last (has : c ∉ as) (hbs : c ∉ bs) (h : xs++c::as = ys++c::bs) :
    xs = ys ∧ as = bs := by
  have hrev := congrArg List.reverse h
  simp only [List.reverse_append,List.reverse_cons,List.append_assoc,List.singleton_append] at hrev
  obtain ⟨hlast,hfirst⟩ := append_cons_cancel (by rwa [List.mem_reverse]) (by rwa [List.mem_reverse]) hrev
  exact ⟨List.reverse_injective hfirst,List.reverse_injective hlast⟩

/-- No part of a split text holds the separator. -/
theorem notMem_of_mem_splitOn [DecidableEq α] {part : List α} (h : part ∈ xs.splitOn c) : c ∉ part := by
  induction xs generalizing part with
  | nil =>
    rw [List.splitOn_nil,List.mem_singleton] at h
    subst h
    exact List.not_mem_nil
  | cons x xs ih =>
    rw [List.splitOn,List.splitOnP_cons_eq_if_modifyHead] at h
    split_ifs at h with hx
    · rcases List.mem_cons.mp h with rfl | h
      · exact List.not_mem_nil
      · exact ih h
    · change part ∈ (xs.splitOn c).modifyHead (x::·) at h
      cases hsplit : xs.splitOn c with
      | nil =>
        rw [hsplit] at h
        cases h
      | cons first rest =>
        rw [hsplit] at h ih
        rcases List.mem_cons.mp h with rfl | h
        · rw [List.mem_cons,not_or]
          exact ⟨fun heq => hx (by simpa using heq.symm),ih List.mem_cons_self⟩
        · exact ih (List.mem_cons_of_mem _ h)

end Lists

section Separators

theorem comma_toList : ",".toList = [','] := by decide

theorem dash_toList : "-".toList = ['-'] := by decide

theorem colon_toList : ":".toList = [':'] := by decide

theorem bar_toList : "|".toList = ['|'] := by decide

end Separators

section Joined
variable {c : Char} {sep : String}

/-- A text without a given character. -/
def Without (c : Char) (s : String) : Prop := c ∉ s.toList

theorem splitOn_join (hsep : sep.toList = [c]) {xs : List String} (hxs : xs ≠ [])
    (hfree : ∀ x ∈ xs, Without c x) :
    (sep.intercalate xs).toList.splitOn c = xs.map String.toList := by
  rw [String.toList_intercalate,hsep]
  apply List.splitOn_intercalate
  · intro l hl
    obtain ⟨x,hx,rfl⟩ := List.mem_map.mp hl
    exact hfree x hx
  · simpa using hxs

/-- At least one part on each side. -/
theorem join_inj (hsep : sep.toList = [c]) {xs ys : List String} (hxs : xs ≠ []) (hys : ys ≠ [])
    (hx : ∀ x ∈ xs, Without c x) (hy : ∀ y ∈ ys, Without c y) :
    sep.intercalate xs = sep.intercalate ys ↔ xs = ys := by
  constructor
  · intro h
    have hparts : xs.map String.toList = ys.map String.toList := by
      rw [← splitOn_join hsep hxs hx,← splitOn_join hsep hys hy,h]
    exact List.map_injective_iff.mpr (fun _ _ => String.toList_inj.mp) hparts
  · rintro rfl
    rfl

theorem join_eq_empty {xs : List String} (h : sep.intercalate xs = "") (hx : ∀ x ∈ xs, x ≠ "") :
    xs = [] := by
  cases xs with
  | nil => rfl
  | cons x xs =>
    have hnil := congrArg String.toList h
    rw [String.toList_intercalate,List.map_cons] at hnil
    have hempty : x.toList = [] := by
      cases xs with
      | nil => simpa using hnil
      | cons y ys =>
        rw [List.map_cons,List.intercalate_cons_cons] at hnil
        exact (List.append_eq_nil_iff.mp (List.append_eq_nil_iff.mp hnil).1).1
    exact absurd (String.toList_inj.mp hempty) (hx x List.mem_cons_self)

/-- Any number of parts that are not empty. -/
theorem join_inj_of_ne (hsep : sep.toList = [c]) {xs ys : List String}
    (hx : ∀ x ∈ xs, x ≠ "" ∧ Without c x) (hy : ∀ y ∈ ys, y ≠ "" ∧ Without c y) :
    sep.intercalate xs = sep.intercalate ys ↔ xs = ys := by
  by_cases hxs : xs = []
  · subst hxs
    constructor
    · intro h
      exact (join_eq_empty h.symm fun y hmem => (hy y hmem).1).symm
    · rintro rfl
      rfl
  by_cases hys : ys = []
  · subst hys
    constructor
    · intro h
      exact join_eq_empty h fun x hmem => (hx x hmem).1
    · rintro rfl
      rfl
  exact join_inj hsep hxs hys (fun x h => (hx x h).2) fun y h => (hy y h).2

/-- A joined text has the characters of its parts and of the separator only. -/
theorem without_join {d : Char} (hsep : Without d sep) {xs : List String} (hx : ∀ x ∈ xs, Without d x) :
    Without d (sep.intercalate xs) := by
  unfold Without
  rw [String.toList_intercalate]
  induction xs with
  | nil => simp
  | cons x xs ih =>
    rw [List.forall_mem_cons] at hx
    cases xs with
    | nil => simpa [Without] using hx.1
    | cons y ys =>
      rw [List.map_cons,List.map_cons,List.intercalate_cons_cons,List.mem_append,List.mem_append,not_or,
        not_or]
      exact ⟨⟨hx.1,hsep⟩,ih hx.2⟩

end Joined

section Decimal

/-- Characters that are no digits do not occur in decimal numbers. -/
theorem without_decimal {c : Char} (hc : c.isDigit = false) (n : ℕ) : Without c (toString n) := by
  intro hmem
  rw [Nat.toString_eq_repr,Nat.toList_repr] at hmem
  rw [Nat.isDigit_of_mem_toDigits (by decide) (by decide) hmem] at hc
  cases hc

theorem decimal_inj {m n : ℕ} : toString m = toString n ↔ m = n := by
  constructor
  · intro h
    have hchars := congrArg String.toList h
    rw [Nat.toString_eq_repr,Nat.toString_eq_repr,Nat.toList_repr,Nat.toList_repr] at hchars
    have hvalue := congrArg (fun ds => Nat.ofDigitChars 10 ds 0) hchars
    simpa only [Nat.ofDigitChars_toDigits (by decide : 1 < 10) (by decide : 10 ≤ 10)] using hvalue
  · rintro rfl
    rfl

theorem decimal_ne_empty (n : ℕ) : toString n ≠ "" := by
  intro h
  have hchars := congrArg String.toList h
  rw [Nat.toString_eq_repr,Nat.toList_repr] at hchars
  exact Nat.toDigits_ne_nil hchars

end Decimal

section Numbers
variable {α : Type} {value : α → ℕ} {sep : String} {c : Char}

def joinNumbers (value : α → ℕ) (sep : String) (xs : List α) : String :=
  sep.intercalate (xs.map fun x => toString (value x))

theorem joinNumbers_inj (hvalue : Function.Injective value) (hsep : sep.toList = [c])
    (hc : c.isDigit = false) {xs ys : List α} :
    joinNumbers value sep xs = joinNumbers value sep ys ↔ xs = ys := by
  have hnumber (zs : List α) : ∀ z ∈ zs.map fun x => toString (value x), z ≠ "" ∧ Without c z := by
    intro z hz
    obtain ⟨x,-,rfl⟩ := List.mem_map.mp hz
    exact ⟨decimal_ne_empty _,without_decimal hc _⟩
  unfold joinNumbers
  rw [join_inj_of_ne hsep (hnumber xs) (hnumber ys)]
  refine (List.map_injective_iff.mpr fun x y h => ?_).eq_iff
  exact hvalue (decimal_inj.mp h)

theorem without_joinNumbers {d : Char} (hd : d.isDigit = false) (hsep : Without d sep) (xs : List α) :
    Without d (joinNumbers value sep xs) := by
  refine without_join hsep fun z hz => ?_
  obtain ⟨x,-,rfl⟩ := List.mem_map.mp hz
  exact without_decimal hd _

theorem joinNumbers_ne_empty {xs : List α} (hxs : xs ≠ []) : joinNumbers value sep xs ≠ "" := by
  intro h
  have hnil := join_eq_empty h fun z hz => by
    obtain ⟨x,-,rfl⟩ := List.mem_map.mp hz
    exact decimal_ne_empty _
  exact hxs (List.map_eq_nil_iff.mp hnil)

end Numbers

section Rows
variable {inner outer : String} {c d : Char}

/-- Rows of numbers: `inner` between the numbers of a row, `outer` between the rows. -/
def joinRows (inner outer : String) (rows : List (List ℕ)) : String :=
  outer.intercalate (rows.map (joinNumbers id inner))

theorem joinRows_inj (hinner : inner.toList = [c]) (houter : outer.toList = [d])
    (hc : c.isDigit = false) (hd : d.isDigit = false) (hcd : d ≠ c) {xss yss : List (List ℕ)}
    (hx : ∀ row ∈ xss, row ≠ []) (hy : ∀ row ∈ yss, row ≠ []) :
    joinRows inner outer xss = joinRows inner outer yss ↔ xss = yss := by
  have hfree : Without d inner := by simpa [Without,hinner] using hcd
  have hrow {rows : List (List ℕ)} (hrows : ∀ row ∈ rows, row ≠ []) :
      ∀ z ∈ rows.map (joinNumbers id inner), z ≠ "" ∧ Without d z := by
    intro z hz
    obtain ⟨row,hmem,rfl⟩ := List.mem_map.mp hz
    exact ⟨joinNumbers_ne_empty (hrows row hmem),without_joinNumbers hd hfree row⟩
  unfold joinRows
  rw [join_inj_of_ne houter (hrow hx) (hrow hy)]
  refine (List.map_injective_iff.mpr fun row row' h => ?_).eq_iff
  exact (joinNumbers_inj Function.injective_id hinner hc).mp h

theorem without_joinRows {e : Char} (he : e.isDigit = false) (hinner : Without e inner)
    (houter : Without e outer) (rows : List (List ℕ)) : Without e (joinRows inner outer rows) := by
  refine without_join houter fun z hz => ?_
  obtain ⟨row,-,rfl⟩ := List.mem_map.mp hz
  exact without_joinNumbers he hinner row

end Rows

end SeparatedText
end AntiScrapling
