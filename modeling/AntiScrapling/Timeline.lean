import Mathlib.Data.Int.Range

/-! A value that changes at known times, and the time for which it has a property.
Times are integers, so a duration is a number of instants. -/
namespace AntiScrapling
namespace Timeline

variable {σ : Type} {s s' : σ} {changes : List (ℤ × σ)} {a b t τ : ℤ}

/-- The value at an instant: that of the last change up to it, or the first value. -/
def valueAt (s : σ) (changes : List (ℤ × σ)) (τ : ℤ) : σ :=
  (((changes.filter fun c => c.1 ≤ τ).getLast?).map Prod.snd).getD s

/-- The number of instants from `a` to `t` at which the value has a property. -/
def timeIn (p : σ → Bool) (s : σ) (changes : List (ℤ × σ)) (a t : ℤ) : ℤ :=
  (Int.range a t).countP fun τ => p (valueAt s changes τ)

theorem valueAt_early (h : ∀ c ∈ changes, τ < c.1) : valueAt s changes τ = s := by
  have hnone : (changes.filter fun c => c.1 ≤ τ) = [] := by
    rw [List.filter_eq_nil_iff]
    intro c hc
    simpa using h c hc
  unfold valueAt
  rw [hnone]
  rfl

theorem valueAt_cons (h : b ≤ τ) : valueAt s ((b,s')::changes) τ = valueAt s' changes τ := by
  unfold valueAt
  rw [List.filter_cons_of_pos (by simpa using h),List.getLast?_cons]
  cases (changes.filter fun c => c.1 ≤ τ).getLast? <;> rfl

section Instants

theorem range_append (hab : a ≤ b) (hbt : b ≤ t) : Int.range a t = Int.range a b++Int.range b t := by
  have hlength : (t-a).toNat = (b-a).toNat+(t-b).toNat := by omega
  unfold Int.range
  rw [hlength,List.range_add,List.map_append,List.map_map]
  congr 1
  refine List.map_congr_left fun k _ => ?_
  change a+((b-a).toNat+k : ℕ) = b+(k : ℤ)
  omega

theorem range_sublist {t' : ℤ} (h : t ≤ t') : (Int.range a t).Sublist (Int.range a t') :=
  (List.range_sublist.mpr (by omega)).map _

theorem length_range (hat : a ≤ t) : ((Int.range a t).length : ℤ) = t-a := by
  unfold Int.range
  rw [List.length_map,List.length_range,Int.toNat_of_nonneg (by omega)]

end Instants

section Time
variable (p : σ → Bool)

theorem timeIn_split (hab : a ≤ b) (hbt : b ≤ t) :
    timeIn p s changes a t = timeIn p s changes a b+timeIn p s changes b t := by
  unfold timeIn
  rw [range_append hab hbt,List.countP_append]
  exact Int.natCast_add _ _

theorem timeIn_congr {changes' : List (ℤ × σ)}
    (h : ∀ τ, a ≤ τ → τ < t → valueAt s changes τ = valueAt s' changes' τ) :
    timeIn p s changes a t = timeIn p s' changes' a t := by
  unfold timeIn
  refine congrArg Nat.cast (List.countP_congr fun τ hτ => ?_)
  obtain ⟨hle,hlt⟩ := Int.mem_range_iff.mp hτ
  rw [h τ hle hlt]

/-- Before the first change the value stays. -/
theorem timeIn_early (hat : a ≤ t) (h : ∀ c ∈ changes, t ≤ c.1) :
    timeIn p s changes a t = if p s then t-a else 0 := by
  have hstay : timeIn p s changes a t = timeIn p s [] a t :=
    timeIn_congr p fun τ _ hτ => valueAt_early fun c hc => lt_of_lt_of_le hτ (h c hc)
  rw [hstay]
  change (((Int.range a t).countP fun _ => p s : ℕ) : ℤ) = _
  split_ifs with hp
  · rw [List.countP_eq_length.mpr fun _ _ => hp,length_range hat]
  · rw [List.countP_eq_zero.mpr fun _ _ => hp]
    rfl

/-- The first change ends the time of the first value. -/
theorem timeIn_cons (hab : a ≤ b) (hbt : b ≤ t) (h : ∀ c ∈ changes, b ≤ c.1) :
    timeIn p s ((b,s')::changes) a t = (if p s then b-a else 0)+timeIn p s' changes b t := by
  have hlater : timeIn p s ((b,s')::changes) b t = timeIn p s' changes b t :=
    timeIn_congr p fun τ hτ _ => valueAt_cons hτ
  rw [timeIn_split p hab hbt,hlater,timeIn_early p hab (List.forall_mem_cons.mpr ⟨le_rfl,h⟩)]

theorem timeIn_mono (s : σ) (changes : List (ℤ × σ)) (a : ℤ) {t t' : ℤ} (h : t ≤ t') :
    timeIn p s changes a t ≤ timeIn p s changes a t' :=
  Int.ofNat_le.mpr (range_sublist h).countP_le

/-- At every instant the value has the property or it does not. -/
theorem timeIn_add_not (s : σ) (changes : List (ℤ × σ)) (hat : a ≤ t) :
    timeIn p s changes a t+timeIn (fun v => !p v) s changes a t = t-a := by
  have hcount := List.length_eq_countP_add_countP (fun τ => p (valueAt s changes τ)) (l := Int.range a t)
  unfold timeIn
  rw [← length_range hat,hcount]
  simp

end Time

end Timeline
end AntiScrapling
