import Mathlib.Data.Int.Log
import Mathlib.Data.Rat.Floor
import Mathlib.Algebra.Order.Field.Rat
import Mathlib.Algebra.Group.Int.Even
import Mathlib.Data.Nat.Prime.Basic
import Mathlib.Tactic.NormNum
import Mathlib.Tactic.Linarith
import Mathlib.Tactic.Positivity
import Mathlib.Tactic.FieldSimp
import Mathlib.Tactic.Ring

/-! Doubles as rationals.  An operation gives the double next to its exact result, and of
two the one with an even last place.  Overflow, infinities and NaN are left out: a number may
be as large as it likes. -/
namespace AntiScrapling
namespace Binary64

section Integers
variable {q : ℚ} {n : ℤ}

/-- The integer next to `q`; of two, the even one. -/
def roundEven (q : ℚ) : ℤ :=
  if q-⌊q⌋ < 1/2 then ⌊q⌋
  else if 1/2 < q-⌊q⌋ then ⌊q⌋+1
  else if Even ⌊q⌋ then ⌊q⌋ else ⌊q⌋+1

theorem roundEven_cases (q : ℚ) : roundEven q = ⌊q⌋ ∨ roundEven q = ⌊q⌋+1 ∧ 1/2 ≤ q-⌊q⌋ := by
  unfold roundEven
  split_ifs with hlow hhigh heven
  · exact .inl rfl
  · exact .inr ⟨rfl,hhigh.le⟩
  · exact .inl rfl
  · exact .inr ⟨rfl,not_lt.mp hlow⟩

theorem le_roundEven (h : n ≤ q) : n ≤ roundEven q := by
  have hfloor : n ≤ ⌊q⌋ := Int.le_floor.mpr h
  rcases roundEven_cases q with hq | ⟨hq,-⟩ <;> omega

theorem roundEven_le (h : q ≤ n) : roundEven q ≤ n := by
  rcases roundEven_cases q with hq | ⟨hq,hhalf⟩
  · rw [hq]
    exact_mod_cast (Int.floor_le q).trans h
  · have hlt : (⌊q⌋ : ℚ) < n := by linarith
    have := Int.cast_lt.mp hlt
    omega

theorem roundEven_eq (h : |q-n| < 1/2) : roundEven q = n := by
  obtain ⟨hlow,hhigh⟩ := abs_lt.mp h
  by_cases hq : (n : ℚ) ≤ q
  · have hfloor : ⌊q⌋ = n := Int.floor_eq_iff.mpr ⟨hq,by linarith⟩
    rcases roundEven_cases q with h | ⟨-,h⟩
    · rw [h,hfloor]
    · rw [hfloor] at h
      linarith
  · have hfloor : ⌊q⌋ = n-1 := Int.floor_eq_iff.mpr ⟨by push_cast; linarith,by push_cast; linarith⟩
    have hfrac : 1/2 < q-⌊q⌋ := by
      rw [hfloor]
      push_cast
      linarith
    rw [roundEven,if_neg (not_lt.mpr hfrac.le),if_pos hfrac,hfloor]
    omega

end Integers

section Rounding
variable {q t : ℚ}

/-- The exponent of the last place of the doubles next to `q`. -/
def exponent (q : ℚ) : ℤ := max (Int.log 2 |q|-52) (-1074)

/-- The double next to `q`. -/
def nearest (q : ℚ) : ℚ := roundEven (q/2^exponent q)*2^exponent q

def IsDouble (q : ℚ) : Prop := ∃ m e : ℤ, |m| ≤ 2^53 ∧ -1074 ≤ e ∧ q = m*2^e

theorem two_zpow_pos (e : ℤ) : (0 : ℚ) < 2^e := zpow_pos two_pos e

theorem zpow_le {e e' : ℤ} (h : e ≤ e') : (2 : ℚ)^e ≤ 2^e' := zpow_le_zpow_right₀ one_le_two h

theorem exists_multiple {e e' : ℤ} (h : e ≤ e') (m : ℤ) : ∃ n : ℤ, (m : ℚ)*2^e' = n*2^e := by
  refine ⟨m*2^(e'-e).toNat,?_⟩
  have hpow : (2 : ℚ)^e' = 2^(e'-e).toNat*2^e := by
    rw [← zpow_natCast,← zpow_add₀ two_ne_zero]
    congr 1
    omega
  rw [hpow]
  push_cast
  ring

theorem le_nearest_multiple {n : ℤ} (h : n*2^exponent q ≤ q) : n*2^exponent q ≤ nearest q := by
  have hpos := two_zpow_pos (exponent q)
  have hn : n ≤ roundEven (q/2^exponent q) := le_roundEven ((le_div_iff₀ hpos).mpr h)
  exact mul_le_mul_of_nonneg_right (Int.cast_le.mpr hn) hpos.le

theorem nearest_multiple_le {n : ℤ} (h : q ≤ n*2^exponent q) : nearest q ≤ n*2^exponent q := by
  have hpos := two_zpow_pos (exponent q)
  have hn : roundEven (q/2^exponent q) ≤ n := roundEven_le ((div_le_iff₀ hpos).mpr h)
  exact mul_le_mul_of_nonneg_right (Int.cast_le.mpr hn) hpos.le

theorem zpow_log_le (hq : 0 < q) : (2 : ℚ)^Int.log 2 |q| ≤ q := by
  rw [abs_of_pos hq]
  exact_mod_cast Int.zpow_log_le_self (b := 2) one_lt_two hq

/-- A number of fewer places than `q` is at most the power of two that starts the range of `q`. -/
theorem le_start {m e : ℤ} (hm : |m| ≤ 2^53) (he : -1074 ≤ e) (hexp : ¬ exponent q ≤ e) :
    (m : ℚ)*2^e ≤ 2^Int.log 2 |q| := by
  have hm' : (m : ℚ) ≤ 2^53 := by exact_mod_cast (le_abs_self m).trans hm
  have hlog : 53+e ≤ Int.log 2 |q| := by
    unfold exponent at hexp
    omega
  calc (m : ℚ)*2^e ≤ 2^53*2^e := mul_le_mul_of_nonneg_right hm' (two_zpow_pos e).le
    _ = 2^(53+e) := by rw [zpow_add₀ two_ne_zero]; norm_num
    _ ≤ 2^Int.log 2 |q| := zpow_le hlog

theorem start_multiple {e : ℤ} (he : -1074 ≤ e) (hexp : ¬ exponent q ≤ e) :
    ∃ n : ℤ, (2 : ℚ)^Int.log 2 |q| = n*2^exponent q := by
  have hle : exponent q ≤ Int.log 2 |q| := by
    unfold exponent at hexp ⊢
    omega
  obtain ⟨n,hn⟩ := exists_multiple hle 1
  exact ⟨n,by rwa [Int.cast_one,one_mul] at hn⟩

theorem le_nearest (ht : IsDouble t) (hq : 0 < q) (h : t ≤ q) : t ≤ nearest q := by
  obtain ⟨m,e,hm,he,rfl⟩ := ht
  by_cases hexp : exponent q ≤ e
  · obtain ⟨n,hn⟩ := exists_multiple hexp m
    rw [hn] at h ⊢
    exact le_nearest_multiple h
  · obtain ⟨n,hn⟩ := start_multiple he hexp
    have hstart : (2 : ℚ)^Int.log 2 |q| ≤ nearest q := by
      rw [hn]
      exact le_nearest_multiple (hn ▸ zpow_log_le hq)
    exact (le_start hm he hexp).trans hstart

theorem nearest_le (ht : IsDouble t) (hq : 0 < q) (h : q ≤ t) : nearest q ≤ t := by
  obtain ⟨m,e,hm,he,rfl⟩ := ht
  by_cases hexp : exponent q ≤ e
  · obtain ⟨n,hn⟩ := exists_multiple hexp m
    rw [hn] at h ⊢
    exact nearest_multiple_le h
  -- it is the power of two itself
  · obtain ⟨n,hn⟩ := start_multiple he hexp
    have heq : (m : ℚ)*2^e = 2^Int.log 2 |q| := le_antisymm (le_start hm he hexp) ((zpow_log_le hq).trans h)
    rw [heq,hn] at h ⊢
    exact nearest_multiple_le h

theorem nearest_zero : nearest 0 = 0 := by simp [nearest,roundEven]

/-- A comparison with a rounded number differs from the exact one only if the double is the
rounded number itself. -/
theorem lt_nearest_iff (ht : IsDouble t) (hq : 0 ≤ q) : t < nearest q ↔ t < q ∧ t ≠ nearest q := by
  rcases hq.eq_or_lt with rfl | hq
  · rw [nearest_zero]
    exact ⟨fun h => ⟨h,h.ne⟩,fun h => h.1⟩
  constructor
  · intro h
    exact ⟨lt_of_not_ge fun hle => absurd h (not_lt.mpr (nearest_le ht hq hle)),h.ne⟩
  · rintro ⟨hlt,hne⟩
    exact lt_of_le_of_ne (le_nearest ht hq hlt.le) hne

theorem nearest_of_isDouble (ht : IsDouble q) (hq : 0 ≤ q) : nearest q = q := by
  rcases hq.eq_or_lt with rfl | hq
  · exact nearest_zero
  · exact le_antisymm (nearest_le ht hq le_rfl) (le_nearest ht hq le_rfl)

/-- A natural number of at most 53 bits is a double. -/
theorem isDouble_natCast {n : ℕ} (h : n ≤ 2^53) : IsDouble n :=
  ⟨n,0,by rw [abs_of_nonneg (Int.natCast_nonneg n)]; exact_mod_cast h,by decide,by simp⟩

theorem isDouble_abs (h : IsDouble q) : IsDouble |q| := by
  obtain ⟨m,e,hm,he,rfl⟩ := h
  refine ⟨|m|,e,(abs_abs m).trans_le hm,he,?_⟩
  rw [abs_mul,abs_of_pos (two_zpow_pos e),Int.cast_abs]

/-- The denominator of a double is a power of two. -/
theorem exists_den_eq (h : IsDouble q) : ∃ k, q.den = 2^k := by
  obtain ⟨m,e,-,he,rfl⟩ := h
  obtain ⟨n,hn⟩ := exists_multiple he m
  have hquotient : (n : ℚ)*2^(-1074 : ℤ) = Rat.divInt n ((2^1074 : ℕ) : ℤ) := by
    rw [zpow_neg,Rat.divInt_eq_div,div_eq_mul_inv]
    norm_cast
  rw [hn,hquotient]
  have hdvd := Int.natCast_dvd_natCast.mp (Rat.den_dvd n ((2^1074 : ℕ) : ℤ))
  obtain ⟨k,-,hk⟩ := (Nat.dvd_prime_pow Nat.prime_two).mp hdvd
  exact ⟨k,hk⟩

theorem isDouble_nearest (q : ℚ) : IsDouble (nearest q) := by
  refine ⟨roundEven (q/2^exponent q),exponent q,?_,le_max_right _ _,rfl⟩
  have hpos := two_zpow_pos (exponent q)
  have hbound : |q| ≤ 2^53*2^exponent q := by
    by_cases hq : q = 0
    · rw [hq,abs_zero]
      exact (mul_pos (by norm_num) (two_zpow_pos _)).le
    · have hlt : |q| < (2 : ℚ)^(Int.log 2 |q|+1) := by
        exact_mod_cast Int.lt_zpow_succ_log_self (b := 2) one_lt_two |q|
      calc |q| ≤ 2^(Int.log 2 |q|+1) := hlt.le
        _ ≤ 2^(53+exponent q) := zpow_le (by unfold exponent; omega)
        _ = 2^53*2^exponent q := by rw [zpow_add₀ two_ne_zero]; norm_num
  obtain ⟨hlow,hhigh⟩ := abs_le.mp hbound
  refine abs_le.mpr ⟨le_roundEven ((le_div_iff₀ hpos).mpr ?_),roundEven_le ((div_le_iff₀ hpos).mpr ?_)⟩
  · push_cast
    linarith
  · push_cast
    linarith

/-- The rounding of a number whose range is known. -/
theorem nearest_eq {e n : ℤ} (hlow : 2^e ≤ q) (hhigh : q < 2^(e+1)) (he : -1022 ≤ e)
    (hn : |q/2^(e-52)-n| < 1/2) : nearest q = n*2^(e-52) := by
  have hq : 0 < q := (two_zpow_pos e).trans_le hlow
  have hlog : Int.log 2 |q| = e := by
    rw [abs_of_pos hq]
    refine le_antisymm ?_ ((Int.zpow_le_iff_le_log one_lt_two hq).mp (by exact_mod_cast hlow))
    have hlt : Int.log 2 q < e+1 := (Int.lt_zpow_iff_log_lt one_lt_two hq).mp (by exact_mod_cast hhigh)
    omega
  have hexp : exponent q = e-52 := by
    unfold exponent
    omega
  rw [nearest,hexp,roundEven_eq hn]

end Rounding

structure Double where
  value : ℚ
  isDouble : IsDouble value

namespace Double

def ofRat (q : ℚ) : Double := ⟨nearest q,isDouble_nearest q⟩

def ofNat (n : ℕ) : Double := ofRat n

instance : Div Double := ⟨fun x y => ofRat (x.value/y.value)⟩

instance : Sub Double := ⟨fun x y => ofRat (x.value-y.value)⟩

def abs (x : Double) : Double := ⟨|x.value|,isDouble_abs x.isDouble⟩

instance : LT Double := ⟨fun x y => x.value < y.value⟩

instance (x y : Double) : Decidable (x < y) := inferInstanceAs (Decidable (x.value < y.value))

theorem ofNat_value {n : ℕ} (h : n ≤ 2^53) : (ofNat n).value = n :=
  nearest_of_isDouble (isDouble_natCast h) (Nat.cast_nonneg n)

theorem div_value (x y : Double) : (x/y).value = nearest (x.value/y.value) := rfl

theorem lt_iff {x y : Double} : x < y ↔ x.value < y.value := Iff.rfl

end Double

end Binary64
end AntiScrapling
