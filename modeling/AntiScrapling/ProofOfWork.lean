import AntiScrapling.ChallengeClient
import Mathlib.Order.Bounds.Basic

/-! The proof of work on both sides. The two counts of leading zero bits are the length of
the longest prefix of zeros, and the nonce that the script's search ends with is the least
one that the service accepts. -/
namespace AntiScrapling
namespace Challenge

open ByteCodec
open UnicodeText (utf8)

section Prefixes

def zeros (bits : List Bool) : ℕ := (bits.takeWhile fun b => !b).length

theorem zeros_isGreatest (bits : List Bool) :
    IsGreatest {n | List.replicate n false <+: bits} (zeros bits) := by
  induction bits with
  | nil => simp [zeros,IsGreatest]
  | cons b bits ih =>
    cases b with
    | true =>
      refine ⟨List.nil_prefix,fun n hn => ?_⟩
      cases n with
      | zero => exact Nat.le_refl _
      | succ n => simp [List.replicate_succ] at hn
    | false =>
      have hzeros : zeros (false::bits) = zeros bits+1 := rfl
      rw [hzeros]
      refine ⟨(List.prefix_cons_inj false).mpr ih.1,fun n hn => ?_⟩
      cases n with
      | zero => exact Nat.zero_le _
      | succ n => exact Nat.succ_le_succ (ih.2 ((List.prefix_cons_inj false).mp hn))

theorem zeros_append (xs ys : List Bool) :
    zeros (xs++ys) = if zeros xs = xs.length then xs.length+zeros ys else zeros xs := by
  unfold zeros
  rw [List.takeWhile_append]
  split_ifs
  · exact List.length_append
  · rfl

end Prefixes

section Bits

def byteBits (b : UInt8) : List Bool := (List.range 8).map fun i => b.toNat.testBit (7-i)

def bitsOf (bs : Bytes) : List Bool := bs.flatMap byteBits

theorem byteBits_zeros (b : UInt8) :
    zeros (byteBits b) = leadingZeros8 b ∧ (leadingZeros8 b < 8 ↔ b ≠ 0) ∧
      leadingZeros8 b = 32-b.toNat.size-24 := by
  revert b
  exact forall_byte (by decide +kernel)

theorem zeros_bitsOf_cons (b : UInt8) (bs : Bytes) :
    zeros (bitsOf (b::bs)) = if b = 0 then 8+zeros (bitsOf bs) else leadingZeros8 b := by
  obtain ⟨hzeros,hlt,-⟩ := byteBits_zeros b
  have hlen : (byteBits b).length = 8 := rfl
  have hle : leadingZeros8 b ≤ 8 := Nat.sub_le _ _
  rw [bitsOf,List.flatMap_cons,zeros_append,hzeros,hlen]
  by_cases hb : b = 0
  · rw [if_pos hb,if_pos (by have := mt hlt.mp (not_not.mpr hb); omega)]
    rfl
  · rw [if_neg hb,if_neg (hlt.mpr hb).ne]

theorem leadingZeroBits_eq (bs : Bytes) : leadingZeroBits bs = zeros (bitsOf bs) := by
  induction bs with
  | nil => rfl
  | cons b bs ih =>
    obtain ⟨-,hlt,-⟩ := byteBits_zeros b
    have hle : leadingZeros8 b ≤ 8 := Nat.sub_le _ _
    rw [zeros_bitsOf_cons,leadingZeroBits,ih]
    by_cases hb : b = 0
    · have hfull := mt hlt.mp (not_not.mpr hb)
      rw [if_pos hb,if_neg hfull,show leadingZeros8 b = 8 by omega]
    · rw [if_neg hb,if_pos (hlt.mpr hb)]

theorem clientLeadingZeroBits_eq (bs : Bytes) : clientLeadingZeroBits bs = zeros (bitsOf bs) := by
  induction bs with
  | nil => rfl
  | cons b bs ih =>
    rw [zeros_bitsOf_cons,clientLeadingZeroBits,ih,← (byteBits_zeros b).2.2]

end Bits

section Search

/-- `nonce <= maxNonce`. A negative infinity lets no nonce through, as a negative number does. -/
def withinMax (nonce : ℕ) : JsNumber → Prop
  | .nan => False
  | .infinite => True
  | .finite q => (nonce : ℚ) ≤ q

/-- `nonce += 1` on a double: from 2^53 on the sum is rounded back. -/
def nextNonce (nonce : ℕ) : ℕ := if nonce < 2^53 then nonce+1 else nonce

/-- The loop of `solvePow` from a nonce on, for the runs that end. -/
inductive Search (solves : ℕ → Bool) (maxNonce : JsNumber) : ℕ → Option ℕ → Prop
  | done {nonce : ℕ} (h : ¬ withinMax nonce maxNonce) : Search solves maxNonce nonce none
  | found {nonce : ℕ} (h : withinMax nonce maxNonce) (hs : solves nonce = true) :
      Search solves maxNonce nonce (some nonce)
  | next {nonce : ℕ} {r : Option ℕ} (h : withinMax nonce maxNonce) (hs : solves nonce = false)
      (hr : Search solves maxNonce (nextNonce nonce) r) : Search solves maxNonce nonce r

variable {solves : ℕ → Bool} {maxNonce : JsNumber}

theorem withinMax_mono {m n : ℕ} (hmn : m ≤ n) (h : withinMax n maxNonce) : withinMax m maxNonce := by
  cases maxNonce with
  | nan => exact h
  | infinite => trivial
  | finite q => exact (Nat.cast_le.mpr hmn).trans h

theorem solves_from_next {P : ℕ → Prop} {nonce : ℕ} (hs : solves nonce = false)
    (h : ∀ i, nextNonce nonce ≤ i → P i → solves i = false) (i : ℕ) (hi : nonce ≤ i) (hP : P i) :
    solves i = false := by
  unfold nextNonce at h
  split_ifs at h with hlt
  · rcases hi.eq_or_lt with rfl | hgt
    · exact hs
    · exact h i hgt hP
  · exact h i hi hP

theorem nonce_le_nextNonce (nonce : ℕ) : nonce ≤ nextNonce nonce := by
  unfold nextNonce
  split_ifs <;> omega

theorem Search.found_least {nonce : ℕ} {r : Option ℕ} (h : Search solves maxNonce nonce r) {m : ℕ}
    (hm : r = some m) : nonce ≤ m ∧ solves m = true ∧ ∀ i, nonce ≤ i → i < m → solves i = false := by
  induction h with
  | done _ => cases hm
  | found _ hs =>
    cases hm
    exact ⟨Nat.le_refl _,hs,fun i hi hlt => absurd hlt (Nat.not_lt.mpr hi)⟩
  | next _ hs _ ih =>
    obtain ⟨hle,hsolves,hbefore⟩ := ih hm
    exact ⟨(nonce_le_nextNonce _).trans hle,hsolves,solves_from_next (P:=(· < m)) hs hbefore⟩

theorem Search.exhausted {nonce : ℕ} {r : Option ℕ} (h : Search solves maxNonce nonce r) (hr : r = none) :
    ∀ i, nonce ≤ i → withinMax i maxNonce → solves i = false := by
  induction h with
  | done hout => exact fun i hi hmax => absurd (withinMax_mono hi hmax) hout
  | found _ _ => cases hr
  | next _ hs _ ih => exact solves_from_next (P:=fun i => withinMax i maxNonce) hs (ih hr)

theorem search_searchNonce {limit : ℕ} (hlimit : limit < 2^53) (fuel nonce : ℕ)
    (hfuel : nonce+fuel = limit+1) :
    Search solves (.finite limit) nonce (searchNonce solves fuel nonce) := by
  induction fuel generalizing nonce with
  | zero =>
    refine .done fun h => ?_
    have hle : nonce ≤ limit := Nat.cast_le.mp h
    omega
  | succ fuel ih =>
    have hin : withinMax nonce (.finite limit) := Nat.cast_le.mpr (by omega)
    have hnext : nextNonce nonce = nonce+1 := if_pos (by omega)
    unfold searchNonce
    cases hs : solves nonce with
    | true => exact .found hin hs
    | false =>
      refine .next hin hs ?_
      rw [hnext]
      exact ih (nonce+1) (by omega)

end Search

section Solver
variable (sha256 : Bytes → Bytes)

/-- Whether the script takes a nonce. -/
def clientSolves (challengeID : String) (d nonce : ℕ) : Bool :=
  clientLeadingZeroBits (sha256 (utf8 (challengeID ++ toString nonce))) ≥ d

/-- The outcomes of `solvePow` with any `max_nonce`, for the runs that end. -/
inductive SolvesPow (challengeID : String) (difficulty maxNonce : JsNumber) (durationMs : ℕ) :
    Except String PowSolution → Prop
  | invalid (h : powDifficultyOf difficulty = none) :
      SolvesPow challengeID difficulty maxNonce durationMs (.error "invalid_pow_difficulty")
  | solved {d nonce : ℕ} (h : powDifficultyOf difficulty = some d)
      (hs : Search (clientSolves sha256 challengeID d) maxNonce 0 (some nonce)) :
      SolvesPow challengeID difficulty maxNonce durationMs
        (.ok ⟨nonce,bytesToHex (sha256 (utf8 (challengeID ++ toString nonce))),d,durationMs⟩)
  | exhausted {d : ℕ} (h : powDifficultyOf difficulty = some d)
      (hs : Search (clientSolves sha256 challengeID d) maxNonce 0 none) :
      SolvesPow challengeID difficulty maxNonce durationMs (.error "pow_nonce_exhausted")

theorem powDifficultyOf_nat {d : ℕ} (hd : d ≤ 256) : powDifficultyOf (.finite d) = some d := by
  have hle : (d : ℚ) ≤ 256 := by exact_mod_cast hd
  simp [powDifficultyOf,hle]

theorem solvesPow_solvePow (challengeID : String) (difficulty : JsNumber) {limit : ℕ}
    (hlimit : limit < 2^53) (durationMs : ℕ) :
    SolvesPow sha256 challengeID difficulty (.finite limit) durationMs
      (solvePow sha256 challengeID difficulty limit durationMs) := by
  unfold solvePow
  cases hd : powDifficultyOf difficulty with
  | none => exact .invalid hd
  | some d =>
    have hsearch : Search (clientSolves sha256 challengeID d) (.finite limit) 0
        (searchNonce (clientSolves sha256 challengeID d) (limit+1) 0) :=
      search_searchNonce hlimit (limit+1) 0 (Nat.zero_add _)
    simp only
    split
    · rename_i nonce hr
      have hfound : searchNonce (clientSolves sha256 challengeID d) (limit+1) 0 = some nonce := hr
      exact .solved hd (hfound ▸ hsearch)
    · rename_i hr
      have hnone : searchNonce (clientSolves sha256 challengeID d) (limit+1) 0 = none := hr
      exact .exhausted hd (hnone ▸ hsearch)

theorem clientSolves_eq (challengeID : String) (d nonce : ℕ) :
    clientSolves sha256 challengeID d nonce = verifyPoW sha256 challengeID (toString nonce) d := by
  simp only [clientSolves,verifyPoW,clientLeadingZeroBits_eq,leadingZeroBits_eq,ge_iff_le,Nat.cast_le]

theorem verifyPoW_mono {challengeID solution : String} {d d' : ℤ} (hd : d' ≤ d)
    (h : verifyPoW sha256 challengeID solution d = true) :
    verifyPoW sha256 challengeID solution d' = true := by
  simp only [verifyPoW,decide_eq_true_eq] at h ⊢
  exact le_trans hd h

/-- A search that ends, ends with the least nonce that the service accepts at the
difficulty, or with none accepted up to `max_nonce`. -/
theorem solvesPow_cases {challengeID : String} {d : ℕ} (hd : d ≤ 256) {maxNonce : JsNumber}
    {durationMs : ℕ} {r : Except String PowSolution}
    (h : SolvesPow sha256 challengeID (.finite d) maxNonce durationMs r) :
    (∃ s, r = .ok s ∧ IsLeast {n : ℕ | verifyPoW sha256 challengeID (toString n) d = true} s.nonce) ∨
      r = .error "pow_nonce_exhausted" ∧
        ∀ n, withinMax n maxNonce → verifyPoW sha256 challengeID (toString n) d = false := by
  have hpow := powDifficultyOf_nat hd
  cases h with
  | invalid hinvalid =>
    rw [hpow] at hinvalid
    cases hinvalid
  | solved hd' hs =>
    obtain rfl := Option.some.inj (hpow.symm.trans hd')
    obtain ⟨-,hsolves,hbefore⟩ := hs.found_least rfl
    rw [clientSolves_eq] at hsolves
    refine .inl ⟨_,rfl,hsolves,fun n hn => ?_⟩
    by_contra hlt
    have hfalse := hbefore n (Nat.zero_le n) (Nat.lt_of_not_le hlt)
    rw [clientSolves_eq] at hfalse
    exact Bool.eq_false_iff.mp hfalse hn
  | exhausted hd' hs =>
    obtain rfl := Option.some.inj (hpow.symm.trans hd')
    refine .inr ⟨rfl,fun n hn => ?_⟩
    rw [← clientSolves_eq]
    exact hs.exhausted rfl n (Nat.zero_le n) hn

/-- Both sides count the zeros in front of the first set bit, and the script's solution is
the service's first. -/
theorem proofOfWork_agrees :
    (∀ bs, clientLeadingZeroBits bs = leadingZeroBits bs ∧
      IsGreatest {n | List.replicate n false <+: bitsOf bs} (leadingZeroBits bs)) ∧
    (∀ (challengeID : String) (d : ℕ), d ≤ 256 → ∀ maxNonce durationMs r,
      SolvesPow sha256 challengeID (.finite d) maxNonce durationMs r →
        (∀ s, r = .ok s →
          IsLeast {n : ℕ | verifyPoW sha256 challengeID (toString n) d = true} s.nonce ∧
          ∀ d' : ℤ, d' ≤ d → verifyPoW sha256 challengeID (toString s.nonce) d' = true) ∧
        (r = .error "pow_nonce_exhausted" →
          ∀ n, withinMax n maxNonce → verifyPoW sha256 challengeID (toString n) d = false)) ∧
    ∀ (challengeID : String) (difficulty : JsNumber) (limit durationMs : ℕ), limit < 2^53 →
      SolvesPow sha256 challengeID difficulty (.finite limit) durationMs
        (solvePow sha256 challengeID difficulty limit durationMs) := by
  refine ⟨fun bs => ⟨?_,?_⟩,fun challengeID d hd maxNonce durationMs r h => ?_,
    fun challengeID difficulty limit durationMs h => solvesPow_solvePow sha256 challengeID difficulty h durationMs⟩
  · rw [clientLeadingZeroBits_eq,leadingZeroBits_eq]
  · rw [leadingZeroBits_eq]
    exact zeros_isGreatest (bitsOf bs)
  · rcases solvesPow_cases sha256 hd h with ⟨s,rfl,hleast⟩ | ⟨rfl,hnone⟩
    · refine ⟨fun s' hs => ?_,fun hr => (nomatch hr)⟩
      cases hs
      exact ⟨hleast,fun d' hd' => verifyPoW_mono sha256 hd' hleast.1⟩
    · exact ⟨fun s hs => (nomatch hs),fun _ => hnone⟩

end Solver

end Challenge
end AntiScrapling
