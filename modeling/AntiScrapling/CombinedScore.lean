import AntiScrapling.ScoringRule
import Mathlib.Algebra.Order.BigOperators.Group.List

/-! The score of a decision as a function of the signals.  Over the mathematical integers
it grows with the signals, and the verdict with it; the machine adds modulo `2^64` and
clamps afterwards, which is the same as long as the sum does not wrap around far. -/
namespace AntiScrapling

def Verdict.severity : Verdict → ℕ
  | .allow => 0
  | .challenge => 1
  | .deny => 2

theorem Verdict.severity_injective : Function.Injective Verdict.severity := by
  intro a b h
  cases a <;> cases b <;> simp_all [severity]

namespace Decide

open ScoringRule Policy

section Exact

/-- The score of a signal after the weights of the policy. -/
def effectiveScore (policy : Option ScoringConfig) (sig : Signal) : ℤ :=
  (policy.bind fun scoring => scoring.weights.lookup sig.name).getD sig.score

/-- The sum of the effective scores, as a mathematical integer. -/
def exactSum (policy : Option ScoringConfig) (signals : List Signal) : ℤ :=
  (signals.map (effectiveScore policy)).sum

def clampScore (total : ℤ) : ℤ := if total < 0 then 0 else if total > 100 then 100 else total

/-- `Combine` from the point where the score is known. -/
def combineAt (total : ℤ) (signals : List Signal) (policy : Option ScoringConfig)
    (requestInfo : RequestInfo) (hasValidToken : Bool) (evalFn : Option (EvalCtx → EvalResult))
    (now : ℤ) : Decision :=
  let weighted := weigh policy signals
  if hasValidToken && total < denyThreshold policy then
    ⟨.allow,total,weighted,["token_bypass"],"token_bypass",now,""⟩
  else
    match evalFn with
    | none => thresholdDecision policy total weighted now
    | some f =>
      let result := f {evalCtx weighted requestInfo hasValidToken with score := total}
      if result.action ≠ actionNone then evalDecision result.action result.ruleName total weighted now
      else thresholdDecision policy total weighted now

/-- `Combine` with the scores read as mathematical integers. -/
def combineExact (signals : List Signal) (policy : Option ScoringConfig) (requestInfo : RequestInfo)
    (hasValidToken : Bool) (evalFn : Option (EvalCtx → EvalResult)) (now : ℤ) : Decision :=
  combineAt (clampScore (exactSum policy signals)) signals policy requestInfo hasValidToken evalFn now

theorem weigh_eq_map (policy : Option ScoringConfig) (signals : List Signal) :
    weigh policy signals = signals.map fun sig => {sig with score := effectiveScore policy sig} := by
  cases policy with
  | none => exact (List.map_id' signals).symm
  | some scoring =>
    refine List.map_congr_left fun sig _ => ?_
    simp only [effectiveScore,Option.bind_some]
    cases scoring.weights.lookup sig.name <;> rfl

theorem ownScore_weigh_eq (policy : Option ScoringConfig) (signals : List Signal) :
    ownScore (weigh policy signals) = exactSum policy signals := by
  rw [weigh_eq_map,ownScore,List.map_map]
  rfl

theorem totalScore_eq (policy : Option ScoringConfig) (signals : List Signal) :
    totalScore (weigh policy signals) = clampScore (wrap64 (exactSum policy signals)) := by
  rw [← ownScore_weigh_eq,← unclampedScore_eq]
  rfl

theorem combine_eq_combineAt (signals : List Signal) (policy : Option ScoringConfig)
    (requestInfo : RequestInfo) (hasValidToken : Bool) (evalFn : Option (EvalCtx → EvalResult)) (now : ℤ) :
    combine signals policy requestInfo hasValidToken evalFn now =
      combineAt (clampScore (wrap64 (exactSum policy signals))) signals policy requestInfo hasValidToken
        evalFn now := by
  rw [← totalScore_eq]
  rfl

def InInt64 (n : ℤ) : Prop := -2^63 ≤ n ∧ n < 2^63

theorem wrap64_eq {n : ℤ} (h : InInt64 n) : wrap64 n = n := by
  obtain ⟨hlo,hhi⟩ := h
  apply Int.bmod_eq_of_le <;> omega

theorem combine_eq_combineExact {policy : Option ScoringConfig} {signals : List Signal}
    (h : InInt64 (exactSum policy signals)) (requestInfo : RequestInfo) (hasValidToken : Bool)
    (evalFn : Option (EvalCtx → EvalResult)) (now : ℤ) :
    combine signals policy requestInfo hasValidToken evalFn now =
      combineExact signals policy requestInfo hasValidToken evalFn now := by
  rw [combine_eq_combineAt,wrap64_eq h,combineExact]

end Exact

section Monotone

theorem clampScore_mono {m n : ℤ} (h : m ≤ n) : clampScore m ≤ clampScore n := by
  unfold clampScore
  split_ifs <;> omega

/-- The verdict without a rule. -/
def plainVerdict (policy : Option ScoringConfig) (hasValidToken : Bool) (total : ℤ) : Verdict :=
  if hasValidToken && total < denyThreshold policy then .allow else (thresholdVerdict policy total).1

theorem plainVerdict_mono (policy : Option ScoringConfig) (hasValidToken : Bool) {m n : ℤ} (h : m ≤ n) :
    (plainVerdict policy hasValidToken m).severity ≤ (plainVerdict policy hasValidToken n).severity := by
  unfold plainVerdict thresholdVerdict
  simp only [Bool.and_eq_true,decide_eq_true_eq]
  by_cases hvalid : hasValidToken = true <;> simp only [hvalid,true_and,false_and,if_false,Bool.false_eq_true] <;>
    split_ifs <;> simp only [Verdict.severity] <;> omega

theorem combineAt_plain {evalFn : Option (EvalCtx → EvalResult)}
    (hnone : ∀ f ∈ evalFn, ∀ ctx, (f ctx).action = actionNone) (total : ℤ) (signals : List Signal)
    (policy : Option ScoringConfig) (requestInfo : RequestInfo) (hasValidToken : Bool) (now : ℤ) :
    (combineAt total signals policy requestInfo hasValidToken evalFn now).score = total ∧
    (combineAt total signals policy requestInfo hasValidToken evalFn now).verdict =
      plainVerdict policy hasValidToken total := by
  unfold combineAt plainVerdict
  by_cases hbypass : (hasValidToken && decide (total < denyThreshold policy)) = true
  · rw [if_pos hbypass,if_pos hbypass]
    exact ⟨rfl,rfl⟩
  · rw [if_neg hbypass,if_neg hbypass]
    cases evalFn with
    | none => exact ⟨rfl,rfl⟩
    | some f =>
      simp only [hnone f rfl,ne_eq,not_true_eq_false,if_false]
      exact ⟨rfl,rfl⟩

/-- `more` has, in any order, a signal for every one of `signals` that counts at least as
much, and besides them signals that do not lower the score. -/
def Covers (policy : Option ScoringConfig) (signals more : List Signal) : Prop :=
  ∃ matched extra, more.Perm (matched++extra) ∧
    List.Forall₂ (fun a b => effectiveScore policy a ≤ effectiveScore policy b) signals matched ∧
    ∀ sig ∈ extra, 0 ≤ effectiveScore policy sig

theorem Covers.exactSum_le {policy : Option ScoringConfig} {signals more : List Signal}
    (h : Covers policy signals more) : exactSum policy signals ≤ exactSum policy more := by
  obtain ⟨matched,extra,hperm,hmatched,hextra⟩ := h
  have hle : exactSum policy signals ≤ exactSum policy matched :=
    List.Forall₂.sum_le_sum ((List.forall₂_map_left_iff.mpr (List.forall₂_map_right_iff.mpr hmatched)))
  have hpos : 0 ≤ exactSum policy extra := by
    apply List.sum_nonneg
    intro n hn
    obtain ⟨sig,hsig,rfl⟩ := List.mem_map.mp hn
    exact hextra sig hsig
  have hsplit : exactSum policy more = exactSum policy matched+exactSum policy extra := by
    unfold exactSum
    rw [(hperm.map _).sum_eq,List.map_append,List.sum_append]
  omega

theorem covers_of_perm (policy : Option ScoringConfig) {signals more : List Signal}
    (h : more.Perm signals) : Covers policy signals more :=
  ⟨signals,[],by simpa using h,List.forall₂_same.mpr fun _ _ => le_rfl,by simp⟩

variable {policy : Option ScoringConfig} {evalFn : Option (EvalCtx → EvalResult)}

theorem combineExact_mono (hnone : ∀ f ∈ evalFn, ∀ ctx, (f ctx).action = actionNone)
    {signals more : List Signal} (h : Covers policy signals more) (requestInfo : RequestInfo)
    (hasValidToken : Bool) (now : ℤ) :
    (combineExact signals policy requestInfo hasValidToken evalFn now).score ≤
      (combineExact more policy requestInfo hasValidToken evalFn now).score ∧
    (combineExact signals policy requestInfo hasValidToken evalFn now).verdict.severity ≤
      (combineExact more policy requestInfo hasValidToken evalFn now).verdict.severity := by
  have hle := clampScore_mono h.exactSum_le
  obtain ⟨hscore,hverdict⟩ := combineAt_plain hnone (clampScore (exactSum policy signals)) signals policy
    requestInfo hasValidToken now
  obtain ⟨hscore',hverdict'⟩ := combineAt_plain hnone (clampScore (exactSum policy more)) more policy
    requestInfo hasValidToken now
  rw [combineExact,combineExact,hscore,hscore',hverdict,hverdict']
  exact ⟨hle,plainVerdict_mono policy hasValidToken hle⟩

theorem combineExact_perm (hnone : ∀ f ∈ evalFn, ∀ ctx, (f ctx).action = actionNone)
    {signals more : List Signal} (h : signals.Perm more) (requestInfo : RequestInfo)
    (hasValidToken : Bool) (now : ℤ) :
    (combineExact signals policy requestInfo hasValidToken evalFn now).score =
      (combineExact more policy requestInfo hasValidToken evalFn now).score ∧
    (combineExact signals policy requestInfo hasValidToken evalFn now).verdict =
      (combineExact more policy requestInfo hasValidToken evalFn now).verdict := by
  have hle := combineExact_mono hnone (covers_of_perm policy h.symm) requestInfo hasValidToken now
  have hge := combineExact_mono hnone (covers_of_perm policy h) requestInfo hasValidToken now
  exact ⟨le_antisymm hle.1 hge.1,Verdict.severity_injective (le_antisymm hle.2 hge.2)⟩

/-- Where no rule decides, more signals or higher scores never lower the score or soften the
verdict.  The same holds of the machine's arithmetic where the two sums fit. -/
theorem combine_mono (hnone : ∀ f ∈ evalFn, ∀ ctx, (f ctx).action = actionNone)
    {signals more : List Signal} (h : Covers policy signals more) (requestInfo : RequestInfo)
    (hasValidToken : Bool) (now : ℤ) :
    ((combineExact signals policy requestInfo hasValidToken evalFn now).score ≤
        (combineExact more policy requestInfo hasValidToken evalFn now).score ∧
      (combineExact signals policy requestInfo hasValidToken evalFn now).verdict.severity ≤
        (combineExact more policy requestInfo hasValidToken evalFn now).verdict.severity) ∧
    (InInt64 (exactSum policy signals) → InInt64 (exactSum policy more) →
      (combine signals policy requestInfo hasValidToken evalFn now).score ≤
        (combine more policy requestInfo hasValidToken evalFn now).score ∧
      (combine signals policy requestInfo hasValidToken evalFn now).verdict.severity ≤
        (combine more policy requestInfo hasValidToken evalFn now).verdict.severity) := by
  have hexact := combineExact_mono hnone h requestInfo hasValidToken now
  refine ⟨hexact,fun hfits hfits' => ?_⟩
  rw [combine_eq_combineExact hfits,combine_eq_combineExact hfits']
  exact hexact

theorem combine_mono_sample :
    Covers none [⟨"residential_ip",-10,""⟩] [⟨"ja3_known_scraper",80,""⟩,⟨"residential_ip",-10,""⟩] ∧
    (combine [⟨"residential_ip",-10,""⟩] none {} true none 0).verdict.severity ≤
      (combine [⟨"ja3_known_scraper",80,""⟩,⟨"residential_ip",-10,""⟩] none {} true none 0).verdict.severity := by
  have hcovers : Covers none [⟨"residential_ip",-10,""⟩]
      [⟨"ja3_known_scraper",80,""⟩,⟨"residential_ip",-10,""⟩] :=
    ⟨[⟨"residential_ip",-10,""⟩],[⟨"ja3_known_scraper",80,""⟩],List.Perm.swap _ _ _,
      .cons le_rfl .nil,by decide⟩
  have hnone : ∀ f ∈ (none : Option (EvalCtx → EvalResult)), ∀ ctx, (f ctx).action = actionNone := by simp
  have hmono := combine_mono hnone hcovers {} true 0
  exact ⟨hcovers,(hmono.2 (by unfold InInt64; decide) (by unfold InInt64; decide)).2⟩

end Monotone

section Wrapping

/-- The score is the clamped sum exactly if the sum fits 64 bits, or wraps around from above
to at least 100, or from below to at most 0. -/
theorem score_exact_iff (policy : Option ScoringConfig) (signals : List Signal) (requestInfo : RequestInfo)
    (hasValidToken : Bool) (evalFn : Option (EvalCtx → EvalResult)) (now : ℤ) :
    (combine signals policy requestInfo hasValidToken evalFn now).score =
        clampScore (exactSum policy signals) ↔
      InInt64 (exactSum policy signals) ∨
      (2^63 ≤ exactSum policy signals ∧ 100 ≤ wrap64 (exactSum policy signals)) ∨
      (exactSum policy signals < -2^63 ∧ wrap64 (exactSum policy signals) ≤ 0) := by
  rw [combine_score,totalScore_eq]
  generalize exactSum policy signals = total
  have hfits := @wrap64_eq total
  unfold clampScore InInt64 at *
  split_ifs <;> omega

def heavyPolicy : PolicyConfig where
  version := 1
  tokenTTL := "24h"
  default := "challenge"
  rules := []
  scoring := ⟨(StringMap.empty.insert "ja3_known_scraper" (2^63-1)).insert "ja4_unknown" (2^63-1),40,80⟩

def heavySignals : List Signal := [⟨"ja3_known_scraper",80,""⟩,⟨"ja4_unknown",20,""⟩]

/-- Either signal alone denies; where both fire the sum wraps around to -2 and the request is
allowed. -/
theorem heavy_weights_allow :
    validateConfig sampleLibraries heavyPolicy = .ok () ∧
    (∀ sig ∈ heavySignals, (combine [sig] (some heavyPolicy.scoring) {} false none 0).verdict = .deny) ∧
    clampScore (exactSum (some heavyPolicy.scoring) heavySignals) = 100 ∧
    (combine heavySignals (some heavyPolicy.scoring) {} false none 0).score = 0 ∧
    (combine heavySignals (some heavyPolicy.scoring) {} false none 0).verdict = .allow := by
  decide +kernel

end Wrapping

end Decide
end AntiScrapling
