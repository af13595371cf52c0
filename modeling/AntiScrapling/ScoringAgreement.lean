import AntiScrapling.CombinedScore
import AntiScrapling.FingerprintSignals

/-! Where the two scoring rules agree.  `HandleVerify` never sees the weights of the policy, so a
report is judged as `Combine` would judge it where the weights only take the sum further away
from the threshold, on the side on which it is. -/
namespace AntiScrapling
namespace ScoringRule

open Challenge Decide Policy Token ByteCodec

section Weights

/-- No weight of the policy makes a signal count for more. -/
def NoneRaised (scoring : ScoringConfig) (signals : List Signal) : Prop :=
  ∀ sig ∈ signals, effectiveScore (some scoring) sig ≤ sig.score

/-- No weight of the policy makes a signal count for less. -/
def NoneLowered (scoring : ScoringConfig) (signals : List Signal) : Prop :=
  ∀ sig ∈ signals, sig.score ≤ effectiveScore (some scoring) sig

/-- The weights stay clear of the bounds of a machine integer. -/
def Moderate (scoring : ScoringConfig) (signals : List Signal) : Prop :=
  ∀ sig ∈ signals, -2^32 ≤ effectiveScore (some scoring) sig ∧ effectiveScore (some scoring) sig ≤ 2^32

/-- The weights cannot move a report over the threshold.  Above 100 there is nothing to
move: no clamped score gets there. -/
def Harmless (threshold : ℤ) (scoring : ScoringConfig) (signals : List Signal) : Prop :=
  ownScore signals < threshold ∧ NoneRaised scoring signals ∨
    threshold ≤ 100 ∧ threshold ≤ ownScore signals ∧ NoneLowered scoring signals

variable {scoring : ScoringConfig} {signals : List Signal}

theorem exactSum_le_ownScore (h : NoneRaised scoring signals) :
    exactSum (some scoring) signals ≤ ownScore signals :=
  List.sum_le_sum h

theorem ownScore_le_exactSum (h : NoneLowered scoring signals) :
    ownScore signals ≤ exactSum (some scoring) signals :=
  List.sum_le_sum h

theorem Moderate.inInt64 (h : Moderate scoring signals) (hlength : signals.length ≤ 2^16) :
    InInt64 (exactSum (some scoring) signals) := by
  have hupper := List.sum_le_card_nsmul (signals.map (effectiveScore (some scoring))) (2^32)
    (List.forall_mem_map.mpr fun sig hsig => (h sig hsig).2)
  have hlower := List.card_nsmul_le_sum (signals.map (effectiveScore (some scoring))) (-2^32)
    (List.forall_mem_map.mpr fun sig hsig => (h sig hsig).1)
  simp only [List.length_map,nsmul_eq_mul] at hupper hlower
  unfold InInt64 exactSum
  constructor <;> omega

end Weights

section Agreement
variable {sha256 : Bytes → Bytes} (J : Jwt)

theorem signals_length_le {report : Fingerprint.FingerprintReport} {signals : List Signal}
    (h : Fingerprint.score report = .ok signals) : signals.length ≤ 2^16 := by
  obtain rfl : Fingerprint.signals report = signals := Except.ok.inj ((Fingerprint.score_eq report).symm.trans h)
  have hlength := (Fingerprint.signals_within report).length_le
  rw [List.length_map] at hlength
  exact hlength.trans (by decide +kernel)

theorem le_clampScore_iff {threshold : ℤ} (hpos : 0 < threshold) (total : ℤ) :
    threshold ≤ clampScore total ↔ threshold ≤ 100 ∧ threshold ≤ total := by
  unfold clampScore
  split_ifs <;> omega

theorem verify_agrees_with_combine {cfg : PolicyConfig} {svc : Service} {st : State}
    {r : VerifyHTTP} {now signedAt : Time} {req : VerifyRequest} {signals : List Signal}
    (hsvc : svc.denyThreshold = serviceThreshold cfg) (h : Reaches sha256 st r now req signals)
    (hmoderate : Moderate cfg.scoring signals)
    (hharmless : Harmless (serviceThreshold cfg) cfg.scoring signals)
    (requestInfo : Decide.RequestInfo) (hasValidToken : Bool)
    (evalFn : Option (EvalCtx → EvalResult)) (decidedAt : ℤ) :
    RefusedForScore (handleVerify sha256 J svc st r now signedAt).2 ↔
      svc.denyThreshold ≤
        (combine signals (some cfg.scoring) requestInfo hasValidToken evalFn decidedAt).score := by
  have hrange := hmoderate.inInt64 (signals_length_le h.scored)
  rw [refused_iff J h,combine_score,hsvc,totalScore_eq,wrap64_eq hrange,
    le_clampScore_iff (serviceThreshold_pos cfg)]
  rcases hharmless with ⟨hbelow,hraised⟩ | ⟨hhundred,habove,hlowered⟩
  · have hsum := exactSum_le_ownScore hraised
    constructor <;> omega
  · have hsum := ownScore_le_exactSum hlowered
    constructor <;> omega

end Agreement

section Sample

/-- A policy that counts a hidden WebGL vendor for nothing. -/
def mildPolicy : PolicyConfig :=
  {samplePolicy with scoring := ⟨StringMap.empty.insert "webgl_unmasked_missing" 0,40,80⟩}

/-- With the weight 0 the sample report has a score of 30 in place of 50, and passes either way. -/
theorem verify_agrees_with_combine_sample :
    (combine sampleSignals (some mildPolicy.scoring) {} false none 0).score = 30 ∧
    (RefusedForScore (handleVerify sampleSHA256 passJwt sampleService sampleLedger.state sampleVerify
        (sampleStart+second) (sampleStart+second)).2 ↔
      (80 : ℤ) ≤ (combine sampleSignals (some mildPolicy.scoring) {} false none 0).score) := by
  have hsvc : sampleService.denyThreshold = serviceThreshold mildPolicy := rfl
  have hmoderate : Moderate mildPolicy.scoring sampleSignals := by
    unfold Moderate
    decide +kernel
  have hharmless : Harmless (serviceThreshold mildPolicy) mildPolicy.scoring sampleSignals := by
    unfold Harmless NoneRaised
    exact .inl (by decide +kernel)
  exact ⟨by decide +kernel,
    verify_agrees_with_combine passJwt hsvc sampleVerify_reaches hmoderate hharmless {} false none 0⟩

def strictPolicy : PolicyConfig :=
  {samplePolicy with scoring := ⟨StringMap.empty.insert "webgl_unmasked_missing" 100,40,80⟩}

/-- The policy gives the sample report a score of 100, and the report still passes. -/
theorem overridden_weight_ignored :
    validateConfig sampleLibraries strictPolicy = .ok () ∧
    sampleService.denyThreshold = serviceThreshold strictPolicy ∧
    Fingerprint.score sampleRequest.fingerprintReport = .ok sampleSignals ∧
    (combine sampleSignals (some strictPolicy.scoring) {} false none 0).score = 100 ∧
    (handleVerify sampleSHA256 passJwt sampleService sampleLedger.state sampleVerify
      (sampleStart+second) (sampleStart+second)).2 = .pass ⟨"__as_pass",passToken⟩ "/" :=
  ⟨by decide +kernel,rfl,sampleVerify_reaches.scored,by decide +kernel,sampleVerify_pass⟩

end Sample

end ScoringRule
end AntiScrapling
