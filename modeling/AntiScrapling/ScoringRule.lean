import AntiScrapling.ChallengeRuns
import AntiScrapling.PolicyVerdict

/-! The two scoring rules: `HandleVerify` adds up the scores that the probes give,
`Combine` the scores that the policy gives.  They are compared at the threshold that
`buildDeps` hands to the challenge service. -/
namespace AntiScrapling
namespace ScoringRule

open Challenge Decide Policy Token ByteCodec

/-- The deny threshold of `buildDeps`. -/
def serviceThreshold (cfg : PolicyConfig) : ℤ :=
  if cfg.scoring.denyThreshold ≤ 0 then 80 else cfg.scoring.denyThreshold

theorem serviceThreshold_pos (cfg : PolicyConfig) : 0 < serviceThreshold cfg := by
  unfold serviceThreshold
  split_ifs <;> omega

section Sums

def ownScore (signals : List Signal) : ℤ := (signals.map Signal.score).sum

theorem wrap64_add_wrap64 (a b : ℤ) : wrap64 (wrap64 a+b) = wrap64 (a+b) := Int.bmod_add_bmod

theorem foldl_wrap64 (signals : List Signal) (total : ℤ) :
    signals.foldl (fun total sig => wrap64 (total+sig.score)) (wrap64 total) =
      wrap64 (total+ownScore signals) := by
  induction signals generalizing total with
  | nil => simp [ownScore]
  | cons sig signals ih =>
    rw [List.foldl_cons,wrap64_add_wrap64,ih]
    simp [ownScore,Int.add_assoc]

def unclampedScore (weighted : List Signal) : ℤ :=
  weighted.foldl (fun total sig => wrap64 (total+sig.score)) 0

/-- The loop adds modulo `2^64`. -/
theorem unclampedScore_eq (weighted : List Signal) : unclampedScore weighted = wrap64 (ownScore weighted) := by
  have hsum := foldl_wrap64 weighted 0
  rwa [Int.zero_add] at hsum

theorem combine_score (signals : List Signal) (policy : Option ScoringConfig)
    (requestInfo : Decide.RequestInfo) (hasValidToken : Bool)
    (evalFn : Option (EvalCtx → EvalResult)) (now : ℤ) :
    (combine signals policy requestInfo hasValidToken evalFn now).score =
      totalScore (weigh policy signals) := by
  unfold combine
  simp only
  split_ifs with hbypass
  · rfl
  · cases evalFn with
    | none => rfl
    | some f =>
      simp only
      split_ifs <;> rfl

end Sums

section Verify
variable (sha256 : Bytes → Bytes) (J : Jwt)

/-- A request whose report is scored. -/
structure Reaches (st : State) (r : VerifyHTTP) (now : Time) (req : VerifyRequest)
    (signals : List Signal) : Prop where
  post : r.method = "POST"
  body : decodeBody r.body = some req
  id : (st.issuer.validateChallengeID req.challengeID now).1 = true
  pow : verifyPoW sha256 req.challengeID req.powSolution st.issuer.powDifficulty = true
  scored : Fingerprint.score req.fingerprintReport = .ok signals

def RefusedForScore (answer : Answer) : Prop := ∃ score reasons, answer = .tooHigh score reasons

variable {sha256}

theorem refused_iff {svc : Service} {st : State} {r : VerifyHTTP} {now signedAt : Time}
    {req : VerifyRequest} {signals : List Signal} (h : Reaches sha256 st r now req signals) :
    RefusedForScore (handleVerify sha256 J svc st r now signedAt).2 ↔
      svc.denyThreshold ≤ ownScore signals := by
  obtain ⟨hpost,hbody,hid,hpow,hscored⟩ := h
  have hanswer : (handleVerify sha256 J svc st r now signedAt).2 =
      (afterValidation sha256 J svc st.issuer.powDifficulty r req signedAt).1 := by
    have hpd := validateChallengeID_powDifficulty st.issuer req.challengeID now
    cases hv : st.issuer.validateChallengeID req.challengeID now with
    | mk valid issuer =>
      rw [hv] at hid hpd
      simp only at hid hpd
      simp [handleVerify,hpost,hbody,hv,hid,hpd]
  rw [hanswer,afterValidation,hpow,hscored]
  simp only [Bool.not_true,Bool.false_eq_true,if_false]
  by_cases hhigh : svc.denyThreshold ≤ ownScore signals
  · have hge : (signals.map Signal.score).sum ≥ svc.denyThreshold := hhigh
    rw [if_pos hge]
    exact ⟨fun _ => hhigh,fun _ => ⟨_,_,rfl⟩⟩
  · have hlt : ¬ (signals.map Signal.score).sum ≥ svc.denyThreshold := hhigh
    rw [if_neg hlt]
    refine ⟨?_,fun h => absurd h hhigh⟩
    rintro ⟨score,reasons,hanswer⟩
    split at hanswer <;> cases hanswer

end Verify

section Sample

def sampleRequest : VerifyRequest := (decodeBody sampleVerify.body).getD {}

/-- The three signals of the sample report, with a score of 50 together. -/
def sampleSignals : List Signal := [
  ⟨"webgl_unmasked_missing",20,
    "WEBGL_debug_renderer_info did not expose unmasked vendor and renderer"⟩,
  ⟨"webgl_extensions_anomaly",15,
    "WebGL extension surface is too small or matches a fake extension set"⟩,
  ⟨"webrtc_no_local_ips",15,"WebRTC STUN probe did not expose any local IP candidates"⟩]

theorem sampleVerify_reaches :
    Reaches sampleSHA256 sampleLedger.state sampleVerify (sampleStart+second) sampleRequest
      sampleSignals :=
  ⟨rfl,rfl,by decide +kernel,by decide +kernel,by decide +kernel⟩

end Sample

end ScoringRule
end AntiScrapling
