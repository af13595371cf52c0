import AntiScrapling.Fingerprint
import AntiScrapling.StringMap

/-! The combination of signals, policy and token into one decision
(`internal/decision/combine.go`). -/
namespace AntiScrapling

inductive Verdict
  | allow
  | challenge
  | deny
  deriving DecidableEq, Repr

/-- `internal/types/verdict.go`. -/
structure Decision where
  verdict : Verdict
  score : ℤ
  signals : List Signal
  reasons : List String
  policyName : String
  timestamp : ℤ
  requestID : String := ""
  deriving DecidableEq, Repr

/-- `types.ScoringConfig`. -/
structure ScoringConfig where
  weights : StringMap ℤ
  challengeThreshold : ℤ
  denyThreshold : ℤ

namespace Decide

def defaultDenyThreshold : ℤ := 80
def defaultChallengeThreshold : ℤ := 50

def wrap64 (n : ℤ) : ℤ := n.bmod (2^64)

/-- `Action("")` is no action. -/
def actionNone : String := ""

structure EvalResult where
  action : String
  ruleName : String

structure RequestInfo where
  method : String := ""
  path : String := ""
  host : String := ""
  userAgent : String := ""
  remoteIP : String := ""
  ja3 : String := ""
  ja4 : String := ""
  ipCategory : String := ""

structure EvalCtx where
  score : ℤ
  signals : StringMap Signal
  requestInfo : RequestInfo
  hasValidToken : Bool

/-- The signals with the scores that the policy gives them. -/
def weigh (policy : Option ScoringConfig) (signals : List Signal) : List Signal :=
  match policy with
  | none => signals
  | some scoring => signals.map fun sig =>
    match scoring.weights.lookup sig.name with
    | some w => {sig with score := w}
    | none => sig

def totalScore (weighted : List Signal) : ℤ :=
  let total := weighted.foldl (fun total sig => wrap64 (total+sig.score)) 0
  if total < 0 then 0 else if total > 100 then 100 else total

def denyThreshold (policy : Option ScoringConfig) : ℤ :=
  match policy with
  | some scoring => if scoring.denyThreshold > 0 then scoring.denyThreshold else defaultDenyThreshold
  | none => defaultDenyThreshold

def challengeThreshold (policy : Option ScoringConfig) : ℤ :=
  match policy with
  | some scoring =>
    if scoring.challengeThreshold > 0 then scoring.challengeThreshold else defaultChallengeThreshold
  | none => defaultChallengeThreshold

/-- The signals by name; of two with one name the later one stays. -/
def signalMap (weighted : List Signal) : StringMap Signal :=
  weighted.foldl (fun m sig => m.insert sig.name sig) .empty

def verdictOf (action : String) : Verdict :=
  if action = "allow" then .allow else if action = "deny" then .deny else .challenge

def evalDecision (action ruleName : String) (score : ℤ) (signals : List Signal) (now : ℤ) : Decision where
  verdict := verdictOf action
  score := score
  signals := signals
  reasons := [ruleName]
  policyName := ruleName
  timestamp := now

/-- The verdict by score alone, and the name it is reported under. -/
def thresholdVerdict (policy : Option ScoringConfig) (score : ℤ) : Verdict × String :=
  if score ≥ denyThreshold policy then (.deny,"threshold_deny")
  else if score ≥ challengeThreshold policy then (.challenge,"threshold_challenge")
  else (.allow,"threshold_allow")

def thresholdDecision (policy : Option ScoringConfig) (score : ℤ) (signals : List Signal) (now : ℤ) :
    Decision where
  verdict := (thresholdVerdict policy score).1
  score := score
  signals := signals
  reasons := []
  policyName := (thresholdVerdict policy score).2
  timestamp := now

def evalCtx (weighted : List Signal) (requestInfo : RequestInfo) (hasValidToken : Bool) : EvalCtx where
  score := totalScore weighted
  signals := signalMap weighted
  requestInfo := requestInfo
  hasValidToken := hasValidToken

/-- `Combine`. -/
def combine (signals : List Signal) (policy : Option ScoringConfig) (requestInfo : RequestInfo)
    (hasValidToken : Bool) (evalFn : Option (EvalCtx → EvalResult)) (now : ℤ) : Decision :=
  let weighted := weigh policy signals
  let total := totalScore weighted
  if hasValidToken && total < denyThreshold policy then
    ⟨.allow,total,weighted,["token_bypass"],"token_bypass",now,""⟩
  else
    match evalFn with
    | none => thresholdDecision policy total weighted now
    | some f =>
      let result := f (evalCtx weighted requestInfo hasValidToken)
      if result.action ≠ actionNone then evalDecision result.action result.ruleName total weighted now
      else thresholdDecision policy total weighted now

/-- Without token bypass the rules come first. -/
theorem combine_rules {signals : List Signal} {policy : Option ScoringConfig} {hasValidToken : Bool}
    (h : ¬ (hasValidToken = true ∧ totalScore (weigh policy signals) < denyThreshold policy))
    (requestInfo : RequestInfo) (f : EvalCtx → EvalResult) (now : ℤ) :
    combine signals policy requestInfo hasValidToken (some f) now =
      if (f (evalCtx (weigh policy signals) requestInfo hasValidToken)).action ≠ actionNone then
        evalDecision (f (evalCtx (weigh policy signals) requestInfo hasValidToken)).action
          (f (evalCtx (weigh policy signals) requestInfo hasValidToken)).ruleName
          (totalScore (weigh policy signals)) (weigh policy signals) now
      else thresholdDecision policy (totalScore (weigh policy signals)) (weigh policy signals) now := by
  simp only [combine]
  rw [if_neg (by simpa using h)]

end Decide
end AntiScrapling
