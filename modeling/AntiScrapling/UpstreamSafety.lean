import AntiScrapling.DecisionOrigin
import AntiScrapling.PassOrigin

/-! What gets past the daemon.  However requests interleave, a request that is forwarded, or
that an SDK adapter is told to allow, was cleared: it came with a valid token, which was earned
if this server has signed it, or a rule allowed it, or its score was too low for a challenge. -/
namespace AntiScrapling
namespace ProxyServer

open Challenge Token

section Clearance
variable (S : Server)

def Server.score (signals : List Signal) : ℤ :=
  Decide.totalScore (Decide.weigh (S.pipeline.policy.map Policy.PolicyConfig.scoring) signals)

def Server.denyThreshold : ℤ := Decide.denyThreshold (S.pipeline.policy.map Policy.PolicyConfig.scoring)

def Server.challengeThreshold : ℤ := Decide.challengeThreshold (S.pipeline.policy.map Policy.PolicyConfig.scoring)

def Server.evalCtx (c : Asked) (signals : List Signal) : Decide.EvalCtx :=
  Decide.evalCtx (Decide.weigh (S.pipeline.policy.map Policy.PolicyConfig.scoring) signals)
    (Pipeline.buildRequestInfo c.task.context) c.token

/-- The outcome of a request that gets to the application. -/
def Server.admitted : Phase → Option Outcome
  | .served q o _ => if S.respond q o.decision = .forward then some o else none
  | .replied o d => if d.verdict = .allow then some o else none
  | _ => none

/-- Why a request with outcome `o` may pass, given the call `c` that was decided. -/
inductive Clearance (A : Set Fact) (o : Outcome) (c : Asked) (signals : List Signal) : Prop
  | token (presented : o.call.token = true) (valid : S.hasValidToken o.call.checkedAt o.call.task = true)
      (earned : SignedHere S A o.call.task.presented →
        ∃ q req issued now signedAt, EarnedBy S A o.call.task.presented q req issued now signedAt)
      (score : S.score signals < S.denyThreshold)
  | rule (eval : Decide.EvalCtx → Decide.EvalResult)
      (evaluator : Pipeline.buildEvalFn S.L S.pipeline.evaluator = some eval)
      (allowed : (eval (S.evalCtx c signals)).action = "allow")
  | score (deny : S.score signals < S.denyThreshold) (challenge : S.score signals < S.challengeThreshold)

end Clearance

section Admission
variable {S : Server}

theorem verdictOf_allow {action : String} (h : Decide.verdictOf action = .allow) : action = "allow" := by
  unfold Decide.verdictOf at h
  split_ifs at h with hallow
  exact hallow

theorem thresholdVerdict_allow {policy : Option ScoringConfig} {score : ℤ}
    (h : (Decide.thresholdVerdict policy score).1 = .allow) :
    score < Decide.denyThreshold policy ∧ score < Decide.challengeThreshold policy := by
  unfold Decide.thresholdVerdict at h
  split_ifs at h with hdeny hchallenge
  exact ⟨not_le.mp hdeny,not_le.mp hchallenge⟩

theorem combine_allow {signals : List Signal} {policy : Option ScoringConfig} {info : Decide.RequestInfo} {token : Bool}
    {evalFn : Option (Decide.EvalCtx → Decide.EvalResult)} {now : ℤ}
    (h : (Decide.combine signals policy info token evalFn now).verdict = .allow) :
    (token = true ∧ Decide.totalScore (Decide.weigh policy signals) < Decide.denyThreshold policy) ∨
      (∃ eval, evalFn = some eval ∧
        (eval (Decide.evalCtx (Decide.weigh policy signals) info token)).action = "allow") ∨
      Decide.totalScore (Decide.weigh policy signals) < Decide.denyThreshold policy ∧
        Decide.totalScore (Decide.weigh policy signals) < Decide.challengeThreshold policy := by
  by_cases htoken : (token && decide (Decide.totalScore (Decide.weigh policy signals) <
      Decide.denyThreshold policy)) = true
  · exact .inl (by simpa using htoken)
  · simp only [Decide.combine,htoken,if_false,Bool.false_eq_true] at h
    cases evalFn with
    | none => exact .inr (.inr (thresholdVerdict_allow h))
    | some eval =>
      by_cases haction : (eval (Decide.evalCtx (Decide.weigh policy signals) info token)).action ≠ Decide.actionNone
      · simp only [haction,ne_eq,not_false_eq_true,if_true] at h
        exact .inr (.inl ⟨eval,rfl,verdictOf_allow h⟩)
      · simp only [haction,if_false] at h
        exact .inr (.inr (thresholdVerdict_allow h))

def Phase.reply : Phase → Option (Outcome × Decision)
  | .replied o d => some (o,d)
  | _ => none

def RepliesTrue (l : Phase) : Prop := ∀ o d, l.reply = some (o,d) → d.verdict = o.decision.verdict

theorem RepliesTrue.of_none {l : Phase} (h : l.reply = none) : RepliesTrue l := by
  intro o d hreply
  rw [h] at hreply
  cases hreply

theorem reply_evidence (S : Server) : Pool.Evidence S.step Phase.shows (fun _ _ _ => True) (fun _ _ => True)
    (fun _ => RepliesTrue) where
  stable := step_shows
  mono_shared _ _ := trivial
  mono_thread _ h := h
  next {A s s' l l' e} _ _ _ hstep := by
    refine ⟨trivial,?_⟩
    cases step_cases S hstep with
    | arrive q =>
      rcases dispatch_cases q with h | ⟨_,h⟩ | ⟨_,-,h⟩ | h | h <;> rw [h] <;> exact .of_none rfl
    | call r =>
      rcases dispatchCall_cases S r with ⟨_,h⟩ | ⟨_,_,h⟩ <;> rw [h] <;> exact .of_none rfl
    | check c e now =>
      rcases afterCheck_cases c e now with h | h | ⟨d,-,-,h⟩ <;> rw [h] <;> exact .of_none rfl
    | reply o req synthetic now requestID h =>
      intro o' d heq
      cases heq
      exact (DecideHandler.complete_kept _ _).1
    | _ => exact .of_none rfl

theorem admitted_outcome {l : Phase} {o : Outcome} (hl : RepliesTrue l) (h : S.admitted l = some o) :
    l.outcome = some o ∧ o.decision.verdict = .allow := by
  cases l with
  | served q o' entry =>
    simp only [Server.admitted] at h
    split_ifs at h with hforward
    cases h
    refine ⟨rfl,?_⟩
    cases hverdict : o.decision.verdict <;> simp [Server.respond,hverdict] at hforward ⊢
  | replied o' d =>
    simp only [Server.admitted] at h
    split_ifs at h with hallow
    cases h
    exact ⟨rfl,hl _ _ rfl ▸ hallow⟩
  | _ => cases h

/-- A server without rules. -/
def rulelessServer : Server := {challengeServer with pipeline := .new [] none 0 none}

/-- The request with the cookie goes on: its score of 50 alone would mean a challenge. -/
def bypassSchedule : List (ℕ × Event) :=
  passSchedule++[.look,.collect [⟨"tor_exit",50,"IP is a known Tor exit node"⟩] (sampleStart+60*second),
    .stamp (sampleStart+60*second),.add,.count,.prepare (sampleStart+60*second) "u",.enter,.answer].map fun e => (2,e)

set_option synthInstance.maxSize 400 in
theorem bypassSchedule_played :
    ((Pool.play rulelessServer.step (start 100) bypassSchedule).map fun p =>
      (signedBy rulelessServer (p.threads 1),[0,1].map fun i => (p.threads i).asked.isSome,
        (rulelessServer.admitted (p.threads 2)).map fun o =>
          (o.call.task.presented,o.call.token,o.decision.reasons,o.decision.score))) =
      some ([passToken],[false,false],some (passToken,true,["token_bypass"],50)) := by
  decide +kernel

/-- Two threads of the schedule ask for no decision. -/
theorem bypass_asked {p : Pool ℕ Shared Phase}
    (hrun : Steps (Pool.Moves rulelessServer.step) (start 100) ([]++bypassSchedule) p)
    (hnone₀ : (p.threads 0).asked = none) (hnone₁ : (p.threads 1).asked = none) {i : ℕ} {c : Asked}
    (hc : (p.threads i).asked = some c) : i = 2 := by
  by_contra hi
  by_cases h₀ : i = 0
  · rw [h₀,hnone₀] at hc
    cases hc
  by_cases h₁ : i = 1
  · rw [h₁,hnone₁] at hc
    cases hc
  have hmoved : i ∉ Pool.moved ([]++bypassSchedule) := by
    have hthreads : Pool.moved ([]++bypassSchedule) = {0,1,2} := by decide +kernel
    rw [hthreads]
    simp [h₀,h₁,hi]
  rw [Pool.threads_of_not_moved hrun hmoved] at hc
  cases hc

end Admission

end ProxyServer
end AntiScrapling
