import AntiScrapling.Pipeline

/-! The verdict against the answer that the policy documents: the action of the first rule
that holds, or the default, where a signal that did not fire reads as 0. -/
namespace AntiScrapling
namespace Policy

variable (L : Libraries)

section Documented

def documentedMatch (ctx : EvaluationContext) (cr : CompiledRule) : Bool :=
  match Cel.eval celValues (calls L (some 0)) (buildActivation ctx) cr.program with
  | .ok (.bool b) => b
  | _ => false

def policyAnswer (e : Evaluator) (ctx : EvaluationContext) : String :=
  match e.rules.find? (documentedMatch L ctx) with
  | some cr => cr.rule.action
  | none => e.config.default

/-- Every rule up to the first one that holds has a truth value when `signals` has only
the signals that fired. -/
def Settled (ctx : EvaluationContext) : List CompiledRule → Prop
  | [] => True
  | cr::rules => ∃ b, evalProgram L ctx cr = .ok (.bool b) ∧ (b = false → Settled ctx rules)

end Documented

section Rules

theorem indexSignals_refines (n : ℤ) (m : StringMap ℤ) (key : String) :
    Cel.Refines (indexSignals none m key) (indexSignals (some n) m key) := by
  intro v hv
  unfold indexSignals at hv ⊢
  cases hm : m.lookup key with
  | none => simp [hm] at hv
  | some k => simpa [hm] using hv

theorem calls_refines (n : ℤ) (f : String) (vs : List Value) :
    Cel.Refines (calls L none f vs) (calls L (some n) f vs) := by
  unfold calls
  split
  · exact indexSignals_refines n _ _
  · exact indexSignals_refines n _ _
  · exact .refl _
  · exact .refl _

theorem documentedMatch_of_eval {ctx : EvaluationContext} {cr : CompiledRule} {b : Bool}
    (h : evalProgram L ctx cr = .ok (.bool b)) : documentedMatch L ctx cr = b := by
  have hdoc := Cel.eval_refines celValues (calls_refines L 0) (buildActivation ctx) cr.program _ h
  simp [documentedMatch,hdoc]

theorem evaluateRules_settled {ctx : EvaluationContext} {rules : List CompiledRule}
    (h : Settled L ctx rules) :
    evaluateRules L ctx rules = .ok ((rules.find? (documentedMatch L ctx)).map CompiledRule.rule) := by
  induction rules with
  | nil => rfl
  | cons cr rules ih =>
    obtain ⟨b,hb,hrest⟩ := h
    rw [evaluateRules,hb,List.find?_cons,documentedMatch_of_eval L hb]
    cases b with
    | true => rfl
    | false => exact ih (hrest rfl)

theorem evaluateRules_unsettled {ctx : EvaluationContext} {rules : List CompiledRule}
    (h : ¬ Settled L ctx rules) : ∃ e, evaluateRules L ctx rules = .error e := by
  induction rules with
  | nil => exact absurd trivial h
  | cons cr rules ih =>
    rw [evaluateRules]
    split
    · exact ⟨_,rfl⟩
    next hb => exact absurd ⟨true,hb,by simp⟩ h
    next hb => exact ih fun hrest => h ⟨false,hb,fun _ => hrest⟩
    · exact ⟨_,rfl⟩

theorem evaluate_settled {e : Evaluator} {ctx : EvaluationContext} (h : Settled L ctx e.rules) :
    ∃ rule, evaluate L e ctx = .ok (policyAnswer L e ctx,rule) := by
  rw [evaluate,evaluateRules_settled L h,policyAnswer]
  cases e.rules.find? (documentedMatch L ctx) with
  | none => exact ⟨none,rfl⟩
  | some cr => exact ⟨some cr.rule,rfl⟩

end Rules

section Validated

theorem compileRule_rule {rule : PolicyRule} {cr : CompiledRule} (h : compileRule L rule = .ok cr) :
    cr.rule = rule := by
  unfold compileRule at h
  split at h
  · cases h
  · split at h
    · cases h
    · split at h
      · cases h
      · injection h with h
        rw [← h]

theorem validateRules_ok {i : ℕ} {rules : List PolicyRule} (h : validateRules L i rules = .ok ()) (j : ℕ) :
    ∃ crs, compileRules L j rules = .ok crs ∧ ∀ cr ∈ crs, cr.rule.action ∈ validActions := by
  induction rules generalizing i j with
  | nil => exact ⟨[],rfl,by simp⟩
  | cons rule rules ih =>
    rw [validateRules] at h
    split_ifs at h with haction
    cases hc : compileRule L rule with
    | error e => simp [hc] at h
    | ok cr =>
      rw [hc] at h
      obtain ⟨crs,hcrs,hactions⟩ := ih h (j+1)
      refine ⟨cr::crs,by simp [compileRules,hc,hcrs,Except.map],?_⟩
      intro c hmem
      rcases List.mem_cons.mp hmem with rfl | hmem
      · rwa [compileRule_rule L hc]
      · exact hactions c hmem

theorem validateConfig_ok {cfg : PolicyConfig} (h : validateConfig L cfg = .ok ()) :
    ∃ e, newEvaluator L cfg = .ok e ∧ ∀ ctx, policyAnswer L e ctx ∈ validActions := by
  unfold validateConfig at h
  split_ifs at h with _ hdefault
  split at h
  · cases h
  · obtain ⟨crs,hcrs,hactions⟩ := validateRules_ok L h 0
    refine ⟨⟨cfg,crs⟩,by simp [newEvaluator,hcrs,Except.map],fun ctx => ?_⟩
    unfold policyAnswer
    split
    next cr hcr => exact hactions cr (List.mem_of_find?_eq_some hcr)
    · exact hdefault

end Validated

end Policy

namespace Pipeline

open Decide Policy

variable (L : Libraries)

def rulesContext (p : Pipeline) (req : RequestContext) (hasValidToken : Bool) : EvaluationContext :=
  policyContext (evalCtx (weigh (p.policy.map PolicyConfig.scoring) (collectParallel p.collectors req))
    (buildRequestInfo req) hasValidToken)

/-- The branch of `Combine` for a valid token. -/
def TokenBypass (p : Pipeline) (req : RequestContext) (hasValidToken : Bool) : Prop :=
  hasValidToken = true ∧
    (rulesContext p req hasValidToken).score < denyThreshold (p.policy.map PolicyConfig.scoring)

def scoreVerdict (p : Pipeline) (req : RequestContext) (hasValidToken : Bool) : Verdict :=
  (thresholdVerdict (p.policy.map PolicyConfig.scoring) (rulesContext p req hasValidToken).score).1

theorem decideUncached_verdict {p : Pipeline} {e : Evaluator} (he : p.evaluator = some e)
    {req : RequestContext} {hasValidToken : Bool} (h : ¬ TokenBypass p req hasValidToken) (now : ℤ) :
    (decideUncached L p req hasValidToken now).verdict =
      match evaluate L e (rulesContext p req hasValidToken) with
      | .error _ => scoreVerdict p req hasValidToken
      | .ok (action,_) =>
        if action ≠ actionNone then verdictOf action else scoreVerdict p req hasValidToken := by
  rw [decideUncached,he,buildEvalFn,Option.map_some,combine_rules h]
  have hresult : evalResult L e (evalCtx (weigh (p.policy.map PolicyConfig.scoring)
      (collectParallel p.collectors req)) (buildRequestInfo req) hasValidToken) =
      match evaluate L e (rulesContext p req hasValidToken) with
      | .error _ => ⟨actionNone,""⟩
      | .ok (action,rule) => ⟨action,(rule.map PolicyRule.name).getD ""⟩ := rfl
  rw [hresult]
  rcases evaluate L e (rulesContext p req hasValidToken) with err | ⟨action,rule⟩
  · rfl
  · simp only
    split_ifs <;> rfl

/-- Outside the token bypass the verdict is the policy's answer exactly if the rules up to
the first one that holds have a truth value, or the score gives the same verdict anyway. -/
theorem verdict_eq_policy_iff {cfg : PolicyConfig} (hvalid : validateConfig L cfg = .ok ()) :
    ∃ e, newEvaluator L cfg = .ok e ∧
      ∀ p : Pipeline, p.evaluator = some e → p.policy = some cfg →
        ∀ req hasValidToken now, ¬ TokenBypass p req hasValidToken →
          ((decideUncached L p req hasValidToken now).verdict =
              verdictOf (policyAnswer L e (rulesContext p req hasValidToken)) ↔
            Settled L (rulesContext p req hasValidToken) e.rules ∨
            scoreVerdict p req hasValidToken =
              verdictOf (policyAnswer L e (rulesContext p req hasValidToken))) := by
  obtain ⟨e,he,hactions⟩ := validateConfig_ok L hvalid
  refine ⟨e,he,fun p hp _ req hasValidToken now hbypass => ?_⟩
  rw [decideUncached_verdict L hp hbypass]
  generalize rulesContext p req hasValidToken = ctx
  by_cases hsettled : Settled L ctx e.rules
  · obtain ⟨rule,heval⟩ := evaluate_settled L hsettled
    have hne : policyAnswer L e ctx ≠ actionNone := by
      intro hnone
      have hmem := hactions ctx
      rw [hnone] at hmem
      exact absurd hmem (by decide)
    simp [heval,hne,hsettled]
  · obtain ⟨err,herr⟩ := evaluateRules_unsettled L hsettled
    simp [evaluate,herr,Except.map,hsettled]

end Pipeline

namespace Policy

section Sample

def scraperExpr : String :=
  "signals['ja3_known_scraper'] > 0 || signals['runtime_error_stack_pw_signature'] > 0"

def fired (name : String) : Cel.Expr Value :=
  .call "_>_" [.call "_[_]" [.ident "signals",.const (.string name)],.const (.int 0)]

/-- cel-go on the expressions of the sample policies. -/
def sampleLibraries : Libraries where
  compile text :=
    if text = "request.path == \"/healthz\"" then
      .ok (.call "_==_" [.call "_._" [.ident "request",.const (.string "path")],
        .const (.string "/healthz")])
    else if text = scraperExpr then
      .ok (.or (fired "ja3_known_scraper") (fired "runtime_error_stack_pw_signature"))
    else if text = "request.method == 'POST'" then
      .ok (.call "_==_" [.call "_._" [.ident "request",.const (.string "method")],
        .const (.string "POST")])
    else .error "Syntax error"
  program ast := .ok ast
  call function args := match function,args with
    | "_==_",[.string a,.string b] => .ok (.bool (a == b))
    | "_>_",[.int a,.int b] => .ok (.bool (a > b))
    | "_._",[.map entries,.string key] => match entries.lookup key with
      | some v => .ok v
      | none => .error ("no such key: " ++ key)
    | _,_ => .error "no such overload"
  goType _ := "int64"
  pathMatch _ _ := some false
  parseDuration text := if text = "24h" then .ok 86400000000000 else .error "invalid duration"
  isPrint c := ' ' ≤ c ∧ c ≤ '~'

/-- Two of the rules of `policies/default.yaml`. -/
def samplePolicy : PolicyConfig where
  version := 1
  tokenTTL := "24h"
  default := "challenge"
  rules := [⟨"allow-healthcheck",StringMap.empty.insert "path" (.str "/healthz"),"allow"⟩,
    ⟨"deny-known-scraper-libs",StringMap.empty.insert "expr" (.str scraperExpr),"deny"⟩]
  scoring := ⟨StringMap.empty.insert "ja3_known_scraper" 100,40,80⟩

def sampleEvaluator : Evaluator where
  config := samplePolicy
  rules := [⟨⟨"allow-healthcheck",StringMap.empty.insert "path" (.str "/healthz"),"allow"⟩,
      .call "_==_" [.call "_._" [.ident "request",.const (.string "path")],.const (.string "/healthz")]⟩,
    ⟨⟨"deny-known-scraper-libs",StringMap.empty.insert "expr" (.str scraperExpr),"deny"⟩,
      .or (fired "ja3_known_scraper") (fired "runtime_error_stack_pw_signature")⟩]

theorem samplePolicy_valid : validateConfig sampleLibraries samplePolicy = .ok () := by
  decide +kernel

theorem newEvaluator_samplePolicy : newEvaluator sampleLibraries samplePolicy = .ok sampleEvaluator := rfl

/-- A pipeline whose collectors find nothing. -/
def samplePipeline : Pipeline := .new [fun _ => ([],none)] (some sampleEvaluator) 0 (some samplePolicy)

def requestFor (path method : String) : RequestContext where
  request := some ⟨method,"example.com",some path,.empty,"192.0.2.1:52311"⟩
  remoteIP := "192.0.2.1"

theorem not_tokenBypass_false (p : Pipeline) (req : RequestContext) : ¬ p.TokenBypass req false :=
  fun h => Bool.false_ne_true h.1

/-- The health check is settled by its rule. -/
theorem verdict_eq_policy_healthz :
    (Pipeline.decideUncached sampleLibraries samplePipeline (requestFor "/healthz" "GET") false 0).verdict =
      Decide.verdictOf (policyAnswer sampleLibraries sampleEvaluator
        (samplePipeline.rulesContext (requestFor "/healthz" "GET") false)) := by
  obtain ⟨e,he,h⟩ := Pipeline.verdict_eq_policy_iff sampleLibraries samplePolicy_valid
  obtain rfl : sampleEvaluator = e := Except.ok.inj (newEvaluator_samplePolicy.symm.trans he)
  refine (h samplePipeline rfl rfl _ _ _ (not_tokenBypass_false _ _)).mpr (.inl ⟨true,rfl,?_⟩)
  exact fun hfalse => absurd hfalse (by decide)

/-- No signal fired, so no rule of the policy holds and its default is to challenge; but
the second rule fails on the absent signals, and the request is allowed. -/
theorem absent_signal_allows :
    validateConfig sampleLibraries samplePolicy = .ok () ∧
    newEvaluator sampleLibraries samplePolicy = .ok sampleEvaluator ∧
    ¬ samplePipeline.TokenBypass (requestFor "/" "GET") false ∧
    policyAnswer sampleLibraries sampleEvaluator (samplePipeline.rulesContext (requestFor "/" "GET") false) =
      "challenge" ∧
    (Pipeline.decideUncached sampleLibraries samplePipeline (requestFor "/" "GET") false 0).verdict = .allow :=
  ⟨samplePolicy_valid,newEvaluator_samplePolicy,not_tokenBypass_false _ _,by decide +kernel,
    by decide +kernel⟩

end Sample

end Policy
end AntiScrapling
