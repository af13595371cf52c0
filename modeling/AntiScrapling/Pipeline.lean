import AntiScrapling.MemoryCache
import AntiScrapling.Policy
import AntiScrapling.Request

/-! The decision pipeline (`internal/pipeline/pipeline.go`): collectors, rules and cache.
SHA-256 is a parameter.  The cache holds JSON documents, and a call reads the clock
when it looks a decision up, makes it and stores it. -/
namespace AntiScrapling

/-- `SignalCollector.Collect`. -/
abbrev Collector := RequestContext → List Signal × Option String

structure Pipeline where
  collectors : List Collector
  evaluator : Option Policy.Evaluator
  cacheTTL : ℤ
  policy : Option Policy.PolicyConfig

namespace Pipeline

open ByteCodec UnicodeText GoText Decide JsonDecode

def defaultCacheTTL : ℤ := 60000000000

/-- `New`. -/
def new (collectors : List Collector) (evaluator : Option Policy.Evaluator) (cacheTTL : ℤ)
    (policy : Option Policy.PolicyConfig) : Pipeline :=
  ⟨collectors,evaluator,if cacheTTL ≤ 0 then defaultCacheTTL else cacheTTL,policy⟩

/-- The signals of all collectors in their order; errors are dropped. -/
def collectParallel (collectors : List Collector) (req : RequestContext) : List Signal :=
  collectors.flatMap fun c => (c req).1

def policyContext (ec : EvalCtx) : Policy.EvaluationContext where
  request := ⟨ec.requestInfo.method,ec.requestInfo.path,ec.requestInfo.host,ec.requestInfo.userAgent⟩
  ip := ⟨ec.requestInfo.remoteIP,ec.requestInfo.ipCategory,""⟩
  ja3 := ec.requestInfo.ja3
  ja4 := ec.requestInfo.ja4
  score := ec.score
  hasValidToken := ec.hasValidToken
  signals := ec.signals.mapValues Signal.score

def buildRequestInfo (req : RequestContext) : RequestInfo :=
  match req.request with
  | none => {remoteIP := req.remoteIP, ja3 := req.ja3, ja4 := req.ja4}
  | some r => {
      method := r.method
      path := r.path.getD ""
      host := r.host
      userAgent := r.userAgent
      remoteIP := req.remoteIP
      ja3 := req.ja3
      ja4 := req.ja4 }

section Uncached
variable (L : Policy.Libraries)

/-- The rules as `Combine` calls them: an error is no action. -/
def evalResult (eval : Policy.Evaluator) (ec : EvalCtx) : EvalResult :=
  match Policy.evaluate L eval (policyContext ec) with
  | .error _ => ⟨actionNone,""⟩
  | .ok (action,rule) => ⟨action,(rule.map Policy.PolicyRule.name).getD ""⟩

def buildEvalFn (evaluator : Option Policy.Evaluator) : Option (EvalCtx → EvalResult) :=
  evaluator.map (evalResult L)

/-- `Decide` without a cache. -/
def decideUncached (p : Pipeline) (req : RequestContext) (hasValidToken : Bool) (now : ℤ) : Decision :=
  combine (collectParallel p.collectors req) (p.policy.map Policy.PolicyConfig.scoring)
    (buildRequestInfo req) hasValidToken (buildEvalFn L p.evaluator) now

end Uncached

section Documents

def verdictText : Verdict → String
  | .allow => "ALLOW"
  | .challenge => "CHALLENGE"
  | .deny => "DENY"

def encodeInt (n : ℤ) : Json := .num (toString n)

def encodeSignal (sig : Signal) : Json := .obj [
  ("name",.str sig.name),
  ("score",encodeInt sig.score),
  ("reason",.str sig.reason)]

/-- `json.Marshal`. -/
def encodeDecision (d : Decision) : Json := .obj [
  ("verdict",.str (verdictText d.verdict)),
  ("score",encodeInt d.score),
  ("signals",.arr (d.signals.map encodeSignal)),
  ("reasons",if d.reasons.isEmpty then .null else .arr (d.reasons.map .str)),
  ("policy_name",.str d.policyName),
  ("timestamp",encodeInt d.timestamp),
  ("request_id",.str d.requestID)]

/-- A verdict; only the three texts are ever stored. -/
def verdict : Decoder Verdict
  | .str "ALLOW",_ => some .allow
  | .str "CHALLENGE",_ => some .challenge
  | .str "DENY",_ => some .deny
  | .null,old => some old
  | _,_ => none

def signal : Decoder Signal := object [
  ("name",field (·.name) (fun s v => {s with name := v}) string),
  ("score",field (·.score) (fun s v => {s with score := v}) int64),
  ("reason",field (·.reason) (fun s v => {s with reason := v}) string)]

def signals : Decoder (List Signal)
  | .arr items,_ => items.mapM fun item => signal item ⟨"",0,""⟩
  | .null,_ => some []
  | _,_ => none

def decisionFields : List (String × Decoder Decision) := [
  ("verdict",field (·.verdict) (fun d v => {d with verdict := v}) verdict),
  ("score",field (·.score) (fun d v => {d with score := v}) int64),
  ("signals",field (·.signals) (fun d v => {d with signals := v}) signals),
  ("reasons",field (·.reasons) (fun d v => {d with reasons := v}) strings),
  ("policy_name",field (·.policyName) (fun d v => {d with policyName := v}) string),
  ("timestamp",field (·.timestamp) (fun d v => {d with timestamp := v}) int64),
  ("request_id",field (·.requestID) (fun d v => {d with requestID := v}) string)]

/-- `json.Unmarshal`. -/
def decodeDecision (data : Json) : Option Decision := object decisionFields data ⟨.allow,0,[],[],"",0,""⟩

end Documents

section Cached

def userAgentOf (req : RequestContext) : String := (req.request.map HttpRequest.userAgent).getD ""

def pathOf (req : RequestContext) : String := (req.request.bind HttpRequest.path).getD ""

variable (sha256 : Bytes → Bytes)

def cacheKeyText (req : RequestContext) (hasValidToken : Bool) : String :=
  req.remoteIP ++ "\x00" ++ req.ja3 ++ "\x00" ++
    hexOfBytes ((sha256 (utf8 (userAgentOf req))).take 8) ++ "\x00" ++ pathOf req ++ "\x00" ++
    toString hasValidToken

def computeCacheKey (req : RequestContext) (hasValidToken : Bool) : String :=
  hexOfBytes (sha256 (utf8 (cacheKeyText sha256 req hasValidToken)))

structure Times where
  looked : ℤ
  decided : ℤ
  stored : ℤ

/-- One call of `Decide`. -/
structure Call where
  req : RequestContext
  hasValidToken : Bool
  times : Times

variable {σ : Type} (L : Policy.Libraries) (cache : KeyedStore σ String Json Instant)

/-- `Decide`. -/
def decide (p : Pipeline) (s : σ) (c : Call) : σ × Decision :=
  let key := computeCacheKey sha256 c.req c.hasValidToken
  let (s,data) := cache.get s key ⟨c.times.looked,0⟩
  match data.bind decodeDecision with
  | some d => (s,d)
  | none =>
    let d := decideUncached L p c.req c.hasValidToken c.times.decided
    (cache.set s key (encodeDecision d) ⟨c.times.stored,p.cacheTTL⟩,d)

def decideAll (p : Pipeline) : σ → List Call → List Decision
  | _,[] => []
  | s,c::cs =>
    let (s,d) := decide sha256 L cache p s c
    d::decideAll p s cs

end Cached

end Pipeline
end AntiScrapling
