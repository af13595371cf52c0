import AntiScrapling.Audit
import AntiScrapling.CacheRuns
import AntiScrapling.ChallengeReturn
import AntiScrapling.DecideHandler
import AntiScrapling.DecisionCache
import AntiScrapling.PassFlow
import AntiScrapling.ThreadPool

/-! The daemon as a whole (`cmd/antiscrapling/wire.go`): the main handler, the challenge
endpoints and the decision API, each request in a thread of its own, over the stores that
they share.  Every access to a store and every reading of the clock is one step.  The
signals of a request are whatever the collectors return. -/
namespace AntiScrapling

namespace ProxyServer

open ByteCodec Token Challenge
open UnicodeText (utf8)

section Metrics

/-- The counters of `internal/observability/metrics.go` by their labels. -/
structure Metrics where
  decisions : Verdict × String → ℕ := fun _ => 0
  signals : String → ℕ := fun _ => 0
  challenges : String → ℕ := fun _ => 0
  passTokens : String → ℕ := fun _ => 0

def increment {κ : Type} [DecidableEq κ] (counter : κ → ℕ) (k : κ) : κ → ℕ :=
  Function.update counter k (counter k+1)

namespace Metrics

def recordDecision (m : Metrics) (d : Decision) : Metrics :=
  { m with
    decisions := increment m.decisions (d.verdict,d.reasons.head?.getD "")
    signals := (d.signals.map Signal.name).foldl increment m.signals }

def recordChallenge (m : Metrics) (outcome : String) : Metrics :=
  {m with challenges := increment m.challenges outcome}

def recordPassToken (m : Metrics) (outcome : String) : Metrics :=
  {m with passTokens := increment m.passTokens outcome}

end Metrics

end Metrics

section Requests

/-- A request that the mux of the main listener hands to a handler. -/
structure Incoming where
  request : HttpRequest
  /-- `r.URL.EscapedPath()`. -/
  escapedPath : String
  capture : Option Bytes
  /-- The first JSON value of the body. -/
  body : Option Json
  /-- `r.URL.String()` and `r.URL.RequestURI()`. -/
  url : String
  requestURI : String

/-- What `HandleVerify` reads of it. -/
def Incoming.verifyHTTP (q : Incoming) : VerifyHTTP :=
  ⟨q.request.method,q.body,q.request.remoteAddr,q.request.userAgent⟩

inductive Task
  | main (q : Incoming)
  | api (req : DecideHandler.DecisionRequest) (synthetic : HttpRequest)

namespace Task

def context : Task → RequestContext
  | .main q => ProxyHandler.buildRequestContext q.request q.capture
  | .api req synthetic => DecideHandler.requestContext req synthetic

def presented : Task → String
  | .main q => ProxyHandler.getCookie q.request ProxyHandler.defaultCookieName
  | .api req _ => req.token

def verifyContext : Task → VerifyContext
  | .main q => ⟨clientIP q.request.remoteAddr,q.request.userAgent,"",""⟩
  | .api req _ => DecideHandler.verifyContext req

end Task

/-- A call of `Decide`, with the time at which the token was verified. -/
structure Asked where
  task : Task
  checkedAt : Time
  token : Bool

/-- Where a decision comes from: made from signals and stored, or found in the cache. -/
inductive Source
  | computed (signals : List Signal) (decided stamped : Time)
  | cached (looked : Time)
  deriving DecidableEq, Repr

structure Outcome where
  call : Asked
  decision : Decision
  source : Source

end Requests

section Threads

inductive Phase
  | idle
  -- `HandleChallenge`
  | drawing (q : Incoming)
  | storing (q : Incoming) (id : String) (issued : Time)
  | page (q : Incoming) (id : String) (issued : Time)
  -- `HandleVerify`
  | finding (q : Incoming) (req : VerifyRequest)
  | found (q : Incoming) (req : VerifyRequest) (issued : Time)
  | aged (q : Incoming) (req : VerifyRequest) (issued now : Time)
  | valid (q : Incoming) (req : VerifyRequest) (issued now : Time)
  | verified (q : Incoming) (req : VerifyRequest) (issued now signedAt : Time)
  | refused (q : Incoming) (answer : Answer)
  -- `Decide`
  | authenticating (t : Task)
  | looking (c : Asked)
  | checking (c : Asked) (e : CacheEntry Json)
  | removing (c : Asked)
  | collecting (c : Asked)
  | stamping (c : Asked) (signals : List Signal) (decided : Time)
  | adding (c : Asked) (signals : List Signal) (decided stamped : Time)
  | decided (o : Outcome)
  -- the rest of the main handler
  | counted (q : Incoming) (o : Outcome)
  | entering (q : Incoming) (o : Outcome) (entry : Audit.AuditEntry)
  | audited (q : Incoming) (o : Outcome) (entry : Audit.AuditEntry)
  | served (q : Incoming) (o : Outcome) (entry : Audit.AuditEntry)
  -- the rest of the API, and answers that touch none of the stores
  | replied (o : Outcome) (d : Decision)
  | rejected (answer : DecideHandler.Response)
  | elsewhere (q : Incoming)

inductive Event
  | arrive (q : Incoming)
  | call (r : DecideHandler.ApiRequest)
  | draw (id : String) (now : Time)
  | store
  | find
  | age (now : Time)
  | retire
  | sign (signedAt : Time)
  | verify (now : Time)
  | look
  | check (now : Time)
  | remove
  | collect (signals : List Signal) (now : Time)
  | stamp (now : Time)
  | add
  | count
  | prepare (now : Time) (uuid : String)
  | enter
  | answer
  | reply (now : Time) (requestID : String)

structure Shared where
  /-- The issued challenge IDs. -/
  ids : LruCache String Time
  /-- The decision cache. -/
  cache : MemoryCache Json
  metrics : Metrics := {}
  audit : Audit.Ring

/-- Configuration and libraries of the daemon. -/
structure Server where
  sha256 : Bytes → Bytes
  J : Jwt
  L : Policy.Libraries
  apiLibraries : DecideHandler.Libraries
  queryEscape : String → String
  service : Service
  powDifficulty : ℤ
  verifier : Verifier
  pipeline : Pipeline
  /-- Whether a target is configured. -/
  upstream : Bool

inductive Response
  | forward
  | redirect (location : String)
  | error (text : String) (status : ℕ)
  deriving DecidableEq, Repr

namespace Server
variable (S : Server)

def hasValidToken (now : Time) : Task → Bool
  | .main q => ProxyHandler.hasValidToken S.J S.verifier now q.request q.capture
  | .api req _ => DecideHandler.hasValidToken S.J (some S.verifier) now req

/-- Only the main handler counts tokens. -/
def countToken (m : Metrics) (now : Time) : Task → Metrics
  | .main q =>
    if (Task.main q).presented ≠ "" then
      m.recordPassToken (if S.hasValidToken now (.main q) then "verified" else "rejected")
    else m
  | .api _ _ => m

/-- The handler that gets a request, up to its first access to a store. -/
def dispatch (q : Incoming) : Phase :=
  match muxHandler q.escapedPath with
  | .challenge => .drawing q
  | .verify =>
    if q.request.method ≠ "POST" then .refused q (.error 405 "method not allowed")
    else
      match decodeBody q.body with
      | none => .refused q (.error 400 "bad request")
      | some req => .finding q req
  | .main => .authenticating (.main q)
  | _ => .elsewhere q

def dispatchCall (r : DecideHandler.ApiRequest) : Phase :=
  if r.method ≠ "POST" then .rejected (.error "method not allowed" 405)
  else
    match r.body with
    | none => .rejected (.error "bad request: empty body" 400)
    | some body =>
      match S.apiLibraries.decode body with
      | .error e => .rejected (.error ("bad request: " ++ e) 400)
      | .ok req =>
        if req.remoteIP = "" then .rejected (.error "bad request: remote_ip required" 400)
        else
          match DecideHandler.syntheticRequest S.apiLibraries req with
          | .error e => .rejected (.error ("internal error: " ++ e) 500)
          | .ok synthetic => .authenticating (.api req synthetic)

/-- The answer to a verify request whose ID was accepted. -/
def verifyAnswer (q : Incoming) (req : VerifyRequest) (signedAt : Time) : Answer :=
  (afterValidation S.sha256 S.J S.service S.powDifficulty q.verifyHTTP req signedAt).1

def key (c : Asked) : String := Pipeline.computeCacheKey S.sha256 c.task.context c.token

/-- `Combine` on the signals of a request. -/
def decision (c : Asked) (signals : List Signal) (now : Time) : Decision :=
  Decide.combine signals (S.pipeline.policy.map Policy.PolicyConfig.scoring)
    (Pipeline.buildRequestInfo c.task.context) c.token (Pipeline.buildEvalFn S.L S.pipeline.evaluator) now

/-- What `Set` puts into the cache. -/
def cacheEntry (c : Asked) (signals : List Signal) (decided stamped : Time) : CacheEntry Json :=
  MemoryCache.stored (Pipeline.encodeDecision (S.decision c signals decided)) ⟨stamped,S.pipeline.cacheTTL⟩

def auditEntry (q : Incoming) (d : Decision) (now : Time) (uuid : String) : Audit.AuditEntry where
  timestamp := now
  requestID := if Header.get q.request.header "X-Request-Id" = "" then uuid
    else Header.get q.request.header "X-Request-Id"
  ip := HostPort.hostOf q.request.remoteAddr
  url := q.url
  verdict := some d.verdict
  score := d.score
  signals := d.signals
  reasons := d.reasons

def respond (q : Incoming) (d : Decision) : Response :=
  match d.verdict with
  | .allow => if S.upstream then .forward else .error "no upstream configured" 502
  | .challenge => .redirect ("/__as/challenge?origin=" ++ S.queryEscape q.requestURI)
  | .deny => .error "forbidden" 403

/-- What is left to do once the clock was read for an entry of the cache. -/
def afterCheck (c : Asked) (e : CacheEntry Json) (now : Time) : Phase :=
  if e.expiresAt.any (· < now) then .removing c
  else
    match Pipeline.decodeDecision e.value with
    | some d => .decided ⟨c,d,.cached now⟩
    | none => .collecting c

/-- One step of a request; `none` if the event is not its next one. -/
def step (s : Shared) : Phase → Event → Option (Shared × Phase)
  | .idle,.arrive q => some (s,dispatch q)
  | .idle,.call r => some (s,S.dispatchCall r)
  | .drawing q,.draw id now => some (s,.storing q id now)
  | .storing q id issued,.store => some ({s with ids := s.ids.add id issued},.page q id issued)
  | .finding q req,.find =>
    match s.ids.get req.challengeID with
    | (none,ids) => some ({s with ids},.refused q (.error 400 "invalid or expired challenge_id"))
    | (some issued,ids) => some ({s with ids},.found q req issued)
  | .found q req issued,.age now => some (s,.aged q req issued now)
  | .aged q req issued now,.retire => some ({s with ids := s.ids.remove req.challengeID},
      if expired issued now then .refused q (.error 400 "invalid or expired challenge_id")
      else .valid q req issued now)
  | .valid q req issued now,.sign signedAt => some (s,.verified q req issued now signedAt)
  | .authenticating t,.verify now =>
    some ({s with metrics := S.countToken s.metrics now t},.looking ⟨t,now,S.hasValidToken now t⟩)
  | .looking c,.look =>
    match LruCache.get s.cache (S.key c) with
    | (none,cache) => some ({s with cache},.collecting c)
    | (some e,cache) => some ({s with cache},.checking c e)
  | .checking c e,.check now => some (s,afterCheck c e now)
  | .removing c,.remove => some ({s with cache := s.cache.remove (S.key c)},.collecting c)
  | .collecting c,.collect signals now => some (s,.stamping c signals now)
  | .stamping c signals decided,.stamp now => some (s,.adding c signals decided now)
  | .adding c signals decided stamped,.add =>
    some ({s with cache := s.cache.add (S.key c) (S.cacheEntry c signals decided stamped)},
      .decided ⟨c,S.decision c signals decided,.computed signals decided stamped⟩)
  | .decided o,.count =>
    match o.call.task with
    | .main q => some ({s with metrics := s.metrics.recordDecision o.decision},.counted q o)
    | .api _ _ => none
  | .counted q o,.prepare now uuid => some (s,.entering q o (auditEntry q o.decision now uuid))
  | .entering q o entry,.enter => some ({s with audit := s.audit.record entry},.audited q o entry)
  | .audited q o entry,.answer =>
    some ({s with metrics := if o.decision.verdict = .challenge then s.metrics.recordChallenge "issued" else s.metrics},
      .served q o entry)
  | .decided o,.reply now requestID =>
    match o.call.task with
    | .main _ => none
    | .api _ _ => some (s,.replied o (DecideHandler.complete ⟨0,⟨0,0,0⟩,now,requestID⟩ o.decision))
  | _,_ => none

end Server

def start (cacheSize : ℤ) : Pool ℕ Shared Phase where
  shared := ⟨LruCache.new 4096,MemoryCache.newMemory cacheSize,{},Audit.newAudit 0⟩
  threads _ := .idle

end Threads

section Inversion
variable (S : Server)

inductive Move (s : Shared) : Phase → Event → Shared → Phase → Prop
  | arrive (q : Incoming) : Move s .idle (.arrive q) s (Server.dispatch q)
  | call (r : DecideHandler.ApiRequest) : Move s .idle (.call r) s (S.dispatchCall r)
  | draw (q : Incoming) (id : String) (now : Time) : Move s (.drawing q) (.draw id now) s (.storing q id now)
  | store (q : Incoming) (id : String) (issued : Time) :
      Move s (.storing q id issued) .store {s with ids := s.ids.add id issued} (.page q id issued)
  | missing (q : Incoming) (req : VerifyRequest) (ids : LruCache String Time)
      (h : s.ids.get req.challengeID = (none,ids)) : Move s (.finding q req) .find {s with ids}
        (.refused q (.error 400 "invalid or expired challenge_id"))
  | find (q : Incoming) (req : VerifyRequest) (issued : Time) (ids : LruCache String Time)
      (h : s.ids.get req.challengeID = (some issued,ids)) : Move s (.finding q req) .find {s with ids}
        (.found q req issued)
  | age (q : Incoming) (req : VerifyRequest) (issued now : Time) :
      Move s (.found q req issued) (.age now) s (.aged q req issued now)
  | expire (q : Incoming) (req : VerifyRequest) (issued now : Time) (h : expired issued now = true) :
      Move s (.aged q req issued now) .retire {s with ids := s.ids.remove req.challengeID}
        (.refused q (.error 400 "invalid or expired challenge_id"))
  | retire (q : Incoming) (req : VerifyRequest) (issued now : Time) (h : expired issued now = false) :
      Move s (.aged q req issued now) .retire {s with ids := s.ids.remove req.challengeID} (.valid q req issued now)
  | sign (q : Incoming) (req : VerifyRequest) (issued now signedAt : Time) :
      Move s (.valid q req issued now) (.sign signedAt) s (.verified q req issued now signedAt)
  | verify (t : Task) (now : Time) : Move s (.authenticating t) (.verify now)
      {s with metrics := S.countToken s.metrics now t} (.looking ⟨t,now,S.hasValidToken now t⟩)
  | miss (c : Asked) (cache : MemoryCache Json) (h : LruCache.get s.cache (S.key c) = (none,cache)) :
      Move s (.looking c) .look {s with cache} (.collecting c)
  | look (c : Asked) (e : CacheEntry Json) (cache : MemoryCache Json)
      (h : LruCache.get s.cache (S.key c) = (some e,cache)) :
      Move s (.looking c) .look {s with cache} (.checking c e)
  | check (c : Asked) (e : CacheEntry Json) (now : Time) :
      Move s (.checking c e) (.check now) s (Server.afterCheck c e now)
  | remove (c : Asked) :
      Move s (.removing c) .remove {s with cache := s.cache.remove (S.key c)} (.collecting c)
  | collect (c : Asked) (signals : List Signal) (now : Time) :
      Move s (.collecting c) (.collect signals now) s (.stamping c signals now)
  | stamp (c : Asked) (signals : List Signal) (decided now : Time) :
      Move s (.stamping c signals decided) (.stamp now) s (.adding c signals decided now)
  | add (c : Asked) (signals : List Signal) (decided stamped : Time) :
      Move s (.adding c signals decided stamped) .add
        {s with cache := s.cache.add (S.key c) (S.cacheEntry c signals decided stamped)}
        (.decided ⟨c,S.decision c signals decided,.computed signals decided stamped⟩)
  | count (q : Incoming) (o : Outcome) (h : o.call.task = .main q) :
      Move s (.decided o) .count {s with metrics := s.metrics.recordDecision o.decision} (.counted q o)
  | prepare (q : Incoming) (o : Outcome) (now : Time) (uuid : String) :
      Move s (.counted q o) (.prepare now uuid) s (.entering q o (Server.auditEntry q o.decision now uuid))
  | enter (q : Incoming) (o : Outcome) (entry : Audit.AuditEntry) :
      Move s (.entering q o entry) .enter {s with audit := s.audit.record entry} (.audited q o entry)
  | answer (q : Incoming) (o : Outcome) (entry : Audit.AuditEntry) :
      Move s (.audited q o entry) .answer
        {s with metrics := if o.decision.verdict = .challenge then s.metrics.recordChallenge "issued" else s.metrics}
        (.served q o entry)
  | reply (o : Outcome) (req : DecideHandler.DecisionRequest) (synthetic : HttpRequest) (now : Time)
      (requestID : String) (h : o.call.task = .api req synthetic) : Move s (.decided o) (.reply now requestID) s
        (.replied o (DecideHandler.complete ⟨0,⟨0,0,0⟩,now,requestID⟩ o.decision))

theorem step_cases {s s' : Shared} {l l' : Phase} {e : Event} (h : S.step s l e = some (s',l')) :
    Move S s l e s' l' := by
  unfold Server.step at h
  split at h
  case h_5 =>
    split at h <;> obtain ⟨rfl,rfl⟩ := Prod.mk.inj (Option.some.inj h)
    · exact .missing _ _ _ ‹_›
    · exact .find _ _ _ _ ‹_›
  case h_7 =>
    obtain ⟨rfl,rfl⟩ := Prod.mk.inj (Option.some.inj h)
    split_ifs with hexp
    · exact .expire _ _ _ _ hexp
    · exact .retire _ _ _ _ (by simpa using hexp)
  case h_10 =>
    split at h <;> obtain ⟨rfl,rfl⟩ := Prod.mk.inj (Option.some.inj h)
    · exact .miss _ _ ‹_›
    · exact .look _ _ _ ‹_›
  case h_16 =>
    split at h
    · obtain ⟨rfl,rfl⟩ := Prod.mk.inj (Option.some.inj h)
      exact .count _ _ ‹_›
    · cases h
  case h_20 =>
    split at h
    · cases h
    · obtain ⟨rfl,rfl⟩ := Prod.mk.inj (Option.some.inj h)
      exact .reply _ _ _ _ _ ‹_›
  case h_21 => cases h
  all_goals
    obtain ⟨rfl,rfl⟩ := Prod.mk.inj (Option.some.inj h)
    constructor

/-- Where a request on the main listener starts. -/
theorem dispatch_cases (q : Incoming) :
    Server.dispatch q = .drawing q ∨ (∃ answer, Server.dispatch q = .refused q answer) ∨
      (∃ req, decodeBody q.body = some req ∧ Server.dispatch q = .finding q req) ∨
      Server.dispatch q = .authenticating (.main q) ∨ Server.dispatch q = .elsewhere q := by
  unfold Server.dispatch
  split
  · exact .inl rfl
  · split_ifs
    · exact .inr (.inl ⟨_,rfl⟩)
    · split
      · exact .inr (.inl ⟨_,rfl⟩)
      · next req hreq => exact .inr (.inr (.inl ⟨req,hreq,rfl⟩))
  · exact .inr (.inr (.inr (.inl rfl)))
  · exact .inr (.inr (.inr (.inr rfl)))

theorem dispatchCall_cases (r : DecideHandler.ApiRequest) :
    (∃ answer, S.dispatchCall r = .rejected answer) ∨
      ∃ req synthetic, S.dispatchCall r = .authenticating (.api req synthetic) := by
  unfold Server.dispatchCall
  split_ifs
  · exact .inl ⟨_,rfl⟩
  · split
    · exact .inl ⟨_,rfl⟩
    · split
      · exact .inl ⟨_,rfl⟩
      · split_ifs
        · exact .inl ⟨_,rfl⟩
        · split
          · exact .inl ⟨_,rfl⟩
          · exact .inr ⟨_,_,rfl⟩

theorem afterCheck_cases (c : Asked) (e : CacheEntry Json) (now : Time) :
    Server.afterCheck c e now = .removing c ∨ Server.afterCheck c e now = .collecting c ∨
      ∃ d, Pipeline.decodeDecision e.value = some d ∧ MemoryCache.Live e now ∧
        Server.afterCheck c e now = .decided ⟨c,d,.cached now⟩ := by
  unfold Server.afterCheck
  split_ifs with hexpired
  · exact .inl rfl
  · split
    · next d hd =>
      refine .inr (.inr ⟨d,hd,fun expiry hexpiry => ?_,rfl⟩)
      simpa [hexpiry] using hexpired
    · exact .inr (.inl rfl)

end Inversion

section Alone
variable (S : Server) (s : Shared)

theorem alone_collecting (c : Asked) (signals : List Signal) (decided stamped : Time) :
    Pool.alone S.step s (.collecting c) [.collect signals decided,.stamp stamped,.add] =
      some ({s with cache := s.cache.add (S.key c) (S.cacheEntry c signals decided stamped)},
        .decided ⟨c,S.decision c signals decided,.computed signals decided stamped⟩) := rfl

theorem any_expired {e : CacheEntry Json} {now : Time} :
    e.expiresAt.any (· < now) = true ↔ ¬ MemoryCache.Live e now := by
  simp [MemoryCache.Live,Option.any_eq_true]

/-- The pipeline of this server, with collectors that return `signals`. -/
def Server.fixedPipeline (signals : List Signal) : Pipeline :=
  {S.pipeline with collectors := [fun _ => (signals,none)]}

theorem decideUncached_fixed (c : Asked) (signals : List Signal) (now : Time) :
    Pipeline.decideUncached S.L (S.fixedPipeline signals) c.task.context c.token now = S.decision c signals now := by
  simp [Pipeline.decideUncached,Pipeline.collectParallel,Server.fixedPipeline,Server.decision]

theorem decide_alone (c : Asked) (signals : List Signal) (times : Pipeline.Times) :
    ∃ es cache d source, Pool.alone S.step s (.looking c) es = some ({s with cache},.decided ⟨c,d,source⟩) ∧
      Pipeline.decide S.sha256 S.L (MemoryCache.store Json) (S.fixedPipeline signals) s.cache
        ⟨c.task.context,c.token,times⟩ = (cache,d) := by
  let rest : List Event := [.collect signals times.decided,.stamp times.stored,.add]
  let made : Source := .computed signals times.decided times.stored
  have hmiss {m : MemoryCache Json} {data : Option Json}
      (hget : MemoryCache.get s.cache (S.key c) ⟨times.looked,0⟩ = (m,data))
      (hd : data.bind Pipeline.decodeDecision = none) : Pipeline.decide S.sha256 S.L (MemoryCache.store Json)
        (S.fixedPipeline signals) s.cache ⟨c.task.context,c.token,times⟩ =
          (m.add (S.key c) (S.cacheEntry c signals times.decided times.stored),
            S.decision c signals times.decided) := by
    have hdecide := Pipeline.decide_missed S.sha256 S.L (MemoryCache.store Json)
      (p := S.fixedPipeline signals) (c := ⟨c.task.context,c.token,times⟩) hget hd
    simp only [decideUncached_fixed] at hdecide
    exact hdecide
  cases hlookup : s.cache.lookup (S.key c) with
  | none =>
    have hget : LruCache.get s.cache (S.key c) = (none,s.cache) :=
      Prod.ext ((LruCache.get_fst _ _).trans hlookup) (LruCache.get_eq_self hlookup)
    exact ⟨.look::rest,_,_,made,Pool.alone_cons.mpr ⟨_,_,by simp only [Server.step,hget],alone_collecting ..⟩,
      hmiss (MemoryCache.get_none hlookup) rfl⟩
  | some e =>
    have hget : LruCache.get s.cache (S.key c) = (some e,(LruCache.get s.cache (S.key c)).2) :=
      Prod.ext ((LruCache.get_fst _ _).trans hlookup) rfl
    have hlook : S.step s (.looking c) .look =
        some ({s with cache := (LruCache.get s.cache (S.key c)).2},.checking c e) := by
      simp only [Server.step]
      rw [hget]
    by_cases hlive : MemoryCache.Live e times.looked
    · have hfresh : ¬ e.expiresAt.any (· < times.looked) = true := fun h => any_expired.mp h hlive
      have hgetLive := MemoryCache.get_live (t := ⟨times.looked,0⟩) hlookup hlive
      cases hdecode : Pipeline.decodeDecision e.value with
      | some d =>
        have hcheck : Server.afterCheck c e times.looked = .decided ⟨c,d,.cached times.looked⟩ := by
          rw [Server.afterCheck,if_neg hfresh,hdecode]
        refine ⟨[.look,.check times.looked],_,d,.cached times.looked,
          Pool.alone_cons.mpr ⟨_,_,hlook,Pool.alone_cons.mpr ⟨_,_,rfl,?_⟩⟩,
          Pipeline.decide_found S.sha256 S.L (MemoryCache.store Json) hgetLive hdecode⟩
        rw [hcheck]
        rfl
      | none =>
        have hcheck : Server.afterCheck c e times.looked = .collecting c := by
          rw [Server.afterCheck,if_neg hfresh,hdecode]
        refine ⟨.look::.check times.looked::rest,_,_,made,
          Pool.alone_cons.mpr ⟨_,_,hlook,Pool.alone_cons.mpr ⟨_,_,rfl,?_⟩⟩,hmiss hgetLive hdecode⟩
        rw [hcheck]
        exact alone_collecting ..
    · have hcheck : Server.afterCheck c e times.looked = .removing c := if_pos (any_expired.mpr hlive)
      refine ⟨.look::.check times.looked::.remove::rest,_,_,made,
        Pool.alone_cons.mpr ⟨_,_,hlook,Pool.alone_cons.mpr ⟨_,_,rfl,?_⟩⟩,
        hmiss (MemoryCache.get_expired (t := ⟨times.looked,0⟩) hlookup hlive) rfl⟩
      rw [hcheck]
      exact Pool.alone_cons.mpr ⟨_,_,rfl,alone_collecting ..⟩

/-- The answer of a verify request that has come to its end. -/
def Server.answered : Phase → Option Answer
  | .refused _ answer => some answer
  | .verified q req _ _ signedAt => some (S.verifyAnswer q req signedAt)
  | _ => none

/-- `ValidateChallengeID` in steps: from the `Get` on. -/
theorem validate_alone (q : Incoming) (req : VerifyRequest) (now signedAt : Time) :
    ∃ es l, Pool.alone S.step s (.finding q req) es =
        some ({s with ids := (ChallengeIssuer.validateChallengeID ⟨S.powDifficulty,s.ids⟩ req.challengeID now).2.ids},l) ∧
      S.answered l = some
        (if (ChallengeIssuer.validateChallengeID ⟨S.powDifficulty,s.ids⟩ req.challengeID now).1 then
          S.verifyAnswer q req signedAt else .error 400 "invalid or expired challenge_id") := by
  rw [validateChallengeID_eq]
  cases hget : s.ids.get req.challengeID with
  | mk found ids =>
    cases found with
    | none =>
      have hmissing : S.step s (.finding q req) .find =
          some ({s with ids},.refused q (.error 400 "invalid or expired challenge_id")) := by
        simp only [Server.step,hget]
      exact ⟨[.find],_,Pool.alone_cons.mpr ⟨_,_,hmissing,rfl⟩,rfl⟩
    | some issued =>
      have hfind : S.step s (.finding q req) .find = some ({s with ids},.found q req issued) := by
        simp only [Server.step,hget]
      by_cases hexp : expired issued now = true
      · refine ⟨[.find,.age now,.retire],.refused q (.error 400 "invalid or expired challenge_id"),
          Pool.alone_cons.mpr ⟨_,_,hfind,Pool.alone_cons.mpr ⟨_,_,rfl,Pool.alone_cons.mpr ⟨_,_,rfl,?_⟩⟩⟩,?_⟩
        · simp only [hexp]
          rfl
        · simp only [hexp]
          rfl
      · refine ⟨[.find,.age now,.retire,.sign signedAt],.verified q req issued now signedAt,
          Pool.alone_cons.mpr ⟨_,_,hfind,Pool.alone_cons.mpr ⟨_,_,rfl,Pool.alone_cons.mpr ⟨_,_,rfl,?_⟩⟩⟩,?_⟩
        · simp only [hexp]
          rfl
        · simp only [hexp]
          rfl

theorem verify_alone (q : Incoming) (hpath : muxHandler q.escapedPath = .verify) (tokens : List String)
    (now signedAt : Time) :
    ∃ es ids l, Pool.alone S.step s .idle (.arrive q::es) = some ({s with ids},l) ∧
      S.answered l = some (handleVerify S.sha256 S.J S.service ⟨⟨S.powDifficulty,s.ids⟩,tokens⟩ q.verifyHTTP
        now signedAt).2 ∧
      ids = (handleVerify S.sha256 S.J S.service ⟨⟨S.powDifficulty,s.ids⟩,tokens⟩ q.verifyHTTP
        now signedAt).1.issuer.ids := by
  have harrive : S.step s .idle (.arrive q) = some (s,Server.dispatch q) := rfl
  simp only [Server.dispatch,hpath] at harrive
  by_cases hmethod : q.request.method ≠ "POST"
  · rw [if_pos hmethod] at harrive
    refine ⟨[],_,_,Pool.alone_cons.mpr ⟨_,_,harrive,rfl⟩,?_,?_⟩ <;>
      simp [handleVerify,Incoming.verifyHTTP,hmethod,Server.answered]
  rw [if_neg hmethod] at harrive
  cases hbody : decodeBody q.body with
  | none =>
    rw [hbody] at harrive
    refine ⟨[],_,_,Pool.alone_cons.mpr ⟨_,_,harrive,rfl⟩,?_,?_⟩ <;>
      simp [handleVerify,Incoming.verifyHTTP,hmethod,hbody,Server.answered]
  | some req =>
    rw [hbody] at harrive
    obtain ⟨es,l,halone,hanswered⟩ := validate_alone S s q req now signedAt
    have hdifficulty := validateChallengeID_powDifficulty ⟨S.powDifficulty,s.ids⟩ req.challengeID now
    refine ⟨es,_,l,Pool.alone_cons.mpr ⟨_,_,harrive,halone⟩,?_⟩
    rw [hanswered]
    simp only [handleVerify,Incoming.verifyHTTP,hbody,if_neg hmethod]
    revert hdifficulty
    rcases ChallengeIssuer.validateChallengeID _ req.challengeID now with ⟨_ | _,issuer⟩
    · exact fun _ => ⟨rfl,rfl⟩
    · intro (hdifficulty : issuer.powDifficulty = S.powDifficulty)
      simp only [hdifficulty,and_true]
      rfl

end Alone

section Facts

/-- What a thread has done: drawn a challenge ID, got past its check with a signed answer,
or made a decision and read the clock to store it. -/
inductive Fact
  | drew (id : String) (issued : Time)
  | verified (q : Incoming) (req : VerifyRequest) (issued now signedAt : Time)
  | computed (c : Asked) (signals : List Signal) (decided stamped : Time)

def Outcome.facts (o : Outcome) : Set Fact :=
  match o.source with
  | .computed signals decided stamped => {.computed o.call signals decided stamped}
  | .cached _ => ∅

namespace Phase

def outcome : Phase → Option Outcome
  | .decided o => some o
  | .counted _ o => some o
  | .entering _ o _ => some o
  | .audited _ o _ => some o
  | .served _ o _ => some o
  | .replied o _ => some o
  | _ => none

/-- The call of `Decide` that a thread makes or has made. -/
def asked : Phase → Option Asked
  | .looking c => some c
  | .checking c _ => some c
  | .removing c => some c
  | .collecting c => some c
  | .stamping c _ _ => some c
  | .adding c _ _ _ => some c
  | l => l.outcome.map Outcome.call

def shows : Phase → Set Fact
  | .storing _ id issued => {.drew id issued}
  | .page _ id issued => {.drew id issued}
  | .verified q req issued now signedAt => {.verified q req issued now signedAt}
  | .adding c signals made stamped => {.computed c signals made stamped}
  | l => {f | ∃ o, l.outcome = some o ∧ f ∈ o.facts}

end Phase

/-- A thread does not take back what it shows. -/
theorem step_shows {S : Server} {s s' : Shared} {l l' : Phase} {e : Event}
    (h : S.step s l e = some (s',l')) : l.shows ⊆ l'.shows := by
  cases step_cases S h with
  | store q id issued => exact subset_rfl
  | add c signals decided stamped =>
    rintro f rfl
    exact ⟨_,rfl,rfl⟩
  | count | prepare | enter | answer | reply => exact subset_rfl
  | _ =>
    intro f hf
    simp [Phase.shows,Phase.outcome] at hf

theorem facts_subset {l : Phase} {o : Outcome} (h : l.outcome = some o) : o.facts ⊆ l.shows := by
  intro f hf
  cases l with
  | decided | counted | entering | audited | served | replied => exact ⟨o,h,hf⟩
  | _ => cases h

theorem asked_outcome {l : Phase} {o : Outcome} (h : l.outcome = some o) : l.asked = some o.call := by
  cases l with
  | decided | counted | entering | audited | served | replied =>
    obtain rfl := Option.some.inj h
    rfl
  | _ => cases h

theorem Outcome.mem_facts {o : Outcome} {c : Asked} {signals : List Signal} {decided stamped : Time} :
    Fact.computed c signals decided stamped ∈ o.facts ↔
      c = o.call ∧ o.source = .computed signals decided stamped := by
  unfold Outcome.facts
  split
  · next signals' decided' stamped' hsource =>
    rw [hsource,Set.mem_singleton_iff,Fact.computed.injEq,Source.computed.injEq]
    simp only [eq_comm]
  · next hsource => simp [hsource]

/-- A thread that has made a decision made it for its call. -/
theorem shows_computed {l : Phase} {c : Asked} {signals : List Signal} {decided stamped : Time}
    (h : Fact.computed c signals decided stamped ∈ l.shows) :
    l = .adding c signals decided stamped ∨
      ∃ o, l.outcome = some o ∧ c = o.call ∧ o.source = .computed signals decided stamped := by
  cases l with
  | storing q id issued => cases h
  | page q id issued => cases h
  | verified q req issued now signedAt => cases h
  | adding c' signals' decided' stamped' =>
    cases h
    exact .inl rfl
  | _ =>
    obtain ⟨o,ho,hf⟩ := h
    exact .inr ⟨o,ho,Outcome.mem_facts.mp hf⟩

def Server.keyTexts (S : Server) (p : Pool ℕ Shared Phase) : Set Bytes :=
  {text | ∃ i c, (p.threads i).asked = some c ∧
    text = utf8 (Pipeline.cacheKeyText S.sha256 c.task.context c.token)}

theorem mem_keyTexts {S : Server} {p : Pool ℕ Shared Phase} {i : ℕ} {c : Asked} (h : (p.threads i).asked = some c) :
    utf8 (Pipeline.cacheKeyText S.sha256 c.task.context c.token) ∈ S.keyTexts p := ⟨i,c,h,rfl⟩

/-- A run with one key text has no collisions. -/
theorem injOn_keyTexts {S : Server} {p : Pool ℕ Shared Phase} {text : String}
    (h : ∀ i c, (p.threads i).asked = some c → Pipeline.cacheKeyText S.sha256 c.task.context c.token = text) :
    Set.InjOn S.sha256 (S.keyTexts p) := by
  rintro _ ⟨i,c,hc,rfl⟩ _ ⟨j,c',hc',rfl⟩ -
  rw [h i c hc,h j c' hc']

/-- The keys of a run in which only one thread asks for a decision. -/
theorem injOn_of_asked {S : Server} {p : Pool ℕ Shared Phase} {k : ℕ}
    (h : ∀ i c, (p.threads i).asked = some c → i = k) : Set.InjOn S.sha256 (S.keyTexts p) := by
  rintro _ ⟨i,c,hc,rfl⟩ _ ⟨i',c',hc',rfl⟩ -
  obtain rfl := h i c hc
  obtain rfl := h i' c' hc'
  rw [Option.some.inj (hc.symm.trans hc')]

end Facts

section Sample

/-- SHA-256 on the inputs of the sample runs. -/
def sampleDigest (b : Bytes) : Bytes :=
  if b = [] then Pipeline.emptyDigest
  else if b = utf8 Pipeline.sampleKeyText then Pipeline.keyDigest
  else List.replicate 32 0

/-- A server with the policy of the sample pipeline and no working decision API. -/
def sampleServer : Server where
  sha256 := sampleDigest
  J := passJwt
  L := Policy.sampleLibraries
  apiLibraries := ⟨fun _ => .error "EOF",id,⟨fun _ => none,fun _ => ""⟩⟩
  queryEscape := id
  service := sampleService
  powDifficulty := 4
  verifier := ⟨sampleKey,["ip","ua"]⟩
  pipeline := Pipeline.methodPipeline
  upstream := true

def sampleIncoming : Incoming where
  request := ⟨"GET","example.com",some "/",.empty,"192.0.2.1:52311"⟩
  escapedPath := "/"
  capture := none
  body := none
  url := "/"
  requestURI := "/"

/-- A request that makes its decision, and one that finds it. -/
def makeEvents : List Event := [.arrive sampleIncoming,.verify 1,.look,.collect [] 2,.stamp 3,.add]

def findEvents (now : Time) : List Event := [.arrive sampleIncoming,.verify now,.look,.check now]

def sampleView (req : RequestContext) : List String :=
  let info := Pipeline.buildRequestInfo req
  [info.method,info.path,info.host,info.userAgent,info.remoteIP,info.ja3,info.ja4,info.ipCategory]

theorem sampleView_reads : sampleServer.pipeline.Reads sampleView := by
  intro req req' h
  refine ⟨fun _ hc => absurd hc List.not_mem_nil,?_⟩
  simp only [sampleView,List.cons.injEq,and_true] at h
  cases hinfo : Pipeline.buildRequestInfo req
  cases hinfo' : Pipeline.buildRequestInfo req'
  simp_all

set_option synthInstance.maxSize 400 in
theorem sampleServer_found : ((Pool.alone sampleServer.step (start 100).shared .idle makeEvents).bind fun r =>
    (Pool.alone sampleServer.step r.1 .idle (findEvents 60000000003)).map fun r' =>
      ([r.2.asked,r'.2.asked].map (Option.map fun c =>
        (sampleView c.task.context,Pipeline.cacheKeyText sampleDigest c.task.context c.token)),
        r'.2.outcome.map fun o => (o.source,o.decision.outcome))) =
    some ([some (["GET","/","example.com","","192.0.2.1","","",""],Pipeline.sampleKeyText),
      some (["GET","/","example.com","","192.0.2.1","","",""],Pipeline.sampleKeyText)],
      some (.cached 60000000003,.allow,0,"")) := by
  decide +kernel

/-- A run in which the second request finds what the first has made. -/
theorem sample_run : ∃ p o, Steps (Pool.Moves sampleServer.step) (start 100)
      (makeEvents.map (fun e => (0,e))++(findEvents 60000000003).map fun e => (1,e)) p ∧
    (p.threads 1).outcome = some o ∧ o.source = .cached 60000000003 ∧ o.decision.outcome = (.allow,0,"") ∧
    ∀ i c, (p.threads i).asked = some c →
      sampleView c.task.context = ["GET","/","example.com","","192.0.2.1","","",""] ∧
        Pipeline.cacheKeyText sampleServer.sha256 c.task.context c.token = Pipeline.sampleKeyText := by
  obtain ⟨r,hr,hrest⟩ := Option.bind_eq_some_iff.mp sampleServer_found
  obtain ⟨r',hr',hseen⟩ := Option.map_eq_some_iff.mp hrest
  simp only [List.map_cons,List.map_nil,List.cons.injEq,and_true,Prod.mk.injEq,Option.map_eq_some_iff] at hseen
  obtain ⟨⟨⟨c₀,hc₀,hview₀⟩,c₁,hc₁,hview₁⟩,o,ho,hsource,hdecision⟩ := hseen
  have hfirst := Pool.steps_alone (.refl : Steps (Pool.Moves sampleServer.step) (start 100) [] _) 0 hr
  have hsecond := Pool.steps_alone hfirst 1 (s := r'.1) (l := r'.2) (by simpa [start] using hr')
  refine ⟨_,o,hsecond,by simpa using ho,hsource,by simpa using hdecision,fun i c hc => ?_⟩
  by_cases h₁ : i = 1
  · subst h₁
    simp only [Function.update_self] at hc
    rwa [Option.some.inj (hc.symm.trans hc₁)]
  by_cases h₀ : i = 0
  · subst h₀
    simp only [Function.update_of_ne h₁,Function.update_self] at hc
    rwa [Option.some.inj (hc.symm.trans hc₀)]
  · simp only [Function.update_of_ne h₁,Function.update_of_ne h₀] at hc
    cases hc

end Sample

end ProxyServer
end AntiScrapling
