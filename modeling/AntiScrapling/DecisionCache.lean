import AntiScrapling.Pipeline
import AntiScrapling.PolicyVerdict

/-! What the decision cache may change: a run of `Decide` against a run without a cache. -/
namespace AntiScrapling

def Decision.outcome (d : Decision) : Verdict × ℤ × String := (d.verdict,d.score,d.policyName)

namespace Pipeline

open ByteCodec GoText UnicodeText Decide JsonDecode

section Documents

theorem int64_encodeInt {n m old : ℤ} (h : int64 (encodeInt n) old = some m) : m = n :=
  int64OfLiteral_toString h

theorem verdict_verdictText (v old : Verdict) : verdict (.str (verdictText v)) old = some v := by
  cases v <;> rfl

theorem decodeDecision_encodeDecision (d : Decision) :
    decodeDecision (encodeDecision d) = (do
      let v ← verdict (.str (verdictText d.verdict)) .allow
      let score ← int64 (encodeInt d.score) 0
      let sigs ← signals (.arr (d.signals.map encodeSignal)) []
      let reasons ← strings (if d.reasons.isEmpty then .null else .arr (d.reasons.map .str)) []
      let timestamp ← int64 (encodeInt d.timestamp) 0
      some ⟨v,score,sigs,reasons,d.policyName,timestamp,d.requestID⟩) := by
  have h₁ : ∀ a j, decodeMember decisionFields a ("verdict",j) =
    (verdict j a.verdict).map fun v => {a with verdict := v} := fun _ _ => rfl
  have h₂ : ∀ a j, decodeMember decisionFields a ("score",j) =
    (int64 j a.score).map fun v => {a with score := v} := fun _ _ => rfl
  have h₃ : ∀ a j, decodeMember decisionFields a ("signals",j) =
    (signals j a.signals).map fun v => {a with signals := v} := fun _ _ => rfl
  have h₄ : ∀ a j, decodeMember decisionFields a ("reasons",j) =
    (strings j a.reasons).map fun v => {a with reasons := v} := fun _ _ => rfl
  have h₅ : ∀ a s, decodeMember decisionFields a ("policy_name",.str s) =
    some {a with policyName := s} := fun _ _ => rfl
  have h₆ : ∀ a j, decodeMember decisionFields a ("timestamp",j) =
    (int64 j a.timestamp).map fun v => {a with timestamp := v} := fun _ _ => rfl
  have h₇ : ∀ a s, decodeMember decisionFields a ("request_id",.str s) =
    some {a with requestID := s} := fun _ _ => rfl
  simp only [decodeDecision,encodeDecision,object,List.foldlM_cons,List.foldlM_nil,h₁,h₂,h₃,h₄,h₅,h₆,h₇,
    Option.bind_eq_bind,Option.bind_map,Function.comp_def,Option.bind_some,Option.pure_def]

theorem decodeDecision_outcome {d d' : Decision} (h : decodeDecision (encodeDecision d) = some d') :
    d'.outcome = d.outcome := by
  rw [decodeDecision_encodeDecision,verdict_verdictText] at h
  simp only [Option.bind_eq_bind,Option.bind_some,Option.bind_eq_some_iff] at h
  obtain ⟨score,hscore,sigs,-,reasons,-,timestamp,-,hd⟩ := h
  rw [← Option.some.inj hd,int64_encodeInt hscore]
  rfl

end Documents

section Lookup
variable (sha256 : Bytes → Bytes) (L : Policy.Libraries) {σ : Type} (cache : KeyedStore σ String Json Instant)
  {p : Pipeline} {s s' : σ} {c : Call} {data : Option Json}

theorem decide_found {d : Decision}
    (hget : cache.get s (computeCacheKey sha256 c.req c.hasValidToken) ⟨c.times.looked,0⟩ = (s',data))
    (hd : data.bind decodeDecision = some d) : decide sha256 L cache p s c = (s',d) := by
  simp only [decide,hget,hd]

theorem decide_missed
    (hget : cache.get s (computeCacheKey sha256 c.req c.hasValidToken) ⟨c.times.looked,0⟩ = (s',data))
    (hd : data.bind decodeDecision = none) :
    decide sha256 L cache p s c = (cache.set s' (computeCacheKey sha256 c.req c.hasValidToken)
      (encodeDecision (decideUncached L p c.req c.hasValidToken c.times.decided)) ⟨c.times.stored,p.cacheTTL⟩,
      decideUncached L p c.req c.hasValidToken c.times.decided) := by
  simp only [decide,hget,hd]

end Lookup

section Keys
variable (sha256 : Bytes → Bytes)

theorem computeCacheKey_injOn {texts : Set Bytes} (hinj : Set.InjOn sha256 texts) {req req' : RequestContext}
    {t t' : Bool} (hmem : utf8 (cacheKeyText sha256 req t) ∈ texts)
    (hmem' : utf8 (cacheKeyText sha256 req' t') ∈ texts)
    (h : computeCacheKey sha256 req t = computeCacheKey sha256 req' t') :
    cacheKeyText sha256 req t = cacheKeyText sha256 req' t' :=
  utf8_injective (hinj hmem hmem' (hexOfBytes_injective h))

theorem computeCacheKey_inj (hinj : Function.Injective sha256) {req req' : RequestContext} {t t' : Bool}
    (h : computeCacheKey sha256 req t = computeCacheKey sha256 req' t') :
    cacheKeyText sha256 req t = cacheKeyText sha256 req' t' :=
  computeCacheKey_injOn sha256 hinj.injOn (Set.mem_univ _) (Set.mem_univ _) h

/-- The token flag can be read off the end of the key's text. -/
theorem cacheKeyText_token {req req' : RequestContext} {t t' : Bool}
    (h : cacheKeyText sha256 req t = cacheKeyText sha256 req' t') : t = t' := by
  have htrue : (toString true).toList.reverse = ['e','u','r','t'] := rfl
  have hfalse : (toString false).toList.reverse = ['e','s','l','a','f'] := rfl
  have hlast := congrArg (fun s => s.toList.reverse.take 2) h
  cases t <;> cases t' <;> simp [cacheKeyText,htrue,hfalse] at hlast ⊢

end Keys

section Transparency
variable (L : Policy.Libraries)

/-- The outcome does not depend on the clock. -/
theorem decideUncached_outcome (p : Pipeline) (req : RequestContext) (hasValidToken : Bool) (now now' : ℤ) :
    (decideUncached L p req hasValidToken now).outcome =
      (decideUncached L p req hasValidToken now').outcome := by
  simp only [decideUncached,combine]
  split_ifs
  · rfl
  · split
    · rfl
    · split_ifs <;> rfl

/-- `view` has everything that the collectors and the rules read of a request. -/
def Reads {β : Type} (p : Pipeline) (view : RequestContext → β) : Prop :=
  ∀ req req', view req = view req' →
    (∀ c ∈ p.collectors, (c req).1 = (c req').1) ∧ buildRequestInfo req = buildRequestInfo req'

theorem decideUncached_congr {β : Type} {p : Pipeline} {view : RequestContext → β} (hview : p.Reads view)
    {req req' : RequestContext} (h : view req = view req') (hasValidToken : Bool) (now : ℤ) :
    decideUncached L p req hasValidToken now = decideUncached L p req' hasValidToken now := by
  obtain ⟨hcollect,hinfo⟩ := hview req req' h
  have hsignals : collectParallel p.collectors req = collectParallel p.collectors req' :=
    List.flatMap_congr hcollect
  rw [decideUncached,hsignals,hinfo]
  rfl

variable (sha256 : Bytes → Bytes) {σ : Type} (cache : KeyedStore σ String Json Instant)

/-- The outcome of a call without a cache. -/
def uncachedOutcome (p : Pipeline) (c : Call) : Verdict × ℤ × String :=
  (decideUncached L p c.req c.hasValidToken c.times.decided).outcome

/-- A stored document is right for every call of the run that may find it. -/
def Right (p : Pipeline) (calls : List Call) (key : String) (data : Json) : Prop :=
  ∀ c ∈ calls, computeCacheKey sha256 c.req c.hasValidToken = key →
    ∀ d, decodeDecision data = some d → d.outcome = uncachedOutcome L p c

/-- Calls of a run with one key text agree on what is read of the request. -/
def KeyDetermines {β : Type} (view : RequestContext → β) (calls : List Call) : Prop :=
  ∀ c ∈ calls, ∀ c' ∈ calls,
    cacheKeyText sha256 c.req c.hasValidToken = cacheKeyText sha256 c'.req c'.hasValidToken →
      view c.req = view c'.req

variable {L sha256 cache}

theorem right_encodeDecision {β : Type} {p : Pipeline} {view : RequestContext → β} (hview : p.Reads view)
    (hinj : Function.Injective sha256) {calls : List Call} (hcalls : KeyDetermines sha256 view calls)
    {c : Call} (hc : c ∈ calls) :
    Right L sha256 p calls (computeCacheKey sha256 c.req c.hasValidToken)
      (encodeDecision (decideUncached L p c.req c.hasValidToken c.times.decided)) := by
  intro c' hc' hkey d hd
  have htext := computeCacheKey_inj sha256 hinj hkey
  rw [decodeDecision_outcome hd,uncachedOutcome,cacheKeyText_token sha256 htext,
    decideUncached_congr L hview (hcalls c' hc' c hc htext)]
  exact decideUncached_outcome L p _ _ _ _

theorem decide_right {β : Type} {p : Pipeline} {view : RequestContext → β} (hview : p.Reads view)
    (hinj : Function.Injective sha256) {calls : List Call} (hcalls : KeyDetermines sha256 view calls)
    {s : σ} (hs : cache.Only (Right L sha256 p calls) s) {c : Call} (hc : c ∈ calls) :
    (decide sha256 L cache p s c).2.outcome = uncachedOutcome L p c ∧
      cache.Only (Right L sha256 p calls) (decide sha256 L cache p s c).1 := by
  have hget := hs.get (computeCacheKey sha256 c.req c.hasValidToken) ⟨c.times.looked,0⟩
  have hfound : ∀ data, (cache.get s (computeCacheKey sha256 c.req c.hasValidToken)
      ⟨c.times.looked,0⟩).2 = some data → ∀ d, decodeDecision data = some d →
        d.outcome = uncachedOutcome L p c :=
    fun data hdata => hs _ _ (cache.holds_of_get hdata) c hc rfl
  simp only [decide]
  split
  next d hd =>
    obtain ⟨data,hdata,hdecode⟩ := Option.bind_eq_some_iff.mp hd
    exact ⟨hfound data hdata d hdecode,hget⟩
  · exact ⟨rfl,hget.set (right_encodeDecision hview hinj hcalls hc) _⟩

theorem decideAll_right {β : Type} {p : Pipeline} {view : RequestContext → β} (hview : p.Reads view)
    (hinj : Function.Injective sha256) {calls : List Call} (hcalls : KeyDetermines sha256 view calls)
    {s : σ} (hs : cache.Only (Right L sha256 p calls) s) {rest : List Call} (hrest : rest ⊆ calls) :
    (decideAll sha256 L cache p s rest).map Decision.outcome = rest.map (uncachedOutcome L p) := by
  induction rest generalizing s with
  | nil => rfl
  | cons c rest ih =>
    obtain ⟨hoc,hrun⟩ := decide_right hview hinj hcalls hs (hrest List.mem_cons_self)
    rw [decideAll,List.map_cons,List.map_cons,hoc,ih hrun fun x hx => hrest (List.mem_cons_of_mem _ hx)]

variable (L cache)

/-- A run against an empty cache has the outcomes of a run without one, if calls with one key
text agree on all that the collectors and the rules read. -/
theorem decideAll_transparent {β : Type} {p : Pipeline} {view : RequestContext → β} (hview : p.Reads view)
    (hinj : Function.Injective sha256) {s : σ} (hempty : ∀ key data, ¬ cache.Holds s key data)
    {calls : List Call} (hcalls : KeyDetermines sha256 view calls) :
    (decideAll sha256 L cache p s calls).map Decision.outcome =
      calls.map fun c => (decideUncached L p c.req c.hasValidToken c.times.decided).outcome :=
  decideAll_right hview hinj hcalls (fun key data h => absurd h (hempty key data)) (List.Subset.refl _)

end Transparency

section Sample

open Policy

def emptyDigest : Bytes :=
  [227,176,196,66,152,252,28,20,154,251,244,200,153,111,185,36,
    39,174,65,228,100,155,147,76,164,149,153,27,120,82,184,85]

def keyDigest : Bytes :=
  [77,121,95,60,218,157,79,86,162,57,168,161,196,32,9,212,
    159,223,99,205,254,245,169,28,210,201,251,102,175,105,79,120]

def sampleKeyText : String := "192.0.2.1\x00\x00e3b0c44298fc1c14\x00/\x00false"

/-- SHA-256 on the inputs of the sample run, and no collisions elsewhere. -/
def keySHA256 (b : Bytes) : Bytes :=
  if b = [] then emptyDigest
  else if b = utf8 sampleKeyText then keyDigest
  else List.replicate 33 0++b

theorem keySHA256_injective : Function.Injective keySHA256 := by
  have hlen : emptyDigest.length = 32 ∧ keyDigest.length = 32 := ⟨rfl,rfl⟩
  have hne : emptyDigest ≠ keyDigest := by decide
  have hlong : ∀ b : Bytes, 33 ≤ (List.replicate 33 (0 : UInt8)++b).length := fun b => by simp
  intro a b h
  unfold keySHA256 at h
  split_ifs at h with ha hb hb' ha' hb hb' hb hb'
  · rw [ha,hb]
  · exact absurd h hne
  · have := hlong b
    rw [← h] at this
    omega
  · exact absurd h.symm hne
  · rw [ha',hb']
  · have := hlong b
    rw [← h] at this
    omega
  · have := hlong a
    rw [h] at this
    omega
  · have := hlong a
    rw [h] at this
    omega
  · exact List.append_cancel_left h

def methodPolicy : PolicyConfig where
  version := 1
  tokenTTL := ""
  default := "allow"
  rules := [⟨"deny-writes",StringMap.empty.insert "expr" (.str "request.method == 'POST'"),"deny"⟩]
  scoring := ⟨.empty,0,0⟩

def methodPipeline : Pipeline :=
  .new [] (newEvaluator sampleLibraries methodPolicy).toOption 0 (some methodPolicy)

/-- One call a second after `t` seconds. -/
def callAt (method : String) (t : ℤ) : Call :=
  ⟨requestFor "/" method,false,⟨t*1000000000,t*1000000000+1000,t*1000000000+2000⟩⟩

/-- The same request twice. -/
theorem decideAll_transparent_sample :
    (decideAll keySHA256 sampleLibraries (MemoryCache.store Json) methodPipeline (.newMemory 100)
      [callAt "GET" 1,callAt "GET" 2]).map Decision.outcome = [(.allow,0,""),(.allow,0,"")] := by
  have hview : methodPipeline.Reads (id : RequestContext → RequestContext) := by
    rintro req _ rfl
    exact ⟨fun _ _ => rfl,rfl⟩
  have hcalls : KeyDetermines keySHA256 id [callAt "GET" 1,callAt "GET" 2] := by
    intro c hc c' hc' _
    simp only [List.mem_cons,List.not_mem_nil,or_false] at hc hc'
    rcases hc with rfl | rfl <;> rcases hc' with rfl | rfl <;> rfl
  rw [decideAll_transparent sampleLibraries (MemoryCache.store Json) hview keySHA256_injective
    (MemoryCache.newMemory_empty 100) hcalls]
  decide +kernel

/-- The method is not in the key: a POST gets the answer of the GET before it. -/
theorem cached_method_ignored :
    validateConfig sampleLibraries methodPolicy = .ok () ∧ Function.Injective keySHA256 ∧
    (decideAll keySHA256 sampleLibraries (MemoryCache.store Json) methodPipeline (.newMemory 100)
      [callAt "GET" 1,callAt "POST" 2]).map Decision.outcome = [(.allow,0,""),(.allow,0,"")] ∧
    (decideUncached sampleLibraries methodPipeline (requestFor "/" "POST") false 2000001000).outcome =
      (.deny,0,"deny-writes") := by
  refine ⟨by decide +kernel,keySHA256_injective,by decide +kernel,by decide +kernel⟩

end Sample

end Pipeline
end AntiScrapling
