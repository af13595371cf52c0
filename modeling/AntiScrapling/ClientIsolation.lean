import AntiScrapling.DecisionCache
import AntiScrapling.ProxyHandler
import AntiScrapling.SeparatedText
import AntiScrapling.SignalNames
import AntiScrapling.Unwinding

/-! What one client's requests and beacons can change for another client.  The wired
collectors keep referer windows, addresses and beacons between requests; what they report
for a request depends on the client's own history only, as long as its last beacon is not
due to be dropped.  They run for the requests that find no decision in the shared cache. -/
namespace AntiScrapling
namespace ClientIsolation

open ByteCodec CheckedRun SignalNames BeaconStore
open HeaderChecks (RefererTracker)

/-- What reaches the collectors: a request that has no decision yet, or a beacon. -/
inductive Event
  | request (wire : Http2Collector.Wire) (r : HttpRequest) (capture : Option Bytes) (t : ℤ)
  | beacon (remoteAddr : String) (beacon : BehaviorBeacon Behavior.Metrics) (pruned storedSession storedIP : ℤ)

namespace Event

def client : Event → String
  | .request _ r _ _ => HostPort.hostOf r.remoteAddr
  | .beacon remoteAddr _ _ _ _ => HostPort.hostOf remoteAddr

def behavior : Event → Behavior.Event
  | .request _ r capture t => .collect (ProxyHandler.buildRequestContext r capture) t
  | .beacon remoteAddr b pruned storedSession storedIP =>
    .ingest (.ingestFromRequest remoteAddr b pruned storedSession storedIP)

end Event

section Runs
variable (md5 sha256 : Bytes → Bytes) (urlHost : String → Option String) (ipString : IpAddress.IP → String)

/-- The signals of a request, and the state that is left.  The context of the main handler has
a request, so that no collector fails. -/
def respond (st : Collectors) : Event → Collectors × List Signal
  | .request wire r capture _ =>
    ((collectWired md5 sha256 urlHost ipString st wire (ProxyHandler.buildRequestContext r capture)).toOption).getD
      (st,[])
  | .beacon remoteAddr beacon pruned storedSession storedIP =>
    ({st with beacons := (Call.ingestFromRequest remoteAddr beacon pruned storedSession storedIP).apply st.beacons},[])

def run (es : List Event) : Collectors := es.foldl (fun st e => (respond md5 sha256 urlHost ipString st e).1) newCollectors

theorem respond_request (st : Collectors) (wire : Http2Collector.Wire) (r : HttpRequest) (capture : Option Bytes)
    (t : ℤ) : collectWired md5 sha256 urlHost ipString st wire (ProxyHandler.buildRequestContext r capture) =
      .ok (respond md5 sha256 urlHost ipString st (.request wire r capture t)) := by
  have hrequest : (ProxyHandler.buildRequestContext r capture).request.isSome = true := rfl
  obtain ⟨out,hout⟩ := collectWired_total md5 sha256 urlHost ipString st wire hrequest
  rw [respond,hout]
  rfl

theorem headers_collect (t : RefererTracker) (r : HttpRequest) (capture : Option Bytes) :
    HeaderChecks.collect urlHost t (ProxyHandler.buildRequestContext r capture) =
      .ok ((t.observe urlHost (HostPort.hostOf r.remoteAddr) (Header.get r.header "Referer")).1,
        HeaderChecks.orderSignal (ProxyHandler.buildRequestContext r capture)++
        HeaderChecks.signalOf "ua_ch_mismatch" 25 (HeaderChecks.checkUACHConsistency r.header)++
        HeaderChecks.signalOf "secfetch_invalid" 15 (HeaderChecks.validateSecFetch r.header)++
        HeaderChecks.signalOf "browserforge_quirk" 40 (HeaderChecks.detectBrowserForgeQuirk r.header)++
        HeaderChecks.signalOf "google_referer_anomaly" 10
          (if (t.observe urlHost (HostPort.hostOf r.remoteAddr) (Header.get r.header "Referer")).2 then
            some "Google referer ratio exceeds 80% over the last 100 requests from this IP" else none)) := rfl

theorem respond_state (st : Collectors) (wire : Http2Collector.Wire) (r : HttpRequest) (capture : Option Bytes)
    (t : ℤ) : (respond md5 sha256 urlHost ipString st (.request wire r capture t)).1 =
      {st with
        referer := (st.referer.observe urlHost (HostPort.hostOf r.remoteAddr) (Header.get r.header "Referer")).1
        ipCache := (IpReputation.collectCached ipString st.ipCache
          (ProxyHandler.buildRequestContext r capture)).1} := by
  have hok := respond_request md5 sha256 urlHost ipString st wire r capture t
  unfold collectWired at hok
  obtain ⟨tls,-,hok⟩ := bind_eq_ok.mp hok
  obtain ⟨headers,hheaders,hok⟩ := bind_eq_ok.mp hok
  obtain ⟨http2,-,hok⟩ := bind_eq_ok.mp hok
  rw [← Except.ok.inj hok,← Except.ok.inj hheaders]
  rfl

/-- The signals depend on the client's referer window, what is said of its address, and its
last beacon. -/
theorem respond_signals {st st' : Collectors} {wire : Http2Collector.Wire} {r : HttpRequest}
    {capture : Option Bytes} (t : ℤ) (hhttp2 : st.http2 = st'.http2)
    (hreferer : (st.referer.observe urlHost (HostPort.hostOf r.remoteAddr) (Header.get r.header "Referer")).2 =
      (st'.referer.observe urlHost (HostPort.hostOf r.remoteAddr) (Header.get r.header "Referer")).2)
    (hip : (IpReputation.collectCached ipString st.ipCache (ProxyHandler.buildRequestContext r capture)).2 =
      (IpReputation.collectCached ipString st'.ipCache (ProxyHandler.buildRequestContext r capture)).2)
    (hbehavior : Behavior.collect st.beacons (ProxyHandler.buildRequestContext r capture) =
      Behavior.collect st'.beacons (ProxyHandler.buildRequestContext r capture)) :
    (respond md5 sha256 urlHost ipString st (.request wire r capture t)).2 =
      (respond md5 sha256 urlHost ipString st' (.request wire r capture t)).2 := by
  have hok := respond_request md5 sha256 urlHost ipString st wire r capture t
  have hok' := respond_request md5 sha256 urlHost ipString st' wire r capture t
  unfold collectWired at hok hok'
  obtain ⟨tls,htls,hok⟩ := bind_eq_ok.mp hok
  obtain ⟨headers,hheaders,hok⟩ := bind_eq_ok.mp hok
  obtain ⟨http2,hhttp,hok⟩ := bind_eq_ok.mp hok
  obtain ⟨tls',htls',hok'⟩ := bind_eq_ok.mp hok'
  obtain ⟨headers',hheaders',hok'⟩ := bind_eq_ok.mp hok'
  obtain ⟨http2',hhttp',hok'⟩ := bind_eq_ok.mp hok'
  obtain rfl : tls = tls' := Except.ok.inj (htls.symm.trans htls')
  obtain rfl : http2 = http2' := Except.ok.inj (hhttp.symm.trans (hhttp2 ▸ hhttp'))
  have hsignals : headers.2 = headers'.2 := by
    rw [headers_collect] at hheaders hheaders'
    rw [← Except.ok.inj hheaders,← Except.ok.inj hheaders',hreferer]
  rw [← Except.ok.inj hok,← Except.ok.inj hok',hsignals,hip,hbehavior]

end Runs

section Stores
variable (md5 sha256 : Bytes → Bytes) (urlHost : String → Option String) (ipString : IpAddress.IP → String)

def refererView (ip : String) (st : Collectors) : Option HeaderChecks.IpWindow × ℕ × Binary64.Double :=
  (st.referer.windows.lookup ip,st.referer.windowSize,st.referer.threshold)

def own (ip : String) (e : Event) : Bool := e.client = ip

theorem observe_alert {ip : String} {st st' : Collectors} (h : refererView ip st = refererView ip st')
    (referer : String) :
    (st.referer.observe urlHost ip referer).2 = (st'.referer.observe urlHost ip referer).2 := by
  simp only [refererView,Prod.mk.injEq] at h
  simp only [RefererTracker.observe,h]

theorem referer_unwinding (ip : String) :
    Unwinding (fun st e => (respond md5 sha256 urlHost ipString st e).1) (own ip) (refererView ip) where
  foreign st e hown := by
    cases e with
    | request wire r capture t =>
      have hne : ip ≠ HostPort.hostOf r.remoteAddr := Ne.symm (of_decide_eq_false hown)
      rw [respond_state]
      simp [refererView,RefererTracker.observe,StringMap.lookup_insert,hne]
    | beacon => rfl
  mine st st' e hown hview := by
    cases e with
    | request wire r capture t =>
      obtain rfl : HostPort.hostOf r.remoteAddr = ip := of_decide_eq_true hown
      simp only [refererView,Prod.mk.injEq] at hview
      rw [respond_state,respond_state]
      simp [refererView,RefererTracker.observe,StringMap.lookup_insert,hview]
    | beacon => exact hview

theorem run_http2 (es : List Event) :
    (run md5 sha256 urlHost ipString es).http2 = Http2Collector.newCollector := by
  induction es using List.reverseRecOn with
  | nil => rfl
  | append_singleton es e ih =>
    rw [run,List.foldl_concat]
    cases e with
    | request wire r capture t => rwa [respond_state]
    | beacon => exact ih

theorem run_computed (hstring : Function.Injective ipString) (es : List Event) :
    IpReputation.Computed ipString (run md5 sha256 urlHost ipString es).ipCache := by
  induction es using List.reverseRecOn with
  | nil => exact fun _ _ hmem => absurd hmem List.not_mem_nil
  | append_singleton es e ih =>
    rw [run,List.foldl_concat]
    cases e with
    | request wire r capture t =>
      rw [respond_state]
      exact (IpReputation.collectCached_eq hstring ih _).2
    | beacon => exact ih

theorem run_beacons (es : List Event) :
    (run md5 sha256 urlHost ipString es).beacons = Behavior.runEvents (es.map Event.behavior) := by
  induction es using List.reverseRecOn with
  | nil => rfl
  | append_singleton es e ih =>
    rw [run,List.foldl_concat,List.map_append,Behavior.runEvents,List.foldl_append]
    cases e with
    | request wire r capture t => rwa [respond_state]
    | beacon remoteAddr b pruned storedSession storedIP =>
      exact congrArg (Call.ingestFromRequest remoteAddr b pruned storedSession storedIP).apply ih

end Stores

section Beacons

def beaconsOf (ip : String) (es : List Event) : List (BeaconEntry Behavior.Metrics) :=
  historyOf Call.ipEntry (Behavior.ingested (es.map Event.behavior)) ip

theorem beaconsOf_beacon (ip remoteAddr : String) (b : BehaviorBeacon Behavior.Metrics)
    (pruned storedSession storedIP : ℤ) (es : List Event) :
    beaconsOf ip (.beacon remoteAddr b pruned storedSession storedIP::es) =
      if HostPort.hostOf remoteAddr = ip then ⟨b,storedIP⟩::beaconsOf ip es else beaconsOf ip es := by
  have hingested : Behavior.ingested ((Event.beacon remoteAddr b pruned storedSession storedIP::es).map Event.behavior) =
      Call.ingestFromRequest remoteAddr b pruned storedSession storedIP::
        Behavior.ingested (es.map Event.behavior) := rfl
  rw [beaconsOf,hingested,historyOf,List.filterMap_cons]
  by_cases h : HostPort.hostOf remoteAddr = ip <;> simp [Call.ipEntry,h,beaconsOf,historyOf]

theorem beaconsOf_own (ip : String) (es : List Event) : beaconsOf ip (es.filter (own ip)) = beaconsOf ip es := by
  induction es with
  | nil => rfl
  | cons e es ih =>
    cases e with
    | request wire r capture t =>
      cases hown : own ip (.request wire r capture t) with
      | true => rwa [List.filter_cons_of_pos hown]
      | false => rwa [List.filter_cons_of_neg (by simp [hown])]
    | beacon remoteAddr b pruned storedSession storedIP =>
      by_cases hown : HostPort.hostOf remoteAddr = ip
      · have hmine : own ip (.beacon remoteAddr b pruned storedSession storedIP) = true := decide_eq_true hown
        rw [List.filter_cons_of_pos hmine,beaconsOf_beacon,beaconsOf_beacon,ih]
      · have hother : ¬ own ip (.beacon remoteAddr b pruned storedSession storedIP) = true :=
          fun h => hown (of_decide_eq_true h)
        rw [List.filter_cons_of_neg hother,beaconsOf_beacon,if_neg hown,ih]

theorem latest_eq {ip : String} {es : List Event} {t : ℤ} (hclock : Behavior.Clock (es.map Event.behavior) t)
    (hfresh : ∀ e, (beaconsOf ip es).getLast? = some e → t-beaconMaxAge < e.storedAt) :
    Behavior.latest Call.ipEntry (Behavior.ingested (es.map Event.behavior)) ip = (beaconsOf ip es).getLast? := by
  unfold Behavior.latest
  cases hlast : (Behavior.ingested (es.map Event.behavior)).getLast? with
  | none =>
    rw [List.getLast?_eq_none_iff] at hlast
    rw [beaconsOf,hlast]
    rfl
  | some last =>
    rw [Option.bind_some]
    change (beaconsOf ip es).getLast?.filter _ = _
    cases hbeacon : (beaconsOf ip es).getLast? with
    | none => rfl
    | some e =>
      have hpruned := hclock.stored_le (List.mem_of_getLast? hlast) (cutoff_mem_times last)
      have hyoung := hfresh e hbeacon
      exact Option.filter_some_pos (by simp; omega)

theorem collect_beacons {es : List Behavior.Event} {t : ℤ} (hclock : Behavior.Clock es t) (ctx : RequestContext) :
    Behavior.collect (Behavior.runEvents es) ctx =
      ((Behavior.latest Call.ipEntry (Behavior.ingested es) ctx.remoteIP).map fun e => Behavior.score e.beacon).getD
        [] := by
  have hcalls := hclock.nondecreasing
  have hnewest : (((Behavior.runEvents es).byIP.lookup ctx.remoteIP).getD []).getLast? =
      Behavior.latest Call.ipEntry (Behavior.ingested es) ctx.remoteIP := by
    rw [Behavior.runEvents_eq]
    rcases List.eq_nil_or_concat (Behavior.ingested es) with hnil | ⟨calls,last,hlast⟩
    · rw [hnil]
      rfl
    · rw [hlast,List.concat_eq_append] at hcalls ⊢
      exact Behavior.Windows.newest hcalls (fun _ _ _ => ipEntry_stored) (run_reached_last hcalls).ip _
  rw [Behavior.collect,getByIP,hnewest]
  cases Behavior.latest Call.ipEntry (Behavior.ingested es) ctx.remoteIP <;> rfl

end Beacons

section Isolation
variable (md5 sha256 : Bytes → Bytes) (urlHost : String → Option String) {ipString : IpAddress.IP → String}

/-- Whatever other addresses sent in between, the collectors report the same for a request: their
requests and beacons count for nothing, unless the time between them drops the client's last
beacon. -/
theorem respond_own (hstring : Function.Injective ipString) {es es' : List Event} {t : ℤ}
    (hclock : Behavior.Clock (es.map Event.behavior) t) (hclock' : Behavior.Clock (es'.map Event.behavior) t)
    (wire : Http2Collector.Wire) (r : HttpRequest) (capture : Option Bytes)
    (hown : es.filter (own (HostPort.hostOf r.remoteAddr)) = es'.filter (own (HostPort.hostOf r.remoteAddr)))
    (hfresh : ∀ e, (beaconsOf (HostPort.hostOf r.remoteAddr) es).getLast? = some e → t-beaconMaxAge < e.storedAt) :
    (respond md5 sha256 urlHost ipString (run md5 sha256 urlHost ipString es) (.request wire r capture t)).2 =
      (respond md5 sha256 urlHost ipString (run md5 sha256 urlHost ipString es') (.request wire r capture t)).2 := by
  have hbeacons : beaconsOf (HostPort.hostOf r.remoteAddr) es = beaconsOf (HostPort.hostOf r.remoteAddr) es' := by
    rw [← beaconsOf_own,hown,beaconsOf_own]
  have hview := (referer_unwinding md5 sha256 urlHost ipString (HostPort.hostOf r.remoteAddr)).run hown newCollectors
  refine respond_signals md5 sha256 urlHost ipString t ?_ (observe_alert urlHost hview _) ?_ ?_
  · rw [run_http2,run_http2]
  · rw [(IpReputation.collectCached_eq hstring (run_computed md5 sha256 urlHost ipString hstring es) _).1,
      (IpReputation.collectCached_eq hstring (run_computed md5 sha256 urlHost ipString hstring es') _).1]
  · have hremote : (ProxyHandler.buildRequestContext r capture).remoteIP = HostPort.hostOf r.remoteAddr := rfl
    rw [run_beacons,run_beacons,collect_beacons hclock,collect_beacons hclock',hremote,latest_eq hclock hfresh,
      latest_eq hclock' (hbeacons ▸ hfresh),hbeacons]

end Isolation

section Daemon

/-- A request to the main handler, with its token bit and the times that `Decide` reads. -/
structure Request where
  wire : Http2Collector.Wire
  http : HttpRequest
  capture : Option Bytes
  hasValidToken : Bool
  times : Pipeline.Times

def Request.call (q : Request) : Pipeline.Call :=
  ⟨ProxyHandler.buildRequestContext q.http q.capture,q.hasValidToken,q.times⟩

def Request.event (q : Request) : Event := .request q.wire q.http q.capture q.times.decided

inductive Arrival
  | request (q : Request)
  | beacon (remoteAddr : String) (beacon : BehaviorBeacon Behavior.Metrics) (pruned storedSession storedIP : ℤ)

/-- The state of the collectors and the decision cache, which all clients share. -/
structure Daemon where
  collectors : Collectors
  cache : MemoryCache Json

variable (md5 sha256 : Bytes → Bytes) (urlHost : String → Option String) (ipString : IpAddress.IP → String)
  (L : Policy.Libraries) (p : Pipeline)

def Daemon.finds (d : Daemon) (q : Request) : Bool :=
  ((MemoryCache.get d.cache (Pipeline.computeCacheKey sha256 q.call.req q.hasValidToken)
    ⟨q.times.looked,0⟩).2.bind Pipeline.decodeDecision).isSome

/-- `Decide` with the wired collectors, which run only if the cache has no decision. -/
def Daemon.decide (d : Daemon) (q : Request) : Daemon × Decision :=
  let collected := respond md5 sha256 urlHost ipString d.collectors q.event
  let decided := Pipeline.decide sha256 L (MemoryCache.store Json)
    {p with collectors := [fun _ => (collected.2,none)]} d.cache q.call
  (⟨if d.finds sha256 q then d.collectors else collected.1,decided.1⟩,decided.2)

def Daemon.serve (d : Daemon) : Arrival → Daemon
  | .request q => (d.decide md5 sha256 urlHost ipString L p q).1
  | .beacon remoteAddr b pruned storedSession storedIP =>
    {d with collectors :=
      (respond md5 sha256 urlHost ipString d.collectors (.beacon remoteAddr b pruned storedSession storedIP)).1}

def serveAll (cacheSize : ℤ) (as : List Arrival) : Daemon :=
  as.foldl (Daemon.serve md5 sha256 urlHost ipString L p) ⟨newCollectors,.newMemory cacheSize⟩

def Daemon.passes (d : Daemon) : Arrival → List Event
  | .request q => if d.finds sha256 q then [] else [q.event]
  | .beacon remoteAddr b pruned storedSession storedIP => [.beacon remoteAddr b pruned storedSession storedIP]

def reaching (cacheSize : ℤ) (as : List Arrival) : List Event :=
  (as.foldl (fun (x : Daemon × List Event) a =>
    (x.1.serve md5 sha256 urlHost ipString L p a,x.2++x.1.passes sha256 a))
    (⟨newCollectors,.newMemory cacheSize⟩,[])).2

variable {md5 sha256 urlHost ipString L p}

theorem reaching_concat (cacheSize : ℤ) (as : List Arrival) (a : Arrival) :
    reaching md5 sha256 urlHost ipString L p cacheSize (as++[a]) =
      reaching md5 sha256 urlHost ipString L p cacheSize as++
        (serveAll md5 sha256 urlHost ipString L p cacheSize as).passes sha256 a := by
  have hdaemon (as : List Arrival) (d : Daemon) (es : List Event) :
      (as.foldl (fun (x : Daemon × List Event) a =>
        (x.1.serve md5 sha256 urlHost ipString L p a,x.2++x.1.passes sha256 a)) (d,es)).1 =
        as.foldl (Daemon.serve md5 sha256 urlHost ipString L p) d := by
    induction as generalizing d es with
    | nil => rfl
    | cons a as ih => exact ih _ _
  unfold reaching serveAll
  rw [List.foldl_concat,hdaemon]

theorem serveAll_collectors (cacheSize : ℤ) (as : List Arrival) :
    (serveAll md5 sha256 urlHost ipString L p cacheSize as).collectors =
      run md5 sha256 urlHost ipString (reaching md5 sha256 urlHost ipString L p cacheSize as) := by
  induction as using List.reverseRecOn with
  | nil => rfl
  | append_singleton as a ih =>
    rw [reaching_concat,run,List.foldl_append]
    change _ = List.foldl _ (run md5 sha256 urlHost ipString _) _
    rw [← ih,serveAll,List.foldl_concat]
    change (Daemon.serve md5 sha256 urlHost ipString L p (serveAll md5 sha256 urlHost ipString L p cacheSize as) a).collectors = _
    cases a with
    | request q =>
      simp only [Daemon.serve,Daemon.decide,Daemon.passes]
      split_ifs <;> rfl
    | beacon => rfl

theorem decide_collected {d : Daemon} {q : Request} (h : d.finds sha256 q = false) :
    (d.decide md5 sha256 urlHost ipString L p q).2 =
      Pipeline.decideUncached L
        {p with collectors := [fun _ => ((respond md5 sha256 urlHost ipString d.collectors q.event).2,none)]}
        q.call.req q.hasValidToken q.times.decided := by
  unfold Daemon.finds at h
  rw [Option.isSome_eq_false_iff,Option.isNone_iff_eq_none] at h
  have hmissed := Pipeline.decide_missed sha256 L (MemoryCache.store Json)
    (p := {p with collectors := [fun _ => ((respond md5 sha256 urlHost ipString d.collectors q.event).2,none)]})
    (s := d.cache) (c := q.call) rfl h
  exact congrArg Prod.snd hmissed

/-- Whatever other addresses did in between, a request that is not decided from the cache gets
the same decision, if the same events of its own address reached the collectors. -/
theorem decision_own_history (hstring : Function.Injective ipString) {cacheSize cacheSize' : ℤ}
    {as as' : List Arrival} {q : Request}
    (hclock : Behavior.Clock ((reaching md5 sha256 urlHost ipString L p cacheSize as).map Event.behavior) q.times.decided)
    (hclock' : Behavior.Clock ((reaching md5 sha256 urlHost ipString L p cacheSize' as').map Event.behavior)
      q.times.decided)
    (hown : (reaching md5 sha256 urlHost ipString L p cacheSize as).filter (own (HostPort.hostOf q.http.remoteAddr)) =
      (reaching md5 sha256 urlHost ipString L p cacheSize' as').filter (own (HostPort.hostOf q.http.remoteAddr)))
    (hfresh : ∀ e, (beaconsOf (HostPort.hostOf q.http.remoteAddr)
      (reaching md5 sha256 urlHost ipString L p cacheSize as)).getLast? = some e →
        q.times.decided-beaconMaxAge < e.storedAt)
    (hmiss : (serveAll md5 sha256 urlHost ipString L p cacheSize as).finds sha256 q = false)
    (hmiss' : (serveAll md5 sha256 urlHost ipString L p cacheSize' as').finds sha256 q = false) :
    ((serveAll md5 sha256 urlHost ipString L p cacheSize as).decide md5 sha256 urlHost ipString L p q).2 =
      ((serveAll md5 sha256 urlHost ipString L p cacheSize' as').decide md5 sha256 urlHost ipString L p q).2 := by
  have hsignals := respond_own md5 sha256 urlHost hstring hclock hclock' q.wire q.http q.capture hown hfresh
  rw [decide_collected hmiss,decide_collected hmiss',serveAll_collectors,serveAll_collectors,Request.event,hsignals]

end Daemon

section Sample

/-- The four bytes of an IPv4 address, or the number of another one. -/
def addressNumbers (ip : IpAddress.IP) : List ℕ :=
  match IpAddress.to4 ip with
  | some v => [v.toNat/16777216,v.toNat/65536%256,v.toNat/256%256,v.toNat%256]
  | none => [ip.toNat]

theorem addressNumbers_injective : Function.Injective addressNumbers := by
  have hparts (ip : IpAddress.IP) : ip.toNat = (ip >>> 32).toNat*4294967296+(ip.truncate 32).toNat := by
    simp only [BitVec.toNat_ushiftRight,BitVec.toNat_setWidth,Nat.shiftRight_eq_div_pow]
    omega
  intro a b h
  unfold addressNumbers IpAddress.to4 at h
  by_cases ha : a >>> 32 = 0xffff#128 <;> by_cases hb : b >>> 32 = 0xffff#128
  · simp only [ha,hb,if_true,List.cons.injEq,and_true] at h
    apply BitVec.eq_of_toNat_eq
    rw [hparts a,hparts b,ha,hb]
    omega
  · simp [ha,hb] at h
  · simp [ha,hb] at h
  · simp only [ha,hb,if_false,List.cons.injEq,and_true] at h
    exact BitVec.eq_of_toNat_eq h

/-- The text of an address: dotted for IPv4, and its number for others. -/
def addressText (ip : IpAddress.IP) : String := SeparatedText.joinNumbers id "." (addressNumbers ip)

theorem addressText_injective : Function.Injective addressText := by
  intro a b h
  have hdot : ".".toList = ['.'] := rfl
  exact addressNumbers_injective ((SeparatedText.joinNumbers_inj Function.injective_id hdot rfl).mp h)

/-- SHA-256 on the inputs of the sample runs. -/
def keyDigest (b : Bytes) : Bytes :=
  if b = [] then Pipeline.emptyDigest
  else if b = UnicodeText.utf8 "203.0.113.9\x00\x00e3b0c44298fc1c14\x00/\x00false" then
    [122,78,41,208,171,252,74,80,196,55,71,132,253,122,62,187,195,43,129,2,109,22,144,86,112,142,37,56,253,22,203,101]
  else if b = UnicodeText.utf8 "198.51.100.7\x00\x00e3b0c44298fc1c14\x00/x\x00false" then
    [204,165,182,80,99,49,101,87,83,232,196,107,195,167,32,13,16,38,162,44,1,201,102,158,173,159,98,7,130,108,83,44]
  else
    [20,171,127,155,228,92,6,136,31,235,34,247,124,116,42,142,126,23,221,175,95,13,45,20,103,235,9,110,115,210,85,224]

def refererHost (url : String) : Option String :=
  if url = "" then some "" else if url = "https://www.google.com/" then some "www.google.com" else none

/-- A request at second `t`; without a ClientHello no MD5 is computed. -/
def requestAt (t : ℤ) (remoteAddr path : String) : Request where
  wire := {}
  http := ⟨"GET","shop.example",some path,StringMap.empty.insert "Referer" ["https://www.google.com/"],remoteAddr⟩
  capture := none
  hasValidToken := false
  times := ⟨t*1000000000,t*1000000000+1,t*1000000000+2⟩

def ownArrivals : List Arrival := [
  .beacon "203.0.113.9:4711" Behavior.sampleBeacon 0 1 2,.request (requestAt 1 "203.0.113.9:4711" "/")]

/-- A request and a beacon of another client, with the same session. -/
def foreignArrivals : List Arrival := [
  .request (requestAt 2 "198.51.100.7:80" "/x"),
  .beacon "198.51.100.7:80" Behavior.sampleBeacon 3000000000 3000000001 3000000002]

abbrev sampleServe : List Arrival → Daemon := serveAll (fun _ => List.replicate 16 0) keyDigest refererHost addressText
  Policy.sampleLibraries Pipeline.methodPipeline 100

abbrev sampleReaching : List Arrival → List Event := reaching (fun _ => List.replicate 16 0) keyDigest refererHost
  addressText Policy.sampleLibraries Pipeline.methodPipeline 100

theorem sample_misses :
    (sampleServe (ownArrivals.take 1)).finds keyDigest (requestAt 1 "203.0.113.9:4711" "/") = false ∧
    (sampleServe ownArrivals).finds keyDigest (requestAt 2 "198.51.100.7:80" "/x") = false ∧
    (sampleServe ownArrivals).finds keyDigest (requestAt 4 "203.0.113.9:4711" "/shop") = false ∧
    (sampleServe (ownArrivals++foreignArrivals)).finds keyDigest (requestAt 4 "203.0.113.9:4711" "/shop") = false := by
  decide +kernel

def ownEvents : List Event := [
  .beacon "203.0.113.9:4711" Behavior.sampleBeacon 0 1 2,(requestAt 1 "203.0.113.9:4711" "/").event]

def foreignEvents : List Event := [(requestAt 2 "198.51.100.7:80" "/x").event,
  .beacon "198.51.100.7:80" Behavior.sampleBeacon 3000000000 3000000001 3000000002]

theorem sample_reaching : sampleReaching ownArrivals = ownEvents ∧
    sampleReaching (ownArrivals++foreignArrivals) = ownEvents++foreignEvents := by
  obtain ⟨hfirst,hsecond,-,-⟩ := sample_misses
  have hown : sampleReaching ownArrivals = ownEvents := by
    change sampleReaching (ownArrivals.take 1++[.request (requestAt 1 "203.0.113.9:4711" "/")]) = _
    rw [sampleReaching,reaching_concat,Daemon.passes,hfirst]
    rfl
  refine ⟨hown,?_⟩
  unfold sampleReaching at hown
  change sampleReaching ((ownArrivals++[.request (requestAt 2 "198.51.100.7:80" "/x")])++
    [.beacon "198.51.100.7:80" Behavior.sampleBeacon 3000000000 3000000001 3000000002]) = _
  rw [sampleReaching,reaching_concat,reaching_concat,hown,Daemon.passes,hsecond]
  rfl

theorem decision_own_history_foreign :
    ((sampleServe (ownArrivals++foreignArrivals)).decide (fun _ => List.replicate 16 0) keyDigest refererHost addressText
      Policy.sampleLibraries Pipeline.methodPipeline (requestAt 4 "203.0.113.9:4711" "/shop")).2 =
    ((sampleServe ownArrivals).decide (fun _ => List.replicate 16 0) keyDigest refererHost addressText
      Policy.sampleLibraries Pipeline.methodPipeline (requestAt 4 "203.0.113.9:4711" "/shop")).2 := by
  obtain ⟨-,-,hmiss,hmiss'⟩ := sample_misses
  obtain ⟨hown,hboth⟩ := sample_reaching
  unfold sampleReaching at hown hboth
  have hclock : Behavior.Clock ((ownEvents++foreignEvents).map Event.behavior) 4000000001 := by
    unfold Behavior.Clock
    decide
  have hclock' : Behavior.Clock (ownEvents.map Event.behavior) 4000000001 := by
    unfold Behavior.Clock
    decide
  have hfilter : (ownEvents++foreignEvents).filter (own "203.0.113.9") = ownEvents.filter (own "203.0.113.9") := by
    have hforeign : foreignEvents.filter (own "203.0.113.9") = [] := by
      rw [List.filter_eq_nil_iff,foreignEvents]
      simp only [List.forall_mem_cons]
      exact ⟨by decide +kernel,by decide +kernel,List.forall_mem_nil _⟩
    rw [List.filter_append,hforeign,List.append_nil]
  have hlast : (beaconsOf "203.0.113.9" (ownEvents++foreignEvents)).getLast? = some ⟨Behavior.sampleBeacon,2⟩ := by
    decide +kernel
  have hhost : HostPort.hostOf (requestAt 4 "203.0.113.9:4711" "/shop").http.remoteAddr = "203.0.113.9" := by
    decide +kernel
  refine decision_own_history addressText_injective ?_ ?_ ?_ ?_ hmiss' hmiss
  · rwa [hboth]
  · rwa [hown]
  · rwa [hboth,hown,hhost]
  · intro e he
    rw [hboth,hhost] at he
    obtain rfl := Option.some.inj (hlast.symm.trans he)
    decide

end Sample

end ClientIsolation
end AntiScrapling
