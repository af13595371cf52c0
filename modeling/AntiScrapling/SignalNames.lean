import AntiScrapling.Behavior
import AntiScrapling.ClientHelloSafety
import AntiScrapling.CombinedScore
import AntiScrapling.HeaderChecks
import AntiScrapling.Http2Collector
import AntiScrapling.IpReputation
import AntiScrapling.Subsequences
import Mathlib.Data.List.Perm.Subperm

/-! The five collectors that `buildDeps` wires (`cmd/antiscrapling/wire.go`).  Whatever a request
has and whatever the collectors have seen before, no two signals have one name, so none
is lost in the map that the rules are given. -/
namespace AntiScrapling
namespace SignalNames

open ByteCodec CheckedRun Decide ScoringRule
open scoped List

section Wiring

structure Collectors where
  referer : HeaderChecks.RefererTracker
  ipCache : LruCache String IpReputation.Entry
  http2 : Http2Collector.Known
  beacons : BeaconStore.Store Behavior.Metrics

def newCollectors : Collectors where
  referer := HeaderChecks.newRefererTracker 100 (.ofRat (4/5))
  ipCache := .new 65536
  http2 := Http2Collector.newCollector
  beacons := BeaconStore.newBeaconStore

variable (md5 sha256 : Bytes → Bytes) (urlHost : String → Option String) (ipString : IpAddress.IP → String)

/-- An error that is reported costs the signals; the pipeline drops it. -/
def tlsSignals (ctx : RequestContext) : Run (List Signal × Option String) :=
  match TlsFingerprint.collect md5 sha256 ctx with
  | .ok signals => .ok (signals,none)
  | .error (.error msg) => .ok ([],some msg)
  | .error fault => .error fault

/-- `collectParallel` over the wired collectors; each has its own state. -/
def collectWired (st : Collectors) (wire : Http2Collector.Wire) (ctx : RequestContext) :
    Run (Collectors × List Signal) := do
  let tls ← tlsSignals md5 sha256 ctx
  let headers ← HeaderChecks.collect urlHost st.referer ctx
  let ip := IpReputation.collectCached ipString st.ipCache ctx
  let http2 ← Http2Collector.collect sha256 st.http2 wire ctx
  let behavior := Behavior.collect st.beacons ctx
  .ok ({st with referer := headers.1, ipCache := ip.1},
    Pipeline.collectParallel [fun _ => tls,fun _ => (headers.2,none),fun _ => (ip.2,none),fun _ => http2,
      fun _ => (behavior,none)] ctx)

end Wiring

section Names

def tlsNames : List String := ["ja3_mismatch","ja3_known_scraper","ja4_unknown"]

def headerNames : List String := ["header_order_anomaly","ua_ch_mismatch","secfetch_invalid",
  "browserforge_quirk","google_referer_anomaly"]

def ipNames : List String := ["tor_exit","datacenter_ip","mobile_ip","residential_ip"]

def http2Names : List String := ["ja4h_unknown","h2_akamai_mismatch"]

def behaviorNames : List String := ["behavior_resource_block","behavior_smooth_path",
  "behavior_turnstile_clicker","behavior_hidden_dominant"]

def allNames : List String := tlsNames++headerNames++ipNames++http2Names++behaviorNames

theorem allNames_nodup : allNames.Nodup := by decide

/-- Signals whose names are some of the given ones, each at most once. -/
def Names (signals : List Signal) (names : List String) : Prop := (signals.map Signal.name).Subperm names

theorem Names.append {xs ys : List Signal} {names rest : List String} (hxs : Names xs names)
    (hys : Names ys rest) : Names (xs++ys) (names++rest) := by
  unfold Names
  rw [List.map_append]
  exact List.Subperm.append hxs hys

theorem names_nil (names : List String) : Names [] names := (List.nil_sublist _).subperm

theorem names_singleton {sig : Signal} {names : List String} (h : sig.name ∈ names) : Names [sig] names :=
  List.singleton_subperm_iff.mpr h

theorem names_if {c : Prop} [Decidable c] (sig : Signal) : Names (if c then [sig] else []) [sig.name] := by
  split_ifs
  · exact names_singleton List.mem_cons_self
  · exact names_nil _

theorem names_toList {sig : Option Signal} {name : String} (h : ∀ s ∈ sig, s.name = name) :
    Names sig.toList [name] := by
  cases sig with
  | none => exact names_nil _
  | some s => exact names_singleton (by rw [h s rfl]; exact List.mem_cons_self)

theorem names_filterMap {α : Type} {checks : List (α → Option Signal)} {names : List String}
    (h : List.Forall₂ (fun check name => ∀ a, ∀ s ∈ check a, s.name = name) checks names) (a : α) :
    Names (checks.filterMap fun check => check a) names := by
  rw [List.filterMap_eq_flatMap_toList]
  induction h with
  | nil => exact names_nil _
  | cons hcheck _ ih =>
    rw [List.flatMap_cons]
    exact (names_toList (hcheck a)).append ih

theorem Names.nodup {signals : List Signal} {names : List String} (h : Names signals names)
    (hnames : names.Nodup) : (signals.map Signal.name).Nodup := by
  obtain ⟨sub,hperm,hsub⟩ := h
  exact hperm.nodup_iff.mp (hnames.sublist hsub)

variable (md5 sha256 : Bytes → Bytes) (urlHost : String → Option String) (ipString : IpAddress.IP → String)

theorem tls_names (ctx : RequestContext) (fp : TlsFingerprint.Fingerprints) :
    Names (TlsFingerprint.signals md5 ctx fp) tlsNames := by
  unfold TlsFingerprint.signals
  by_cases hmismatch : TlsFingerprint.contextMismatch md5 ctx fp = true
  · simp only [hmismatch,if_true,List.isEmpty_cons,Bool.and_false,Bool.false_eq_true,if_false]
    show Names _ (["ja3_mismatch"]++["ja3_known_scraper"]++[]++["ja4_unknown"])
    exact (((names_singleton List.mem_cons_self).append (names_if _)).append (names_nil [])).append (names_if _)
  · simp only [hmismatch,if_false,Bool.false_eq_true]
    have hnames : (["ja3_known_scraper"]++["ja3_mismatch"]++["ja4_unknown"]).Subperm tlsNames :=
      List.Perm.subperm (by decide)
    refine List.Subperm.trans ?_ hnames
    exact (((names_nil []).append (names_if _)).append (names_if _)).append (names_if _)

theorem headers_names {t : HeaderChecks.RefererTracker} {ctx : RequestContext}
    {out : HeaderChecks.RefererTracker × List Signal} (h : HeaderChecks.collect urlHost t ctx = .ok out) :
    Names out.2 headerNames := by
  have hsignal (name : String) (score : ℤ) (reason : Option String) :
      Names (HeaderChecks.signalOf name score reason) [name] := by
    refine names_toList fun s hs => ?_
    obtain ⟨r,_,rfl⟩ := Option.map_eq_some_iff.mp hs
    rfl
  unfold HeaderChecks.collect at h
  cases hrequest : ctx.request with
  | none =>
    rw [hrequest] at h
    cases h
  | some r =>
    rw [hrequest] at h
    rw [← Except.ok.inj h]
    exact ((((hsignal _ _ _).append (hsignal _ _ _)).append (hsignal _ _ _)).append (hsignal _ _ _)).append
      (hsignal _ _ _)

theorem ip_names (cache : LruCache String IpReputation.Entry) (ctx : RequestContext) :
    Names (IpReputation.collectCached ipString cache ctx).2 ipNames := by
  have hentry (e : IpReputation.Entry) : Names (IpReputation.entrySignals e) ipNames := by
    have hcategory : Names (IpReputation.categorySignals e) ["datacenter_ip","mobile_ip","residential_ip"] := by
      unfold IpReputation.categorySignals
      cases e.category with
      | datacenter | mobile | residential => exact names_singleton (by simp)
      | hosting | unknown => exact names_nil _
    exact (names_if _).append hcategory
  unfold IpReputation.collectCached
  cases IpReputation.parseRemoteIP ctx.remoteIP with
  | none => exact names_nil _
  | some ip =>
    simp only
    split_ifs
    · exact names_nil _
    · exact hentry _

theorem http2_names {known : Http2Collector.Known} {wire : Http2Collector.Wire} {ctx : RequestContext}
    {out : List Signal × Option String} (h : Http2Collector.collect sha256 known wire ctx = .ok out) :
    Names out.1 http2Names := by
  have hja4h : Names (Http2Collector.ja4hSignals sha256 known wire ctx) ["ja4h_unknown"] := names_if _
  rcases Http2Collector.collect_cases sha256 known wire ctx with hout | ⟨err,hout⟩ | ⟨r,akamai,hout⟩
  · rw [← Except.ok.inj (hout.symm.trans h)]
    exact names_nil _
  · rw [← Except.ok.inj (hout.symm.trans h)]
    have hnames := hja4h.append (names_nil ["h2_akamai_mismatch"])
    rwa [List.append_nil] at hnames
  · rw [← Except.ok.inj (hout.symm.trans h)]
    refine hja4h.append (names_toList fun s hs => ?_)
    unfold Http2Collector.akamaiSignal at hs
    simp only at hs
    split_ifs at hs <;> cases hs <;> rfl

theorem behavior_names (st : BeaconStore.Store Behavior.Metrics) (ctx : RequestContext) :
    Names (Behavior.collect st ctx) behaviorNames := by
  have hcheckers : List.Forall₂ (fun check name => ∀ m, ∀ s ∈ check m, s.name = name) Behavior.checkers
      behaviorNames := by
    refine .cons ?_ (.cons ?_ (.cons ?_ (.cons ?_ .nil))) <;> intro m s hs
    · simp only [Behavior.checkResourceBlock] at hs
      split_ifs at hs <;> cases hs
      rfl
    · simp only [Behavior.checkMouseJitter] at hs
      split_ifs at hs <;> cases hs
      rfl
    · simp only [Behavior.checkClickTiming] at hs
      split_ifs at hs <;> cases hs
      rfl
    · simp only [Behavior.checkVisibility] at hs
      split_ifs at hs <;> cases hs
      rfl
  unfold Behavior.collect
  cases BeaconStore.getByIP st ctx.remoteIP with
  | none => exact names_nil _
  | some b => exact names_filterMap hcheckers b.metrics

end Names

section Map

theorem foldl_insert_entries {weighted : List Signal} {m : StringMap Signal}
    (hnames : (weighted.map Signal.name).Nodup) (hfresh : ∀ sig ∈ weighted, sig.name ∉ m.entries.map Prod.fst) :
    (weighted.foldl (fun m sig => m.insert sig.name sig) m).entries =
      (weighted.map fun sig => (sig.name,sig)).reverse++m.entries := by
  induction weighted generalizing m with
  | nil => rfl
  | cons sig weighted ih =>
    rw [List.map_cons,List.nodup_cons] at hnames
    rw [List.forall_mem_cons] at hfresh
    have hinsert := StringMap.insert_entries hfresh.1 sig
    have hrest : ∀ s ∈ weighted, s.name ∉ (m.insert sig.name sig).entries.map Prod.fst := by
      intro s hs
      rw [hinsert,List.map_cons,List.mem_cons,not_or]
      refine ⟨fun heq : s.name = sig.name => hnames.1 ?_,hfresh.2 s hs⟩
      rw [← heq]
      exact List.mem_map_of_mem hs
    rw [List.foldl_cons,ih hnames.2 hrest,hinsert]
    simp

theorem signalMap_entries {weighted : List Signal} (hnames : (weighted.map Signal.name).Nodup) :
    (signalMap weighted).entries = (weighted.map fun sig => (sig.name,sig)).reverse := by
  have hentries := foldl_insert_entries (m := .empty) hnames fun _ _ => List.not_mem_nil
  rwa [StringMap.empty,List.append_nil] at hentries

theorem weigh_names (policy : Option ScoringConfig) (signals : List Signal) :
    (weigh policy signals).map Signal.name = signals.map Signal.name := by
  rw [weigh_eq_map,List.map_map]
  rfl

variable {policy : Option ScoringConfig} {signals : List Signal}

theorem lookup_signalMap (hnames : (signals.map Signal.name).Nodup) {sig : Signal} (h : sig ∈ signals) :
    (signalMap (weigh policy signals)).lookup sig.name = some {sig with score := effectiveScore policy sig} := by
  rw [← weigh_names policy] at hnames
  refine StringMap.lookup_of_mem ?_
  rw [signalMap_entries hnames,List.mem_reverse,weigh_eq_map,List.map_map]
  exact List.mem_map.mpr ⟨sig,h,rfl⟩

theorem sum_signalMap (hnames : (signals.map Signal.name).Nodup) :
    ((signalMap (weigh policy signals)).entries.map fun e => e.2.score).sum = exactSum policy signals := by
  rw [← weigh_names policy] at hnames
  rw [signalMap_entries hnames,List.map_reverse,List.sum_reverse,List.map_map,← ownScore_weigh_eq]
  rfl

end Map

section Wired
variable (md5 sha256 : Bytes → Bytes) (urlHost : String → Option String) (ipString : IpAddress.IP → String)

theorem tlsSignals_cases (ctx : RequestContext) :
    (∃ err, tlsSignals md5 sha256 ctx = .ok ([],err)) ∨
      ∃ fp, tlsSignals md5 sha256 ctx = .ok (TlsFingerprint.signals md5 ctx fp,none) := by
  unfold tlsSignals TlsFingerprint.collect TlsFingerprint.fingerprints
  split_ifs with hempty
  · exact .inr ⟨_,rfl⟩
  · rcases (ClientHello.parseClientHello_safe ctx.clientHello).value_or_error with ⟨hello,h,-⟩ | ⟨msg,h⟩
    · rw [h]
      exact .inr ⟨_,rfl⟩
    · rw [h]
      exact .inl ⟨_,rfl⟩

theorem collectWired_names {st : Collectors} {wire : Http2Collector.Wire} {ctx : RequestContext}
    {out : Collectors × List Signal} (h : collectWired md5 sha256 urlHost ipString st wire ctx = .ok out) :
    Names out.2 allNames := by
  unfold collectWired at h
  obtain ⟨tls,htls,h⟩ := bind_eq_ok.mp h
  obtain ⟨headers,hheaders,h⟩ := bind_eq_ok.mp h
  obtain ⟨http2,hhttp2,h⟩ := bind_eq_ok.mp h
  rw [← Except.ok.inj h]
  have htlsNames : Names tls.1 tlsNames := by
    rcases tlsSignals_cases md5 sha256 ctx with ⟨err,htls'⟩ | ⟨fp,htls'⟩
    · rw [← Except.ok.inj (htls'.symm.trans htls)]
      exact names_nil _
    · rw [← Except.ok.inj (htls'.symm.trans htls)]
      exact tls_names md5 ctx fp
  have hall := (((htlsNames.append (headers_names urlHost hheaders)).append (ip_names ipString st.ipCache ctx)).append
    (http2_names sha256 hhttp2)).append (behavior_names st.beacons ctx)
  simpa [Pipeline.collectParallel,allNames,List.append_assoc] using hall

theorem collectWired_total (st : Collectors) (wire : Http2Collector.Wire) {ctx : RequestContext}
    (h : ctx.request.isSome = true) : ∃ out, collectWired md5 sha256 urlHost ipString st wire ctx = .ok out := by
  obtain ⟨r,hr⟩ := Option.isSome_iff_exists.mp h
  obtain ⟨tls,htls⟩ : ∃ tls, tlsSignals md5 sha256 ctx = .ok tls := by
    rcases tlsSignals_cases md5 sha256 ctx with ⟨err,h⟩ | ⟨fp,h⟩
    · exact ⟨_,h⟩
    · exact ⟨_,h⟩
  obtain ⟨headers,hheaders⟩ : ∃ headers, HeaderChecks.collect urlHost st.referer ctx = .ok headers := by
    unfold HeaderChecks.collect
    rw [hr]
    exact ⟨_,rfl⟩
  obtain ⟨http2,hhttp2⟩ : ∃ http2, Http2Collector.collect sha256 st.http2 wire ctx = .ok http2 := by
    rcases Http2Collector.collect_cases sha256 st.http2 wire ctx with h | ⟨err,h⟩ | ⟨r,akamai,h⟩
    · exact ⟨_,h⟩
    · exact ⟨_,h⟩
    · exact ⟨_,h⟩
  unfold collectWired
  rw [htls,hheaders,hhttp2]
  exact ⟨_,rfl⟩

/-- No signal is shadowed.  Without a request the headers collector takes the process down and
there is no list; with one there is, whatever the collectors have seen, its names are
distinct, and the map of the rules has each signal with its own weighted score. -/
theorem wired_signals_distinct (st : Collectors) (wire : Http2Collector.Wire) (ctx : RequestContext) :
    (ctx.request.isSome = true →
      ∃ out, collectWired md5 sha256 urlHost ipString st wire ctx = .ok out) ∧
    ∀ out, collectWired md5 sha256 urlHost ipString st wire ctx = .ok out →
      (out.2.map Signal.name).Nodup ∧
      ∀ policy requestInfo hasValidToken,
        (∀ sig ∈ out.2, (evalCtx (weigh policy out.2) requestInfo hasValidToken).signals.lookup sig.name =
          some {sig with score := effectiveScore policy sig}) ∧
        ((evalCtx (weigh policy out.2) requestInfo hasValidToken).signals.entries.map fun e => e.2.score).sum =
          exactSum policy out.2 ∧
        unclampedScore (weigh policy out.2) =
          wrap64 ((evalCtx (weigh policy out.2) requestInfo hasValidToken).signals.entries.map
            fun e => e.2.score).sum := by
  refine ⟨collectWired_total md5 sha256 urlHost ipString st wire,fun out hout => ?_⟩
  have hnames := (collectWired_names md5 sha256 urlHost ipString hout).nodup allNames_nodup
  refine ⟨hnames,fun policy requestInfo hasValidToken => ?_⟩
  refine ⟨fun sig hsig => lookup_signalMap hnames hsig,sum_signalMap hnames,?_⟩
  rw [unclampedScore_eq,ownScore_weigh_eq,← sum_signalMap hnames]
  rfl

theorem wired_signals_distinct_first :
    (Policy.requestFor "/" "GET").request.isSome = true ∧
    ∃ out, collectWired id id (fun _ => none) (fun _ => "") newCollectors {} (Policy.requestFor "/" "GET") = .ok out ∧
      (out.2.map Signal.name).Nodup := by
  have hwired := wired_signals_distinct id id (fun _ => none) (fun _ => "") newCollectors {}
    (Policy.requestFor "/" "GET")
  obtain ⟨out,hout⟩ := hwired.1 rfl
  exact ⟨rfl,out,hout,(hwired.2 out hout).1⟩

end Wired

end SignalNames
end AntiScrapling
