import AntiScrapling.ProxyServer

/-! Where the decisions of concurrent requests come from.  A decision that is found in the
cache was made by a call with the same key, and not longer ago than the cache keeps it,
whatever way the requests interleave. -/
namespace AntiScrapling

namespace Pipeline

open JsonDecode

section Documents

theorem signal_encodeSignal {sig sig' : Signal} (h : signal (encodeSignal sig) ⟨"",0,""⟩ = some sig') :
    sig' = sig := by
  have hdecode : signal (encodeSignal sig) ⟨"",0,""⟩ =
      (int64 (encodeInt sig.score) 0).map fun n => ⟨sig.name,n,sig.reason⟩ := by
    change (int64 (encodeInt sig.score) 0 |>.map fun n => (⟨sig.name,n,""⟩ : Signal)).bind
      (fun s => some {s with reason := sig.reason}) = _
    cases int64 (encodeInt sig.score) 0 <;> rfl
  rw [hdecode] at h
  obtain ⟨n,hn,rfl⟩ := Option.map_eq_some_iff.mp h
  rw [int64_encodeInt hn]

theorem mapM_signal {sigs sigs' : List Signal}
    (h : (sigs.map encodeSignal).mapM (fun item => signal item ⟨"",0,""⟩) = some sigs') : sigs' = sigs := by
  induction sigs generalizing sigs' with
  | nil => simpa using h
  | cons sig sigs ih =>
    simp only [List.map_cons,List.mapM_cons,Option.bind_eq_bind,Option.bind_eq_some_iff,Option.pure_def,
      Option.some.injEq] at h
    obtain ⟨first,hfirst,rest,hrest,rfl⟩ := h
    rw [signal_encodeSignal hfirst,ih hrest]

theorem mapM_string (texts : List String) :
    (texts.map Json.str).mapM (fun item => string item "") = some texts := by
  induction texts with
  | nil => rfl
  | cons text texts ih =>
    rw [List.map_cons,List.mapM_cons,ih]
    rfl

theorem decodeDecision_eq {d d' : Decision} (h : decodeDecision (encodeDecision d) = some d') : d' = d := by
  rw [decodeDecision_encodeDecision,verdict_verdictText] at h
  simp only [Option.bind_eq_bind,Option.bind_some,Option.bind_eq_some_iff] at h
  obtain ⟨score,hscore,sigs,hsigs,reasons,hreasons,timestamp,htime,hd⟩ := h
  have hreasons' : reasons = d.reasons := by
    by_cases hempty : d.reasons = []
    · rw [hempty] at hreasons ⊢
      exact (Option.some.inj hreasons).symm
    · rw [List.isEmpty_eq_false_iff.mpr hempty] at hreasons
      exact Option.some.inj (hreasons.symm.trans (mapM_string d.reasons))
  rw [← Option.some.inj hd,int64_encodeInt hscore,int64_encodeInt htime,mapM_signal hsigs,hreasons']

end Documents

/-- The pipeline that `New` builds keeps decisions for some time. -/
theorem new_cacheTTL_pos (collectors : List Collector) (evaluator : Option Policy.Evaluator) (cacheTTL : ℤ)
    (policy : Option Policy.PolicyConfig) : 0 < (new collectors evaluator cacheTTL policy).cacheTTL := by
  change 0 < if cacheTTL ≤ 0 then defaultCacheTTL else cacheTTL
  split_ifs with h
  · decide
  · exact not_le.mp h

end Pipeline

namespace ProxyServer

open ByteCodec Token

section Origin
variable (S : Server)

/-- An entry of the cache is a decision that was made for its key. -/
def Stored (A : Set Fact) (key : String) (e : CacheEntry Json) : Prop :=
  ∃ c signals decided stamped, Fact.computed c signals decided stamped ∈ A ∧ S.key c = key ∧
    e = S.cacheEntry c signals decided stamped

/-- A decision that was found in the cache was made for the same key, and the cache had it
for at most its time to live. -/
def FoundFresh (A : Set Fact) (o : Outcome) (looked : Time) : Prop :=
  ∃ c signals decided stamped, Fact.computed c signals decided stamped ∈ A ∧ S.key c = S.key o.call ∧
    o.decision = S.decision c signals decided ∧ looked ≤ stamped+S.pipeline.cacheTTL

structure Justified (A : Set Fact) (o : Outcome) : Prop where
  computed : ∀ signals decided stamped, o.source = .computed signals decided stamped →
    o.decision = S.decision o.call signals decided
  cached : ∀ looked, o.source = .cached looked → FoundFresh S A o looked

def CacheSound (A : Set Fact) (s : Shared) : Prop := ∀ key e, (key,e) ∈ s.cache.entries → Stored S A key e

structure DecisionSound (A : Set Fact) (l : Phase) : Prop where
  checking : ∀ c e, l = .checking c e → Stored S A (S.key c) e
  outcome : ∀ o, l.outcome = some o → Justified S A o

variable {S} {A B : Set Fact}

theorem Stored.mono (hAB : A ⊆ B) {key : String} {e : CacheEntry Json} : Stored S A key e → Stored S B key e :=
  fun ⟨c,signals,decided,stamped,hmem,hkey,he⟩ => ⟨c,signals,decided,stamped,hAB hmem,hkey,he⟩

theorem Justified.mono (hAB : A ⊆ B) {o : Outcome} (h : Justified S A o) : Justified S B o where
  computed := h.computed
  cached looked hlooked := by
    obtain ⟨c,signals,decided,stamped,hmem,hrest⟩ := h.cached looked hlooked
    exact ⟨c,signals,decided,stamped,hAB hmem,hrest⟩

theorem DecisionSound.mono (hAB : A ⊆ B) {l : Phase} (h : DecisionSound S A l) : DecisionSound S B l where
  checking c e hl := (h.checking c e hl).mono hAB
  outcome o ho := (h.outcome o ho).mono hAB

theorem DecisionSound.of_undecided {l : Phase} (hchecking : ∀ c e, l ≠ .checking c e) (hnone : l.outcome = none) :
    DecisionSound S A l where
  checking c e hl := absurd hl (hchecking c e)
  outcome o ho := by simp [hnone] at ho

theorem DecisionSound.of_outcome {l l' : Phase} (h : DecisionSound S A l) (hout : l'.outcome = l.outcome)
    (hchecking : ∀ c e, l' ≠ .checking c e) : DecisionSound S A l' where
  checking c e hl := absurd hl (hchecking c e)
  outcome o ho := h.outcome o (hout ▸ ho)

theorem cacheSound_sub {s s' : Shared} (h : CacheSound S A s)
    (hsub : ∀ x ∈ s'.cache.entries, x ∈ s.cache.entries) : CacheSound S A s' :=
  fun key e he => h key e (hsub _ he)

/-- What a call finds in the cache. -/
theorem Stored.found (httl : 0 < S.pipeline.cacheTTL) {c : Asked} {e : CacheEntry Json} {now : Time} {d : Decision}
    (h : Stored S A (S.key c) e) (hd : Pipeline.decodeDecision e.value = some d) (hlive : MemoryCache.Live e now) :
    FoundFresh S A ⟨c,d,.cached now⟩ now := by
  obtain ⟨c',signals,decided,stamped,hmem,hkey,rfl⟩ := h
  refine ⟨c',signals,decided,stamped,hmem,hkey,Pipeline.decodeDecision_eq hd,hlive _ ?_⟩
  simp [Server.cacheEntry,MemoryCache.stored,httl]

theorem decisionSound_afterCheck (httl : 0 < S.pipeline.cacheTTL) {c : Asked} {e : CacheEntry Json}
    (h : Stored S A (S.key c) e) (now : Time) : DecisionSound S A (Server.afterCheck c e now) := by
  rcases afterCheck_cases c e now with hnext | hnext | ⟨d,hd,hlive,hnext⟩
  · rw [hnext]
    exact .of_undecided (by simp) rfl
  · rw [hnext]
    exact .of_undecided (by simp) rfl
  · rw [hnext]
    refine ⟨by simp,fun o ho => ?_⟩
    obtain rfl := Option.some.inj ho
    exact ⟨by simp,fun looked hlooked => by cases hlooked; exact h.found httl hd hlive⟩

theorem decision_evidence (httl : 0 < S.pipeline.cacheTTL) :
    Pool.Evidence S.step Phase.shows (fun _ _ _ => True) (CacheSound S) (DecisionSound S) where
  stable := step_shows
  mono_shared hAB h key e he := (h key e he).mono hAB
  mono_thread hAB h := h.mono hAB
  next {A s s' l l' e} hs hl _ hstep := by
    have hA : A ⊆ A ∪ l'.shows := Set.subset_union_left
    have hs' : CacheSound S (A ∪ l'.shows) s := fun key e he => (hs key e he).mono hA
    have hl' : DecisionSound S (A ∪ l'.shows) l := hl.mono hA
    cases step_cases S hstep with
    | arrive q =>
      refine ⟨hs',?_⟩
      rcases dispatch_cases q with h | ⟨_,h⟩ | ⟨_,-,h⟩ | h | h <;> rw [h] <;>
        exact .of_undecided (by simp) rfl
    | call r =>
      refine ⟨hs',?_⟩
      rcases dispatchCall_cases S r with ⟨_,h⟩ | ⟨_,_,h⟩ <;> rw [h] <;>
        exact .of_undecided (by simp) rfl
    | miss c cache h =>
      refine ⟨cacheSound_sub hs' fun x hx => LruCache.mem_of_mem_get (k := S.key c) ?_,.of_undecided (by simp) rfl⟩
      rwa [h]
    | look c e cache h =>
      have hmem : (S.key c,e) ∈ s.cache.entries :=
        LruCache.mem_of_lookup (by rw [← LruCache.get_fst,h])
      refine ⟨cacheSound_sub hs' fun x hx => LruCache.mem_of_mem_get (k := S.key c) ?_,?_,by simp [Phase.outcome]⟩
      · rwa [h]
      · intro c' e' hphase
        cases hphase
        exact hs' _ _ hmem
    | check c e now => exact ⟨hs',decisionSound_afterCheck httl (hl'.checking c e rfl) now⟩
    | remove c =>
      exact ⟨cacheSound_sub hs' fun x hx => (LruCache.mem_remove.mp hx).1,.of_undecided (by simp) rfl⟩
    | add c signals decided stamped =>
      have hmade : Fact.computed c signals decided stamped ∈
          A ∪ (Phase.decided ⟨c,S.decision c signals decided,.computed signals decided stamped⟩).shows :=
        .inr ⟨_,rfl,rfl⟩
      refine ⟨fun key e he => ?_,by simp,fun o ho => ?_⟩
      · rcases LruCache.mem_of_mem_add he with hnew | ⟨hold,-⟩
        · obtain ⟨rfl,rfl⟩ := Prod.mk.inj hnew
          exact ⟨c,signals,decided,stamped,hmade,rfl,rfl⟩
        · exact hs' key e hold
      · obtain rfl := Option.some.inj ho
        exact ⟨fun _ _ _ h => by cases h; rfl,by simp⟩
    | count q o h => exact ⟨hs',hl'.of_outcome rfl (by simp)⟩
    | prepare q o now uuid => exact ⟨hs',hl'.of_outcome rfl (by simp)⟩
    | enter q o entry => exact ⟨hs',hl'.of_outcome rfl (by simp)⟩
    | answer q o entry => exact ⟨hs',hl'.of_outcome rfl (by simp)⟩
    | reply o req synthetic now requestID h => exact ⟨hs',hl'.of_outcome rfl (by simp)⟩
    | _ => exact ⟨hs',.of_undecided (by simp) rfl⟩

theorem asked_computed {l : Phase} {c : Asked} {signals : List Signal} {decided stamped : Time}
    (h : Fact.computed c signals decided stamped ∈ l.shows) : l.asked = some c := by
  rcases shows_computed h with rfl | ⟨o,ho,rfl,-⟩
  · rfl
  · exact asked_outcome ho

theorem run_decisionSound (httl : 0 < S.pipeline.cacheTTL) {cacheSize : ℤ} {es : List (ℕ × Event)}
    {p : Pool ℕ Shared Phase} (hrun : Steps (Pool.Moves S.step) (start cacheSize) es p) (i : ℕ) :
    DecisionSound S (p.Shown Phase.shows) (p.threads i) := by
  have hguarded : Steps (Pool.GuardedMoves S.step Phase.shows fun _ _ _ => True) (start cacheSize) es p :=
    hrun.mono fun _ _ _ hmove => ⟨hmove,trivial⟩
  refine ((decision_evidence httl).run hguarded ?_ fun _ => .of_undecided (by simp [start]) rfl).2 i
  intro key e he
  exact absurd he List.not_mem_nil

/-- Thread `j` made the decision of an outcome, for a call with the outcome's key text. -/
structure MadeBy (S : Server) (p : Pool ℕ Shared Phase) (o : Outcome) (j : ℕ) (c : Asked) (signals : List Signal)
    (decided stamped : Time) : Prop where
  shown : Fact.computed c signals decided stamped ∈ (p.threads j).shows
  decision : o.decision = S.decision c signals decided
  text : Pipeline.cacheKeyText S.sha256 c.task.context c.token =
    Pipeline.cacheKeyText S.sha256 o.call.task.context o.call.token

theorem outcome_madeBy (httl : 0 < S.pipeline.cacheTTL) {cacheSize : ℤ} {es : List (ℕ × Event)}
    {p : Pool ℕ Shared Phase} (hinj : Set.InjOn S.sha256 (S.keyTexts p))
    (hrun : Steps (Pool.Moves S.step) (start cacheSize) es p) {i : ℕ} {o : Outcome}
    (ho : (p.threads i).outcome = some o) :
    ∃ j c signals decided stamped, MadeBy S p o j c signals decided stamped ∧
      (j = i ∧ o.source = .computed signals decided stamped ∨
        ∃ looked, o.source = .cached looked ∧ looked ≤ stamped+S.pipeline.cacheTTL) := by
  have hjust := (run_decisionSound httl hrun i).outcome o ho
  cases hsource : o.source with
  | computed signals decided stamped =>
    have hfact : Fact.computed o.call signals decided stamped ∈ o.facts := Outcome.mem_facts.mpr ⟨rfl,hsource⟩
    exact ⟨i,o.call,signals,decided,stamped,⟨facts_subset ho hfact,hjust.computed _ _ _ hsource,rfl⟩,
      .inl ⟨rfl,rfl⟩⟩
  | cached looked =>
    obtain ⟨c,signals,decided,stamped,⟨j,hj⟩,hkey,hdecision,hfresh⟩ := hjust.cached looked hsource
    have htext := Pipeline.computeCacheKey_injOn S.sha256 hinj (mem_keyTexts (asked_computed hj))
      (mem_keyTexts (asked_outcome ho)) hkey
    exact ⟨j,c,signals,decided,stamped,⟨hj,hdecision,htext⟩,.inr ⟨looked,rfl,hfresh⟩⟩

/-- In a run without a hash collision among its key texts, every decision on which a request acts
was made by a call with the same key text: its own call, or one whose decision was in the cache
for at most the time to live. -/
theorem decision_origin (S : Server) (httl : 0 < S.pipeline.cacheTTL) {cacheSize : ℤ} {es : List (ℕ × Event)}
    {p : Pool ℕ Shared Phase} (hinj : Set.InjOn S.sha256 (S.keyTexts p))
    (hrun : Steps (Pool.Moves S.step) (start cacheSize) es p) {i : ℕ} {o : Outcome}
    (ho : (p.threads i).outcome = some o) :
    ∃ j c signals decided stamped, Fact.computed c signals decided stamped ∈ (p.threads j).shows ∧
      (p.threads j).asked = some c ∧ o.decision = S.decision c signals decided ∧
      Pipeline.cacheKeyText S.sha256 c.task.context c.token =
        Pipeline.cacheKeyText S.sha256 o.call.task.context o.call.token ∧ c.token = o.call.token ∧
      (j = i ∧ o.source = .computed signals decided stamped ∨
        ∃ looked, o.source = .cached looked ∧ looked ≤ stamped+S.pipeline.cacheTTL) := by
  obtain ⟨j,c,signals,decided,stamped,hmade,hfrom⟩ := outcome_madeBy httl hinj hrun ho
  exact ⟨j,c,signals,decided,stamped,hmade.shown,asked_computed hmade.shown,hmade.decision,hmade.text,
    Pipeline.cacheKeyText_token S.sha256 hmade.text,hfrom⟩

theorem decision_origin_second : ∃ (p : Pool ℕ Shared Phase) (o : Outcome) (j : ℕ) (c : Asked)
    (signals : List Signal) (decided stamped : Time), (p.threads 1).outcome = some o ∧
    Fact.computed c signals decided stamped ∈ (p.threads j).shows ∧
    o.decision = sampleServer.decision c signals decided ∧ (60000000003 : ℤ) ≤ stamped+60000000000 := by
  obtain ⟨p,o,hrun,ho,hsource,-,hcalls⟩ := sample_run
  obtain ⟨j,c,signals,decided,stamped,hfact,-,hdecision,-,-,hfrom⟩ := decision_origin sampleServer
    (Pipeline.new_cacheTTL_pos _ _ _ _) (injOn_keyTexts fun i c hc => (hcalls i c hc).2) hrun ho
  refine ⟨p,o,j,c,signals,decided,stamped,ho,hfact,hdecision,?_⟩
  rcases hfrom with ⟨-,hcomputed⟩ | ⟨looked,hcached,hfresh⟩
  · simp [hsource] at hcomputed
  · rw [hsource] at hcached
    cases hcached
    exact hfresh

end Origin

section Transparency
variable (S : Server)

/-- The collectors return what they return for this request at any time. -/
def Collects (l : Phase) (e : Event) : Prop :=
  ∀ c signals now, l = .collecting c → e = .collect signals now →
    signals = Pipeline.collectParallel S.pipeline.collectors c.task.context

structure CollectedSound (l : Phase) : Prop where
  stamping : ∀ c signals decided, l = .stamping c signals decided →
    signals = Pipeline.collectParallel S.pipeline.collectors c.task.context
  computed : ∀ c signals decided stamped, Fact.computed c signals decided stamped ∈ l.shows →
    signals = Pipeline.collectParallel S.pipeline.collectors c.task.context

variable {S}

theorem CollectedSound.of_shows {l l' : Phase} (h : CollectedSound S l) (hshows : l'.shows ⊆ l.shows)
    (hstamping : ∀ c signals decided, l' ≠ .stamping c signals decided) : CollectedSound S l' where
  stamping c signals decided hl := absurd hl (hstamping c signals decided)
  computed c signals decided stamped hmem := h.computed c signals decided stamped (hshows hmem)

theorem CollectedSound.of_undecided {l : Phase} (hadding : ∀ c signals decided stamped,
    l ≠ .adding c signals decided stamped) (hstamping : ∀ c signals decided, l ≠ .stamping c signals decided)
    (hnone : ∀ o signals decided stamped, l.outcome = some o → o.source ≠ .computed signals decided stamped) :
    CollectedSound S l where
  stamping c signals decided hl := absurd hl (hstamping c signals decided)
  computed c signals decided stamped hmem := by
    rcases shows_computed hmem with hl | ⟨o,ho,-,hsource⟩
    · exact absurd hl (hadding _ _ _ _)
    · exact absurd hsource (hnone o _ _ _ ho)

theorem collected_evidence : Pool.Evidence S.step Phase.shows (fun _ => Collects S) (fun _ _ => True)
    (fun _ => CollectedSound S) where
  stable := step_shows
  mono_shared _ _ := trivial
  mono_thread _ h := h
  next {A s s' l l' e} _ hl hguard hstep := by
    refine ⟨trivial,?_⟩
    cases step_cases S hstep with
    | arrive q =>
      rcases dispatch_cases q with h | ⟨_,h⟩ | ⟨_,-,h⟩ | h | h <;> rw [h] <;>
        exact .of_undecided (by simp) (by simp) (by simp [Phase.outcome])
    | call r =>
      rcases dispatchCall_cases S r with ⟨_,h⟩ | ⟨_,_,h⟩ <;> rw [h] <;>
        exact .of_undecided (by simp) (by simp) (by simp [Phase.outcome])
    | check c e now =>
      rcases afterCheck_cases c e now with h | h | ⟨d,-,-,h⟩ <;> rw [h] <;>
        refine .of_undecided (by simp) (by simp) ?_
      · simp [Phase.outcome]
      · simp [Phase.outcome]
      · rintro o signals decided stamped ho
        cases ho
        simp
    | collect c signals now =>
      refine ⟨fun c' signals' now' h => ?_,fun c' signals' decided stamped h => ?_⟩
      · cases h
        exact hguard c signals now rfl rfl
      · rcases shows_computed h with h | ⟨o,h,-⟩ <;> cases h
    | stamp c signals decided now =>
      refine ⟨by simp,fun c' signals' decided' stamped h => ?_⟩
      cases h
      exact hl.stamping c signals decided rfl
    | add c signals decided stamped =>
      refine hl.of_shows ?_ (by simp)
      rintro f ⟨o,ho,hf⟩
      cases ho
      exact hf
    | count | prepare | enter | answer | reply => exact hl.of_shows subset_rfl (by simp)
    | _ => exact .of_undecided (by simp) (by simp) (by simp [Phase.outcome])

/-- Concurrent requests get the outcomes that they would get without a cache, if the collectors
keep no state, the key texts of the run do not collide, and requests with one key text agree on
all that the collectors and the rules read. -/
theorem concurrent_transparent (S : Server) {β : Type} {view : RequestContext → β}
    (hview : S.pipeline.Reads view) (httl : 0 < S.pipeline.cacheTTL) {cacheSize : ℤ} {es : List (ℕ × Event)}
    {p : Pool ℕ Shared Phase} (hinj : Set.InjOn S.sha256 (S.keyTexts p))
    (hrun : Steps (Pool.GuardedMoves S.step Phase.shows fun _ => Collects S) (start cacheSize) es p)
    (hkey : ∀ i j c c', (p.threads i).asked = some c → (p.threads j).asked = some c' →
      Pipeline.cacheKeyText S.sha256 c.task.context c.token =
        Pipeline.cacheKeyText S.sha256 c'.task.context c'.token → view c.task.context = view c'.task.context)
    {i : ℕ} {o : Outcome} (ho : (p.threads i).outcome = some o) (now : Time) :
    o.decision.outcome =
      (Pipeline.decideUncached S.L S.pipeline o.call.task.context o.call.token now).outcome := by
  have hmoves : Steps (Pool.Moves S.step) (start cacheSize) es p := hrun.mono fun _ _ _ hmove => hmove.1
  obtain ⟨j,c,signals,decided,stamped,hmade,-⟩ := outcome_madeBy httl hinj hmoves ho
  have hcollected := (collected_evidence.run hrun trivial fun _ =>
    .of_undecided (by simp [start]) (by simp [start]) (by simp [start,Phase.outcome])).2 j
  have hsignals := hcollected.computed c signals decided stamped hmade.shown
  have hviews := hkey j i c o.call (asked_computed hmade.shown) (asked_outcome ho) hmade.text
  calc o.decision.outcome
      = (Pipeline.decideUncached S.L S.pipeline c.task.context c.token decided).outcome := by
        rw [hmade.decision,Server.decision,hsignals]
        rfl
    _ = (Pipeline.decideUncached S.L S.pipeline o.call.task.context o.call.token decided).outcome := by
        rw [Pipeline.cacheKeyText_token S.sha256 hmade.text,Pipeline.decideUncached_congr S.L hview hviews]
    _ = (Pipeline.decideUncached S.L S.pipeline o.call.task.context o.call.token now).outcome :=
        Pipeline.decideUncached_outcome S.L S.pipeline _ _ _ _

theorem concurrent_transparent_second : ∃ (p : Pool ℕ Shared Phase) (o : Outcome), (p.threads 1).outcome = some o ∧
    o.source = .cached 60000000003 ∧ o.decision.outcome =
      (Pipeline.decideUncached Policy.sampleLibraries Pipeline.methodPipeline o.call.task.context o.call.token
        0).outcome := by
  obtain ⟨p,o,hrun,ho,hsource,-,hcalls⟩ := sample_run
  have hguarded : Steps (Pool.GuardedMoves sampleServer.step Phase.shows fun _ => Collects sampleServer)
      (start 100) _ p := hrun.mono_of_mem fun p e p' he hmove => ⟨hmove,fun c signals now _ hcollect => by
    have hnone : signals = [] := by
      simp only [makeEvents,findEvents,List.map_cons,List.map_nil,List.mem_append,List.mem_cons,
        List.not_mem_nil,or_false] at he
      rcases he with (rfl | rfl | rfl | rfl | rfl | rfl) | (rfl | rfl | rfl | rfl) <;> simp_all
    rw [hnone]
    rfl⟩
  exact ⟨p,o,ho,hsource,concurrent_transparent sampleServer sampleView_reads (Pipeline.new_cacheTTL_pos _ _ _ _)
    (injOn_keyTexts fun i c hc => (hcalls i c hc).2) hguarded
    (fun i j c c' hc hc' _ => (hcalls i c hc).1.trans (hcalls j c' hc').1.symm) ho 0⟩

end Transparency

end ProxyServer
end AntiScrapling
