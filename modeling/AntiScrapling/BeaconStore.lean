import AntiScrapling.HostPort
import AntiScrapling.SlidingWindow
import AntiScrapling.StringMap

/-! The beacon store of `internal/challenge/beacon_store.go`, and its windows over whole
runs.  A call holds the lock from its first look at the clock to its last store, so a
run is a list of calls; a call carries the times it read.  Times are nanoseconds. -/
namespace AntiScrapling
namespace BeaconStore

open SlidingWindow HostPort

/-- A telemetry payload; the store looks at the session only. -/
structure BehaviorBeacon (μ : Type) where
  sessionID : String
  metrics : μ
  deriving DecidableEq, Repr

structure BeaconEntry (μ : Type) where
  beacon : BehaviorBeacon μ
  storedAt : ℤ
  deriving DecidableEq, Repr

structure Store (μ : Type) where
  bySession : StringMap (List (BeaconEntry μ))
  byIP : StringMap (List (BeaconEntry μ))

def beaconMaxPerKey : ℕ := 100
def beaconMaxAge : ℤ := 5*60*1000000000

variable {μ : Type}

def newBeaconStore : Store μ := ⟨.empty,.empty⟩

def push (m : StringMap (List (BeaconEntry μ))) (key : String) (beacon : BehaviorBeacon μ)
    (now : ℤ) : StringMap (List (BeaconEntry μ)) :=
  let entries := (m.lookup key).getD []++[⟨beacon,now⟩]
  let entries := if entries.length > beaconMaxPerKey then
    entries.drop (entries.length-beaconMaxPerKey) else entries
  m.insert key entries

def after (cutoff : ℤ) (e : BeaconEntry μ) : Bool := decide (cutoff < e.storedAt)

/-- A key whose list is empty is deleted. -/
def nonEmpty (entries : List (BeaconEntry μ)) : Option (List (BeaconEntry μ)) :=
  if entries.length = 0 then none else some entries

def pruneBeaconMap (m : StringMap (List (BeaconEntry μ))) (cutoff : ℤ) :
    StringMap (List (BeaconEntry μ)) :=
  m.filterMapValues fun entries => nonEmpty (compact (after cutoff) entries)

def pruneExpired (s : Store μ) (now : ℤ) : Store μ :=
  let cutoff := now-beaconMaxAge
  ⟨pruneBeaconMap s.bySession cutoff,pruneBeaconMap s.byIP cutoff⟩

/-- The two ways of storing a beacon, with the times read on the way. -/
inductive Call (μ : Type)
  | ingest (beacon : BehaviorBeacon μ) (pruned stored : ℤ)
  | ingestFromRequest (remoteAddr : String) (beacon : BehaviorBeacon μ)
      (pruned storedSession storedIP : ℤ)

def Call.apply (s : Store μ) : Call μ → Store μ
  | .ingest beacon pruned stored =>
    let s := pruneExpired s pruned
    {s with bySession := push s.bySession beacon.sessionID beacon stored}
  | .ingestFromRequest remoteAddr beacon pruned storedSession storedIP =>
    let ip := hostOf remoteAddr
    let s := pruneExpired s pruned
    let s := {s with bySession := push s.bySession beacon.sessionID beacon storedSession}
    {s with byIP := push s.byIP ip beacon storedIP}

def run (calls : List (Call μ)) : Store μ := calls.foldl Call.apply newBeaconStore

def getBySession (s : Store μ) (sessionID : String) : Option (BehaviorBeacon μ) :=
  (((s.bySession.lookup sessionID).getD []).getLast?).map BeaconEntry.beacon

def getByIP (s : Store μ) (ip : String) : Option (BehaviorBeacon μ) :=
  (((s.byIP.lookup ip).getD []).getLast?).map BeaconEntry.beacon

namespace Call

def times : Call μ → List ℤ
  | .ingest _ pruned stored => [pruned,stored]
  | .ingestFromRequest _ _ pruned storedSession storedIP => [pruned,storedSession,storedIP]

def cutoff : Call μ → ℤ
  | .ingest _ pruned _ => pruned-beaconMaxAge
  | .ingestFromRequest _ _ pruned _ _ => pruned-beaconMaxAge

def sessionEntry : Call μ → Option (String × BeaconEntry μ)
  | .ingest beacon _ stored => some (beacon.sessionID,⟨beacon,stored⟩)
  | .ingestFromRequest _ beacon _ storedSession _ => some (beacon.sessionID,⟨beacon,storedSession⟩)

def ipEntry : Call μ → Option (String × BeaconEntry μ)
  | .ingest _ _ _ => none
  | .ingestFromRequest remoteAddr beacon _ _ storedIP => some (hostOf remoteAddr,⟨beacon,storedIP⟩)

end Call

/-- The clock never runs backwards, inside a call or from one call to the next. -/
def Nondecreasing (calls : List (Call μ)) : Prop := (calls.flatMap Call.times).Pairwise (· ≤ ·)

section OneIndex
variable {m : StringMap (List (BeaconEntry μ))} {history : String → List (BeaconEntry μ)}
  {cutoff : ℤ}

/-- Every key of an index holds the window over its own history. -/
def Windows (m : StringMap (List (BeaconEntry μ))) (history : String → List (BeaconEntry μ))
    (cutoff : ℤ) : Prop :=
  ∀ key, m.lookup key = nonEmpty (window beaconMaxPerKey (after cutoff) (history key))

theorem getD_nonEmpty (entries : List (BeaconEntry μ)) : (nonEmpty entries).getD [] = entries := by
  unfold nonEmpty
  split_ifs with h
  · rw [List.length_eq_zero_iff.mp h]
    rfl
  · rfl

theorem Windows.prune {cutoff' : ℤ} (h : Windows m history cutoff) (hle : cutoff ≤ cutoff')
    (hsorted : ∀ key, (history key).Pairwise fun e e' => e.storedAt ≤ e'.storedAt) :
    Windows (pruneBeaconMap m cutoff') history cutoff' := by
  intro key
  have hsub : ∀ e : BeaconEntry μ, after cutoff' e = true → after cutoff e = true := by
    intro e he
    simp only [after,decide_eq_true_eq] at he ⊢
    omega
  have hlater : KeepsLater (after cutoff') (history key) := by
    refine (hsorted key).imp ?_
    intro e e' hle' he
    simp only [after,decide_eq_true_eq] at he ⊢
    omega
  have hwin := filter_window hsub hlater beaconMaxPerKey
  rw [pruneBeaconMap,StringMap.lookup_filterMapValues,h key]
  by_cases hempty : (window beaconMaxPerKey (after cutoff) (history key)).length = 0
  · rw [List.length_eq_zero_iff.mp hempty] at hwin ⊢
    rw [← hwin]
    rfl
  · rw [nonEmpty,if_neg hempty,Option.bind_some,compact_eq_filter,hwin]

def extend (history : String → List (BeaconEntry μ)) (key : String) (e : BeaconEntry μ) :
    String → List (BeaconEntry μ) :=
  fun k => if k = key then history k++[e] else history k

theorem Windows.push (h : Windows m history cutoff) (key : String) (beacon : BehaviorBeacon μ)
    {now : ℤ} (hnow : cutoff < now) :
    Windows (push m key beacon now) (extend history key ⟨beacon,now⟩) cutoff := by
  intro k
  have hkeep : after cutoff (⟨beacon,now⟩ : BeaconEntry μ) = true := by simpa [after] using hnow
  have hwin := window_push hkeep beaconMaxPerKey (history key)
  rw [BeaconStore.push,StringMap.lookup_insert,h key,getD_nonEmpty,extend]
  split_ifs with hk hlong
  · rw [hk,← hwin,nonEmpty,if_neg]
    · rfl
    · rw [List.rtake,List.length_drop]
      have : 0 < beaconMaxPerKey := by decide
      omega
  · rw [hk,← hwin,rtake_of_length_le (by omega),nonEmpty,if_neg]
    simp
  · exact h k

end OneIndex

section Runs

/-- The entries ingested for a key, in the order of the calls. -/
def historyOf (entry : Call μ → Option (String × BeaconEntry μ)) (calls : List (Call μ))
    (key : String) : List (BeaconEntry μ) :=
  calls.filterMap fun c => (entry c).bind fun p => if p.1 = key then some p.2 else none

theorem historyOf_snoc_none {entry : Call μ → Option (String × BeaconEntry μ)}
    (calls : List (Call μ)) {c : Call μ} (hc : entry c = none) :
    historyOf entry (calls++[c]) = historyOf entry calls := by
  funext key
  simp [historyOf,hc]

theorem historyOf_snoc_some {entry : Call μ → Option (String × BeaconEntry μ)}
    (calls : List (Call μ)) {c : Call μ} {key : String} {e : BeaconEntry μ}
    (hc : entry c = some (key,e)) :
    historyOf entry (calls++[c]) = extend (historyOf entry calls) key e := by
  funext k
  by_cases hk : k = key
  · simp [historyOf,extend,hc,hk]
  · simp [historyOf,extend,hc,hk,Ne.symm hk]

theorem Nondecreasing.initial {calls : List (Call μ)} {c : Call μ} (h : Nondecreasing (calls++[c])) :
    Nondecreasing calls := by
  unfold Nondecreasing at h
  rw [List.flatMap_append] at h
  exact (List.pairwise_append.mp h).1

theorem cutoff_mem_times (c : Call μ) : c.cutoff+beaconMaxAge ∈ c.times := by
  cases c with
  | ingest beacon pruned stored => simp [Call.cutoff,Call.times]
  | ingestFromRequest remoteAddr beacon pruned storedSession storedIP =>
    simp [Call.cutoff,Call.times]

theorem Nondecreasing.cutoff_le {calls : List (Call μ)} {c : Call μ}
    (h : Nondecreasing (calls++[c])) : ∀ call ∈ calls, call.cutoff ≤ c.cutoff := by
  intro call hcall
  unfold Nondecreasing at h
  rw [List.flatMap_append] at h
  have := (List.pairwise_append.mp h).2.2 _ (List.mem_flatMap.mpr ⟨call,hcall,cutoff_mem_times call⟩)
    _ (List.mem_flatMap.mpr ⟨c,by simp,cutoff_mem_times c⟩)
  omega

theorem Nondecreasing.history_sorted {calls : List (Call μ)} (h : Nondecreasing calls)
    {entry : Call μ → Option (String × BeaconEntry μ)}
    (hentry : ∀ c key e, entry c = some (key,e) → e.storedAt ∈ c.times) (key : String) :
    (historyOf entry calls key).Pairwise fun e e' => e.storedAt ≤ e'.storedAt := by
  unfold Nondecreasing at h
  rw [List.pairwise_flatMap] at h
  refine h.2.filterMap _ ?_
  intro c c' hcc e he e' he'
  simp only [Option.bind_eq_some_iff,Option.ite_none_right_eq_some,Option.some.injEq] at he he'
  obtain ⟨⟨k,_⟩,hk,_,rfl⟩ := he
  obtain ⟨⟨k',_⟩,hk',_,rfl⟩ := he'
  exact hcc _ (hentry c k _ hk) _ (hentry c' k' _ hk')

theorem sessionEntry_stored {c : Call μ} {key : String} {e : BeaconEntry μ}
    (h : c.sessionEntry = some (key,e)) : e.storedAt ∈ c.times := by
  cases c with
  | ingest beacon pruned stored =>
    simp only [Call.sessionEntry,Option.some.injEq,Prod.mk.injEq] at h
    simp [← h.2,Call.times]
  | ingestFromRequest remoteAddr beacon pruned storedSession storedIP =>
    simp only [Call.sessionEntry,Option.some.injEq,Prod.mk.injEq] at h
    simp [← h.2,Call.times]

theorem ipEntry_stored {c : Call μ} {key : String} {e : BeaconEntry μ}
    (h : c.ipEntry = some (key,e)) : e.storedAt ∈ c.times := by
  cases c with
  | ingest beacon pruned stored => simp [Call.ipEntry] at h
  | ingestFromRequest remoteAddr beacon pruned storedSession storedIP =>
    simp only [Call.ipEntry,Option.some.injEq,Prod.mk.injEq] at h
    simp [← h.2,Call.times]

structure Reached (calls : List (Call μ)) (s : Store μ) (cutoff : ℤ) : Prop where
  session : Windows s.bySession (historyOf Call.sessionEntry calls) cutoff
  ip : Windows s.byIP (historyOf Call.ipEntry calls) cutoff

theorem Reached.prune {calls : List (Call μ)} {s : Store μ} {cutoff now : ℤ}
    (h : Reached calls s cutoff) (hclock : Nondecreasing calls) (hle : cutoff ≤ now-beaconMaxAge) :
    Reached calls (pruneExpired s now) (now-beaconMaxAge) :=
  ⟨h.session.prune hle (hclock.history_sorted fun _ _ _ => sessionEntry_stored),
    h.ip.prune hle (hclock.history_sorted fun _ _ _ => ipEntry_stored)⟩

/-- One call on top of a pruned store. -/
theorem Reached.call {calls : List (Call μ)} {s : Store μ} {c : Call μ}
    (h : Reached calls (pruneExpired s (c.cutoff+beaconMaxAge)) c.cutoff)
    (hclock : Nondecreasing (calls++[c])) : Reached (calls++[c]) (c.apply s) c.cutoff := by
  have hage : 0 < beaconMaxAge := by decide
  have htimes : c.times.Pairwise (· ≤ ·) := by
    unfold Nondecreasing at hclock
    rw [List.flatMap_append] at hclock
    simpa using (List.pairwise_append.mp hclock).2.1
  cases c with
  | ingest beacon pruned stored =>
    simp only [Call.times,List.pairwise_cons,List.mem_singleton,forall_eq] at htimes
    simp only [Call.cutoff,Int.sub_add_cancel] at h ⊢
    refine ⟨?_,?_⟩
    · rw [historyOf_snoc_some calls rfl]
      exact h.session.push beacon.sessionID beacon (by omega)
    · rw [historyOf_snoc_none calls rfl]
      exact h.ip
  | ingestFromRequest remoteAddr beacon pruned storedSession storedIP =>
    simp only [Call.times,List.pairwise_cons,List.mem_cons,List.not_mem_nil,or_false,
      forall_eq_or_imp,forall_eq] at htimes
    simp only [Call.cutoff,Int.sub_add_cancel] at h ⊢
    refine ⟨?_,?_⟩
    · rw [historyOf_snoc_some calls rfl]
      exact h.session.push beacon.sessionID beacon (by omega)
    · rw [historyOf_snoc_some calls rfl]
      exact h.ip.push (hostOf remoteAddr) beacon (by omega)

theorem windows_new (cutoff : ℤ) : Windows (StringMap.empty : StringMap (List (BeaconEntry μ)))
    (fun _ => []) cutoff := by
  intro key
  rfl

theorem run_reached {calls : List (Call μ)} (hclock : Nondecreasing calls) (now : ℤ)
    (hle : ∀ c ∈ calls, c.cutoff ≤ now-beaconMaxAge) :
    Reached calls (pruneExpired (run calls) now) (now-beaconMaxAge) := by
  induction calls using List.reverseRecOn generalizing now with
  | nil =>
    have hnew : Reached ([] : List (Call μ)) newBeaconStore (now-beaconMaxAge) :=
      ⟨windows_new _,windows_new _⟩
    exact hnew.prune hclock (Int.le_refl _)
  | append_singleton calls c ih =>
    have hlast : Reached (calls++[c]) (run (calls++[c])) c.cutoff := by
      have hrun : run (calls++[c]) = c.apply (run calls) := by simp [run]
      rw [hrun]
      apply Reached.call _ hclock
      have := ih hclock.initial (c.cutoff+beaconMaxAge)
        (by intro call hcall; have := hclock.cutoff_le call hcall; omega)
      simpa using this
    exact hlast.prune hclock (hle c (by simp))

theorem run_reached_last {calls : List (Call μ)} {last : Call μ}
    (hclock : Nondecreasing (calls++[last])) :
    Reached (calls++[last]) (run (calls++[last])) last.cutoff := by
  have hbefore := run_reached hclock.initial (last.cutoff+beaconMaxAge)
    (by intro c hc; have := hclock.cutoff_le c hc; omega)
  have hrun : run (calls++[last]) = last.apply (run calls) := by simp [run]
  rw [hrun]
  exact Reached.call (by simpa using hbefore) hclock

/-- What an index must hold for a key after a call with the given cutoff. -/
structure IsWindow (stored : Option (List (BeaconEntry μ)))
    (entry : Call μ → Option (String × BeaconEntry μ)) (calls : List (Call μ)) (key : String)
    (cutoff : ℤ) : Prop where
  last : stored.getD [] =
    ((historyOf entry calls key).filter fun e => cutoff < e.storedAt).rtake 100
  notEmpty : stored ≠ some []
  own : ∀ e ∈ stored.getD [], ∃ c ∈ calls, entry c = some (key,e)

theorem Windows.isWindow {m : StringMap (List (BeaconEntry μ))}
    {entry : Call μ → Option (String × BeaconEntry μ)} {calls : List (Call μ)} {cutoff : ℤ}
    (h : Windows m (historyOf entry calls) cutoff) (key : String) :
    IsWindow (m.lookup key) entry calls key cutoff := by
  refine ⟨?_,?_,?_⟩
  · rw [h key,getD_nonEmpty]
    rfl
  · rw [h key,nonEmpty]
    split_ifs with hlen
    · simp
    · intro hnil
      exact hlen (by rw [Option.some.inj hnil]; rfl)
  · intro e he
    rw [h key,getD_nonEmpty] at he
    have hmem : e ∈ historyOf entry calls key :=
      List.mem_of_mem_filter (List.mem_of_mem_drop he)
    obtain ⟨c,hc,hce⟩ := List.mem_filterMap.mp hmem
    simp only [Option.bind_eq_some_iff,Option.ite_none_right_eq_some,Option.some.injEq] at hce
    obtain ⟨⟨k,e'⟩,hentry,hk,hee⟩ := hce
    simp only at hk hee
    exact ⟨c,hc,by rw [hentry,hk,hee]⟩

/-- After every call of every run, each key of both indexes holds the last hundred of
its own beacons that are younger than five minutes, and no key holds an empty list. -/
theorem run_windows (calls : List (Call μ)) (last : Call μ)
    (hclock : Nondecreasing (calls++[last])) (key : String) :
    IsWindow ((run (calls++[last])).bySession.lookup key) Call.sessionEntry (calls++[last]) key
        last.cutoff ∧
      IsWindow ((run (calls++[last])).byIP.lookup key) Call.ipEntry (calls++[last]) key
        last.cutoff := by
  have hafter := run_reached_last hclock
  exact ⟨hafter.session.isWindow key,hafter.ip.isWindow key⟩

/-- A beacon of a page, and six minutes later another one of the same session. -/
def sampleCalls : List (Call ℕ) := [.ingestFromRequest "203.0.113.9:4711" ⟨"s1",1⟩ 0 1 2]

def sampleLast : Call ℕ := .ingest ⟨"s1",2⟩ 360000000000 360000000001

/-- The first beacon is pruned from its session, and its address with it. -/
theorem run_windows_sample : Nondecreasing (sampleCalls++[sampleLast]) ∧
    IsWindow ((run (sampleCalls++[sampleLast])).bySession.lookup "s1") Call.sessionEntry
      (sampleCalls++[sampleLast]) "s1" 60000000000 ∧
    IsWindow ((run (sampleCalls++[sampleLast])).byIP.lookup "s1") Call.ipEntry
      (sampleCalls++[sampleLast]) "s1" 60000000000 :=
  have hclock : Nondecreasing (sampleCalls++[sampleLast]) := by unfold Nondecreasing; decide
  ⟨hclock,run_windows sampleCalls sampleLast hclock "s1"⟩

end Runs

end BeaconStore
end AntiScrapling
