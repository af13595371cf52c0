import AntiScrapling.BeaconStore
import AntiScrapling.Fingerprint
import AntiScrapling.Request
import Mathlib.Data.Rat.Defs

/-! Scoring of behaviour beacons (`internal/signal/behavior`), and what the readers of the
beacon store see: `GetBySession`, and the collector of the pipeline, which looks beacons up
by address (`internal/challenge/beacon_store.go`).  Readers do not prune. -/
namespace AntiScrapling
namespace Behavior

open BeaconStore SlidingWindow

section Score

structure MouseMetrics where
  moveCount : ℤ := 0
  jitterIndex : ℚ := 0
  clickIntervalsMs : List ℤ := []
  deriving DecidableEq, Repr

structure VisibilityMetrics where
  hiddenMs : ℤ := 0
  visibleMs : ℤ := 0
  deriving DecidableEq, Repr

structure ResourceMetrics where
  css : ℤ := 0
  image : ℤ := 0
  font : ℤ := 0
  deriving DecidableEq, Repr

structure Metrics where
  mouse : MouseMetrics := {}
  visibility : VisibilityMetrics := {}
  resourceFetches : ResourceMetrics := {}
  deriving DecidableEq, Repr

def turnstileMin : ℤ := 100
def turnstileMax : ℤ := 200

def jitterThreshold : ℚ := 3602879701896397/72057594037927936

def minMoveCountBot : ℤ := 10

def checkResourceBlock (b : Metrics) : Option Signal :=
  let rf := b.resourceFetches
  if rf.css = 0 && rf.font = 0 && rf.image = 0 then
    some ⟨"behavior_resource_block",40,"zero CSS/font/image fetches — Scrapling resource-type blocking (L5.1)"⟩
  else none

def checkMouseJitter (b : Metrics) : Option Signal :=
  if b.mouse.jitterIndex < jitterThreshold && b.mouse.moveCount > minMoveCountBot then
    some ⟨"behavior_smooth_path",30,
      "mouse jitter index below human floor with significant move count — synthetic Bezier path"⟩
  else none

def checkClickTiming (b : Metrics) : Option Signal :=
  let intervals := b.mouse.clickIntervalsMs
  if intervals.length = 0 then none
  else if intervals.any fun iv => iv < turnstileMin || iv > turnstileMax then none
  else some ⟨"behavior_turnstile_clicker",60,
    "all click intervals within Scrapling randint(100,200) band — Turnstile auto-solver (L5.3)"⟩

def checkVisibility (b : Metrics) : Option Signal :=
  let hidden := b.visibility.hiddenMs
  let visible := b.visibility.visibleMs
  if hidden = 0 then none
  else if hidden > (visible*5).bmod 18446744073709551616 then
    some ⟨"behavior_hidden_dominant",20,"hidden time dominates visible time — headless or non-interactive session"⟩
  else none

def checkers : List (Metrics → Option Signal) :=
  [checkResourceBlock,checkMouseJitter,checkClickTiming,checkVisibility]

def score (b : BehaviorBeacon Metrics) : List Signal := checkers.filterMap fun check => check b.metrics

end Score

section Readers

def scoreSession (s : Store Metrics) (sessionID : String) : List Signal :=
  match getBySession s sessionID with
  | none => []
  | some b => score b

/-- `StoreBehaviorCollector.Collect`. -/
def collect (s : Store Metrics) (ctx : RequestContext) : List Signal :=
  match getByIP s ctx.remoteIP with
  | none => []
  | some b => score b

inductive Event
  | ingest (call : Call Metrics)
  | getBySession (sessionID : String) (t : ℤ)
  | scoreSession (sessionID : String) (t : ℤ)
  | collect (ctx : RequestContext) (t : ℤ)

def Event.times : Event → List ℤ
  | .ingest call => call.times
  | .getBySession _ t => [t]
  | .scoreSession _ t => [t]
  | .collect _ t => [t]

def Event.apply (s : Store Metrics) : Event → Store Metrics
  | .ingest call => call.apply s
  | _ => s

def runEvents (es : List Event) : Store Metrics := es.foldl Event.apply newBeaconStore

def ingested (es : List Event) : List (Call Metrics) :=
  es.filterMap fun
    | .ingest call => some call
    | _ => none

def Clock (es : List Event) (t : ℤ) : Prop := (es.flatMap Event.times++[t]).Pairwise (· ≤ ·)

theorem runEvents_eq (es : List Event) : runEvents es = run (ingested es) := by
  induction es using List.reverseRecOn with
  | nil => rfl
  | append_singleton es e ih =>
    have hstep : runEvents (es++[e]) = e.apply (runEvents es) := by simp [runEvents]
    rw [hstep,ih]
    cases e <;> simp [Event.apply,ingested,run]

theorem ingested_times (es : List Event) :
    ((ingested es).flatMap Call.times).Sublist (es.flatMap Event.times) := by
  induction es with
  | nil => exact .slnil
  | cons e es ih =>
    cases e with
    | ingest call => exact (List.Sublist.refl call.times).append ih
    | getBySession sessionID t => exact ih.cons t
    | scoreSession sessionID t => exact ih.cons t
    | collect ctx t => exact ih.cons t

theorem Clock.nondecreasing {es : List Event} {t : ℤ} (h : Clock es t) : Nondecreasing (ingested es) :=
  (List.pairwise_append.mp h).1.sublist (ingested_times es)

end Readers

section Latest
variable {entry : Call Metrics → Option (String × BeaconEntry Metrics)}

/-- The latest beacon ingested for a key, if the last ingestion of any client left it. -/
def latest (entry : Call Metrics → Option (String × BeaconEntry Metrics)) (calls : List (Call Metrics))
    (key : String) : Option (BeaconEntry Metrics) :=
  calls.getLast?.bind fun last =>
    (historyOf entry calls key).getLast?.filter fun e => last.cutoff < e.storedAt

/-- The newest entry of an index after a run. -/
theorem Windows.newest {m : StringMap (List (BeaconEntry Metrics))} {calls : List (Call Metrics)}
    {last : Call Metrics} (hclock : Nondecreasing (calls++[last]))
    (hentry : ∀ c key e, entry c = some (key,e) → e.storedAt ∈ c.times)
    (h : Windows m (historyOf entry (calls++[last])) last.cutoff) (key : String) :
    ((m.lookup key).getD []).getLast? = latest entry (calls++[last]) key := by
  have hlater : KeepsLater (after last.cutoff) (historyOf entry (calls++[last]) key) := by
    refine (hclock.history_sorted hentry key).imp ?_
    intro e e' hle he
    simp only [after,decide_eq_true_eq] at he ⊢
    omega
  rw [h key,getD_nonEmpty,getLast?_window hlater (by decide),latest,List.getLast?_append_cons]
  rfl

theorem latest_mem {calls : List (Call Metrics)} {key : String} {e : BeaconEntry Metrics}
    (h : latest entry calls key = some e) :
    ∃ last, calls.getLast? = some last ∧ last.cutoff < e.storedAt ∧ ∃ c ∈ calls, entry c = some (key,e) := by
  obtain ⟨last,hlast,hfilter⟩ := Option.bind_eq_some_iff.mp h
  obtain ⟨hnewest,hcut⟩ := Option.filter_eq_some_iff.mp hfilter
  obtain ⟨c,hc,hce⟩ := List.mem_filterMap.mp (List.mem_of_getLast? hnewest)
  obtain ⟨⟨k,e'⟩,hentry,hk⟩ := Option.bind_eq_some_iff.mp hce
  obtain ⟨rfl,⟨⟩⟩ := Option.ite_none_right_eq_some.mp hk
  exact ⟨last,hlast,of_decide_eq_true hcut,c,hc,hentry⟩

theorem Clock.stored_le {es : List Event} {t : ℤ} (h : Clock es t) {c : Call Metrics} {u : ℤ}
    (hc : c ∈ ingested es) (hu : u ∈ c.times) : u ≤ t := by
  have hmem : u ∈ es.flatMap Event.times :=
    (ingested_times es).subset (List.mem_flatMap.mpr ⟨c,hc,hu⟩)
  exact (List.pairwise_append.mp h).2.2 u hmem t List.mem_cons_self

/-- A read gives, or scores, the latest beacon of its session or address if this was stored
less than five minutes before the last ingestion, of whichever client, and none otherwise. -/
theorem read_run (es : List Event) (t : ℤ) (hclock : Clock es t) :
    (∀ sessionID, getBySession (runEvents es) sessionID =
        (latest Call.sessionEntry (ingested es) sessionID).map BeaconEntry.beacon) ∧
      (∀ sessionID, scoreSession (runEvents es) sessionID =
        ((latest Call.sessionEntry (ingested es) sessionID).map fun e => score e.beacon).getD []) ∧
      (∀ ctx, collect (runEvents es) ctx =
        ((latest Call.ipEntry (ingested es) ctx.remoteIP).map fun e => score e.beacon).getD []) ∧
      ∀ entry ∈ [Call.sessionEntry,Call.ipEntry], ∀ key e, latest entry (ingested es) key = some e →
        e.storedAt ≤ t ∧ ∃ last, (ingested es).getLast? = some last ∧ last.cutoff < e.storedAt := by
  have hnewest : (∀ key, (((runEvents es).bySession.lookup key).getD []).getLast? =
        latest Call.sessionEntry (ingested es) key) ∧
      ∀ key, (((runEvents es).byIP.lookup key).getD []).getLast? =
        latest Call.ipEntry (ingested es) key := by
    have hcalls := hclock.nondecreasing
    rw [runEvents_eq]
    rcases List.eq_nil_or_concat (ingested es) with hnil | ⟨calls,last,hlast⟩
    · rw [hnil]
      exact ⟨fun _ => rfl,fun _ => rfl⟩
    · rw [hlast,List.concat_eq_append] at hcalls ⊢
      have hreached := run_reached_last hcalls
      exact ⟨Windows.newest hcalls (fun _ _ _ => sessionEntry_stored) hreached.session,
        Windows.newest hcalls (fun _ _ _ => ipEntry_stored) hreached.ip⟩
  have hsession (sessionID : String) : getBySession (runEvents es) sessionID =
      (latest Call.sessionEntry (ingested es) sessionID).map BeaconEntry.beacon := by
    rw [getBySession,hnewest.1]
  refine ⟨hsession,?_,?_,?_⟩
  · intro sessionID
    rw [scoreSession,hsession]
    cases latest Call.sessionEntry (ingested es) sessionID <;> rfl
  · intro ctx
    rw [collect,getByIP,hnewest.2]
    cases latest Call.ipEntry (ingested es) ctx.remoteIP <;> rfl
  · intro entry hentry key e he
    obtain ⟨last,hlast,hcut,c,hc,hce⟩ := latest_mem he
    refine ⟨hclock.stored_le hc ?_,last,hlast,hcut⟩
    simp only [List.mem_cons,List.not_mem_nil,or_false] at hentry
    rcases hentry with rfl | rfl
    · exact sessionEntry_stored hce
    · exact ipEntry_stored hce

/-- A page that loaded no style sheet, font or image. -/
def sampleBeacon : BehaviorBeacon Metrics := ⟨"s1",{}⟩

/-- One beacon, and nothing else that would make the store prune. -/
def sampleEvents : List Event := [.ingest (.ingestFromRequest "203.0.113.9:4711" sampleBeacon 0 1 2)]

/-- Six minutes later it is still returned and scored. -/
theorem stale_beacon_read :
    Clock sampleEvents 360000000000 ∧ 2+beaconMaxAge ≤ 360000000000 ∧
      getBySession (runEvents sampleEvents) "s1" = some sampleBeacon ∧
      collect (runEvents sampleEvents) {remoteIP := "203.0.113.9"} =
        [⟨"behavior_resource_block",40,
          "zero CSS/font/image fetches — Scrapling resource-type blocking (L5.1)"⟩] := by
  refine ⟨by unfold Clock; decide,by decide,?_,?_⟩
  · decide +kernel
  · decide +kernel

/-- The beacon of another client, five minutes after the first, makes it go. -/
theorem read_run_sample :
    Clock (sampleEvents++[.ingest (.ingest ⟨"s2",{}⟩ 300000000002 300000000003)]) 360000000000 ∧
      getBySession (runEvents (sampleEvents++[.ingest (.ingest ⟨"s2",{}⟩ 300000000002 300000000003)]))
        "s1" = none := by
  have hclock : Clock (sampleEvents++[.ingest (.ingest ⟨"s2",{}⟩ 300000000002 300000000003)])
      360000000000 := by
    unfold Clock
    decide
  refine ⟨hclock,?_⟩
  rw [(read_run _ _ hclock).1]
  decide +kernel

end Latest

end Behavior
end AntiScrapling
