import AntiScrapling.ForkJoin
import AntiScrapling.PolicyVerdict

/-! The collectors as goroutines (`collectParallel`): under every schedule the signals and the
decision are the same. -/
namespace AntiScrapling
namespace Pipeline

open Decide ForkJoin

section Schedules

/-- What each collector returns; an error beside the signals is dropped. -/
def collected (collectors : List Collector) (req : RequestContext) (i : Fin collectors.length) : List Signal :=
  ((collectors.get i) req).1

/-- The goroutines of `collectParallel` under some schedule, from empty slots. -/
abbrev Scheduled (collectors : List Collector) (req : RequestContext)
    (es : List (Event collectors.length)) (s : State (List Signal) collectors.length) : Prop :=
  Run (collected collectors req) (.start []) es s

/-- What `collectParallel` makes of the slots once all goroutines are done. -/
def gather {n : ℕ} (slots : Fin n → List Signal) : List Signal :=
  let total := ((List.ofFn slots).map List.length).sum
  if n = 0 then []
  else if total = 0 then []
  else (List.ofFn slots).flatten

theorem gather_eq {n : ℕ} (slots : Fin n → List Signal) : gather slots = (List.ofFn slots).flatten := by
  unfold gather
  simp only
  split_ifs with hn htotal
  · subst hn
    rfl
  · rw [← List.length_flatten] at htotal
    exact (List.length_eq_zero_iff.mp htotal).symm
  · rfl

theorem gather_collected (collectors : List Collector) (req : RequestContext) :
    gather (collected collectors req) = collectParallel collectors req := by
  have hget : List.ofFn (collected collectors req) = collectors.map fun c => (c req).1 := by
    rw [← List.ofFn_get (collectors.map _)]
    refine List.ext_get (by simp) fun i h h' => ?_
    simp [collected]
  rw [gather_eq,hget]
  rfl

end Schedules

section Decisions

theorem combine_timestamp (signals : List Signal) (policy : Option ScoringConfig) (requestInfo : RequestInfo)
    (hasValidToken : Bool) (evalFn : Option (EvalCtx → EvalResult)) (now now' : ℤ) :
    combine signals policy requestInfo hasValidToken evalFn now' =
      {combine signals policy requestInfo hasValidToken evalFn now with timestamp := now'} := by
  simp only [combine]
  split_ifs
  · rfl
  · cases evalFn with
    | none => rfl
    | some f =>
      simp only
      split_ifs <;> rfl

variable (L : Policy.Libraries)

/-- `Decide` without a cache, from the slots that the goroutines left. -/
def decideFrom {n : ℕ} (p : Pipeline) (slots : Fin n → List Signal) (req : RequestContext)
    (hasValidToken : Bool) (now : ℤ) : Decision :=
  combine (gather slots) (p.policy.map Policy.PolicyConfig.scoring) (buildRequestInfo req) hasValidToken
    (buildEvalFn L p.evaluator) now

/-- Whatever the schedule, the goroutines come to an end, the signals are those of the
collectors in their order, and the decision is the same but for its timestamp. -/
theorem decide_any_schedule (p : Pipeline) (req : RequestContext) (hasValidToken : Bool) (now now' : ℤ)
    {es : List (Event p.collectors.length)} {s : State (List Signal) p.collectors.length}
    (h : Scheduled p.collectors req es s) :
    (es.length ≤ 4*p.collectors.length ∧ (s.Joined ↔ es.length = 4*p.collectors.length) ∧
      (s.Joined ∨ ∃ e s', step (collected p.collectors req) s e = some s')) ∧
    (s.Joined →
      gather s.slots = p.collectors.flatMap (fun c => (c req).1) ∧
      decideFrom L p s.slots req hasValidToken now' =
        {decideUncached L p req hasValidToken now with timestamp := now'}) := by
  obtain ⟨hle,hend⟩ := run_length h
  refine ⟨⟨hle,hend,?_⟩,fun hjoined => ?_⟩
  · by_cases hjoined : s.Joined
    · exact .inl hjoined
    · exact .inr (exists_step (run_consistent h) hjoined)
  · have hgather : gather s.slots = collectParallel p.collectors req := by
      rw [slots_of_joined h hjoined,gather_collected]
    refine ⟨hgather,?_⟩
    rw [decideFrom,hgather]
    exact combine_timestamp ..

/-- Two collectors, of which the first also reports an error. -/
def samplePair : Pipeline := .new
  [fun _ => ([⟨"ja3_known_scraper",80,""⟩],some "bad record"),fun _ => ([⟨"ja4_unknown",20,""⟩],none)] none 0 none

def lastFirst : List (Event 2) :=
  [.fork,.call 0,.fork,.call 1,.write 1,.signal 1,.write 0,.signal 0]

theorem decide_any_schedule_last : ∃ s : State (List Signal) samplePair.collectors.length,
    Scheduled samplePair.collectors {} lastFirst s ∧ s.Joined ∧
    gather s.slots = [⟨"ja3_known_scraper",80,""⟩,⟨"ja4_unknown",20,""⟩] := by
  obtain ⟨s,hs,hend⟩ : ∃ s, lastFirst.foldlM (step (collected samplePair.collectors {})) (.start []) = some s ∧
      (s.forked,s.pending) = (2,0) := Option.map_eq_some_iff.mp (by decide)
  have hrun : Scheduled samplePair.collectors {} lastFirst s := run_of_foldlM hs
  have hjoined : s.Joined := ⟨congrArg Prod.fst hend,congrArg Prod.snd hend⟩
  exact ⟨s,hrun,hjoined,((decide_any_schedule Policy.sampleLibraries samplePair {} false 0 0 hrun).2 hjoined).1⟩

end Decisions

end Pipeline
end AntiScrapling
