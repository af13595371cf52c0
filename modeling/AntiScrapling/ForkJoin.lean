import AntiScrapling.Runs
import Mathlib.Algebra.BigOperators.Fin

/-! Tasks that are forked one after the other, run in any order and are joined by a counter.
Every task writes its result to a slot of its own, so the slots at the join do not
depend on the schedule. -/
namespace AntiScrapling
namespace ForkJoin

/-- How far a task has come; a returned result is still its own. -/
inductive Phase (α : Type)
  | ready
  | returned (v : α)
  | written
  | done

structure State (α : Type) (n : ℕ) where
  /-- The tasks that have been forked are the first ones. -/
  forked : ℕ
  phase : Fin n → Phase α
  slots : Fin n → α
  /-- The counter of the join. -/
  pending : ℕ

inductive Event (n : ℕ)
  | fork
  | call (i : Fin n)
  | write (i : Fin n)
  | signal (i : Fin n)

variable {α : Type} {n : ℕ}

def State.start (zero : α) : State α n := ⟨0,fun _ => .ready,fun _ => zero,n⟩

/-- The join waits for the counter once all tasks are forked. -/
def State.Joined (s : State α n) : Prop := s.forked = n ∧ s.pending = 0

def State.setPhase (s : State α n) (i : Fin n) (p : Phase α) : State α n :=
  {s with phase := Function.update s.phase i p}

section Steps
variable (results : Fin n → α)

def step (s : State α n) : Event n → Option (State α n)
  | .fork => if s.forked < n then some {s with forked := s.forked+1} else none
  | .call i =>
    match s.phase i with
    | .ready => if i.val < s.forked then some (s.setPhase i (.returned (results i))) else none
    | _ => none
  | .write i =>
    match s.phase i with
    | .returned v => some {s.setPhase i .written with slots := Function.update s.slots i v}
    | _ => none
  | .signal i =>
    match s.phase i with
    | .written => some {s.setPhase i .done with pending := s.pending-1}
    | _ => none

abbrev Run (s : State α n) (es : List (Event n)) (s' : State α n) : Prop :=
  Steps (fun s e s' => step results s e = some s') s es s'

variable {results} {s s' : State α n} {e : Event n}

/-- Everything that a step can do. -/
theorem step_cases (h : step results s e = some s') :
    (s.forked < n ∧ s' = {s with forked := s.forked+1}) ∨
    (∃ i, s.phase i = .ready ∧ s' = s.setPhase i (.returned (results i))) ∨
    (∃ i v, s.phase i = .returned v ∧
      s' = {s.setPhase i .written with slots := Function.update s.slots i v}) ∨
    ∃ i, s.phase i = .written ∧ s' = {s.setPhase i .done with pending := s.pending-1} := by
  cases e with
  | fork =>
    simp only [step] at h
    split_ifs at h with hfork
    exact .inl ⟨hfork,(Option.some.inj h).symm⟩
  | call i =>
    simp only [step] at h
    split at h
    · next hready =>
      split_ifs at h
      exact .inr (.inl ⟨i,hready,(Option.some.inj h).symm⟩)
    · cases h
  | write i =>
    simp only [step] at h
    split at h
    · next v hreturned => exact .inr (.inr (.inl ⟨i,v,hreturned,(Option.some.inj h).symm⟩))
    · cases h
  | signal i =>
    simp only [step] at h
    split at h
    · next hwritten => exact .inr (.inr (.inr ⟨i,hwritten,(Option.some.inj h).symm⟩))
    · cases h

/-- A list of events that can be taken one after the other is a run. -/
theorem run_of_foldlM {es : List (Event n)} (h : es.foldlM (step results) s = some s') :
    Run results s es s' := by
  induction es using List.reverseRecOn generalizing s' with
  | nil =>
    cases h
    exact .refl
  | append_singleton es e ih =>
    rw [List.foldlM_append] at h
    obtain ⟨s₁,hs₁,hstep⟩ := Option.bind_eq_some_iff.mp h
    simp only [List.foldlM_cons,List.foldlM_nil,bind_pure] at hstep
    exact (ih hs₁).snoc hstep

end Steps

section Counting

/-- Changing one phase changes a sum over the phases by the difference. -/
theorem sum_update (w : Phase α → ℕ) (phase : Fin n → Phase α) (i : Fin n) (p : Phase α) :
    ∑ j, w (Function.update phase i p j)+w (phase i) = ∑ j, w (phase j)+w p := by
  have hrest : ∑ j ∈ Finset.univ.erase i, w (Function.update phase i p j) =
      ∑ j ∈ Finset.univ.erase i, w (phase j) :=
    Finset.sum_congr rfl fun j hj => by rw [Function.update_of_ne (Finset.ne_of_mem_erase hj)]
  rw [← Finset.add_sum_erase _ _ (Finset.mem_univ i),
    ← Finset.add_sum_erase Finset.univ (fun j => w (phase j)) (Finset.mem_univ i),hrest,Function.update_self]
  omega

def Phase.unfinished : Phase α → ℕ
  | .done => 0
  | _ => 1

def Phase.left : Phase α → ℕ
  | .ready => 3
  | .returned _ => 2
  | .written => 1
  | .done => 0

def State.work (s : State α n) : ℕ := n-s.forked+∑ i, (s.phase i).left

variable {results : Fin n → α} {s s' : State α n} {e : Event n} {es : List (Event n)} {zero : α}

theorem start_work : (State.start zero : State α n).work = 4*n := by
  simp only [State.work,State.start,Phase.left,Finset.sum_const,Finset.card_univ,Fintype.card_fin,
    smul_eq_mul]
  omega

theorem work_of_phase {i : Fin n} {p : Phase α} (hforked : s'.forked = s.forked)
    (hphase : s'.phase = Function.update s.phase i p) (hleft : p.left+1 = (s.phase i).left) :
    s'.work+1 = s.work := by
  have hsum := sum_update Phase.left s.phase i p
  unfold State.work
  rw [hforked,hphase]
  omega

theorem step_work (h : step results s e = some s') : s'.work+1 = s.work := by
  rcases step_cases h with ⟨hfork,rfl⟩ | ⟨i,hphase,rfl⟩ | ⟨i,v,hphase,rfl⟩ | ⟨i,hphase,rfl⟩
  · show n-(s.forked+1)+∑ j, (s.phase j).left+1 = n-s.forked+∑ j, (s.phase j).left
    omega
  · exact work_of_phase rfl rfl (by rw [hphase]; rfl)
  · exact work_of_phase rfl rfl (by rw [hphase]; rfl)
  · exact work_of_phase rfl rfl (by rw [hphase]; rfl)

theorem run_work (h : Run results s es s') : s'.work+es.length = s.work := by
  induction h with
  | refl => rfl
  | snoc _ hstep ih =>
    have := step_work hstep
    rw [List.length_append,List.length_singleton]
    omega

end Counting

section Slots
variable {results : Fin n → α} {zero : α} {s s' : State α n} {e : Event n} {es : List (Event n)}

def slotIn (zero result : α) : Phase α → α
  | .ready => zero
  | .returned _ => zero
  | .written => result
  | .done => result

structure Consistent (results : Fin n → α) (zero : α) (s : State α n) : Prop where
  slot : ∀ i, s.slots i = slotIn zero (results i) (s.phase i)
  own : ∀ i v, s.phase i = .returned v → v = results i
  counted : s.pending = ∑ i, (s.phase i).unfinished
  forked_le : s.forked ≤ n

theorem start_consistent : Consistent results zero (State.start zero : State α n) where
  slot _ := rfl
  own _ _ h := by cases h
  counted := by simp [State.start,Phase.unfinished]
  forked_le := Nat.zero_le n

/-- A task that moves on leaves the other tasks and their slots alone. -/
theorem Consistent.setPhase (h : Consistent results zero s) {i : Fin n} {p : Phase α} {slots : Fin n → α}
    {pending : ℕ} (hslot : slots i = slotIn zero (results i) p) (hothers : ∀ j ≠ i, slots j = s.slots j)
    (hown : ∀ v, p = .returned v → v = results i)
    (hpending : pending+(s.phase i).unfinished = s.pending+p.unfinished) :
    Consistent results zero {s.setPhase i p with slots := slots, pending := pending} where
  slot j := by
    show slots j = slotIn zero (results j) (Function.update s.phase i p j)
    by_cases hj : j = i
    · subst hj
      rwa [Function.update_self]
    · rw [Function.update_of_ne hj,hothers j hj]
      exact h.slot j
  own j v hj := by
    change Function.update s.phase i p j = .returned v at hj
    by_cases hji : j = i
    · subst hji
      rw [Function.update_self] at hj
      exact hown v hj
    · rw [Function.update_of_ne hji] at hj
      exact h.own j v hj
  counted := by
    have hsum := sum_update Phase.unfinished s.phase i p
    rw [← h.counted] at hsum
    show pending = ∑ j, (Function.update s.phase i p j).unfinished
    omega
  forked_le := h.forked_le

theorem step_consistent (hs : Consistent results zero s) (h : step results s e = some s') :
    Consistent results zero s' := by
  rcases step_cases h with ⟨hfork,rfl⟩ | ⟨i,hphase,rfl⟩ | ⟨i,v,hphase,rfl⟩ | ⟨i,hphase,rfl⟩
  · exact ⟨hs.slot,hs.own,hs.counted,hfork⟩
  · refine hs.setPhase ?_ (fun _ _ => rfl) (fun v hv => ?_) (by rw [hphase]; rfl)
    · rw [hs.slot i,hphase]
      rfl
    · exact (Phase.returned.inj hv).symm
  · refine hs.setPhase ?_ (fun j hj => Function.update_of_ne hj v s.slots) (fun _ hv => by cases hv)
      (by rw [hphase]; rfl)
    rw [Function.update_self]
    exact hs.own i v hphase
  · have hsum := sum_update Phase.unfinished s.phase i .done
    rw [hphase,← hs.counted] at hsum
    change _+1 = s.pending+0 at hsum
    refine hs.setPhase ?_ (fun _ _ => rfl) (fun _ hv => by cases hv) ?_
    · show s.slots i = _
      rw [hs.slot i,hphase]
      rfl
    · rw [hphase]
      show s.pending-1+1 = s.pending+0
      omega

theorem run_consistent (h : Run results (.start zero) es s) : Consistent results zero s :=
  h.invariant start_consistent fun _ _ _ hs hstep => step_consistent hs hstep

theorem Consistent.done (h : Consistent results zero s) (hpending : s.pending = 0) (i : Fin n) :
    s.phase i = .done := by
  have hzero : (s.phase i).unfinished = 0 := by
    rw [h.counted] at hpending
    exact Finset.sum_eq_zero_iff.mp hpending i (Finset.mem_univ i)
  cases hphase : s.phase i with
  | done => rfl
  | ready => rw [hphase] at hzero; cases hzero
  | returned v => rw [hphase] at hzero; cases hzero
  | written => rw [hphase] at hzero; cases hzero

/-- At the join every slot holds the result of its task, whatever the schedule was. -/
theorem slots_of_joined (h : Run results (.start zero) es s) (hjoined : s.Joined) : s.slots = results := by
  have hs := run_consistent h
  funext i
  rw [hs.slot i,hs.done hjoined.2 i]
  rfl

/-- Until the join some task can move. -/
theorem exists_step (hs : Consistent results zero s) (hjoined : ¬ s.Joined) :
    ∃ e s', step results s e = some s' := by
  by_cases hfork : s.forked < n
  · exact ⟨.fork,_,if_pos hfork⟩
  have hforked : s.forked = n := Nat.le_antisymm hs.forked_le (Nat.le_of_not_lt hfork)
  obtain ⟨i,hi⟩ : ∃ i, (s.phase i).unfinished ≠ 0 := by
    by_contra hall
    simp only [not_exists,not_not] at hall
    refine hjoined ⟨hforked,?_⟩
    rw [hs.counted]
    exact Finset.sum_eq_zero fun i _ => hall i
  cases hphase : s.phase i with
  | ready =>
    refine ⟨.call i,s.setPhase i (.returned (results i)),?_⟩
    simp only [step,hphase]
    exact if_pos (by rw [hforked]; exact i.isLt)
  | returned v => exact ⟨.write i,_,by simp only [step,hphase]; rfl⟩
  | written => exact ⟨.signal i,_,by simp only [step,hphase]; rfl⟩
  | done => exact absurd (by rw [hphase]; rfl) hi

/-- Every schedule comes to the join, after `4*n` steps and no earlier. -/
theorem run_length (h : Run results (.start zero) es s) : es.length ≤ 4*n ∧ (s.Joined ↔ es.length = 4*n) := by
  have hwork := run_work h
  rw [start_work] at hwork
  have hs := run_consistent h
  refine ⟨by omega,?_⟩
  constructor
  · intro hjoined
    have hzero : s.work = 0 := by
      have hleft : ∑ i, (s.phase i).left = 0 := Finset.sum_eq_zero fun i _ => by
        rw [hs.done hjoined.2 i]
        rfl
      unfold State.work
      rw [hleft,hjoined.1,Nat.sub_self]
    omega
  · intro hlength
    by_contra hjoined
    obtain ⟨e,s',hstep⟩ := exists_step hs hjoined
    have := step_work hstep
    omega

end Slots

end ForkJoin
end AntiScrapling
