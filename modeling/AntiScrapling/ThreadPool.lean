import AntiScrapling.Runs
import Mathlib.Algebra.BigOperators.Group.Finset.Basic
import Mathlib.Data.Set.Basic

/-! Threads over a shared state.  A step is a step of one thread, so a run is one way of
interleaving them.  What a thread has done it shows for ever, and the invariants of the
shared state and of the single threads may refer to everything that is shown. -/
namespace AntiScrapling

structure Pool (ι σ α : Type) where
  shared : σ
  threads : ι → α

namespace Pool

variable {ι σ α ε φ : Type}

def Shown (shows : α → Set φ) (p : Pool ι σ α) : Set φ := {f | ∃ i, f ∈ shows (p.threads i)}

variable [DecidableEq ι]

def Moves (step : σ → α → ε → Option (σ × α)) (p : Pool ι σ α) (e : ι × ε) (p' : Pool ι σ α) : Prop :=
  ∃ s l, step p.shared (p.threads e.1) e.2 = some (s,l) ∧ p' = ⟨s,Function.update p.threads e.1 l⟩

/-- A step that respects what is assumed of the environment. -/
def GuardedMoves (step : σ → α → ε → Option (σ × α)) (shows : α → Set φ) (guard : Set φ → α → ε → Prop)
    (p : Pool ι σ α) (e : ι × ε) (p' : Pool ι σ α) : Prop :=
  Moves step p e p' ∧ guard (p.Shown shows) (p.threads e.1) e.2

variable {step : σ → α → ε → Option (σ × α)} {shows : α → Set φ} {guard : Set φ → α → ε → Prop}
  {S : Set φ → σ → Prop} {T : Set φ → α → Prop}

/-- Invariants of the shared state and of a thread, given the facts that are shown. -/
structure Evidence (step : σ → α → ε → Option (σ × α)) (shows : α → Set φ) (guard : Set φ → α → ε → Prop)
    (S : Set φ → σ → Prop) (T : Set φ → α → Prop) : Prop where
  stable {s s' : σ} {l l' : α} {e : ε} : step s l e = some (s',l') → shows l ⊆ shows l'
  mono_shared {A B : Set φ} {s : σ} : A ⊆ B → S A s → S B s
  mono_thread {A B : Set φ} {l : α} : A ⊆ B → T A l → T B l
  next {A : Set φ} {s s' : σ} {l l' : α} {e : ε} : S A s → T A l → guard A l e →
    step s l e = some (s',l') → S (A ∪ shows l') s' ∧ T (A ∪ shows l') l'

theorem shown_move (hstable : ∀ {s s' l l' e}, step s l e = some (s',l') → shows l ⊆ shows l')
    {p : Pool ι σ α} {i : ι} {e : ε} {s : σ} {l : α} (h : step p.shared (p.threads i) e = some (s,l)) :
    p.Shown shows ∪ shows l ⊆ (Pool.mk s (Function.update p.threads i l)).Shown shows := by
  rintro f (⟨j,hj⟩ | hf)
  · by_cases hji : j = i
    · subst hji
      exact ⟨j,by simpa using hstable h hj⟩
    · exact ⟨j,by simpa [Function.update_of_ne hji] using hj⟩
  · exact ⟨i,by simpa using hf⟩

theorem Evidence.move (h : Evidence step shows guard S T) {p p' : Pool ι σ α} {e : ι × ε}
    (hmove : GuardedMoves step shows guard p e p') (hs : S (p.Shown shows) p.shared)
    (ht : ∀ i, T (p.Shown shows) (p.threads i)) :
    S (p'.Shown shows) p'.shared ∧ ∀ i, T (p'.Shown shows) (p'.threads i) := by
  obtain ⟨⟨s,l,hstep,rfl⟩,hguard⟩ := hmove
  have hshown := shown_move h.stable hstep
  obtain ⟨hs',ht'⟩ := h.next hs (ht e.1) hguard hstep
  refine ⟨h.mono_shared hshown hs',fun j => ?_⟩
  by_cases hj : j = e.1
  · subst hj
    simpa using h.mono_thread hshown ht'
  · simpa [Function.update_of_ne hj] using h.mono_thread (Set.subset_union_left.trans hshown) (ht j)

/-- The invariants hold after every run. -/
theorem Evidence.run (h : Evidence step shows guard S T) {p p' : Pool ι σ α} {es : List (ι × ε)}
    (hrun : Steps (GuardedMoves step shows guard) p es p') (hs : S (p.Shown shows) p.shared)
    (ht : ∀ i, T (p.Shown shows) (p.threads i)) :
    S (p'.Shown shows) p'.shared ∧ ∀ i, T (p'.Shown shows) (p'.threads i) :=
  hrun.invariant (P := fun p => S (p.Shown shows) p.shared ∧ ∀ i, T (p.Shown shows) (p.threads i))
    ⟨hs,ht⟩ fun _ _ _ hp hmove => h.move hmove hp.1 hp.2

section Alone

def alone (step : σ → α → ε → Option (σ × α)) (s : σ) (l : α) (es : List ε) : Option (σ × α) :=
  es.foldlM (fun sl e => step sl.1 sl.2 e) (s,l)

theorem alone_cons {s : σ} {l : α} {e : ε} {es : List ε} {r : σ × α} :
    alone step s l (e::es) = some r ↔ ∃ s' l', step s l e = some (s',l') ∧ alone step s' l' es = some r := by
  simp [alone,List.foldlM_cons,Option.bind_eq_some_iff]

/-- It makes a run of the pool, in which the other threads wait. -/
theorem steps_alone {p₀ p : Pool ι σ α} {es₀ : List (ι × ε)} (h₀ : Steps (Moves step) p₀ es₀ p) (i : ι)
    {es : List ε} {s : σ} {l : α} (h : alone step p.shared (p.threads i) es = some (s,l)) :
    Steps (Moves step) p₀ (es₀++es.map fun e => (i,e)) ⟨s,Function.update p.threads i l⟩ := by
  induction es generalizing p es₀ with
  | nil =>
    obtain ⟨rfl,rfl⟩ := Prod.mk.inj (Option.some.inj h)
    simpa using h₀
  | cons e es ih =>
    obtain ⟨s',l',hstep,hrest⟩ := alone_cons.mp h
    have hmove : Moves step p (i,e) ⟨s',Function.update p.threads i l'⟩ := ⟨s',l',hstep,rfl⟩
    have hrun := ih (h₀.snoc hmove) (by simpa using hrest)
    simpa using hrun

def play (step : σ → α → ε → Option (σ × α)) (p : Pool ι σ α) : List (ι × ε) → Option (Pool ι σ α)
  | [] => some p
  | e::es => (step p.shared (p.threads e.1) e.2).bind fun r => play step ⟨r.1,Function.update p.threads e.1 r.2⟩ es

theorem steps_play {p₀ p p' : Pool ι σ α} {es₀ es : List (ι × ε)} (h₀ : Steps (Moves step) p₀ es₀ p)
    (h : play step p es = some p') : Steps (Moves step) p₀ (es₀++es) p' := by
  induction es generalizing p es₀ with
  | nil =>
    cases h
    simpa using h₀
  | cons e es ih =>
    obtain ⟨r,hstep,hrest⟩ := Option.bind_eq_some_iff.mp h
    have hrun := ih (h₀.snoc (e := e) ⟨r.1,r.2,hstep,rfl⟩) hrest
    simpa using hrun

end Alone

section Tally
variable {M : Type} [AddCancelCommMonoid M]

def moved (es : List (ι × ε)) : Finset ι := (es.map Prod.fst).toFinset

theorem moved_snoc (es : List (ι × ε)) (e : ι × ε) : moved (es++[e]) = insert e.1 (moved es) := by
  ext i
  simp [moved]

theorem threads_of_not_moved {p p' : Pool ι σ α} {es : List (ι × ε)} (h : Steps (Moves step) p es p') {i : ι}
    (hi : i ∉ moved es) : p'.threads i = p.threads i := by
  induction h with
  | refl => rfl
  | snoc _ hmove ih =>
    obtain ⟨s,l,-,rfl⟩ := hmove
    rw [moved_snoc,Finset.mem_insert,not_or] at hi
    rw [← ih hi.2]
    exact Function.update_of_ne hi.1 _ _

theorem sum_update (f : α → M) (threads : ι → α) {I : Finset ι} {i : ι} (hi : i ∈ I) (l : α) :
    (∑ j ∈ I, f (Function.update threads i l j))+f (threads i) = (∑ j ∈ I, f (threads j))+f l := by
  have hrest : ∑ j ∈ I.erase i, f (Function.update threads i l j) = ∑ j ∈ I.erase i, f (threads j) :=
    Finset.sum_congr rfl fun j hj => by rw [Function.update_of_ne (Finset.ne_of_mem_erase hj)]
  rw [← Finset.add_sum_erase I _ hi,← Finset.add_sum_erase I (fun j => f (threads j)) hi,hrest,
    Function.update_self,add_right_comm (f l),add_right_comm (f (threads i)),add_comm (f l)]

/-- If every step adds to an account what it adds to the weight of its thread, then the account
is the weight of all threads: no update is lost and none is made twice. -/
theorem tally (account : σ → M → Prop) (weight : α → M) (hstep : ∀ {s s' l l' e m}, step s l e = some (s',l') → account s m →
      ∃ m', account s' m' ∧ m'+weight l = m+weight l')
    {p p' : Pool ι σ α} {es : List (ι × ε)} (hrun : Steps (Moves step) p es p') (hstart : account p.shared 0)
    (hidle : ∀ i, weight (p.threads i) = 0) :
    account p'.shared (∑ i ∈ moved es, weight (p'.threads i)) := by
  induction hrun with
  | refl => simpa [moved] using hstart
  | @snoc es e p₁ p₂ hrun hmove ih =>
    obtain ⟨s,l,hl,rfl⟩ := hmove
    -- The thread that moves may be a new one; so far its weight was zero.
    have hextend : ∑ i ∈ moved (es++[e]), weight (p₁.threads i) = ∑ i ∈ moved es, weight (p₁.threads i) := by
      rw [moved_snoc]
      refine (Finset.sum_subset (Finset.subset_insert _ _) fun i _ hi => ?_).symm
      rw [threads_of_not_moved hrun hi,hidle]
    obtain ⟨m,hm,hsum⟩ := hstep hl ih
    have hmem : e.1 ∈ moved (es++[e]) := by simp [moved]
    have hupdate := sum_update weight p₁.threads hmem l
    rw [hextend,← hsum] at hupdate
    rw [add_right_cancel hupdate]
    exact hm

end Tally

end Pool
end AntiScrapling
