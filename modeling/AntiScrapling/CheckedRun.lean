import Mathlib.Data.List.Basic
import Mathlib.Logic.Relation
import Mathlib.Tactic.Common

/-! Runs that can fail, and the loops inside them.
A run ends with a value, with a reported error, with an index out of range, or
with a loop that used up its fuel.  The last two are kept apart from reported
errors, so that a result about values also excludes them. -/
namespace AntiScrapling
namespace CheckedRun

inductive Fault
  | error (msg : String) | panic | diverge
  deriving DecidableEq, Repr

abbrev Run (α : Type) := Except Fault α

def fail {α : Type} (msg : String) : Run α := .error (.error msg)

/-- Put the text of the failed operation in front of its cause. -/
def wrap {α : Type} (context : String) : Run α → Run α
  | .error (.error msg) => fail (context ++ ": " ++ msg)
  | r => r

section Values
variable {ε α β : Type}

theorem bind_eq_ok {x : Except ε α} {f : α → Except ε β} {b : β} :
    (x >>= f) = .ok b ↔ ∃ a, x = .ok a ∧ f a = .ok b := by
  cases x with
  | error e => simp [bind,Except.bind]
  | ok a => simp [bind,Except.bind]

theorem map_eq_ok {x : Except ε α} {f : α → β} {b : β} :
    x.map f = .ok b ↔ ∃ a, x = .ok a ∧ f a = b := by
  cases x with
  | error e => simp [Except.map]
  | ok a => simp [Except.map]

/-- A loop over a list that gives a value ran every element. -/
theorem forall₂_of_mapM {f : α → Except ε β} {xs : List α} {ys : List β} (h : xs.mapM f = .ok ys) :
    List.Forall₂ (fun x y => f x = .ok y) xs ys := by
  induction xs generalizing ys with
  | nil =>
    cases h
    exact .nil
  | cons x xs ih =>
    rw [List.mapM_cons] at h
    obtain ⟨y,hy,h⟩ := bind_eq_ok.mp h
    obtain ⟨rest,hrest,h⟩ := bind_eq_ok.mp h
    cases h
    exact .cons hy (ih hrest)

theorem exists_of_mapM {f : α → Except ε β} {xs : List α} {ys : List β} (h : xs.mapM f = .ok ys) {x : α}
    (hx : x ∈ xs) : ∃ y, f x = .ok y := by
  have hys := forall₂_of_mapM h
  clear h
  induction hys with
  | nil => cases hx
  | cons hy _ ih =>
    rcases List.mem_cons.mp hx with rfl | hx
    · exact ⟨_,hy⟩
    · exact ih hx

theorem mapM_eq_ok {f : α → Except ε β} {g : α → β} {xs : List α} (h : ∀ x ∈ xs, f x = .ok (g x)) :
    xs.mapM f = .ok (xs.map g) := by
  induction xs with
  | nil => rfl
  | cons x xs ih =>
    rw [List.mapM_cons,h x List.mem_cons_self,ih fun y hy => h y (List.mem_cons_of_mem _ hy)]
    rfl

end Values

section Binds
variable {α β : Type}

/-- A step that gives a value.  With a proof by tactic `simp` records the rewriting, and
the kernel does not have to unfold the steps that follow. -/
theorem ok_bind (a : α) (f : α → Run β) : ((.ok a : Run α) >>= f) = f a := by
  rfl

theorem error_bind (e : Fault) (f : α → Run β) : ((.error e : Run α) >>= f) = .error e := by
  rfl

theorem total_bind {x : Run α} {f : α → Run β} (hx : ∃ a, x = .ok a) (hf : ∀ a, ∃ b, f a = .ok b) :
    ∃ b, (x >>= f) = .ok b := by
  obtain ⟨a,rfl⟩ := hx
  exact hf a

@[simp] theorem wrap_ok (context : String) (a : α) : wrap context (.ok a) = .ok a := rfl

@[simp] theorem wrap_eq_ok {context : String} {x : Run α} {a : α} :
    wrap context x = .ok a ↔ x = .ok a := by
  rcases x with (msg | _ | _) | b <;> simp [wrap,fail]

@[simp] theorem fail_ne_ok {msg : String} {a : α} : fail msg ≠ .ok a := by simp [fail]

end Binds

/-- A loop with an explicit bound on its rounds: a round either moves on to a new
state or leaves the loop with a value. -/
def iterate {σ α : Type} (body : σ → Run (σ ⊕ α)) : ℕ → σ → Run α
  | 0, _ => .error .diverge
  | n+1, s =>
    match body s with
    | .error e => .error e
    | .ok (.inl s') => iterate body n s'
    | .ok (.inr a) => .ok a

section Loops
variable {σ α : Type} {body : σ → Run (σ ⊕ α)}

theorem iterate_next {n : ℕ} {s s' : σ} (h : body s = .ok (.inl s')) :
    iterate body (n+1) s = iterate body n s' := by
  simp [iterate,h]

theorem iterate_done {n : ℕ} {s : σ} {a : α} (h : body s = .ok (.inr a)) :
    iterate body (n+1) s = .ok a := by
  simp [iterate,h]

theorem iterate_error {n : ℕ} {s : σ} {e : Fault} (h : body s = .error e) :
    iterate body (n+1) s = .error e := by
  simp [iterate,h]

/-- Partial correctness: what every round keeps holds when the loop is left. -/
theorem iterate_invariant {P : σ → Prop} {Q : α → Prop}
    (hround : ∀ s s', P s → body s = .ok (.inl s') → P s')
    (hexit : ∀ s a, P s → body s = .ok (.inr a) → Q a)
    {n : ℕ} {s : σ} {a : α} (hs : P s) (h : iterate body n s = .ok a) : Q a := by
  induction n generalizing s with
  | zero => simp [iterate] at h
  | succ n ih =>
    cases hb : body s with
    | error e => simp [iterate,hb] at h
    | ok r =>
      cases r with
      | inl s' => exact ih (hround s s' hs hb) (by simpa [iterate,hb] using h)
      | inr b =>
        have he : b = a := by simpa [iterate,hb] using h
        exact he ▸ hexit s b hs hb

/-- Termination: a loop whose rounds never fail and make a measure smaller ends
with a value once its fuel exceeds the measure. -/
theorem iterate_total {P : σ → Prop} (μ : σ → ℕ)
    (hround : ∀ s, P s → ∃ r, body s = .ok r ∧ ∀ s', r = .inl s' → P s' ∧ μ s' < μ s)
    {n : ℕ} {s : σ} (hs : P s) (hn : μ s < n) : ∃ a, iterate body n s = .ok a := by
  induction n generalizing s with
  | zero => simp at hn
  | succ n ih =>
    obtain ⟨r,hb,hr⟩ := hround s hs
    cases r with
    | inl s' =>
      obtain ⟨hs',hμ⟩ := hr s' rfl
      rw [iterate_next hb]
      exact ih hs' (by omega)
    | inr a => exact ⟨a,iterate_done hb⟩

/-- Total correctness on a list of items: a loop that folds one item into its
state per round, and stops after the last, folds the whole list. -/
theorem iterate_foldl (body : σ → Run (σ ⊕ α)) {ι τ : Type} (all : List ι) (state : List ι → τ → σ) (f : τ → ι → τ)
    (done : τ → α)
    (hround : ∀ x xs acc, x::xs <:+ all →
      body (state (x::xs) acc) = .ok (.inl (state xs (f acc x))))
    (hdone : ∀ acc, body (state [] acc) = .ok (.inr (done acc)))
    (acc : τ) {n : ℕ} (hn : all.length < n) :
    iterate body n (state all acc) = .ok (done (all.foldl f acc)) := by
  suffices h : ∀ xs acc n, xs <:+ all → xs.length < n →
      iterate body n (state xs acc) = .ok (done (xs.foldl f acc)) from
    h all acc n (List.suffix_refl all) hn
  intro xs
  induction xs with
  | nil =>
    intro acc n _ hn
    obtain ⟨m,rfl⟩ := Nat.exists_eq_add_of_lt hn
    exact iterate_done (hdone acc)
  | cons x xs ih =>
    intro acc n hs hn
    cases n with
    | zero => simp at hn
    | succ n =>
      rw [iterate_next (hround x xs acc hs)]
      exact ih (f acc x) n ((List.suffix_cons x xs).trans hs) (by simpa using hn)

/-- The same for a loop that appends every item to a list. -/
theorem iterate_collect (body : σ → Run (σ ⊕ α)) {ι : Type} (all : List ι) (state : List ι → List ι → σ)
    (done : List ι → α)
    (hround : ∀ x xs acc, x::xs <:+ all →
      body (state (x::xs) acc) = .ok (.inl (state xs (acc++[x]))))
    (hdone : ∀ acc, body (state [] acc) = .ok (.inr (done acc)))
    {n : ℕ} (hn : all.length < n) :
    iterate body n (state all []) = .ok (done all) := by
  have h := iterate_foldl body all state (fun acc x => acc++[x]) done hround hdone [] hn
  have hfold : all.foldl (fun acc x => acc++[x]) [] = all := by
    rw [List.foldl_append_eq_append,List.nil_append,← List.flatMap_def,List.flatMap_singleton']
  rwa [hfold] at h

end Loops

/-- A run that stays inside its data and ends: with a value that satisfies `Q`, or
with a reported error. -/
def Safe {α : Type} (x : Run α) (Q : α → Prop) : Prop :=
  match x with
  | .ok a => Q a
  | .error (.error _) => True
  | .error _ => False

section Safety
variable {σ α β : Type} {P Q : α → Prop}

@[simp] theorem safe_ok {a : α} : Safe (.ok a) Q ↔ Q a := Iff.rfl

@[simp] theorem safe_fail {msg : String} : Safe (fail msg) Q := trivial

theorem Safe.bind {x : Run α} {f : α → Run β} {R : β → Prop} (h : Safe x P)
    (hf : ∀ a, P a → Safe (f a) R) : Safe (x >>= f) R := by
  rcases x with (msg | _ | _) | a
  · trivial
  · exact h
  · exact h
  · exact hf a h

theorem Safe.wrap {context : String} {x : Run α} (h : Safe x Q) : Safe (wrap context x) Q := by
  rcases x with (msg | _ | _) | a
  · trivial
  · exact h
  · exact h
  · exact h

theorem safe_of_total {x : Run α} (h : ∃ a, x = .ok a) : Safe x fun _ => True := by
  obtain ⟨a,rfl⟩ := h
  trivial

theorem Safe.value_or_error {x : Run α} (h : Safe x Q) :
    (∃ a, x = .ok a ∧ Q a) ∨ ∃ msg, x = fail msg := by
  rcases x with (msg | _ | _) | a
  · exact .inr ⟨msg,rfl⟩
  · exact h.elim
  · exact h.elim
  · exact .inl ⟨a,rfl,h⟩

/-- What a round must do for its loop to end: keep the invariant and make the
measure smaller, or leave with a good value. -/
def Progress (P : σ → Prop) (μ : σ → ℕ) (Q : α → Prop) (s : σ) : σ ⊕ α → Prop
  | .inl s' => P s' ∧ μ s' < μ s
  | .inr a => Q a

/-- Every round that goes on moves its offset forward. -/
def Advances (offset : σ → ℕ) (body : σ → Run (σ ⊕ α)) : Prop :=
  ∀ s s', body s = .ok (.inl s') → offset s < offset s'

/-- Every round that goes on leaves less to read. -/
def Consumes (remaining : σ → ℕ) (body : σ → Run (σ ⊕ α)) : Prop :=
  ∀ s s', body s = .ok (.inl s') → remaining s' < remaining s

/-- A round that goes on. -/
def Goes (body : σ → Run (σ ⊕ α)) (s s' : σ) : Prop := body s = .ok (.inl s')

/-- What one round keeps, any number of rounds keep. -/
theorem goes_invariant {body : σ → Run (σ ⊕ α)} {P : σ → Prop}
    (hround : ∀ s s', P s → Goes body s s' → P s') {s s' : σ}
    (h : Relation.ReflTransGen (Goes body) s s') (hs : P s) : P s' := by
  induction h with
  | refl => exact hs
  | tail _ hgoes ih => exact hround _ _ ih hgoes

theorem Safe.progress {body : σ → Run (σ ⊕ α)} {P : σ → Prop} {μ : σ → ℕ} {s s' : σ}
    (h : Safe (body s) (Progress P μ Q s)) (hs' : Goes body s s') : P s' ∧ μ s' < μ s := by
  rw [hs'] at h
  exact h

theorem safe_iterate {body : σ → Run (σ ⊕ α)} {P : σ → Prop} (μ : σ → ℕ)
    (hround : ∀ s, P s → Safe (body s) (Progress P μ Q s)) {n : ℕ} {s : σ} (hs : P s)
    (hn : μ s < n) : Safe (iterate body n s) Q := by
  induction n generalizing s with
  | zero => simp at hn
  | succ n ih =>
    have hb := hround s hs
    rcases hbody : body s with (msg | _ | _) | s' | a
    · simp [iterate,hbody,Safe]
    · simp [hbody,Safe] at hb
    · simp [hbody,Safe] at hb
    · rw [hbody] at hb
      obtain ⟨hs',hμ⟩ := hb
      rw [iterate_next hbody]
      exact ih hs' (by omega)
    · rw [hbody] at hb
      rw [iterate_done hbody]
      exact hb

end Safety

/-- Two runs that both end with values related by `R`, or both with the same fault. -/
inductive Alike {α β : Type} (R : α → β → Prop) : Run α → Run β → Prop
  | ok {a : α} {b : β} (h : R a b) : Alike R (.ok a) (.ok b)
  | error (e : Fault) : Alike R (.error e) (.error e)

section Pairs
variable {α β γ δ σ τ : Type} {R : α → β → Prop} {S : γ → δ → Prop}

theorem Alike.bind {x : Run α} {y : Run β} {f : α → Run γ} {g : β → Run δ} (h : Alike R x y)
    (hfg : ∀ a b, R a b → Alike S (f a) (g b)) : Alike S (x >>= f) (y >>= g) := by
  cases h with
  | ok hab => exact hfg _ _ hab
  | error e => exact .error e

theorem Alike.map {x : Run α} {y : Run β} {f : α → γ} {g : β → δ} (h : Alike R x y)
    (hfg : ∀ a b, R a b → S (f a) (g b)) : Alike S (x.map f) (y.map g) := by
  cases h with
  | ok hab => exact .ok (hfg _ _ hab)
  | error e => exact .error e

def fault {α : Type} : Run α → Option Fault
  | .ok _ => none
  | .error e => some e

theorem Alike.fault_eq {x : Run α} {y : Run β} (h : Alike R x y) : fault x = fault y := by
  cases h <;> rfl

theorem fault_map (x : Run α) (f : α → γ) : fault (x.map f) = fault x := by
  cases x <;> rfl

theorem fault_bind {x : Run α} {f : α → Run γ} {later : Option Fault}
    (h : ∀ a, fault (f a) = later) : fault (x >>= f) = (fault x).or later := by
  cases x with
  | error e => rfl
  | ok a => exact h a

/-- Two runs are the same if they fail alike and return the same value. -/
theorem run_eq_iff {x y : Run α} :
    x = y ↔ fault x = fault y ∧ ∀ a b, x = .ok a → y = .ok b → a = b := by
  constructor
  · rintro rfl
    refine ⟨rfl,?_⟩
    intro a b ha hb
    exact Except.ok.inj (ha.symm.trans hb)
  · rintro ⟨hfault,hvalue⟩
    cases x with
    | error e =>
      cases y with
      | error e' => exact congrArg Except.error (Option.some.inj hfault)
      | ok b => cases hfault
    | ok a =>
      cases y with
      | error e => cases hfault
      | ok b => exact congrArg Except.ok (hvalue a b rfl rfl)

/-- The same step in front of two runs. -/
theorem alike_after (x : Run α) {f : α → Run γ} {g : α → Run δ} (h : ∀ a, Alike S (f a) (g a)) :
    Alike S (x >>= f) (x >>= g) := by
  cases x with
  | ok a => exact h a
  | error e => exact .error e

/-- Rounds that are alike on related states make their loops alike. -/
theorem alike_iterate {body : σ → Run (σ ⊕ α)} {body' : τ → Run (τ ⊕ β)} {P : σ → τ → Prop}
    (hround : ∀ s t, P s t → Alike (Sum.LiftRel P R) (body s) (body' t)) (n : ℕ) {s : σ} {t : τ}
    (hst : P s t) : Alike R (iterate body n s) (iterate body' n t) := by
  induction n generalizing s t with
  | zero => exact .error .diverge
  | succ n ih =>
    have hbodies := hround s t hst
    unfold iterate
    generalize body s = x at hbodies ⊢
    generalize body' t = y at hbodies ⊢
    cases hbodies with
    | error e => exact .error e
    | ok h =>
      cases h with
      | inl hnext => exact ih hnext
      | inr hdone => exact .ok hdone

end Pairs

end CheckedRun
end AntiScrapling
