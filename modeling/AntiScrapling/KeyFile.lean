import AntiScrapling.ByteCodec
import AntiScrapling.Runs
import Mathlib.Logic.Function.Basic

/-! `LoadKey` (`internal/token/key.go`) called from any number of processes on one path.
The read of the file, the generation of a key, the creation of the file, which truncates
it, and the write are steps of their own; each of them may fail. -/
namespace AntiScrapling
namespace KeyFile

open ByteCodec

section Steps

abbrev Key := {k : Bytes // k.length = 32}

inductive Phase
  | start
  | missed
  | generated (key : Key)
  | created (key : Key)
  | done (result : Except String Bytes)

structure State where
  file : Option Bytes
  phase : ℕ → Phase

def initial : State := ⟨none,fun _ => .start⟩

inductive Event
  | read (id : ℕ)
  | readFails (id : ℕ) (err : String)
  | generate (id : ℕ) (key : Key)
  | generateFails (id : ℕ) (err : String)
  | create (id : ℕ)
  | createFails (id : ℕ) (err : String)
  | write (id : ℕ)
  | writeFails (id n : ℕ) (err : String)

def State.move (s : State) (id : ℕ) (p : Phase) : State := {s with phase := Function.update s.phase id p}

theorem move_phase (s : State) (id : ℕ) (p : Phase) (id' : ℕ) :
    (s.move id p).phase id' = if id' = id then p else s.phase id' := Function.update_apply ..

def readKey (data : Bytes) : Except String Bytes :=
  if data.length = 0 then .error "token: key file is empty" else .ok data

/-- A write of `n` bytes at the start of the file. -/
def overwrite (key : Bytes) (n : ℕ) (data : Bytes) : Bytes := key.take n++data.drop n

/-- A write that fails has written any number of bytes before; all of them, if it is the
close that fails. -/
inductive Step : State → Event → State → Prop
  | read {s : State} {id : ℕ} {data : Bytes} (hphase : s.phase id = .start) (hfile : s.file = some data) :
      Step s (.read id) (s.move id (.done (readKey data)))
  | missing {s : State} {id : ℕ} (hphase : s.phase id = .start) (hfile : s.file = none) :
      Step s (.read id) (s.move id .missed)
  | readFails {s : State} {id : ℕ} (err : String) (hphase : s.phase id = .start) :
      Step s (.readFails id err) (s.move id (.done (.error ("token: read key file: " ++ err))))
  | generate {s : State} {id : ℕ} (key : Key) (hphase : s.phase id = .missed) :
      Step s (.generate id key) (s.move id (.generated key))
  | generateFails {s : State} {id : ℕ} (err : String) (hphase : s.phase id = .missed) :
      Step s (.generateFails id err) (s.move id (.done (.error ("token: generate key: " ++ err))))
  | create {s : State} {id : ℕ} {key : Key} (hphase : s.phase id = .generated key) :
      Step s (.create id) (State.move ⟨some [],s.phase⟩ id (.created key))
  | createFails {s : State} {id : ℕ} {key : Key} (err : String) (hphase : s.phase id = .generated key) :
      Step s (.createFails id err) (s.move id (.done (.error ("token: write key file: " ++ err))))
  | write {s : State} {id : ℕ} {key : Key} (hphase : s.phase id = .created key) :
      Step s (.write id)
        (State.move ⟨some (overwrite key.1 32 (s.file.getD [])),s.phase⟩ id (.done (.ok key.1)))
  | writeFails {s : State} {id n : ℕ} {key : Key} (err : String) (hn : n ≤ 32)
      (hphase : s.phase id = .created key) :
      Step s (.writeFails id n err)
        (State.move ⟨some (overwrite key.1 n (s.file.getD [])),s.phase⟩ id
          (.done (.error ("token: write key file: " ++ err))))

/-- The call has seen that there is no file, and has not made one yet. -/
def Phase.Pending : Phase → Prop
  | .missed => True
  | .generated _ => True
  | _ => False

/-- The call has made the file, and has not written to it yet. -/
def Phase.Creating : Phase → Prop
  | .created _ => True
  | _ => False

/-- No call looks for the file while another one is about to make it, and no write stops
in the middle of the key. -/
def Careful (s : State) : Event → Prop
  | .read _ => s.file = none → ∀ id, ¬ (s.phase id).Pending
  | .writeFails _ n _ => n = 0 ∨ n = 32
  | _ => True

def CarefulStep (s : State) (e : Event) (s' : State) : Prop := Step s e s' ∧ Careful s e

def Event.key? : Event → Option Key
  | .generate _ key => some key
  | _ => none

end Steps

section Stages

def Phase.NoFile (keys : List Key) : Phase → Prop
  | .start => True
  | .missed => True
  | .generated key => key ∈ keys
  | .created _ => False
  | .done result => ∀ k, result ≠ .ok k

def Phase.Empty (keys : List Key) : Phase → Prop
  | .start => True
  | .missed => False
  | .generated _ => False
  | .created key => key ∈ keys
  | .done result => ∀ k, result ≠ .ok k

def Phase.Full (key : Key) : Phase → Prop
  | .start => True
  | .missed => False
  | .generated _ => False
  | .created _ => False
  | .done result => ∀ k, result = .ok k → k = key.1

/-- A careful run has no file, then an empty one, then one with a key that stays. -/
inductive Stage (keys : List Key) (s : State) : Prop
  | noFile (hfile : s.file = none)
      (hone : ∀ id id', (s.phase id).Pending → (s.phase id').Pending → id = id')
      (hcalls : ∀ id, (s.phase id).NoFile keys)
  | empty (hfile : s.file = some [])
      (hone : ∀ id id', (s.phase id).Creating → (s.phase id').Creating → id = id')
      (hcalls : ∀ id, (s.phase id).Empty keys)
  | full (key : Key) (hkey : key ∈ keys) (hfile : s.file = some key.1)
      (hcalls : ∀ id, (s.phase id).Full key)

variable {keys : List Key} {s s' : State} {e : Event}

theorem forall_move {P : Phase → Prop} {id : ℕ} {p : Phase} (hp : P p)
    (h : ∀ id', id' ≠ id → P (s.phase id')) : ∀ id', P ((s.move id p).phase id') := by
  intro id'
  rw [move_phase]
  split_ifs with hid
  · exact hp
  · exact h id' hid

theorem unique_move {Q : Phase → Prop} {id : ℕ} {p : Phase}
    (hone : ∀ i j, Q (s.phase i) → Q (s.phase j) → i = j)
    (hp : Q p → ∀ i, Q (s.phase i) → i = id) :
    ∀ i j, Q ((s.move id p).phase i) → Q ((s.move id p).phase j) → i = j := by
  intro i j hi hj
  rw [move_phase] at hi hj
  split_ifs at hi hj with hiid hjid hjid
  · rw [hiid,hjid]
  · rw [hiid,hp hi j hj]
  · rw [hjid,hp hj i hi]
  · exact hone i j hi hj

theorem Phase.NoFile.mono {keys' : List Key} (hsub : keys ⊆ keys') {p : Phase} (h : p.NoFile keys) :
    p.NoFile keys' := by
  cases p with
  | generated key => exact hsub h
  | _ => exact h

theorem Phase.Empty.mono {keys' : List Key} (hsub : keys ⊆ keys') {p : Phase} (h : p.Empty keys) :
    p.Empty keys' := by
  cases p with
  | created key => exact hsub h
  | _ => exact h

theorem Stage.mono {keys' : List Key} (hsub : keys ⊆ keys') (h : Stage keys s) : Stage keys' s := by
  cases h with
  | noFile hfile hone hcalls => exact .noFile hfile hone fun id => (hcalls id).mono hsub
  | empty hfile hone hcalls => exact .empty hfile hone fun id => (hcalls id).mono hsub
  | full key hkey hfile hcalls => exact .full key (hsub hkey) hfile hcalls

theorem Phase.NoFile.not_creating {p : Phase} (h : p.NoFile keys) : ¬ p.Creating := by
  cases p with
  | created key => exact h.elim
  | _ => exact id

theorem Phase.NoFile.empty {p : Phase} (h : p.NoFile keys) (hpending : ¬ p.Pending) : p.Empty keys := by
  cases p with
  | missed => exact absurd trivial hpending
  | generated key => exact absurd trivial hpending
  | created key => exact h.elim
  | _ => exact h

theorem Phase.Empty.full {p : Phase} (h : p.Empty keys) (hcreating : ¬ p.Creating) (key : Key) :
    p.Full key := by
  cases p with
  | created key => exact absurd trivial hcreating
  | done result => exact fun k hk => absurd hk (h k)
  | _ => exact h

theorem error_ne_ok (err : String) (k : Bytes) : (.error err : Except String Bytes) ≠ .ok k := by
  rintro ⟨⟩

theorem overwrite_all (key : Key) : overwrite key.1 32 [] = key.1 := by
  rw [overwrite,List.drop_nil,List.append_nil,List.take_of_length_le (Nat.le_of_eq key.2)]

theorem of_phase {P : Phase → Prop} (hcalls : ∀ id, P (s.phase id)) {id : ℕ} {p : Phase}
    (hphase : s.phase id = p) : P p := hphase ▸ hcalls id

theorem noFile_step (hfile : s.file = none)
    (hone : ∀ id id', (s.phase id).Pending → (s.phase id').Pending → id = id')
    (hcalls : ∀ id, (s.phase id).NoFile keys) (hstep : Step s e s') (hcareful : Careful s e) :
    Stage (keys++e.key?.toList) s' := by
  have hold : keys ⊆ keys++e.key?.toList := List.subset_append_left _ _
  -- a call that fails leaves all as it is
  have hfails (id : ℕ) (err : String) : Stage keys (s.move id (.done (.error err))) :=
    .noFile hfile (unique_move hone fun h => h.elim) (forall_move (error_ne_ok err) fun id' _ => hcalls id')
  cases hstep with
  | read hphase hsome => rw [hfile] at hsome; cases hsome
  | missing hphase hnone =>
    refine .mono hold (.noFile hfile (unique_move hone ?_) (forall_move trivial fun id' _ => hcalls id'))
    exact fun _ i hi => absurd hi (hcareful hnone i)
  | readFails err hphase => exact (hfails _ _).mono hold
  | @generate id key hphase =>
    have hid : (s.phase id).Pending := by rw [hphase]; trivial
    refine .noFile hfile (unique_move hone fun _ i hi => hone i id hi hid) (forall_move ?_ ?_)
    · exact List.mem_append_right _ List.mem_cons_self
    · exact fun id' _ => (hcalls id').mono hold
  | generateFails err hphase => exact (hfails _ _).mono hold
  | @create id key hphase =>
    have hid : (s.phase id).Pending := by rw [hphase]; trivial
    have hkey := of_phase hcalls hphase
    refine .mono hold (.empty rfl (unique_move ?_ ?_) (forall_move hkey ?_))
    · exact fun i j hi => absurd hi (hcalls i).not_creating
    · exact fun _ i hi => absurd hi (hcalls i).not_creating
    · intro id' hne
      exact (hcalls id').empty fun hpending => hne (hone id' id hpending hid)
  | createFails err hphase => exact (hfails _ _).mono hold
  | write hphase => exact (of_phase hcalls hphase).elim
  | writeFails err hn hphase => exact (of_phase hcalls hphase).elim

theorem empty_step (hfile : s.file = some [])
    (hone : ∀ id id', (s.phase id).Creating → (s.phase id').Creating → id = id')
    (hcalls : ∀ id, (s.phase id).Empty keys) (hstep : Step s e s') (hcareful : Careful s e) :
    Stage keys s' := by
  have hfails (id : ℕ) (err : String) : Stage keys (s.move id (.done (.error err))) :=
    .empty hfile (unique_move hone fun h => h.elim) (forall_move (error_ne_ok err) fun id' _ => hcalls id')
  -- the call that made the file writes its key
  have hwrites {id : ℕ} {key : Key} (hphase : s.phase id = .created key) {result : Except String Bytes}
      (hresult : ∀ k, result = .ok k → k = key.1) :
      Stage keys (State.move ⟨some (overwrite key.1 32 (s.file.getD [])),s.phase⟩ id (.done result)) := by
    have hid : (s.phase id).Creating := by rw [hphase]; trivial
    have hkey := of_phase hcalls hphase
    refine .full key hkey ?_ (forall_move hresult ?_)
    · show some (overwrite key.1 32 (s.file.getD [])) = some key.1
      rw [hfile,Option.getD_some,overwrite_all]
    · intro id' hne
      exact (hcalls id').full (fun hcreating => hne (hone id' id hcreating hid)) key
  cases hstep with
  | read hphase hsome =>
    rw [hfile] at hsome
    cases hsome
    exact hfails _ _
  | missing hphase hnone => rw [hfile] at hnone; cases hnone
  | readFails err hphase => exact hfails _ _
  | generate key hphase => exact (of_phase hcalls hphase).elim
  | generateFails err hphase => exact (of_phase hcalls hphase).elim
  | create hphase => exact (of_phase hcalls hphase).elim
  | createFails err hphase => exact (of_phase hcalls hphase).elim
  | write hphase => exact hwrites hphase fun k hk => (Except.ok.inj hk).symm
  | writeFails err hn hphase =>
    rcases hcareful with rfl | rfl
    · rw [hfile]
      exact .empty rfl (unique_move hone fun h => h.elim)
        (forall_move (error_ne_ok _) fun id' _ => hcalls id')
    · exact hwrites hphase fun k hk => by cases hk

theorem full_step {key : Key} (hkey : key ∈ keys) (hfile : s.file = some key.1)
    (hcalls : ∀ id, (s.phase id).Full key) (hstep : Step s e s') : Stage keys s' := by
  have hdone (id : ℕ) {result : Except String Bytes} (hresult : ∀ k, result = .ok k → k = key.1) :
      Stage keys (s.move id (.done result)) :=
    .full key hkey hfile (forall_move hresult fun id' _ => hcalls id')
  cases hstep with
  | read hphase hsome =>
    rw [hfile] at hsome
    cases hsome
    refine hdone _ fun k hk => ?_
    unfold readKey at hk
    split_ifs at hk
    exact (Except.ok.inj hk).symm
  | missing hphase hnone => rw [hfile] at hnone; cases hnone
  | readFails err hphase => exact hdone _ fun k hk => absurd hk (error_ne_ok _ k)
  | generate key hphase => exact (of_phase hcalls hphase).elim
  | generateFails err hphase => exact (of_phase hcalls hphase).elim
  | create hphase => exact (of_phase hcalls hphase).elim
  | createFails err hphase => exact (of_phase hcalls hphase).elim
  | write hphase => exact (of_phase hcalls hphase).elim
  | writeFails err hn hphase => exact (of_phase hcalls hphase).elim

theorem Stage.step (h : Stage keys s) (hstep : CarefulStep s e s') : Stage (keys++e.key?.toList) s' := by
  have hold : keys ⊆ keys++e.key?.toList := List.subset_append_left _ _
  cases h with
  | noFile hfile hone hcalls => exact noFile_step hfile hone hcalls hstep.1 hstep.2
  | empty hfile hone hcalls => exact (empty_step hfile hone hcalls hstep.1 hstep.2).mono hold
  | full key hkey hfile hcalls => exact (full_step hkey hfile hcalls hstep.1).mono hold

end Stages

section Runs

theorem run_stage {es : List Event} {s : State} (hrun : Steps CarefulStep initial es s) :
    Stage (es.filterMap Event.key?) s := by
  induction hrun with
  | refl => exact .noFile rfl (fun _ _ h => h.elim) fun _ => trivial
  | snoc _ hstep ih =>
    have hkey (e : Event) : [e].filterMap Event.key? = e.key?.toList := by
      cases h : e.key? <;> simp [h]
    rw [List.filterMap_append,hkey]
    exact ih.step hstep

def Returned (s : State) (id : ℕ) (k : Bytes) : Prop := s.phase id = .done (.ok k)

theorem Stage.returned {keys : List Key} {s : State} (h : Stage keys s) {id : ℕ} {k : Bytes}
    (hk : Returned s id k) : ∃ key ∈ keys, s.file = some key.1 ∧ k = key.1 := by
  cases h with
  | noFile hfile hone hcalls => exact absurd rfl (of_phase hcalls hk k)
  | empty hfile hone hcalls => exact absurd rfl (of_phase hcalls hk k)
  | full key hkey hfile hcalls => exact ⟨key,hkey,hfile,of_phase hcalls hk k rfl⟩

/-- In careful runs all keys that are returned are the same, and it is one that a call has
generated. -/
theorem careful_run_one_key {es : List Event} {s : State} (hrun : Steps CarefulStep initial es s) :
    (∀ id id' k k', Returned s id k → Returned s id' k' → k = k') ∧
      ∀ id k, Returned s id k → k.length = 32 ∧ ∃ id' key, .generate id' key ∈ es ∧ k = key.1 := by
  have hstage := run_stage hrun
  constructor
  · intro id id' k k' hk hk'
    obtain ⟨key,-,hfile,rfl⟩ := hstage.returned hk
    obtain ⟨key',-,hfile',rfl⟩ := hstage.returned hk'
    exact Option.some.inj (hfile.symm.trans hfile')
  · intro id k hk
    obtain ⟨key,hkey,-,rfl⟩ := hstage.returned hk
    obtain ⟨e,he,hgenerate⟩ := List.mem_filterMap.mp hkey
    cases e with
    | generate id' key' =>
      cases hgenerate
      exact ⟨key.2,id',key,he,rfl⟩
    | _ => cases hgenerate

def sampleKey (b : UInt8) : Key := ⟨List.replicate 32 b,List.length_replicate⟩

/-- One call makes the file, and a later one reads it. -/
theorem careful_run_one_key_sample :
    ∃ s, Steps CarefulStep initial
        [.read 0,.generate 0 (sampleKey 1),.create 0,.write 0,.read 1] s ∧
      ∀ k, Returned s 1 k → k.length = 32 := by
  have s₁ : Steps CarefulStep initial _ _ :=
    .snoc .refl ⟨@Step.missing _ 0 rfl rfl,fun _ _ h => h.elim⟩
  have s₂ := s₁.snoc ⟨@Step.generate _ 0 (sampleKey 1) rfl,trivial⟩
  have s₃ := s₂.snoc ⟨@Step.create _ 0 _ rfl,trivial⟩
  have s₄ := s₃.snoc ⟨@Step.write _ 0 _ rfl,trivial⟩
  have s₅ := s₄.snoc ⟨@Step.read _ 1 _ rfl rfl,fun h => by cases h⟩
  exact ⟨_,s₅,fun k hk => ((careful_run_one_key s₅).2 1 k hk).1⟩

/-- Two calls that both find no file return two keys; and after a write that stopped at
five bytes the next call returns these. -/
theorem two_keys_or_short_key :
    (∃ s, Steps Step initial [.read 0,.read 1,.generate 0 (sampleKey 1),.generate 1 (sampleKey 2),
        .create 0,.create 1,.write 0,.write 1] s ∧
      Returned s 0 (sampleKey 1).1 ∧ Returned s 1 (sampleKey 2).1 ∧ (sampleKey 1).1 ≠ (sampleKey 2).1) ∧
    ∃ s, Steps Step initial [.read 0,.generate 0 (sampleKey 1),.create 0,
        .writeFails 0 5 "no space left on device",.read 1] s ∧
      Returned s 1 [1,1,1,1,1] := by
  constructor
  · have s₁ : Steps Step initial _ _ := .snoc .refl (@Step.missing _ 0 rfl rfl)
    have s₂ := s₁.snoc (@Step.missing _ 1 rfl rfl)
    have s₃ := s₂.snoc (@Step.generate _ 0 (sampleKey 1) rfl)
    have s₄ := s₃.snoc (@Step.generate _ 1 (sampleKey 2) rfl)
    have s₅ := s₄.snoc (@Step.create _ 0 _ rfl)
    have s₆ := s₅.snoc (@Step.create _ 1 _ rfl)
    have s₇ := s₆.snoc (@Step.write _ 0 _ rfl)
    have s₈ := s₇.snoc (@Step.write _ 1 _ rfl)
    exact ⟨_,s₈,rfl,rfl,by decide⟩
  · have s₁ : Steps Step initial _ _ := .snoc .refl (@Step.missing _ 0 rfl rfl)
    have s₂ := s₁.snoc (@Step.generate _ 0 (sampleKey 1) rfl)
    have s₃ := s₂.snoc (@Step.create _ 0 _ rfl)
    have s₄ := s₃.snoc (@Step.writeFails _ 0 5 _ "no space left on device" (by decide) rfl)
    have s₅ := s₄.snoc (@Step.read _ 1 _ rfl rfl)
    exact ⟨_,s₅,rfl⟩

end Runs

end KeyFile
end AntiScrapling
