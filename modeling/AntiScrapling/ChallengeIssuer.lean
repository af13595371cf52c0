import AntiScrapling.LruCache
import AntiScrapling.Token

/-! Issuing and validating challenge IDs (`internal/challenge/issuer.go`).
An ID is stored with its issue time; the IDs themselves come from a UUID generator
and are arguments here.  golang-lru is a library that keeps the laws of its documentation,
and a list where nothing else is said. -/
namespace AntiScrapling
namespace Challenge

open Token

def challengeTTL : ℤ := 10*60*second

structure ChallengeIssuer (C : Type) where
  powDifficulty : ℤ
  ids : C

def expired (issued now : Time) : Bool := now-issued > challengeTTL

section Library
variable {C : Type} [LruLibrary C String Time]

def newChallengeIssuer (powDifficulty : ℤ) : ChallengeIssuer C := ⟨powDifficulty,LruLibrary.new 4096⟩

/-- `NewChallengeID`, for the UUID `id` drawn at the time `now`. -/
def ChallengeIssuer.newChallengeID (ci : ChallengeIssuer C) (id : String) (now : Time) :
    ChallengeIssuer C := {ci with ids := LruLibrary.add ci.ids id now}

/-- `ValidateChallengeID`: a known ID is used up, whether it is still valid or not. -/
def ChallengeIssuer.validateChallengeID (ci : ChallengeIssuer C) (id : String) (now : Time) :
    Bool × ChallengeIssuer C :=
  match LruLibrary.get ci.ids id with
  | (none,ids) => (false,{ci with ids})
  | (some issued,ids) =>
    if expired issued now then (false,{ci with ids := LruLibrary.remove ids id})
    else (true,{ci with ids := LruLibrary.remove ids id})

end Library

/-- An issuer whose library is a list. -/
abbrev ListIssuer := ChallengeIssuer (LruCache String Time)

theorem validateChallengeID_eq (ci : ListIssuer) (id : String) (now : Time) :
    ci.validateChallengeID id now =
      match ci.ids.get id with
      | (none,ids) => (false,{ci with ids})
      | (some issued,ids) =>
        if expired issued now then (false,{ci with ids := ids.remove id})
        else (true,{ci with ids := ids.remove id}) := by
  rw [ChallengeIssuer.validateChallengeID,LruLibrary.get_lruCache]
  rcases ci.ids.get id with ⟨_ | issued,ids⟩ <;> rfl

/-- A valid ID was in the store, and not for longer than its lifetime. -/
theorem validateChallengeID_true {ci : ListIssuer} {id : String} {now : Time}
    (h : (ci.validateChallengeID id now).1 = true) :
    ∃ issued, (id,issued) ∈ ci.ids.entries ∧ now-issued ≤ challengeTTL := by
  rw [validateChallengeID_eq] at h
  split at h
  · simp at h
  · next issued ids hget =>
    have hlook : ci.ids.lookup id = some issued := by
      rw [← LruCache.get_fst,hget]
    split_ifs at h with hexp
    refine ⟨issued,LruCache.mem_of_lookup hlook,?_⟩
    simpa [expired] using hexp

/-- Validation only takes entries out of the store. -/
theorem mem_of_mem_validate {ci : ListIssuer} {id : String} {now : Time} {e : String × Time}
    (h : e ∈ (ci.validateChallengeID id now).2.ids.entries) : e ∈ ci.ids.entries := by
  rw [validateChallengeID_eq] at h
  split at h
  · next ids hget =>
    exact LruCache.mem_of_mem_get (by rwa [hget])
  · next issued ids hget =>
    refine LruCache.mem_of_mem_get (k:=id) ?_
    rw [hget]
    split_ifs at h <;> exact (LruCache.mem_remove.mp h).1

/-- A validated ID is no longer in the store. -/
theorem not_mem_of_validated {ci : ListIssuer} {id : String} {now : Time}
    (h : (ci.validateChallengeID id now).1 = true) (issued : Time) :
    (id,issued) ∉ (ci.validateChallengeID id now).2.ids.entries := by
  intro hmem
  rw [validateChallengeID_eq] at h hmem
  split at hmem
  · simp_all
  · next issued' ids hget =>
    split_ifs at hmem <;> exact (LruCache.mem_remove.mp hmem).2 rfl

section Lifetime

/-- A call of the issuer, with the ID and the time at which the clock is read. -/
inductive Call
  | newID (id : String) (now : Time)
  | validate (id : String) (now : Time)

section Library
variable {C : Type} [LruLibrary C String Time]

def ChallengeIssuer.call (ci : ChallengeIssuer C) : Call → ChallengeIssuer C
  | .newID id now => ci.newChallengeID id now
  | .validate id now => (ci.validateChallengeID id now).2

def ChallengeIssuer.run (ci : ChallengeIssuer C) (calls : List Call) : ChallengeIssuer C :=
  calls.foldl ChallengeIssuer.call ci

end Library

def issuedIDs (calls : List Call) : List String := calls.filterMap fun
  | .newID id _ => some id
  | .validate _ _ => none

theorem run_append (ci : ListIssuer) (calls calls' : List Call) :
    ci.run (calls++calls') = (ci.run calls).run calls' := List.foldl_append

variable {ci : ListIssuer} {id : String} {issued : Time} {K : Finset String}

theorem validateChallengeID_ids (ci : ListIssuer) (id : String) (now : Time) :
    (ci.validateChallengeID id now).2.ids = ci.ids ∨
      (ci.validateChallengeID id now).2.ids = (ci.ids.get id).2.remove id := by
  rw [validateChallengeID_eq]
  split
  · next ids hget =>
    have hnone : ci.ids.lookup id = none := by rw [← LruCache.get_fst,hget]
    have hids : ids = ci.ids := by rw [← LruCache.get_eq_self hnone,hget]
    exact .inl hids
  · next hget =>
    rw [hget]
    split_ifs <;> exact .inr rfl

theorem call_size (ci : ListIssuer) (c : Call) : (ci.call c).ids.size = ci.ids.size := by
  cases c with
  | newID id now => rfl
  | validate id now =>
    rcases validateChallengeID_ids ci id now with h | h
    · exact congrArg LruCache.size h
    · exact (congrArg LruCache.size h).trans (LruCache.get_size ci.ids id)

theorem run_size (ci : ListIssuer) (calls : List Call) : (ci.run calls).ids.size = ci.ids.size := by
  induction calls generalizing ci with
  | nil => rfl
  | cons c calls ih => exact (ih (ci.call c)).trans (call_size ci c)

/-- A validated ID moves to the front and leaves at once, so the order of the others is still
that of their issue. -/
theorem validate_within (h : ci.ids.Within id issued K) {id' : String} (hne : id ≠ id') (now : Time) :
    (ci.validateChallengeID id' now).2.ids.Within id issued K := by
  rcases validateChallengeID_ids ci id' now with hids | hids
  · rwa [hids]
  · rw [hids]
    exact ((h.get hne).remove hne).mono (Finset.erase_insert_subset id' K)

/-- Only IDs issued later come in front of an ID, and as long as they are fewer than the store
holds it is not pushed out. -/
theorem run_within (h : ci.ids.Within id issued K) {calls : List Call} (hother : id ∉ issuedIDs calls)
    (hfirst : ∀ now, Call.validate id now ∉ calls) (hfew : K.card+(issuedIDs calls).length < ci.ids.size) :
    ∃ K', (ci.run calls).ids.Within id issued K' := by
  induction calls generalizing ci K with
  | nil => exact ⟨K,h⟩
  | cons c calls ih =>
    have hfirst' : ∀ now, Call.validate id now ∉ calls := fun now hmem =>
      hfirst now (List.mem_cons_of_mem _ hmem)
    cases c with
    | newID id' now =>
      have hids : issuedIDs (.newID id' now::calls) = id'::issuedIDs calls := rfl
      rw [hids,List.mem_cons,not_or] at hother
      rw [hids,List.length_cons] at hfew
      have hcard := Finset.card_insert_le id' K
      have hstep : (ci.call (.newID id' now)).ids.Within id issued (insert id' K) :=
        h.add hother.1 (by omega) now
      refine ih hstep hother.2 hfirst' ?_
      rw [call_size]
      omega
    | validate id' now =>
      have hne : id ≠ id' := by
        rintro rfl
        exact hfirst now List.mem_cons_self
      have hstep : (ci.call (.validate id' now)).ids.Within id issued K := validate_within h hne now
      refine ih hstep hother hfirst' ?_
      rwa [call_size]

theorem validateChallengeID_of_mem (h : (id,issued) ∈ ci.ids.entries) {now : Time}
    (hage : now-issued ≤ challengeTTL) : (ci.validateChallengeID id now).1 = true := by
  have hget : (ci.ids.get id).1 = some issued := by rw [LruCache.get_fst,LruCache.lookup_of_mem h]
  have hexp : expired issued now = false := by simpa [expired] using hage
  rw [validateChallengeID_eq]
  split
  · next hnone => rw [hnone] at hget; cases hget
  · next hsome =>
    rw [hsome] at hget
    cases hget
    rw [hexp]
    rfl

theorem live_challenge_accepted_list (powDifficulty : ℤ) (before after : List Call) {id : String}
    {issued now : Time} (hother : id ∉ issuedIDs after) (hfirst : ∀ t, Call.validate id t ∉ after)
    (hfew : (issuedIDs after).length < 4096) (hage : now-issued ≤ challengeTTL) :
    (((newChallengeIssuer powDifficulty : ListIssuer).run (before++.newID id issued::after)).validateChallengeID
      id now).1 = true := by
  have hsize : ((newChallengeIssuer powDifficulty : ListIssuer).run before).ids.size = 4096 := run_size _ before
  have hstart : (((newChallengeIssuer powDifficulty : ListIssuer).run before).newChallengeID id issued).ids.Within
      id issued ∅ := LruCache.within_add_self (by rw [hsize]; decide) issued
  obtain ⟨K,hK⟩ := run_within hstart hother hfirst (by
    show _ < ((newChallengeIssuer powDifficulty : ListIssuer).run before).ids.size
    rw [hsize,Finset.card_empty]
    omega)
  rw [run_append]
  exact validateChallengeID_of_mem hK.mem hage

section Library
variable {C : Type} [LruLibrary C String Time]
open LruLibrary (contents)

/-- The list that an issuer's library stands for. -/
def ChallengeIssuer.listed (ci : ChallengeIssuer C) : ListIssuer := ⟨ci.powDifficulty,contents ci.ids⟩

theorem validate_listed (ci : ChallengeIssuer C) (id : String) (now : Time) :
    (ci.validateChallengeID id now).1 = (ci.listed.validateChallengeID id now).1 ∧
      (ci.validateChallengeID id now).2.listed = (ci.listed.validateChallengeID id now).2 := by
  obtain ⟨found,ids,hget⟩ : ∃ found ids, LruLibrary.get ci.ids id = (found,ids) := ⟨_,_,rfl⟩
  have hcontents := LruLibrary.contents_get_eq hget
  rw [validateChallengeID_eq,ChallengeIssuer.validateChallengeID]
  simp only [ChallengeIssuer.listed,hget,hcontents]
  cases found with
  | none => exact ⟨rfl,rfl⟩
  | some issued => by_cases hexp : expired issued now <;> simp [hexp]

theorem call_listed (ci : ChallengeIssuer C) (c : Call) : (ci.call c).listed = ci.listed.call c := by
  cases c with
  | newID id now => exact congrArg (ChallengeIssuer.mk _) (LruLibrary.contents_add ci.ids id now)
  | validate id now => exact (validate_listed ci id now).2

theorem run_listed (ci : ChallengeIssuer C) (calls : List Call) : (ci.run calls).listed = ci.listed.run calls := by
  induction calls generalizing ci with
  | nil => rfl
  | cons c calls ih => exact (ih (ci.call c)).trans (congrArg (ChallengeIssuer.run · calls) (call_listed ci c))

/-- For every library, a live challenge is never lost: an ID is accepted the first time it is
validated, if it is not too old and fewer IDs than the store holds were issued after it. -/
theorem live_challenge_accepted (powDifficulty : ℤ) (before after : List Call) {id : String}
    {issued now : Time} (hother : id ∉ issuedIDs after) (hfirst : ∀ t, Call.validate id t ∉ after)
    (hfew : (issuedIDs after).length < 4096) (hage : now-issued ≤ challengeTTL) :
    (((newChallengeIssuer powDifficulty : ChallengeIssuer C).run
      (before++.newID id issued::after)).validateChallengeID id now).1 = true := by
  have hnew : (newChallengeIssuer powDifficulty : ChallengeIssuer C).listed = newChallengeIssuer powDifficulty :=
    congrArg (ChallengeIssuer.mk powDifficulty) (LruLibrary.contents_new 4096)
  rw [(validate_listed _ id now).1,run_listed,hnew]
  exact live_challenge_accepted_list powDifficulty before after hother hfirst hfew hage

end Library

/-- With one ID issued, one used up and one invented in between, at the end of its lifetime. -/
theorem live_challenge_accepted_last : (((newChallengeIssuer 4 : ListIssuer).run [.newID "a" 0,.newID "b" 1,
    .newID "c" 2,.validate "a" 3,.validate "z" 4]).validateChallengeID "b" (1+challengeTTL)).1 = true :=
  live_challenge_accepted 4 [.newID "a" 0] [.newID "c" 2,.validate "a" 3,.validate "z" 4] (by decide)
    (by simp) (by decide) (by decide)

end Lifetime

end Challenge
end AntiScrapling
