import AntiScrapling.MemoryCache

/-! Runs of the in-memory cache (`internal/cache/memory.go`): what a `Get` answers after any
calls of `Set`, `Get`, `Delete` and `Close`. -/
namespace AntiScrapling
namespace MemoryCache

variable {α : Type}

section Calls

inductive Op (α : Type)
  | set (key : String) (value : α) (t : Instant)
  | get (key : String) (t : Instant)
  | delete (key : String)
  | close

variable {C : Type} [LruLibrary C String (CacheEntry α)]

def apply (m : C) : Op α → C
  | .set key value t => set m key value t
  | .get key t => (get m key t).1
  | .delete key => delete m key
  | .close => close m

def run (m : C) (ops : List (Op α)) : C := ops.foldl apply m

def used (m : C) : Op α → Finset String
  | .set key _ _ => {key}
  | .get key t => if (get m key t).2.isSome then {key} else ∅
  | _ => ∅

def usedKeys (m : C) : List (Op α) → Finset String
  | [] => ∅
  | op::ops => used m op ∪ usedKeys (apply m op) ops

/-- The call replaces or drops what is stored under `key`. -/
def Op.Ends (key : String) : Op α → Prop
  | .set key' _ _ => key' = key
  | .get _ _ => False
  | .delete key' => key' = key
  | .close => True

def clock : List (Op α) → List ℤ
  | [] => []
  | .set _ _ t::ops => t.now::clock ops
  | .get _ t::ops => t.now::clock ops
  | _::ops => clock ops

theorem run_append (m : C) (ops ops' : List (Op α)) :
    run m (ops++ops') = run (run m ops) ops' := List.foldl_append

theorem clock_append (ops ops' : List (Op α)) : clock (ops++ops') = clock ops++clock ops' := by
  induction ops with
  | nil => rfl
  | cons op ops ih => cases op <;> simp [clock,ih]

end Calls

section Lookup
variable {m : MemoryCache α} {key : String} {e : CacheEntry α} {t : Instant}

/-- What `Set` stores. -/
def stored (value : α) (t : Instant) : CacheEntry α := ⟨value,if t.ttl > 0 then some (t.now+t.ttl) else none⟩

/-- Not past its time of expiry. -/
def Live (e : CacheEntry α) (now : ℤ) : Prop := ∀ expiry, e.expiresAt = some expiry → now ≤ expiry

theorem stored_live {value : α} {now : ℤ} :
    Live (stored value t) now ↔ (0 < t.ttl → now ≤ t.now+t.ttl) := by
  unfold Live stored
  by_cases h : t.ttl > 0 <;> simp [h]

theorem get_none (h : m.lookup key = none) : get m key t = (m,none) := by
  have hfst := LruCache.get_fst m key
  have hsnd := LruCache.get_eq_self h
  rw [h] at hfst
  simp only [get,LruLibrary.get_lruCache,LruLibrary.remove_lruCache]
  rw [← Prod.eta (LruCache.get m key),hfst,hsnd]

theorem get_live (h : m.lookup key = some e) (hlive : Live e t.now) :
    get m key t = ((LruCache.get m key).2,some e.value) := by
  have hfst := LruCache.get_fst m key
  rw [h] at hfst
  simp only [get,LruLibrary.get_lruCache,LruLibrary.remove_lruCache]
  rw [← Prod.eta (LruCache.get m key),hfst]
  cases hexp : e.expiresAt with
  | none => simp [hexp]
  | some expiry =>
    have hle := hlive expiry hexp
    simp [hexp,Int.not_lt.mpr hle]

theorem get_expired (h : m.lookup key = some e) (hdead : ¬ Live e t.now) :
    get m key t = ((LruCache.get m key).2.remove key,none) := by
  have hfst := LruCache.get_fst m key
  rw [h] at hfst
  unfold Live at hdead
  push Not at hdead
  obtain ⟨expiry,hexp,hlt⟩ := hdead
  simp only [get,LruLibrary.get_lruCache,LruLibrary.remove_lruCache]
  rw [← Prod.eta (LruCache.get m key),hfst]
  simp [hexp,hlt]

theorem get_hit {v : α} : (get m key t).2 = some v ↔
    ∃ e, m.lookup key = some e ∧ Live e t.now ∧ e.value = v := by
  cases h : m.lookup key with
  | none => simp [get_none h]
  | some e =>
    by_cases hlive : Live e t.now
    · simp [get_live h hlive,hlive]
    · simp [get_expired h hlive,hlive]

end Lookup

section Sound
variable {key : String}

/-- An entry is what the latest `Set` of its key stored, and nothing dropped it since. -/
def FromLastSet (ops : List (Op α)) (key : String) (e : CacheEntry α) : Prop :=
  ∃ pre v t post, ops = pre++.set key v t::post ∧ (∀ op ∈ post, ¬ op.Ends key) ∧ e = stored v t

theorem FromLastSet.snoc {ops : List (Op α)} {e : CacheEntry α} {op : Op α}
    (h : FromLastSet ops key e) (hop : ¬ op.Ends key) : FromLastSet (ops++[op]) key e := by
  obtain ⟨pre,v,t,post,rfl,hpost,rfl⟩ := h
  refine ⟨pre,v,t,post++[op],by simp,?_,rfl⟩
  intro op' hop'
  rcases List.mem_append.mp hop' with h | h
  · exact hpost op' h
  · rw [List.mem_singleton.mp h]
    exact hop

theorem mem_of_mem_apply {m : MemoryCache α} {op : Op α} {e : CacheEntry α}
    (h : (key,e) ∈ (apply m op).entries) :
    (key,e) ∈ m.entries ∧ ¬ op.Ends key ∨ ∃ v t, op = .set key v t ∧ e = stored v t := by
  cases op with
  | set key' v t =>
    rcases LruCache.mem_of_mem_add h with heq | ⟨hold,hne⟩
    · obtain ⟨rfl,rfl⟩ := Prod.mk.inj heq
      exact .inr ⟨v,t,rfl,rfl⟩
    · exact .inl ⟨hold,fun hends => hne hends.symm⟩
  | get key' t => exact .inl ⟨(get_cases m key' t).1 _ h,id⟩
  | delete key' =>
    obtain ⟨hold,hne⟩ := LruCache.mem_remove.mp h
    exact .inl ⟨hold,fun hends => hne hends.symm⟩
  | close => exact absurd h List.not_mem_nil

theorem run_fromLastSet (size : ℤ) (ops : List (Op α)) {e : CacheEntry α}
    (h : (key,e) ∈ (run (newMemory size : MemoryCache α) ops).entries) : FromLastSet ops key e := by
  induction ops using List.reverseRecOn with
  | nil => exact absurd h List.not_mem_nil
  | append_singleton ops op ih =>
    rw [run_append] at h
    rcases mem_of_mem_apply h with ⟨hold,hends⟩ | ⟨v,t,rfl,rfl⟩
    · exact (ih hold).snoc hends
    · exact ⟨ops,v,t,[],rfl,fun _ hop => absurd hop List.not_mem_nil,rfl⟩

theorem run_keeps_entry {e₀ : CacheEntry α} (ops : List (Op α)) {m : MemoryCache α}
    (hm : ∀ e, (key,e) ∈ m.entries → e = e₀) (hops : ∀ op ∈ ops, ¬ op.Ends key) :
    ∀ e, (key,e) ∈ (run m ops).entries → e = e₀ := by
  induction ops generalizing m with
  | nil => exact hm
  | cons op ops ih =>
    refine ih (fun e he => ?_) fun op' hop' => hops op' (List.mem_cons_of_mem _ hop')
    rcases mem_of_mem_apply he with ⟨hold,-⟩ | ⟨v,t,rfl,rfl⟩
    · exact hm e hold
    · exact absurd rfl (hops _ List.mem_cons_self)

end Sound

section Kept
variable {key : String} {e : CacheEntry α} {K : Finset String}

theorem apply_within {m : MemoryCache α} {op : Op α} (h : m.Within key e K) (hends : ¬ op.Ends key)
    (hlive : ∀ now ∈ clock [op], Live e now)
    (hcard : (K ∪ (used m op).erase key).card < m.size) :
    (apply m op).Within key e (K ∪ (used m op).erase key) := by
  cases op with
  | set key' v t =>
    have hne : key ≠ key' := fun heq => hends heq.symm
    have hkeys : K ∪ (used m (.set key' v t)).erase key = insert key' K := by
      rw [used,Finset.erase_eq_of_notMem (by simpa using hne),Finset.union_comm,Finset.insert_eq]
    rw [hkeys] at hcard ⊢
    exact h.add hne hcard _
  | get key' t =>
    by_cases hkey : key = key'
    · subst hkey
      have hlookup := LruCache.lookup_of_mem h.mem
      rw [apply,get_live hlookup (hlive t.now List.mem_cons_self)]
      exact (LruCache.within_get_self hlookup).mono (Finset.empty_subset _)
    · cases hlookup : m.lookup key' with
      | none =>
        rw [apply,get_none hlookup]
        exact h.mono Finset.subset_union_left
      | some e' =>
        by_cases hlive' : Live e' t.now
        · have hkeys : K ∪ (used m (.get key' t)).erase key = insert key' K := by
            rw [used,get_live hlookup hlive',Option.isSome_some,if_pos rfl,
              Finset.erase_eq_of_notMem (by simpa using hkey),Finset.union_comm,Finset.insert_eq]
          rw [hkeys,apply,get_live hlookup hlive']
          exact h.get hkey
        · rw [apply,get_expired hlookup hlive']
          refine ((h.get hkey).remove hkey).mono ?_
          exact (Finset.erase_insert_subset key' K).trans Finset.subset_union_left
  | delete key' =>
    have hne : key ≠ key' := fun heq => hends heq.symm
    exact (h.remove hne).mono ((Finset.erase_subset _ _).trans Finset.subset_union_left)
  | close => exact absurd trivial hends

theorem apply_size (m : MemoryCache α) (op : Op α) : (apply m op).size = m.size := by
  cases op with
  | set key v t => rfl
  | get key t =>
    have hsize := LruCache.get_size m key
    cases h : m.lookup key with
    | none => rw [apply,get_none h]
    | some e =>
      by_cases hlive : Live e t.now
      · rw [apply,get_live h hlive,hsize]
      · rw [apply,get_expired h hlive]
        exact hsize
  | delete key => rfl
  | close => rfl

theorem run_size (m : MemoryCache α) (ops : List (Op α)) : (run m ops).size = m.size := by
  induction ops generalizing m with
  | nil => rfl
  | cons op ops ih => exact (ih (apply m op)).trans (apply_size m op)

/-- A run keeps it, as long as fewer other keys than the cache holds are used. -/
theorem run_within (ops : List (Op α)) {m : MemoryCache α} (h : m.Within key e K)
    (hends : ∀ op ∈ ops, ¬ op.Ends key) (hlive : ∀ now ∈ clock ops, Live e now)
    (hcard : (K ∪ (usedKeys m ops).erase key).card < m.size) :
    (run m ops).Within key e (K ∪ (usedKeys m ops).erase key) := by
  induction ops generalizing m K with
  | nil => exact h.mono Finset.subset_union_left
  | cons op ops ih =>
    have hkeys : K ∪ (usedKeys m (op::ops)).erase key =
        (K ∪ (used m op).erase key) ∪ (usedKeys (apply m op) ops).erase key := by
      rw [usedKeys,Finset.erase_union_distrib,Finset.union_assoc]
    have hclock : clock (op::ops) = clock [op]++clock ops := clock_append [op] ops
    rw [hkeys] at hcard ⊢
    have hstep := apply_within h (hends op List.mem_cons_self)
      (fun now hnow => hlive now (by rw [hclock]; exact List.mem_append_left _ hnow))
      (Nat.lt_of_le_of_lt (Finset.card_le_card Finset.subset_union_left) hcard)
    refine ih hstep (fun op' hop' => hends op' (List.mem_cons_of_mem _ hop')) ?_ ?_
    · intro now hnow
      exact hlive now (by rw [hclock]; exact List.mem_append_right _ hnow)
    · rwa [apply_size]

theorem apply_within_used {m : MemoryCache α} {op : Op α} (hsize : 0 < m.size)
    (hop : key ∈ used m op) (he : ∀ e', (key,e') ∈ (apply m op).entries → e' = e) :
    (apply m op).Within key e ∅ := by
  have hfront : ∃ e', (apply m op).Within key e' ∅ := by
    cases op with
    | set key' v t =>
      cases Finset.mem_singleton.mp hop
      exact ⟨_,LruCache.within_add_self hsize _⟩
    | get key' t =>
      rw [used] at hop
      split_ifs at hop with hhit
      · cases Finset.mem_singleton.mp hop
        obtain ⟨v,hv⟩ := Option.isSome_iff_exists.mp hhit
        obtain ⟨e',hlookup,hlive,-⟩ := get_hit.mp hv
        rw [apply,get_live hlookup hlive]
        exact ⟨e',LruCache.within_get_self hlookup⟩
      · cases hop
    | delete key' => cases hop
    | close => cases hop
  obtain ⟨e',hwithin⟩ := hfront
  cases he e' hwithin.mem
  exact hwithin

end Kept

section Contract

theorem get_latest {size : ℤ} {ops : List (Op α)} {key : String} {t : Instant} {v : α}
    (hget : (get (run (newMemory size : MemoryCache α) ops) key t).2 = some v) :
    ∃ pre t₀ post, ops = pre++.set key v t₀::post ∧ (∀ op ∈ post, ¬ op.Ends key) ∧
      (0 < t₀.ttl → t.now ≤ t₀.now+t₀.ttl) := by
  obtain ⟨e,hlookup,hlive,rfl⟩ := get_hit.mp hget
  obtain ⟨pre,v,t₀,post,hops,hpost,rfl⟩ := run_fromLastSet size ops (LruCache.mem_of_lookup hlookup)
  exact ⟨pre,t₀,post,hops,hpost,stored_live.mp hlive⟩

/-- The calls from a `Set` to a use of its key, and those after the use. -/
theorem exists_upto {op use : Op α} {post mid since : List (Op α)} (h : op::post = mid++use::since) :
    ∃ q, mid++[use] = op::q ∧ post = q++since := by
  cases mid with
  | nil =>
    cases h
    exact ⟨[],rfl,rfl⟩
  | cons op mid =>
    cases h
    exact ⟨mid++[use],rfl,by simp⟩

/-- Behind a `Set`, as long as nothing ends it, the key has no other entry. -/
theorem entry_of_set {m : MemoryCache α} {key : String} {v : α} {t₀ : Instant} {q : List (Op α)}
    (hq : ∀ op ∈ q, ¬ op.Ends key) {e : CacheEntry α} (he : (key,e) ∈ (run m (.set key v t₀::q)).entries) :
    e = stored v t₀ := by
  refine run_keeps_entry q (fun e he => ?_) hq e he
  rcases mem_of_mem_apply he with ⟨-,hends⟩ | ⟨_,_,heq,rfl⟩
  · exact absurd rfl hends
  · cases heq
    rfl

theorem get_run_list (size : ℤ) (ops : List (Op α)) (key : String) (t : Instant)
    (hclock : (clock ops++[t.now]).Pairwise (· ≤ ·)) :
    (∀ v, (get (run (newMemory size : MemoryCache α) ops) key t).2 = some v →
      ∃ pre t₀ post, ops = pre++.set key v t₀::post ∧ (∀ op ∈ post, ¬ op.Ends key) ∧
        (0 < t₀.ttl → t.now ≤ t₀.now+t₀.ttl)) ∧
    ∀ pre v t₀ post, ops = pre++.set key v t₀::post → (∀ op ∈ post, ¬ op.Ends key) →
      (0 < t₀.ttl → t.now ≤ t₀.now+t₀.ttl) →
      ∀ mid use since, .set key v t₀::post = mid++use::since →
        key ∈ used (run (newMemory size : MemoryCache α) (pre++mid)) use →
        ((usedKeys (run (newMemory size : MemoryCache α) (pre++mid++[use])) since).erase key).card <
          (newMemory size : MemoryCache α).size →
        (get (run (newMemory size : MemoryCache α) ops) key t).2 = some v := by
  refine ⟨fun v => get_latest,?_⟩
  intro pre v t₀ post hops hpost hlive mid use since hsplit huse hcard
  obtain ⟨q,hq,hsince⟩ := exists_upto hsplit
  have hops' : ops = pre++mid++[use]++since := by
    rw [hops,hsplit]
    simp
  have hend : run (newMemory size : MemoryCache α) ops = run (run (newMemory size) (pre++mid++[use])) since := by
    rw [hops',run_append]
  have hfront : (run (newMemory size : MemoryCache α) (pre++mid++[use])).Within key (stored v t₀) ∅ := by
    rw [run_append]
    refine apply_within_used (by rw [run_size]; exact Nat.zero_lt_of_lt hcard) huse fun e he => ?_
    have he' : (key,e) ∈ (run (newMemory size : MemoryCache α) (pre++mid++[use])).entries := by
      rw [run_append]
      exact he
    rw [List.append_assoc,hq,run_append] at he'
    exact entry_of_set (fun op hop => hpost op (by rw [hsince]; exact List.mem_append_left _ hop)) he'
  have hkept := run_within since hfront
    (fun op hop => hpost op (by rw [hsince]; exact List.mem_append_right _ hop)) ?_ ?_
  · rw [← hend] at hkept
    exact get_hit.mpr ⟨_,LruCache.lookup_of_mem hkept.mem,stored_live.mpr hlive,rfl⟩
  · intro now hnow
    have hle : now ≤ t.now := by
      rw [hops',clock_append,List.append_assoc] at hclock
      have hlast := (List.pairwise_append.mp (List.pairwise_append.mp hclock).2.1).2.2
      exact hlast now hnow t.now List.mem_cons_self
    exact stored_live.mpr fun hpos => Int.le_trans hle (hlive hpos)
  · rwa [Finset.empty_union,run_size]

section Library
variable {C : Type} [LruLibrary C String (CacheEntry α)]
open LruLibrary (contents)

theorem get_contents (m : C) (key : String) (t : Instant) :
    (get m key t).2 = (get (contents m) key t).2 ∧ contents (get m key t).1 = (get (contents m) key t).1 := by
  obtain ⟨found,m',hget⟩ : ∃ found m', LruLibrary.get m key = (found,m') := ⟨_,_,rfl⟩
  have hcontents := LruLibrary.contents_get_eq hget
  simp only [get,LruLibrary.get_lruCache,LruLibrary.remove_lruCache,hget,hcontents]
  cases found with
  | none => exact ⟨rfl,rfl⟩
  | some e =>
    cases hexpires : e.expiresAt with
    | none => simp [hexpires]
    | some expiry => by_cases hlt : expiry < t.now <;> simp [hexpires,hlt]

theorem apply_contents (m : C) (op : Op α) : contents (apply m op) = apply (contents m) op := by
  cases op with
  | set key value t => exact LruLibrary.contents_add m key _
  | get key t => exact (get_contents m key t).2
  | delete key => exact LruLibrary.contents_remove m key
  | close => exact LruLibrary.contents_purge m

theorem run_contents (m : C) (ops : List (Op α)) : contents (run m ops) = run (contents m) ops := by
  induction ops generalizing m with
  | nil => rfl
  | cons op ops ih => exact (ih (apply m op)).trans (congrArg (run · ops) (apply_contents m op))

theorem used_contents (m : C) (op : Op α) : used m op = used (contents m) op := by
  cases op with
  | get key t => rw [used,used,(get_contents m key t).1]
  | _ => rfl

theorem usedKeys_contents (m : C) (ops : List (Op α)) : usedKeys m ops = usedKeys (contents m) ops := by
  induction ops generalizing m with
  | nil => rfl
  | cons op ops ih => rw [usedKeys,usedKeys,ih,used_contents,apply_contents]

theorem newMemory_contents (size : ℤ) : contents (newMemory size : C) = newMemory size := LruLibrary.contents_new _

/-- For every library: a hit gives the value of the latest `Set`, not deleted, not closed and not
expired; and such a value is hit, if fewer other keys than the capacity were set or hit since the
key was. -/
theorem get_run (size : ℤ) (ops : List (Op α)) (key : String) (t : Instant)
    (hclock : (clock ops++[t.now]).Pairwise (· ≤ ·)) :
    (∀ v, (get (run (newMemory size : C) ops) key t).2 = some v →
      ∃ pre t₀ post, ops = pre++.set key v t₀::post ∧ (∀ op ∈ post, ¬ op.Ends key) ∧
        (0 < t₀.ttl → t.now ≤ t₀.now+t₀.ttl)) ∧
    ∀ pre v t₀ post, ops = pre++.set key v t₀::post → (∀ op ∈ post, ¬ op.Ends key) →
      (0 < t₀.ttl → t.now ≤ t₀.now+t₀.ttl) →
      ∀ mid use since, .set key v t₀::post = mid++use::since →
        key ∈ used (run (newMemory size : C) (pre++mid)) use →
        ((usedKeys (run (newMemory size : C) (pre++mid++[use])) since).erase key).card <
          LruLibrary.size (newMemory size : C) →
        (get (run (newMemory size : C) ops) key t).2 = some v := by
  have hsize : LruLibrary.size (newMemory size : C) = (newMemory size : MemoryCache α).size :=
    congrArg LruCache.size (newMemory_contents (C := C) size)
  simp only [get_contents,used_contents,usedKeys_contents,run_contents,newMemory_contents,hsize]
  exact get_run_list size ops key t hclock

end Library

/-- Two keys in a cache of two: the older one is still there. -/
theorem get_run_second :
    (get (run (newMemory 2 : MemoryCache ℕ) [.set "a" 1 ⟨10,60⟩,.set "b" 2 ⟨20,0⟩]) "a" ⟨70,0⟩).2 = some 1 := by
  refine (get_run (C := MemoryCache ℕ) 2 [.set "a" 1 ⟨10,60⟩,.set "b" 2 ⟨20,0⟩] "a" ⟨70,0⟩ (by decide)).2 [] 1
    ⟨10,60⟩ _ rfl ?_ (by decide) [] _ _ rfl (by decide) (by decide)
  intro op hop
  cases List.mem_singleton.mp hop
  show ¬ "b" = "a"
  decide

end Contract

end MemoryCache
end AntiScrapling
