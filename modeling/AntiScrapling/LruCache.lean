import Mathlib.Data.Finset.Card
import Mathlib.Data.List.Nodup
import Mathlib.Tactic.Common

/-! Caches of bounded size that drop the least recently used entry: a list with the most
recently used entry in front, and the laws by which a library of such caches has the contents
of that list. -/
namespace AntiScrapling

@[ext]
structure LruCache (κ α : Type) where
  size : ℕ
  entries : List (κ × α)
  distinct : (entries.map Prod.fst).Nodup
  bounded : entries.length ≤ size

namespace LruCache

variable {κ α : Type} [DecidableEq κ]

/-- All entries but the one of `k`. -/
def without (k : κ) (es : List (κ × α)) : List (κ × α) := es.filter fun e => e.1 ≠ k

theorem mem_without {k : κ} {es : List (κ × α)} {e : κ × α} :
    e ∈ without k es ↔ e ∈ es ∧ e.1 ≠ k := by
  simp [without]

theorem without_distinct {k : κ} {es : List (κ × α)} (h : (es.map Prod.fst).Nodup) :
    ((without k es).map Prod.fst).Nodup :=
  h.sublist (List.filter_sublist.map _)

theorem cons_without_distinct {k : κ} {v : α} {es : List (κ × α)} (h : (es.map Prod.fst).Nodup) :
    (((k,v)::without k es).map Prod.fst).Nodup := by
  rw [List.map_cons,List.nodup_cons]
  refine ⟨?_,without_distinct h⟩
  simp only [List.mem_map,mem_without]
  rintro ⟨e,⟨-,hne⟩,he⟩
  exact hne he

theorem without_length_lt {k : κ} {v : α} {es : List (κ × α)} (h : (k,v) ∈ es) :
    (without k es).length < es.length := by
  obtain ⟨ys,zs,rfl⟩ := List.append_of_mem h
  have h₁ := List.length_filter_le (fun e : κ × α => e.1 ≠ k) ys
  have h₂ := List.length_filter_le (fun e : κ × α => e.1 ≠ k) zs
  simp only [without,List.filter_append,List.filter_cons,List.length_append,List.length_cons,ne_eq,
    not_true_eq_false,decide_false,Bool.false_eq_true,if_false] at *
  omega

def new (size : ℕ) : LruCache κ α := ⟨size,[],List.nodup_nil,Nat.zero_le _⟩

/-- The value of `k`, without touching its place in the order. -/
def lookup (c : LruCache κ α) (k : κ) : Option α := (c.entries.find? fun e => e.1 = k).map Prod.snd

theorem mem_of_lookup {c : LruCache κ α} {k : κ} {v : α} (h : c.lookup k = some v) :
    (k,v) ∈ c.entries := by
  obtain ⟨e,he,rfl⟩ := Option.map_eq_some_iff.mp h
  have hk : e.1 = k := by simpa using List.find?_some he
  exact hk ▸ List.mem_of_find?_eq_some he

/-- Put `k` in front; a new key pushes the last entry out of a full cache. -/
def add (c : LruCache κ α) (k : κ) (v : α) : LruCache κ α where
  size := c.size
  entries := ((k,v)::without k c.entries).take c.size
  distinct := (cons_without_distinct c.distinct).sublist ((List.take_sublist _ _).map _)
  bounded := by
    rw [List.length_take]
    exact Nat.min_le_left _ _

def remove (c : LruCache κ α) (k : κ) : LruCache κ α where
  size := c.size
  entries := without k c.entries
  distinct := without_distinct c.distinct
  bounded := Nat.le_trans (List.length_filter_le _ _) c.bounded

/-- Move the entry of `k` to the front. -/
def touch (c : LruCache κ α) (k : κ) (v : α) (h : (k,v) ∈ c.entries) : LruCache κ α where
  size := c.size
  entries := (k,v)::without k c.entries
  distinct := cons_without_distinct c.distinct
  bounded := Nat.le_trans (without_length_lt h) c.bounded

/-- Look `k` up, which makes it the most recently used key. -/
def get (c : LruCache κ α) (k : κ) : Option α × LruCache κ α :=
  match h : c.lookup k with
  | some v => (some v,c.touch k v (mem_of_lookup h))
  | none => (none,c)

@[simp] theorem get_fst (c : LruCache κ α) (k : κ) : (c.get k).1 = c.lookup k := by
  unfold get
  split <;> simp_all

@[simp] theorem get_size (c : LruCache κ α) (k : κ) : (c.get k).2.size = c.size := by
  unfold get
  split <;> rfl

theorem mem_remove {c : LruCache κ α} {k : κ} {e : κ × α} :
    e ∈ (c.remove k).entries ↔ e ∈ c.entries ∧ e.1 ≠ k := mem_without

theorem mem_of_mem_get {c : LruCache κ α} {k : κ} {e : κ × α} (h : e ∈ (c.get k).2.entries) :
    e ∈ c.entries := by
  unfold get at h
  split at h
  · next v hv =>
    rcases List.mem_cons.mp h with rfl | h
    · exact mem_of_lookup hv
    · exact (mem_without.mp h).1
  · exact h

theorem mem_of_mem_add {c : LruCache κ α} {k : κ} {v : α} {e : κ × α}
    (h : e ∈ (c.add k v).entries) : e = (k,v) ∨ e ∈ c.entries ∧ e.1 ≠ k := by
  rcases List.mem_cons.mp (List.mem_of_mem_take h) with rfl | h
  · exact .inl rfl
  · exact .inr (mem_without.mp h)

def purge (c : LruCache κ α) : LruCache κ α where
  size := c.size
  entries := []
  distinct := List.nodup_nil
  bounded := Nat.zero_le _

section Recency
variable {c : LruCache κ α} {k k' : κ} {v v' : α} {K : Finset κ}

/-- The entry of `k` is there, and only keys of `K` were used more recently. -/
def Within (c : LruCache κ α) (k : κ) (v : α) (K : Finset κ) : Prop :=
  ∃ front back, c.entries = front++(k,v)::back ∧ ∀ e ∈ front, e.1 ∈ K

omit [DecidableEq κ] in
theorem Within.mem (h : Within c k v K) : (k,v) ∈ c.entries := by
  obtain ⟨front,back,hentries,-⟩ := h
  rw [hentries]
  exact List.mem_append_right _ List.mem_cons_self

omit [DecidableEq κ] in
theorem Within.mono {K' : Finset κ} (h : Within c k v K) (hsub : K ⊆ K') : Within c k v K' := by
  obtain ⟨front,back,hentries,hfront⟩ := h
  exact ⟨front,back,hentries,fun e he => hsub (hfront e he)⟩

theorem lookup_of_mem (h : (k,v) ∈ c.entries) : c.lookup k = some v := by
  obtain ⟨ys,zs,hentries⟩ := List.append_of_mem h
  have hdistinct := c.distinct
  rw [hentries,List.map_append,List.nodup_append] at hdistinct
  have hys : ys.find? (fun e => e.1 = k) = none := by
    rw [List.find?_eq_none]
    intro e he heq
    exact hdistinct.2.2 _ (List.mem_map_of_mem he) k List.mem_cons_self (of_decide_eq_true heq)
  rw [lookup,hentries,List.find?_append,hys]
  simp

theorem without_append (k : κ) (es es' : List (κ × α)) :
    without k (es++es') = without k es++without k es' := List.filter_append ..

theorem without_cons_of_ne (h : k ≠ k') (es : List (κ × α)) :
    without k' ((k,v)::es) = (k,v)::without k' es := by
  simp [without,h]

theorem Within.remove (h : Within c k v K) (hne : k ≠ k') : Within (c.remove k') k v (K.erase k') := by
  obtain ⟨front,back,hentries,hfront⟩ := h
  refine ⟨without k' front,without k' back,?_,?_⟩
  · show without k' c.entries = _
    rw [hentries,without_append,without_cons_of_ne hne]
  · intro e he
    obtain ⟨hmem,hkey⟩ := mem_without.mp he
    exact Finset.mem_erase.mpr ⟨hkey,hfront e hmem⟩

/-- What another key in front of the others leaves in place. -/
theorem Within.cons (h : Within c k v K) (hne : k ≠ k') (v' : α) :
    ∃ front back, (k',v')::without k' c.entries = front++(k,v)::back ∧ ∀ e ∈ front, e.1 ∈ insert k' K := by
  obtain ⟨front,back,hentries,hfront⟩ := h.remove hne
  refine ⟨(k',v')::front,back,?_,?_⟩
  · rw [List.cons_append,← hentries]
    rfl
  · intro e he
    rcases List.mem_cons.mp he with rfl | he
    · exact Finset.mem_insert_self _ _
    · exact Finset.mem_insert_of_mem (Finset.mem_of_mem_erase (hfront e he))

theorem get_eq_self (h : c.lookup k = none) : (c.get k).2 = c := by
  unfold get
  split
  · next v hv => rw [h] at hv; cases hv
  · rfl

theorem get_entries (h : c.lookup k = some v) : (c.get k).2.entries = (k,v)::without k c.entries := by
  unfold get
  split
  · next v' hv' =>
    rw [h] at hv'
    cases hv'
    rfl
  · next hnone => rw [h] at hnone; cases hnone

theorem Within.get (h : Within c k v K) (hne : k ≠ k') : Within (c.get k').2 k v (insert k' K) := by
  cases hlookup : c.lookup k' with
  | none =>
    rw [get_eq_self hlookup]
    exact h.mono (Finset.subset_insert _ _)
  | some v' =>
    unfold Within
    rw [get_entries hlookup]
    exact h.cons hne v'

theorem within_get_self (h : c.lookup k = some v) : Within (c.get k).2 k v ∅ :=
  ⟨[],without k c.entries,get_entries h,fun _ he => absurd he List.not_mem_nil⟩

theorem within_add_self (hsize : 0 < c.size) (v : α) : Within (c.add k v) k v ∅ := by
  obtain ⟨n,hn⟩ := Nat.exists_eq_succ_of_ne_zero hsize.ne'
  refine ⟨[],(without k c.entries).take n,?_,fun _ he => absurd he List.not_mem_nil⟩
  show ((k,v)::without k c.entries).take c.size = _
  rw [hn,List.take_succ_cons,List.nil_append]

theorem front_length_le {front back : List (κ × α)}
    (hdistinct : ((front++back).map Prod.fst).Nodup) (hfront : ∀ e ∈ front, e.1 ∈ K) :
    front.length ≤ K.card := by
  have hnodup : (front.map Prod.fst).Nodup :=
    hdistinct.sublist ((List.sublist_append_left front back).map _)
  rw [← List.length_map Prod.fst,← List.toFinset_card_of_nodup hnodup]
  refine Finset.card_le_card fun x hx => ?_
  obtain ⟨e,he,rfl⟩ := List.mem_map.mp (List.mem_toFinset.mp hx)
  exact hfront e he

/-- A key stays as long as fewer keys than the cache holds were used after it. -/
theorem Within.add (h : Within c k v K) (hne : k ≠ k') (hcard : (insert k' K).card < c.size) (v' : α) :
    Within (c.add k' v') k v (insert k' K) := by
  obtain ⟨front,back,hcons,hfront⟩ := h.cons hne v'
  have hdistinct := cons_without_distinct c.distinct (k := k') (v := v')
  rw [hcons] at hdistinct
  have hlen := front_length_le hdistinct hfront
  obtain ⟨n,hn⟩ := Nat.exists_eq_add_of_lt (Nat.lt_of_le_of_lt hlen hcard)
  refine ⟨front,back.take n,?_,hfront⟩
  show ((k',v')::without k' c.entries).take c.size = _
  rw [hcons,hn,Nat.add_assoc,List.take_length_add_append,List.take_succ_cons]

end Recency

section Eviction
variable {c : LruCache κ α} {es : List (κ × α)} {k k' : κ} {K : Set κ}

/-- The entries that were used after the one of `k`. -/
def newer (k : κ) (es : List (κ × α)) : List (κ × α) := es.takeWhile fun e => e.1 ≠ k

theorem newer_without (hne : k ≠ k') (es : List (κ × α)) : newer k (without k' es) = without k' (newer k es) := by
  induction es with
  | nil => rfl
  | cons e es ih =>
    by_cases hk' : e.1 = k'
    · have hk : e.1 ≠ k := fun hk => hne (hk.symm.trans hk')
      simpa [newer,without,List.filter_cons,List.takeWhile_cons,hk',hne.symm] using ih
    · by_cases hk : e.1 = k
      · simp [newer,without,hk,hne]
      · simpa [newer,without,List.filter_cons,List.takeWhile_cons,hk',hk] using ih

theorem newer_take {n : ℕ} (h : k ∈ (es.take n).map Prod.fst) : newer k (es.take n) = newer k es := by
  induction es generalizing n with
  | nil => rw [List.take_nil]
  | cons e es ih =>
    cases n with
    | zero => simp at h
    | succ n =>
      by_cases hk : e.1 = k
      · simp [newer,hk]
      · rw [List.take_succ_cons,List.map_cons,List.mem_cons] at h
        simpa [newer,hk] using ih (h.resolve_left (Ne.symm hk))

theorem newer_length_lt (h : k ∈ es.map Prod.fst) : (newer k es).length < es.length := by
  have hprefix : newer k es <+: es := List.takeWhile_prefix _
  refine lt_of_le_of_ne hprefix.length_le fun hlength => ?_
  obtain ⟨e,he,rfl⟩ := List.mem_map.mp h
  rw [← hprefix.eq_of_length hlength] at he
  simpa using List.all_eq_true.mp List.all_takeWhile e he

/-- All keys of `K` were used after `k`, if `k` is still there. -/
def Older (k : κ) (K : Set κ) (es : List (κ × α)) : Prop :=
  k ∈ es.map Prod.fst → ∀ k' ∈ K, k' ∈ (newer k es).map Prod.fst

theorem Older.mono {K' : Set κ} (h : Older k K es) (hsub : K' ⊆ K) : Older k K' es :=
  fun hk k' hk' => h hk k' (hsub hk')

theorem mem_keys_without : k ∈ (without k' es).map Prod.fst ↔ k ∈ es.map Prod.fst ∧ k ≠ k' := by
  simp only [List.mem_map,mem_without]
  constructor
  · rintro ⟨e,⟨he,hne⟩,rfl⟩
    exact ⟨⟨e,he,rfl⟩,hne⟩
  · rintro ⟨⟨e,he,rfl⟩,hne⟩
    exact ⟨e,⟨he,hne⟩,rfl⟩

theorem Older.without (h : Older k K es) (hne : k ≠ k') (hk' : k' ∉ K) : Older k K (without k' es) := by
  intro hk x hx
  rw [newer_without hne,mem_keys_without]
  exact ⟨h (mem_keys_without.mp hk).1 x hx,fun heq => hk' (heq ▸ hx)⟩

theorem Older.cons (h : Older k K es) (hne : k ≠ k') (v : α) :
    Older k (insert k' K) ((k',v)::LruCache.without k' es) := by
  intro hk x hx
  have hfront : newer k ((k',v)::LruCache.without k' es) = (k',v)::LruCache.without k' (newer k es) := by
    rw [← newer_without hne]
    simp [newer,hne.symm]
  rw [List.map_cons,List.mem_cons] at hk
  rw [hfront,List.map_cons,List.mem_cons]
  by_cases hxk : x = k'
  · exact .inl hxk
  · have hxK := Set.mem_of_mem_insert_of_ne hx hxk
    exact .inr (mem_keys_without.mpr ⟨h (mem_keys_without.mp (hk.resolve_left hne)).1 x hxK,hxk⟩)

theorem Older.take (h : Older k K es) (n : ℕ) : Older k K (es.take n) := by
  intro hk
  rw [newer_take hk]
  exact h ((List.take_sublist n es).map Prod.fst |>.subset hk)

theorem Older.get (h : Older k K c.entries) (hne : k ≠ k') : Older k K (c.get k').2.entries := by
  cases hlookup : c.lookup k' with
  | none => rwa [get_eq_self hlookup]
  | some v =>
    rw [get_entries hlookup]
    exact (h.cons hne v).mono (Set.subset_insert k' K)

theorem Older.add (h : Older k K c.entries) (hne : k ≠ k') (v : α) : Older k (insert k' K) (c.add k' v).entries :=
  (h.cons hne v).take c.size

/-- A full cache of newer keys has pushed the key out. -/
theorem Older.evicted {F : Finset κ} (h : Older k F c.entries) (hcard : c.size ≤ F.card) : c.lookup k = none := by
  by_contra hsome
  obtain ⟨v,hv⟩ := Option.ne_none_iff_exists'.mp hsome
  have hk : k ∈ c.entries.map Prod.fst := List.mem_map_of_mem (mem_of_lookup hv)
  have hsub : F ⊆ ((newer k c.entries).map Prod.fst).toFinset := fun x hx => List.mem_toFinset.mpr (h hk x hx)
  have hle := (Finset.card_le_card hsub).trans (List.toFinset_card_le _)
  have hlt := newer_length_lt hk
  have hbounded := c.bounded
  rw [List.length_map] at hle
  omega

end Eviction

theorem lookup_eq_none {c : LruCache κ α} {k : κ} (h : k ∉ c.entries.map Prod.fst) : c.lookup k = none := by
  by_contra hsome
  obtain ⟨v,hv⟩ := Option.ne_none_iff_exists'.mp hsome
  exact h (List.mem_map_of_mem (mem_of_lookup hv))

end LruCache

section Library
open LruCache (without)

/-- A library of bounded caches: its operations, and the laws that they keep.  The entries of a
cache are told from the most recently used one on. -/
class LruLibrary (C : Type) (κ α : outParam Type) [DecidableEq κ] where
  new : ℕ → C
  get : C → κ → Option α × C
  add : C → κ → α → C
  remove : C → κ → C
  purge : C → C
  size : C → ℕ
  entries : C → List (κ × α)
  distinct : ∀ c, ((entries c).map Prod.fst).Nodup
  bounded : ∀ c, (entries c).length ≤ size c
  size_new : ∀ n, size (new n) = n
  entries_new : ∀ n, entries (new n) = []
  size_get : ∀ c k, size (get c k).2 = size c
  get_found : ∀ {c k v}, (k,v) ∈ entries c →
    (get c k).1 = some v ∧ entries (get c k).2 = (k,v)::without k (entries c)
  get_missing : ∀ {c k}, k ∉ (entries c).map Prod.fst → (get c k).1 = none ∧ entries (get c k).2 = entries c
  size_add : ∀ c k v, size (add c k v) = size c
  entries_add : ∀ c k v, entries (add c k v) = ((k,v)::without k (entries c)).take (size c)
  size_remove : ∀ c k, size (remove c k) = size c
  entries_remove : ∀ c k, entries (remove c k) = without k (entries c)
  size_purge : ∀ c, size (purge c) = size c
  entries_purge : ∀ c, entries (purge c) = []

instance {κ α : Type} [DecidableEq κ] : LruLibrary (LruCache κ α) κ α where
  new := .new
  get := LruCache.get
  add := LruCache.add
  remove := LruCache.remove
  purge := LruCache.purge
  size := LruCache.size
  entries := LruCache.entries
  distinct := LruCache.distinct
  bounded := LruCache.bounded
  size_new _ := rfl
  entries_new _ := rfl
  size_get := LruCache.get_size
  get_found h :=
    ⟨(LruCache.get_fst _ _).trans (LruCache.lookup_of_mem h),LruCache.get_entries (LruCache.lookup_of_mem h)⟩
  get_missing h :=
    ⟨(LruCache.get_fst _ _).trans (LruCache.lookup_eq_none h),
      congrArg LruCache.entries (LruCache.get_eq_self (LruCache.lookup_eq_none h))⟩
  size_add _ _ _ := rfl
  entries_add _ _ _ := rfl
  size_remove _ _ := rfl
  entries_remove _ _ := rfl
  size_purge _ := rfl
  entries_purge _ := rfl

namespace LruLibrary

@[simp] theorem get_lruCache {κ α : Type} [DecidableEq κ] (c : LruCache κ α) (k : κ) :
    LruLibrary.get c k = c.get k := rfl

@[simp] theorem remove_lruCache {κ α : Type} [DecidableEq κ] (c : LruCache κ α) (k : κ) :
    LruLibrary.remove c k = c.remove k := rfl

variable {C κ α : Type} [DecidableEq κ] [LruLibrary C κ α]

/-- The list that a cache of the library stands for. -/
def contents (c : C) : LruCache κ α := ⟨size c,entries c,distinct c,bounded c⟩

@[simp] theorem contents_new (n : ℕ) : contents (new n : C) = .new n := LruCache.ext (size_new n) (entries_new n)

@[simp] theorem get_eq_lookup (c : C) (k : κ) : (LruLibrary.get c k).1 = (contents c).lookup k := by
  cases h : (contents c).lookup k with
  | none =>
    refine (get_missing fun hk => ?_).1
    obtain ⟨⟨k',v⟩,hmem,rfl⟩ := List.mem_map.mp hk
    have hlookup := LruCache.lookup_of_mem (c := contents c) hmem
    rw [hlookup] at h
    cases h
  | some v => exact (get_found (LruCache.mem_of_lookup h)).1

@[simp] theorem contents_get (c : C) (k : κ) : contents (LruLibrary.get c k).2 = ((contents c).get k).2 := by
  by_cases hk : k ∈ (entries c).map Prod.fst
  · obtain ⟨⟨k',v⟩,hmem,rfl⟩ := List.mem_map.mp hk
    have hlookup := LruCache.lookup_of_mem (c := contents c) hmem
    refine LruCache.ext ((size_get c _).trans (LruCache.get_size (contents c) _).symm) ?_
    exact (get_found hmem).2.trans (LruCache.get_entries hlookup).symm
  · rw [LruCache.get_eq_self (LruCache.lookup_eq_none (c := contents c) hk)]
    exact LruCache.ext (size_get c k) (get_missing hk).2

/-- A lookup answers by the contents alone. -/
theorem contents_get_eq {c c' : C} {k : κ} {found : Option α} (h : LruLibrary.get c k = (found,c')) :
    (contents c).get k = (found,contents c') := by
  have hfst := get_eq_lookup c k
  have hsnd := contents_get c k
  rw [h] at hfst hsnd
  exact Prod.ext ((LruCache.get_fst _ _).trans hfst.symm) hsnd.symm

@[simp] theorem contents_add (c : C) (k : κ) (v : α) : contents (add c k v) = (contents c).add k v :=
  LruCache.ext (size_add c k v) (entries_add c k v)

@[simp] theorem contents_remove (c : C) (k : κ) : contents (remove c k) = (contents c).remove k :=
  LruCache.ext (size_remove c k) (entries_remove c k)

@[simp] theorem contents_purge (c : C) : contents (purge c) = (contents c).purge :=
  LruCache.ext (size_purge c) (entries_purge c)

end LruLibrary

end Library

end AntiScrapling
