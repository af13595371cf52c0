import Mathlib.Data.List.Nodup
import Mathlib.Tactic.Common

/-! Finite maps with string keys. -/
namespace AntiScrapling

structure StringMap (α : Type) where
  entries : List (String × α)
  distinct : (entries.map Prod.fst).Nodup

namespace StringMap

variable {α β : Type}

def empty : StringMap α := ⟨[],List.nodup_nil⟩

def lookup (m : StringMap α) (key : String) : Option α := m.entries.lookup key

theorem insert_distinct (m : StringMap α) (key : String) (v : α) :
    (((key,v)::m.entries.filter fun e => e.1 ≠ key).map Prod.fst).Nodup := by
  rw [List.map_cons,List.nodup_cons]
  refine ⟨?_,m.distinct.sublist (List.filter_sublist.map _)⟩
  simp

def insert (m : StringMap α) (key : String) (v : α) : StringMap α :=
  ⟨(key,v)::m.entries.filter fun e => e.1 ≠ key,m.insert_distinct key v⟩

def erase (m : StringMap α) (key : String) : StringMap α :=
  ⟨m.entries.filter fun e => e.1 ≠ key,m.distinct.sublist (List.filter_sublist.map _)⟩

def mapValues (f : α → β) (m : StringMap α) : StringMap β where
  entries := m.entries.map fun e => (e.1,f e.2)
  distinct := by
    rw [List.map_map]
    exact m.distinct

def filterMapValues (f : α → Option β) (m : StringMap α) : StringMap β where
  entries := m.entries.filterMap fun e => (f e.2).map (e.1,·)
  distinct := by
    refine m.distinct.sublist ?_
    induction m.entries with
    | nil => simp
    | cons e es ih =>
      rw [List.filterMap_cons]
      cases f e.2 with
      | none => exact ih.cons _
      | some b => exact ih.cons_cons _

section Lookup

theorem mem_keys {m : StringMap α} {key : String} :
    key ∈ m.entries.map Prod.fst ↔ (m.lookup key).isSome = true := by
  simp [lookup,List.lookup_isSome_iff]

theorem lookup_of_mem {m : StringMap α} {key : String} {v : α} (h : (key,v) ∈ m.entries) :
    m.lookup key = some v := by
  obtain ⟨es,hd⟩ := m
  unfold lookup
  simp only at h ⊢
  induction es with
  | nil => cases h
  | cons e es ih =>
    rw [List.map_cons,List.nodup_cons] at hd
    rcases List.mem_cons.mp h with rfl | h
    · simp
    · have hne : (key == e.1) = false := by
        simpa using fun heq : key = e.1 => hd.1 (heq ▸ List.mem_map_of_mem h)
      rw [List.lookup_cons,hne]
      exact ih hd.2 h

theorem mem_of_lookup {m : StringMap α} {key : String} {v : α} (h : m.lookup key = some v) :
    (key,v) ∈ m.entries := by
  obtain ⟨before,after,hentries,-⟩ := List.lookup_eq_some_iff.mp h
  rw [hentries]
  exact List.mem_append_right _ List.mem_cons_self

theorem entries_nodup (m : StringMap α) : m.entries.Nodup := m.distinct.of_map

theorem insert_entries {m : StringMap α} {key : String} (h : key ∉ m.entries.map Prod.fst) (v : α) :
    (m.insert key v).entries = (key,v)::m.entries := by
  unfold insert
  rw [List.cons.injEq,List.filter_eq_self]
  refine ⟨rfl,fun e he => ?_⟩
  have hne : e.1 ≠ key := fun heq => h (heq ▸ List.mem_map_of_mem he)
  simpa using hne

theorem lookup_filter_ne {key k : String} (h : k ≠ key) (es : List (String × α)) :
    (es.filter fun e => e.1 ≠ key).lookup k = es.lookup k := by
  induction es with
  | nil => rfl
  | cons e es ih =>
    obtain ⟨a,v⟩ := e
    by_cases ha : a = key
    · have hk : (k == a) = false := by simpa [ha] using h
      rw [List.filter_cons_of_neg (by simpa using ha),ih,List.lookup_cons,hk]
    · rw [List.filter_cons_of_pos (by simpa using ha),List.lookup_cons,List.lookup_cons,ih]

theorem lookup_insert (m : StringMap α) (key : String) (v : α) (k : String) :
    (m.insert key v).lookup k = if k = key then some v else m.lookup k := by
  unfold lookup insert
  rw [List.lookup_cons]
  split_ifs with h
  · simp [h]
  · have hne : (k == key) = false := by simpa using h
    rw [hne]
    exact lookup_filter_ne h m.entries

theorem lookup_erase (m : StringMap α) (key k : String) :
    (m.erase key).lookup k = if k = key then none else m.lookup k := by
  unfold lookup erase
  split_ifs with h
  · rw [h,List.lookup_eq_none_iff]
    intro e he
    have hne := (List.mem_filter.mp he).2
    simpa using Ne.symm (of_decide_eq_true hne)
  · exact lookup_filter_ne h m.entries

theorem lookup_filterMapValues (f : α → Option β) (m : StringMap α) (k : String) :
    (m.filterMapValues f).lookup k = (m.lookup k).bind f := by
  unfold lookup filterMapValues
  obtain ⟨es,hd⟩ := m
  induction es with
  | nil => rfl
  | cons e es ih =>
    obtain ⟨a,v⟩ := e
    rw [List.map_cons,List.nodup_cons] at hd
    have ih := ih hd.2
    simp only at ih ⊢
    rw [List.filterMap_cons,List.lookup_cons]
    by_cases hk : k = a
    · have hka : (k == a) = true := by simpa using hk
      rw [hka]
      cases hv : f v with
      | none =>
        -- the key is not in the rest, so nothing is found behind a dropped entry
        have hnone : es.lookup k = none := by
          rw [List.lookup_eq_none_iff]
          intro p hp
          have hmem : p.1 ∈ es.map Prod.fst := List.mem_map_of_mem hp
          have : k ≠ p.1 := fun hkp => hd.1 (by rwa [← hk,hkp])
          simpa using this
        simpa [hnone,hv] using ih
      | some b => simp [List.lookup_cons,hka,hv]
    · have hka : (k == a) = false := by simpa using hk
      rw [hka]
      cases f v with
      | none => exact ih
      | some b => simpa [List.lookup_cons,hka] using ih

end Lookup

end StringMap
end AntiScrapling
