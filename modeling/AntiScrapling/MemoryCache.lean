import AntiScrapling.KeyedStore
import AntiScrapling.LruCache
import Mathlib.Data.Int.Notation

/-! The in-memory cache (`internal/cache/memory.go`), with golang-lru as a library that keeps
the laws of its documentation.  Elsewhere the library is a list. -/
namespace AntiScrapling

/-- One entry; without expiry it stays until it is evicted. -/
structure CacheEntry (α : Type) where
  value : α
  expiresAt : Option ℤ

abbrev MemoryCache (α : Type) := LruCache String (CacheEntry α)

/-- When the clock is read, and the time to live of what is stored then. -/
structure Instant where
  now : ℤ
  ttl : ℤ := 0

namespace MemoryCache

variable {α : Type}

def defaultMemorySize : ℕ := 10000

section Library
variable {C : Type} [LruLibrary C String (CacheEntry α)]

/-- `NewMemory`. -/
def newMemory (size : ℤ) : C := LruLibrary.new (if size ≤ 0 then defaultMemorySize else size.toNat)

def get (m : C) (key : String) (t : Instant) : C × Option α :=
  match LruLibrary.get m key with
  | (none,m) => (m,none)
  | (some e,m) =>
    match e.expiresAt with
    | some expiry => if expiry < t.now then (LruLibrary.remove m key,none) else (m,some e.value)
    | none => (m,some e.value)

def set (m : C) (key : String) (value : α) (t : Instant) : C :=
  LruLibrary.add m key ⟨value,if t.ttl > 0 then some (t.now+t.ttl) else none⟩

def delete (m : C) (key : String) : C := LruLibrary.remove m key

def close (m : C) : C := LruLibrary.purge m

end Library

/-- A hit answers with an entry, and a lookup adds none. -/
theorem get_cases (m : MemoryCache α) (key : String) (t : Instant) :
    (∀ e ∈ (get m key t).1.entries, e ∈ m.entries) ∧
      ∀ a, (get m key t).2 = some a → ∃ e, (key,e) ∈ m.entries ∧ e.value = a := by
  have hsub : ∀ e ∈ (LruCache.get m key).2.entries, e ∈ m.entries :=
    fun _ he => LruCache.mem_of_mem_get he
  have hlookup := LruCache.get_fst m key
  simp only [get,LruLibrary.get_lruCache,LruLibrary.remove_lruCache]
  cases hget : LruCache.get m key with
  | mk found m' =>
    rw [hget] at hsub hlookup
    cases found with
    | none => exact ⟨hsub,fun a ha => by cases ha⟩
    | some e =>
      have hmem : (key,e) ∈ m.entries := LruCache.mem_of_lookup hlookup.symm
      have hvalue : ∀ a, some e.value = some a → ∃ e, (key,e) ∈ m.entries ∧ e.value = a :=
        fun a ha => ⟨e,hmem,Option.some.inj ha⟩
      simp only
      split
      · split_ifs
        · exact ⟨fun e he => hsub e (LruCache.mem_remove.mp he).1,fun a ha => by cases ha⟩
        · exact ⟨hsub,hvalue⟩
      · exact ⟨hsub,hvalue⟩

/-- The memory cache answers only with what was put in. -/
def store (α : Type) : KeyedStore (MemoryCache α) String α Instant where
  get := get
  set := set
  Holds m key a := ∃ e, (key,e) ∈ m.entries ∧ e.value = a
  holds_of_get {m key t a} h := (get_cases m key t).2 a h
  holds_get {m key _ t _} := fun ⟨e,he,ha⟩ => ⟨e,(get_cases m key t).1 _ he,ha⟩
  holds_set := by
    rintro m k k' t a a' ⟨e,he,rfl⟩
    rcases LruCache.mem_of_mem_add he with heq | ⟨hold,-⟩
    · obtain ⟨rfl,rfl⟩ := Prod.mk.inj heq
      exact .inl ⟨rfl,rfl⟩
    · exact .inr ⟨e,hold,rfl⟩

theorem newMemory_empty (size : ℤ) (key : String) (a : α) : ¬ (store α).Holds (newMemory size) key a :=
  fun ⟨_,he,_⟩ => absurd he List.not_mem_nil

end MemoryCache
end AntiScrapling
