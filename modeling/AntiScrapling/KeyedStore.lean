import Mathlib.Tactic.Common

/-! Stores by key that may forget an entry at any time, but answer only with what was
put in. -/
namespace AntiScrapling

/-- Operations on states `σ`, at times `τ`; `Holds s k a` says that `a` may be answered for `k`. -/
structure KeyedStore (σ κ α τ : Type) where
  get : σ → κ → τ → σ × Option α
  set : σ → κ → α → τ → σ
  Holds : σ → κ → α → Prop
  holds_of_get {s : σ} {k : κ} {t : τ} {a : α} : (get s k t).2 = some a → Holds s k a
  holds_get {s : σ} {k k' : κ} {t : τ} {a : α} : Holds (get s k t).1 k' a → Holds s k' a
  holds_set {s : σ} {k k' : κ} {t : τ} {a a' : α} :
    Holds (set s k a t) k' a' → k' = k ∧ a' = a ∨ Holds s k' a'

namespace KeyedStore

variable {σ κ α τ : Type} (S : KeyedStore σ κ α τ)

/-- Everything that may be answered satisfies `P`. -/
def Only (P : κ → α → Prop) (s : σ) : Prop := ∀ k a, S.Holds s k a → P k a

variable {S} {P : κ → α → Prop} {s : σ}

theorem Only.get (h : S.Only P s) (k : κ) (t : τ) : S.Only P (S.get s k t).1 :=
  fun k' a ha => h k' a (S.holds_get ha)

theorem Only.set (h : S.Only P s) {k : κ} {a : α} (hP : P k a) (t : τ) : S.Only P (S.set s k a t) := by
  intro k' a' ha
  rcases S.holds_set ha with ⟨rfl,rfl⟩ | hold
  · exact hP
  · exact h k' a' hold

end KeyedStore
end AntiScrapling
