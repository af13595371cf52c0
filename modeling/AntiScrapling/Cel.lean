import Mathlib.Data.List.Basic
import Mathlib.Logic.Function.Basic
import Mathlib.Tactic.Common

/-! An expression language of the CEL kind over arbitrary values: strict functions that
may fail, logical operators that absorb an error when the other side decides, a
conditional, and the comprehension macros.  Select, index, literals of lists and maps
and all other operators are strict functions. -/
namespace AntiScrapling
namespace Cel

inductive Expr (ν : Type)
  | const (v : ν)
  | ident (name : String)
  | call (function : String) (args : List (Expr ν))
  | or (a b : Expr ν)
  | and (a b : Expr ν)
  | cond (c a b : Expr ν)
  | all (range : Expr ν) (var : String) (body : Expr ν)
  | any (range : Expr ν) (var : String) (body : Expr ν)
  | one (range : Expr ν) (var : String) (body : Expr ν)
  | map (range : Expr ν) (var : String) (keep body : Expr ν)

/-- What the operators of the language itself need of the values. -/
structure Values (ν : Type) where
  ofBool : Bool → ν
  toBool : ν → Option Bool
  ofList : List ν → ν
  /-- What a macro runs over. -/
  elements : ν → Except String (List ν)

abbrev Calls (ν : Type) := String → List ν → Except String ν

section Results

def orResult : Except String Bool → Except String Bool → Except String Bool
  | .ok true,_ => .ok true
  | _,.ok true => .ok true
  | .error e,_ => .error e
  | .ok false,b => b

def andResult : Except String Bool → Except String Bool → Except String Bool
  | .ok false,_ => .ok false
  | _,.ok false => .ok false
  | .error e,_ => .error e
  | .ok true,b => b

/-- One step of a macro that keeps going on an error: `pred ? next : acc`. -/
def stepIf {γ : Type} (acc : Except String γ) (pred : Except String Bool)
    (next : Except String γ → Except String γ) : Except String γ :=
  pred.bind fun b => if b then next acc else acc

def countTrue (preds : List (Except String Bool)) : Except String ℕ :=
  preds.foldl (fun n p => stepIf n p fun n => n.map (·+1)) (.ok 0)

/-- The values whose predicate holds. -/
def keepTrue {α : Type} (rs : List (Except String Bool × Except String α)) : Except String (List α) :=
  rs.foldl (fun vs r => stepIf vs r.1 fun vs => vs.bind fun vs => r.2.map fun v => vs++[v]) (.ok [])

end Results

section Evaluation
variable {ν : Type} (V : Values ν) (calls : Calls ν)

def truth (r : Except String ν) : Except String Bool :=
  r.bind fun v => match V.toBool v with
    | some b => .ok b
    | none => .error "no such overload"

mutual

def eval (env : String → Option ν) : Expr ν → Except String ν
  | .const v => .ok v
  | .ident name => match env name with
    | some v => .ok v
    | none => .error ("no such attribute: " ++ name)
  | .call function args => (evalArgs env args).bind (calls function)
  | .or a b => (orResult (truth V (eval env a)) (truth V (eval env b))).map V.ofBool
  | .and a b => (andResult (truth V (eval env a)) (truth V (eval env b))).map V.ofBool
  | .cond c a b => (truth V (eval env c)).bind fun t => if t then eval env a else eval env b
  | .all range var body => ((eval env range).bind V.elements).bind fun vs =>
    ((vs.map fun v => truth V (eval (Function.update env var (some v)) body)).foldl andResult
      (.ok true)).map V.ofBool
  | .any range var body => ((eval env range).bind V.elements).bind fun vs =>
    ((vs.map fun v => truth V (eval (Function.update env var (some v)) body)).foldl orResult
      (.ok false)).map V.ofBool
  | .one range var body => ((eval env range).bind V.elements).bind fun vs =>
    (countTrue (vs.map fun v => truth V (eval (Function.update env var (some v)) body))).map
      fun n => V.ofBool (n == 1)
  | .map range var keep body => ((eval env range).bind V.elements).bind fun vs =>
    (keepTrue (vs.map fun v => (truth V (eval (Function.update env var (some v)) keep),
      eval (Function.update env var (some v)) body))).map V.ofList

def evalArgs (env : String → Option ν) : List (Expr ν) → Except String (List ν)
  | [] => .ok []
  | e::es => (eval env e).bind fun v => (evalArgs env es).map fun vs => v::vs

end

end Evaluation

/-- `r'` has the value of `r` wherever `r` has one. -/
def Refines {α : Type} (r r' : Except String α) : Prop := ∀ v, r = .ok v → r' = .ok v

namespace Refines
variable {α β : Type}

theorem refl (r : Except String α) : Refines r r := fun _ h => h

theorem bind {r r' : Except String α} {f f' : α → Except String β} (h : Refines r r')
    (hf : ∀ a, Refines (f a) (f' a)) : Refines (r.bind f) (r'.bind f') := by
  intro v hv
  cases r with
  | error e => cases hv
  | ok a =>
    rw [h a rfl]
    exact hf a v hv

theorem map {r r' : Except String α} (h : Refines r r') (f : α → β) :
    Refines (r.map f) (r'.map f) := by
  intro v hv
  cases r with
  | error e => cases hv
  | ok a =>
    rw [h a rfl]
    exact hv

theorem orResult {a a' b b' : Except String Bool} (ha : Refines a a') (hb : Refines b b') :
    Refines (orResult a b) (orResult a' b') := by
  intro v hv
  unfold Cel.orResult at hv ⊢
  split at hv
  · rw [ha true rfl]
    exact hv
  · rw [hb true rfl]
    rcases a' with e | (_ | _) <;> exact hv
  · cases hv
  · rw [ha false rfl,hb v hv]
    cases v <;> rfl

theorem andResult {a a' b b' : Except String Bool} (ha : Refines a a') (hb : Refines b b') :
    Refines (andResult a b) (andResult a' b') := by
  intro v hv
  unfold Cel.andResult at hv ⊢
  split at hv
  · rw [ha false rfl]
    exact hv
  · rw [hb false rfl]
    rcases a' with e | (_ | _) <;> exact hv
  · cases hv
  · rw [ha true rfl,hb v hv]
    cases v <;> rfl

theorem truth {ν : Type} (V : Values ν) {r r' : Except String ν} (h : Refines r r') :
    Refines (truth V r) (truth V r') := h.bind fun _ => refl _

theorem stepIf {γ : Type} {acc acc' : Except String γ} {pred pred' : Except String Bool}
    {next next' : Except String γ → Except String γ} (hacc : Refines acc acc')
    (hpred : Refines pred pred') (hnext : Refines (next acc) (next' acc')) :
    Refines (stepIf acc pred next) (stepIf acc' pred' next') := by
  refine hpred.bind fun b => ?_
  cases b with
  | true => exact hnext
  | false => exact hacc

/-- A fold that keeps the order between its accumulators ends with them in order. -/
theorem foldl {ι γ : Type} {op op' : Except String γ → ι → Except String γ}
    (hop : ∀ a a' i, Refines a a' → Refines (op a i) (op' a' i)) (is : List ι)
    (a : Except String γ) : Refines (is.foldl op a) (is.foldl op' a) := by
  suffices h : ∀ a a', Refines a a' → Refines (is.foldl op a) (is.foldl op' a') from h a a (refl a)
  induction is with
  | nil => exact fun _ _ ha => ha
  | cons i is ih => exact fun a a' ha => ih _ _ (hop a a' i ha)

end Refines

section Monotone
variable {ν : Type} (V : Values ν) {calls calls' : Calls ν}

mutual

/-- Functions that are defined more often make expressions defined more often, and never
change a value. -/
theorem eval_refines (h : ∀ f vs, Refines (calls f vs) (calls' f vs)) (env : String → Option ν) :
    ∀ e : Expr ν, Refines (eval V calls env e) (eval V calls' env e)
  | .const _ => by
    simp only [eval]
    exact .refl _
  | .ident _ => by
    simp only [eval]
    exact .refl _
  | .call f args => by
    simp only [eval]
    exact (evalArgs_refines h env args).bind (h f)
  | .or a b => by
    simp only [eval]
    exact (((eval_refines h env a).truth V).orResult ((eval_refines h env b).truth V)).map _
  | .and a b => by
    simp only [eval]
    exact (((eval_refines h env a).truth V).andResult ((eval_refines h env b).truth V)).map _
  | .cond c a b => by
    simp only [eval]
    refine ((eval_refines h env c).truth V).bind fun t => ?_
    cases t with
    | true => exact eval_refines h env a
    | false => exact eval_refines h env b
  | .all range var body => by
    simp only [eval,List.foldl_map]
    refine ((eval_refines h env range).bind fun _ => .refl _).bind fun vs => .map
      (.foldl (fun _ _ v ha => ?_) vs _) _
    exact ha.andResult ((eval_refines h _ body).truth V)
  | .any range var body => by
    simp only [eval,List.foldl_map]
    refine ((eval_refines h env range).bind fun _ => .refl _).bind fun vs => .map
      (.foldl (fun _ _ v ha => ?_) vs _) _
    exact ha.orResult ((eval_refines h _ body).truth V)
  | .one range var body => by
    simp only [eval,countTrue,List.foldl_map]
    refine ((eval_refines h env range).bind fun _ => .refl _).bind fun vs => .map
      (.foldl (fun _ _ v ha => ?_) vs _) _
    exact ha.stepIf ((eval_refines h _ body).truth V) (ha.map _)
  | .map range var keep body => by
    simp only [eval,keepTrue,List.foldl_map]
    refine ((eval_refines h env range).bind fun _ => .refl _).bind fun vs => .map
      (.foldl (fun _ _ v ha => ?_) vs _) _
    exact ha.stepIf ((eval_refines h _ keep).truth V) (ha.bind fun _ => (eval_refines h _ body).map _)

theorem evalArgs_refines (h : ∀ f vs, Refines (calls f vs) (calls' f vs)) (env : String → Option ν) :
    ∀ es : List (Expr ν), Refines (evalArgs V calls env es) (evalArgs V calls' env es)
  | [] => by
    simp only [evalArgs]
    exact .refl _
  | e::es => by
    simp only [evalArgs]
    exact (eval_refines h env e).bind fun _ => (evalArgs_refines h env es).map _

end

end Monotone

end Cel
end AntiScrapling
