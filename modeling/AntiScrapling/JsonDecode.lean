import AntiScrapling.UnicodeText

/-! JSON values, and decoding them into typed values field by field.
Numbers keep their literal.  A decoder gets the value that is there already,
because `null` and missing members leave it as it is. -/
namespace AntiScrapling

inductive Json
  | null
  | bool (b : Bool)
  | num (literal : String)
  | str (s : String)
  | arr (items : List Json)
  | obj (members : List (String × Json))

namespace JsonDecode

open UnicodeText

/-- `none` is a type mismatch or a number out of range. -/
abbrev Decoder (α : Type) := Json → α → Option α

def natOfDigits (cs : List Char) : Option ℕ :=
  if cs.isEmpty then none
  else cs.foldlM (fun n c => if c.isDigit then some (n*10+(c.toNat - '0'.toNat)) else none) 0

def intOfDigits : List Char → Option ℤ
  | '-'::cs => (natOfDigits cs).map fun n => -(n : ℤ)
  | cs => (natOfDigits cs).map fun n => (n : ℤ)

/-- A literal without fraction and exponent, in the range of 64 bits. -/
def int64OfLiteral (literal : String) : Option ℤ :=
  (intOfDigits literal.toList).filter fun n => -2^63 ≤ n ∧ n < 2^63

theorem foldlM_digits {cs : List Char} (h : ∀ c ∈ cs, c.isDigit = true) (n : ℕ) :
    cs.foldlM (fun n c => if c.isDigit then some (n*10+(c.toNat - '0'.toNat)) else none) n =
      some (Nat.ofDigitChars 10 cs n) := by
  induction cs generalizing n with
  | nil => simp
  | cons c cs ih =>
    have hc := h c List.mem_cons_self
    rw [List.foldlM_cons,Nat.ofDigitChars_cons,Nat.mul_comm 10 n]
    simpa [hc] using ih (fun c hc => h c (List.mem_cons_of_mem _ hc)) _

theorem natOfDigits_toDigits (n : ℕ) : natOfDigits (Nat.toDigits 10 n) = some n := by
  have hdigit : ∀ c ∈ Nat.toDigits 10 n, c.isDigit = true :=
    fun c hc => Nat.isDigit_of_mem_toDigits (by decide) (by decide) hc
  have hne : (Nat.toDigits 10 n).isEmpty = false := by
    have := Nat.length_toDigits_pos (b := 10) (n := n)
    rw [List.isEmpty_eq_false_iff]
    exact List.ne_nil_of_length_pos this
  rw [natOfDigits,hne,if_neg (by simp),foldlM_digits hdigit,Nat.ofDigitChars_ten_toDigits]

/-- The literal of an integer reads back as that integer. -/
theorem intOfDigits_toString (n : ℤ) : intOfDigits (toString n).toList = some n := by
  cases n with
  | ofNat n =>
    change intOfDigits (toString n).toList = _
    rw [Nat.toString_eq_repr,Nat.toList_repr]
    unfold intOfDigits
    split
    next cs hcs =>
      have hminus : '-' ∈ Nat.toDigits 10 n := by simp [hcs]
      exact absurd (Nat.isDigit_of_mem_toDigits (by decide) (by decide) hminus) (by decide)
    · rw [natOfDigits_toDigits]
      rfl
  | negSucc n =>
    change intOfDigits ("-" ++ toString (n+1)).toList = _
    rw [String.toList_append,Nat.toString_eq_repr,Nat.toList_repr]
    simp [intOfDigits,natOfDigits_toDigits,Int.negSucc_eq]

theorem int64OfLiteral_toString {n m : ℤ} (h : int64OfLiteral (toString n) = some m) : m = n := by
  rw [int64OfLiteral,intOfDigits_toString,Option.filter_some] at h
  split_ifs at h
  exact (Option.some.inj h).symm

/-- The digits of a literal without its sign and point, and its power of ten. -/
def decimalOfLiteral (literal : String) : Option (ℕ × ℤ) := do
  let cs := literal.toList.dropWhile (· = '-')
  let mantissa := cs.takeWhile fun c => c ≠ 'e' ∧ c ≠ 'E'
  let exponent := cs.drop (mantissa.length+1)
  let whole := mantissa.takeWhile (· ≠ '.')
  let fraction := mantissa.drop (whole.length+1)
  let digits ← natOfDigits (whole++fraction)
  let e ← if exponent.isEmpty then some 0 else intOfDigits (exponent.dropWhile (· = '+'))
  some (digits,e-fraction.length)

/-- The literal does not round to an infinite double. -/
def float64InRange (literal : String) : Bool :=
  match decimalOfLiteral literal with
  | some (digits,e) =>
    if 0 ≤ e then digits*10^e.toNat < 2^1024-2^970 else digits < (2^1024-2^970)*10^(-e).toNat
  | none => false

theorem digits_toString (n : ℤ) : (toString n).toList.dropWhile (· = '-') = Nat.toDigits 10 n.natAbs := by
  have hdigits : (Nat.toDigits 10 n.natAbs).dropWhile (· = '-') = Nat.toDigits 10 n.natAbs := by
    refine List.dropWhile_eq_self_iff.mpr fun hlength => ?_
    have hdigit := Nat.isDigit_of_mem_toDigits (by decide) (by decide) (List.getElem_mem hlength)
    intro hminus
    rw [of_decide_eq_true hminus] at hdigit
    exact absurd hdigit (by decide)
  cases n with
  | ofNat n =>
    change (toString n).toList.dropWhile _ = _
    rw [Nat.toString_eq_repr,Nat.toList_repr]
    exact hdigits
  | negSucc n =>
    change ("-" ++ toString (n+1)).toList.dropWhile _ = _
    rw [String.toList_append,Nat.toString_eq_repr,Nat.toList_repr]
    exact hdigits

theorem toDigits_ne {c : Char} {n : ℕ} (hc : c.isDigit = false) : ∀ d ∈ Nat.toDigits 10 n, d ≠ c := by
  rintro d hd rfl
  rw [Nat.isDigit_of_mem_toDigits (by decide) (by decide) hd] at hc
  cases hc

/-- The literal of an integer of moderate size is a double. -/
theorem float64InRange_toString {n : ℤ} (h : n.natAbs < 2^1024-2^970) : float64InRange (toString n) = true := by
  have hmantissa : (Nat.toDigits 10 n.natAbs).takeWhile (fun c => decide (c ≠ 'e' ∧ c ≠ 'E')) =
      Nat.toDigits 10 n.natAbs :=
    List.takeWhile_eq_self_iff.mpr fun c hc => decide_eq_true ⟨toDigits_ne rfl c hc,toDigits_ne rfl c hc⟩
  have hwhole : (Nat.toDigits 10 n.natAbs).takeWhile (fun c => decide (c ≠ '.')) = Nat.toDigits 10 n.natAbs :=
    List.takeWhile_eq_self_iff.mpr fun c hc => decide_eq_true (toDigits_ne rfl c hc)
  have hdecimal : decimalOfLiteral (toString n) = some (n.natAbs,0) := by
    simp only [decimalOfLiteral,digits_toString,hmantissa,hwhole]
    rw [List.drop_eq_nil_of_le (Nat.le_succ _)]
    simp [natOfDigits_toDigits]
  rw [float64InRange,hdecimal]
  simp only [Int.toNat_zero,pow_zero,mul_one]
  rwa [if_pos (Int.le_refl 0),decide_eq_true_eq]

theorem decimalOfLiteral_places (n : ℤ) (places : ℕ) :
    decimalOfLiteral (toString n ++ "e-" ++ toString places) = some (n.natAbs,-(places : ℤ)) := by
  have hdrop : (toString n ++ "e-" ++ toString places).toList.dropWhile (· = '-') =
      Nat.toDigits 10 n.natAbs ++ 'e' :: '-' :: Nat.toDigits 10 places := by
    have hne := List.ne_nil_of_length_pos (Nat.length_toDigits_pos (b := 10) (n := n.natAbs))
    rw [String.toList_append,String.toList_append,List.append_assoc,List.dropWhile_append,digits_toString,
      Nat.toString_eq_repr,Nat.toList_repr,if_neg (mt List.isEmpty_iff.mp hne)]
    rfl
  have hmantissa : (Nat.toDigits 10 n.natAbs ++ 'e' :: '-' :: Nat.toDigits 10 places).takeWhile
      (fun c => decide (c ≠ 'e' ∧ c ≠ 'E')) = Nat.toDigits 10 n.natAbs := by
    rw [List.takeWhile_append_of_pos fun c hc => decide_eq_true ⟨toDigits_ne rfl c hc,toDigits_ne rfl c hc⟩]
    simp
  have hexponent : (Nat.toDigits 10 n.natAbs ++ 'e' :: '-' :: Nat.toDigits 10 places).drop
      ((Nat.toDigits 10 n.natAbs).length+1) = '-' :: Nat.toDigits 10 places := by
    rw [← List.drop_drop,List.drop_left]
    rfl
  have hwhole : (Nat.toDigits 10 n.natAbs).takeWhile (fun c => decide (c ≠ '.')) = Nat.toDigits 10 n.natAbs :=
    List.takeWhile_eq_self_iff.mpr fun c hc => decide_eq_true (toDigits_ne rfl c hc)
  simp only [decimalOfLiteral,hdrop,hmantissa,hwhole,hexponent]
  rw [List.drop_eq_nil_of_le (Nat.le_succ _)]
  simp [natOfDigits_toDigits,intOfDigits]

theorem head_toString (n : ℤ) (rest : String) : (toString n ++ rest).toList.head? = some '-' ↔ n < 0 := by
  rw [String.toList_append]
  cases n with
  | ofNat n =>
    change ((toString n).toList++_).head? = _ ↔ _
    rw [Nat.toString_eq_repr,Nat.toList_repr]
    have hne := List.ne_nil_of_length_pos (Nat.length_toDigits_pos (b := 10) (n := n))
    rw [List.head?_append_of_ne_nil _ hne]
    exact iff_of_false (fun h => toDigits_ne rfl _ (List.mem_of_head? h) rfl) (by simp)
  | negSucc n =>
    change (("-" ++ toString (n+1)).toList++_).head? = _ ↔ _
    rw [String.toList_append]
    exact iff_of_true rfl (Int.negSucc_lt_zero n)

def string : Decoder String
  | .str s,_ => some s
  | .null,old => some old
  | _,_ => none

def boolean : Decoder Bool
  | .bool b,_ => some b
  | .null,old => some old
  | _,_ => none

def int64 : Decoder ℤ
  | .num literal,_ => int64OfLiteral literal
  | .null,old => some old
  | _,_ => none

/-- A double whose value nobody reads. -/
def float64 : Decoder Unit
  | .num literal,_ => if float64InRange literal then some () else none
  | .null,old => some old
  | _,_ => none

def strings : Decoder (List String)
  | .arr items,_ => items.mapM fun item => string item ""
  | .null,_ => some []
  | _,_ => none

def stringMap : Decoder (List (String × String))
  | .obj members,old => members.foldlM (fun m kv => do
      let v ← string kv.2 ""
      some ((kv.1,v)::m.filter fun e => e.1 ≠ kv.1)) old
  | .null,_ => some []
  | _,_ => none

section Objects
variable {α β : Type}

/-- The decoder of a member: by its exact name, or else by its name without case. -/
def memberDecoder (fields : List (String × Decoder α)) (key : String) : Option (Decoder α) :=
  match fields.find? fun f => f.1 = key with
  | some f => some f.2
  | none => (fields.find? fun f => equalFold f.1 key).map Prod.snd

def decodeMember (fields : List (String × Decoder α)) (a : α) (member : String × Json) : Option α :=
  match memberDecoder fields member.1 with
  | some d => d member.2 a
  | none => some a

def object (fields : List (String × Decoder α)) : Decoder α
  | .obj members,old => members.foldlM (decodeMember fields) old
  | .null,old => some old
  | _,_ => none

def field (get : α → β) (set : α → β → α) (d : Decoder β) : Decoder α :=
  fun j a => (d j (get a)).map (set a)

/-- Check the type of a field that nobody reads. -/
def unread (d : Decoder β) (zero : β) : Decoder α := fun j a => (d j zero).map fun _ => a

variable {fields : List (String × Decoder α)} {members : List (String × Json)} {name : String} {d : Decoder β}
  {j : Json} {a b : α} {v zero : β}

/-- Decode an object member by member. -/
theorem object_member {d : Decoder α} {a' : α} (hname : memberDecoder fields name = some d)
    (hmember : d j a = some a') (hrest : object fields (.obj members) a' = some b) :
    object fields (.obj ((name,j)::members)) a = some b := by
  rw [object,List.foldlM_cons,decodeMember,hname]
  exact (congrArg (Option.bind · _) hmember).trans hrest

theorem object_field {get : α → β} {set : α → β → α} (hname : memberDecoder fields name = some (field get set d))
    (hmember : d j (get a) = some v) (hrest : object fields (.obj members) (set a v) = some b) :
    object fields (.obj ((name,j)::members)) a = some b :=
  object_member hname (congrArg (Option.map (set a)) hmember) hrest

theorem object_unread (hname : memberDecoder fields name = some (unread d zero)) (hmember : d j zero = some v)
    (hrest : object fields (.obj members) a = some b) : object fields (.obj ((name,j)::members)) a = some b :=
  object_member hname (congrArg (Option.map fun _ => a) hmember) hrest

/-- Every member of an object that is read is read itself. -/
theorem exists_of_object {d : Decoder α} (h : object fields (.obj members) a = some b) (name : String)
    (hmem : members.lookup name = some j) (hname : memberDecoder fields name = some d) : ∃ a' b', d j a' = some b' := by
  obtain ⟨before,after,rfl,-⟩ := List.lookup_eq_some_iff.mp hmem
  rw [object,List.foldlM_append] at h
  obtain ⟨a',-,h⟩ := Option.bind_eq_some_iff.mp h
  rw [List.foldlM_cons] at h
  obtain ⟨b',hmember,-⟩ := Option.bind_eq_some_iff.mp h
  rw [decodeMember,hname] at hmember
  exact ⟨a',b',hmember⟩

theorem exists_of_field {get : α → β} {set : α → β → α} (h : object fields (.obj members) a = some b) (name : String)
    (hmem : members.lookup name = some j) (hname : memberDecoder fields name = some (field get set d)) :
    ∃ old v, d j old = some v := by
  obtain ⟨a',b',hmember⟩ := exists_of_object h name hmem hname
  obtain ⟨v,hv,-⟩ := Option.map_eq_some_iff.mp hmember
  exact ⟨get a',v,hv⟩

theorem exists_of_unread (h : object fields (.obj members) a = some b) (name : String)
    (hmem : members.lookup name = some j) (hname : memberDecoder fields name = some (unread d zero)) :
    ∃ old v, d j old = some v := by
  obtain ⟨a',b',hmember⟩ := exists_of_object h name hmem hname
  obtain ⟨v,hv,-⟩ := Option.map_eq_some_iff.mp hmember
  exact ⟨zero,v,hv⟩

end Objects

end JsonDecode
end AntiScrapling
