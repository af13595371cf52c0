import AntiScrapling.CheckedRun
import Mathlib.Tactic.Linarith

/-! Big-endian integers, checked slices and a forward byte reader.
Each reading operation has two lemmas: what it does on a string that starts with
an encoding, and what a successful read says about the string it was run on. -/
namespace AntiScrapling
namespace ByteCodec

open CheckedRun

abbrev Bytes := List UInt8

/-- `data[i]`. -/
def byteAt (data : Bytes) (i : ℕ) : Run UInt8 :=
  match data[i]? with
  | some b => .ok b
  | none => .error .panic

/-- `data[i:j]`. -/
def slice (data : Bytes) (i j : ℕ) : Run Bytes :=
  if i ≤ j ∧ j ≤ data.length then .ok ((data.drop i).take (j-i)) else .error .panic

/-- What holds of all 256 bytes holds of every byte. -/
theorem forall_byte {P : UInt8 → Prop} (h : ∀ n : Fin 256, P (UInt8.ofNat n)) (b : UInt8) : P b := by
  have := h ⟨b.toNat,b.toNat_lt⟩
  rwa [UInt8.ofNat_toNat] at this

def uint16 : Bytes → Run UInt16
  | hi::lo::_ => .ok (UInt16.ofNat (hi.toNat*256+lo.toNat))
  | _ => .error .panic

/-- The 16-bit number in `data[i:i+2]`. -/
def uint16At (data : Bytes) (i : ℕ) : Run UInt16 := do uint16 (← slice data i (i+2))

def uint32 : Bytes → Run UInt32
  | a::b::c::d::_ =>
    .ok (UInt32.ofNat (((a.toNat*256+b.toNat)*256+c.toNat)*256+d.toNat))
  | _ => .error .panic

def put8 (n : ℕ) : Bytes := [UInt8.ofNat n]

def put16 (n : ℕ) : Bytes := [UInt8.ofNat (n/256),UInt8.ofNat n]

def put24 (n : ℕ) : Bytes := [UInt8.ofNat (n/65536),UInt8.ofNat (n/256),UInt8.ofNat n]

def put32 (n : ℕ) : Bytes :=
  [UInt8.ofNat (n/16777216),UInt8.ofNat (n/65536),UInt8.ofNat (n/256),UInt8.ofNat n]

def putUint16 (v : UInt16) : Bytes := put16 v.toNat

@[simp] theorem put8_length (n : ℕ) : (put8 n).length = 1 := rfl
@[simp] theorem put16_length (n : ℕ) : (put16 n).length = 2 := rfl
@[simp] theorem put24_length (n : ℕ) : (put24 n).length = 3 := rfl
@[simp] theorem put32_length (n : ℕ) : (put32 n).length = 4 := rfl
@[simp] theorem putUint16_length (v : UInt16) : (putUint16 v).length = 2 := rfl

theorem uint16_put16 {n : ℕ} (hn : n < 65536) (rest : Bytes) :
    uint16 (put16 n ++ rest) = .ok (UInt16.ofNat n) := by
  have h : (n/256)%256*256+n%256 = n := by omega
  simp [put16,uint16,h]

theorem uint32_put32 {n : ℕ} (hn : n < 4294967296) (rest : Bytes) :
    uint32 (put32 n ++ rest) = .ok (UInt32.ofNat n) := by
  have h : ((n/16777216%256*256+n/65536%256)*256+n/256%256)*256+n%256 = n := by omega
  simp [put32,uint32,h]

theorem uint32_total {b : Bytes} (h : 4 ≤ b.length) : ∃ v, uint32 b = .ok v := by
  match b, h with
  | _::_::_::_::_, _ => exact ⟨_,rfl⟩

theorem uint16_eq_ok {b : Bytes} {v : UInt16} (h : uint16 b = .ok v) :
    b = putUint16 v ++ b.drop 2 := by
  match b, h with
  | hi::lo::rest, h =>
    have hv : v = UInt16.ofNat (hi.toNat*256+lo.toNat) := by
      simpa [uint16,eq_comm] using h
    have hhi := hi.toNat_lt
    have hlo := lo.toNat_lt
    have hn : v.toNat = hi.toNat*256+lo.toNat := by
      subst hv
      simp only [UInt16.toNat_ofNat']
      omega
    have h1 : UInt8.ofNat (v.toNat/256) = hi := by
      apply UInt8.toNat_inj.mp
      simp only [UInt8.toNat_ofNat',hn]
      omega
    have h2 : UInt8.ofNat v.toNat = lo := by
      apply UInt8.toNat_inj.mp
      simp only [UInt8.toNat_ofNat',hn]
      omega
    simp [putUint16,put16,h1,h2]

theorem slice_append (pre xs post : Bytes) :
    slice (pre++xs++post) pre.length (pre.length+xs.length) = .ok xs := by
  simp [slice]

theorem slice_eq_ok {data xs : Bytes} {i j : ℕ} :
    slice data i j = .ok xs ↔ i ≤ j ∧ j ≤ data.length ∧ xs = (data.drop i).take (j-i) := by
  unfold slice
  split_ifs with h
  · simp [h,eq_comm]
  · simp only [false_iff]
    tauto

theorem slice_total {data : Bytes} {i j : ℕ} (hij : i ≤ j) (hj : j ≤ data.length) :
    slice data i j = .ok ((data.drop i).take (j-i)) :=
  slice_eq_ok.mpr ⟨hij,hj,rfl⟩

theorem slice_from {data : Bytes} {i : ℕ} (hi : i ≤ data.length) :
    slice data i data.length = .ok (data.drop i) := by
  rw [slice_total hi le_rfl,List.take_of_length_le (by rw [List.length_drop])]

theorem slice_upto {data : Bytes} {j : ℕ} (hj : j ≤ data.length) :
    slice data 0 j = .ok (data.take j) := slice_total (Nat.zero_le j) hj

theorem uint16At_put16 {n : ℕ} (hn : n < 65536) (pre post : Bytes) :
    uint16At (pre++put16 n++post) pre.length = .ok (UInt16.ofNat n) := by
  have hs : slice (pre++put16 n++post) pre.length (pre.length+2) = .ok (put16 n) :=
    slice_append pre (put16 n) post
  have hv : uint16 (put16 n) = .ok (UInt16.ofNat n) := by simpa using uint16_put16 hn []
  rw [uint16At,hs]
  exact hv

theorem uint16At_append (pre post : Bytes) (v : UInt16) :
    uint16At (pre++putUint16 v++post) pre.length = .ok v := by
  rw [putUint16,uint16At_put16 v.toNat_lt]
  simp

theorem uint16At_total (data : Bytes) {i : ℕ} (h : i+2 ≤ data.length) :
    ∃ v, uint16At data i = .ok v := by
  have hs := slice_total (Nat.le_add_right i 2) h
  have hl : ((data.drop i).take (i+2-i)).length = 2 := by simp; omega
  obtain ⟨hi,lo,hb⟩ := List.length_eq_two.mp hl
  rw [hb] at hs
  refine ⟨UInt16.ofNat (hi.toNat*256+lo.toNat),?_⟩
  rw [uint16At,hs]
  rfl

theorem uint16At_eq_ok {data : Bytes} {i : ℕ} {v : UInt16} (h : uint16At data i = .ok v) :
    i+2 ≤ data.length ∧ (data.drop i).take 2 = putUint16 v := by
  obtain ⟨b,hb,hv⟩ := bind_eq_ok.mp h
  obtain ⟨_,hj,rfl⟩ := slice_eq_ok.mp hb
  refine ⟨hj,?_⟩
  rw [Nat.add_sub_cancel_left] at hv
  have hput := uint16_eq_ok hv
  have hnil : ((data.drop i).take 2).drop 2 = [] := List.drop_eq_nil_of_le (by simp)
  rwa [hnil,List.append_nil] at hput

theorem byteAt_total (data : Bytes) {i : ℕ} (h : i < data.length) :
    ∃ b, byteAt data i = .ok b := by
  simp [byteAt,h]

theorem byteAt_append (pre post : Bytes) (b : UInt8) :
    byteAt (pre++b::post) pre.length = .ok b := by
  simp [byteAt]

def vec8 (b : Bytes) : Bytes := put8 b.length++b
def vec16 (b : Bytes) : Bytes := put16 b.length++b
def vec24 (b : Bytes) : Bytes := put24 b.length++b

@[simp] theorem vec8_length (b : Bytes) : (vec8 b).length = 1+b.length := by simp [vec8]
@[simp] theorem vec16_length (b : Bytes) : (vec16 b).length = 2+b.length := by simp [vec16]
@[simp] theorem vec24_length (b : Bytes) : (vec24 b).length = 3+b.length := by simp [vec24]

theorem uint16At_vec16 {b : Bytes} (h : b.length < 65536) :
    uint16At (vec16 b) 0 = .ok (UInt16.ofNat b.length) :=
  uint16At_put16 h [] b

section Concatenation
variable {ι : Type} {enc : ι → Bytes}

theorem length_le_flatMap (h : ∀ x, 1 ≤ (enc x).length) (xs : List ι) :
    xs.length ≤ (xs.flatMap enc).length := by
  induction xs with
  | nil => simp
  | cons x xs ih =>
    have hx := h x
    simp only [List.flatMap_cons,List.length_append,List.length_cons]
    omega

theorem item_le_flatMap (enc : ι → Bytes) {x : ι} {xs : List ι} (hx : x ∈ xs) :
    (enc x).length ≤ (xs.flatMap enc).length := by
  obtain ⟨ys,zs,rfl⟩ := List.append_of_mem hx
  simp only [List.flatMap_append,List.flatMap_cons,List.length_append]
  omega

/-- Blocks of one length, one after the other, can be told apart. -/
theorem eq_of_flatMap_eq {α β : Type} {f : α → List β} {n : ℕ} (hlength : ∀ x, (f x).length = n+1) {xs ys : List α}
    (hinj : ∀ x ∈ xs, ∀ y ∈ ys, f x = f y → x = y) (h : xs.flatMap f = ys.flatMap f) : xs = ys := by
  have hne (x : α) (zs : List β) : f x++zs ≠ [] := fun h => by simpa [hlength] using congrArg List.length h
  induction xs generalizing ys with
  | nil =>
    cases ys with
    | nil => rfl
    | cons y ys => exact absurd h.symm (hne y _)
  | cons x xs ih =>
    cases ys with
    | nil => exact absurd h (hne x _)
    | cons y ys =>
      obtain ⟨hx,hxs⟩ := List.append_inj h ((hlength x).trans (hlength y).symm)
      have htail := ih (fun x hx y hy => hinj x (List.mem_cons_of_mem _ hx) y (List.mem_cons_of_mem _ hy)) hxs
      rw [hinj x List.mem_cons_self y List.mem_cons_self hx,htail]

end Concatenation

def uint16List (vs : List UInt16) : Bytes := vs.flatMap putUint16

@[simp] theorem uint16List_length (vs : List UInt16) : (uint16List vs).length = 2*vs.length := by
  induction vs with
  | nil => rfl
  | cons v vs ih =>
    simp only [uint16List,List.flatMap_cons,List.length_append,putUint16_length,
      List.length_cons] at *
    omega

structure ByteReader where
  data : Bytes
  off : ℕ
  deriving DecidableEq, Repr

namespace ByteReader

def remaining (r : ByteReader) : ℤ := (r.data.length : ℤ)-r.off

def uint8 (r : ByteReader) : Run (UInt8 × ByteReader) :=
  if r.remaining < 1 then fail "unexpected EOF"
  else do
    let value ← byteAt r.data r.off
    .ok (value,{r with off := r.off+1})

def uint16 (r : ByteReader) : Run (UInt16 × ByteReader) :=
  if r.remaining < 2 then fail "unexpected EOF"
  else do
    let value ← uint16At r.data r.off
    .ok (value,{r with off := r.off+2})

def bytes (r : ByteReader) (length : ℤ) : Run (Bytes × ByteReader) :=
  if length < 0 then fail "negative length"
  else if r.remaining < length then fail "unexpected EOF"
  else do
    let value ← slice r.data r.off (r.off+length.toNat)
    .ok (value,{r with off := r.off+length.toNat})

/-- The reader is inside its string and has `s` left to read. -/
def At (r : ByteReader) (s : Bytes) : Prop := r.off ≤ r.data.length ∧ r.data.drop r.off = s

def advance (r : ByteReader) (n : ℕ) : ByteReader := {r with off := r.off+n}

theorem at_start (data : Bytes) : At ⟨data,0⟩ data := by simp [At]

theorem At.data_eq {r : ByteReader} {s : Bytes} (h : r.At s) :
    ∃ pre, r.data = pre++s ∧ pre.length = r.off := by
  refine ⟨r.data.take r.off,?_,by simpa using h.1⟩
  rw [← h.2,List.take_append_drop]

theorem At.remaining_eq {r : ByteReader} {s : Bytes} (h : r.At s) : r.remaining = s.length := by
  obtain ⟨pre,hd,hp⟩ := h.data_eq
  simp [remaining,hd,← hp]

theorem At.advance {r : ByteReader} {xs s : Bytes} (h : r.At (xs++s)) :
    (r.advance xs.length).At s := by
  obtain ⟨pre,hd,hp⟩ := h.data_eq
  simp [At,ByteReader.advance,hd,← hp]

theorem slice_of_at {r : ByteReader} {xs s : Bytes} (h : r.At (xs++s)) :
    slice r.data r.off (r.off+xs.length) = .ok xs := by
  obtain ⟨pre,hd,hp⟩ := h.data_eq
  rw [hd,← hp,← List.append_assoc]
  exact slice_append pre xs s

theorem uint8_of_at {r : ByteReader} {b : UInt8} {s : Bytes} (h : r.At (b::s)) :
    r.uint8 = .ok (b,r.advance 1) := by
  have hr := h.remaining_eq
  obtain ⟨pre,hd,hp⟩ := h.data_eq
  have hb : byteAt r.data r.off = .ok b := by rw [hd,← hp]; exact byteAt_append pre s b
  have hlt : ¬ r.remaining < 1 := by rw [hr]; simp
  simp [uint8,hlt,hb,ok_bind,ByteReader.advance]

theorem uint16_of_at {r : ByteReader} {v : UInt16} {s : Bytes} (h : r.At (putUint16 v++s)) :
    r.uint16 = .ok (v,r.advance 2) := by
  have hr := h.remaining_eq
  obtain ⟨pre,hd,hp⟩ := h.data_eq
  have hv : uint16At r.data r.off = .ok v := by
    rw [hd,← hp,← List.append_assoc]
    exact uint16At_append pre s v
  have hlt : ¬ r.remaining < 2 := by
    rw [hr,List.length_append,putUint16_length]
    omega
  simp [uint16,hlt,hv,ok_bind,ByteReader.advance]

theorem bytes_of_at {r : ByteReader} {xs s : Bytes} (h : r.At (xs++s)) :
    r.bytes xs.length = .ok (xs,r.advance xs.length) := by
  have hr := h.remaining_eq
  have hneg : ¬ (xs.length : ℤ) < 0 := by omega
  have hlt : ¬ r.remaining < xs.length := by rw [hr]; simp
  simp [bytes,hlt,slice_of_at h,ok_bind,ByteReader.advance]

theorem uint8_eq_ok {r r' : ByteReader} {b : UInt8} {s : Bytes} (h : r.uint8 = .ok (b,r'))
    (hs : r.At s) : ∃ s', s = b::s' ∧ r'.At s' := by
  cases s with
  | nil => simp [uint8,hs.remaining_eq] at h
  | cons c s' =>
    rw [uint8_of_at hs] at h
    simp only [Except.ok.injEq,Prod.mk.injEq] at h
    rcases h with ⟨rfl,rfl⟩
    exact ⟨s',rfl,@At.advance _ [c] _ hs⟩

theorem uint16_eq_ok {r r' : ByteReader} {v : UInt16} {s : Bytes} (h : r.uint16 = .ok (v,r'))
    (hs : r.At s) : ∃ s', s = putUint16 v++s' ∧ r'.At s' := by
  unfold uint16 at h
  split_ifs at h with hlt
  · simp at h
  · obtain ⟨w,hw,h⟩ := bind_eq_ok.mp h
    simp only [Except.ok.injEq,Prod.mk.injEq] at h
    rcases h with ⟨rfl,rfl⟩
    have hput := (uint16At_eq_ok hw).2
    rw [hs.2] at hput
    have hsplit : s = putUint16 w++s.drop 2 := by rw [← hput,List.take_append_drop]
    rw [hsplit] at hs
    exact ⟨s.drop 2,hsplit,hs.advance⟩

theorem bytes_eq_ok {r r' : ByteReader} {xs s : Bytes} {n : ℕ} (h : r.bytes n = .ok (xs,r'))
    (hs : r.At s) : ∃ s', s = xs++s' ∧ xs.length = n ∧ r'.At s' := by
  unfold bytes at h
  split_ifs at h with hneg hlt
  · simp at h
  · simp at h
  · obtain ⟨b,hb,h⟩ := bind_eq_ok.mp h
    simp only [Except.ok.injEq,Prod.mk.injEq] at h
    rcases h with ⟨rfl,rfl⟩
    have hlen : n ≤ s.length := by rw [hs.remaining_eq] at hlt; omega
    have hbs : b = s.take n := by
      have := (slice_eq_ok.mp hb).2.2
      rw [hs.2] at this
      simpa using this
    have hn : b.length = n := by simp [hbs,hlen]
    have hsplit : s = b++s.drop n := by rw [hbs,List.take_append_drop]
    rw [hsplit] at hs
    refine ⟨s.drop n,hsplit,hn,?_⟩
    simpa [ByteReader.advance,hn] using hs.advance

theorem uint8_safe (r : ByteReader) :
    Safe r.uint8 fun p => p.2 = r.advance 1 ∧ r.off+1 ≤ r.data.length := by
  unfold uint8
  split_ifs with h
  · exact safe_fail
  · have hin : r.off+1 ≤ r.data.length := by unfold remaining at h; omega
    obtain ⟨b,hb⟩ := byteAt_total r.data (i:=r.off) hin
    rw [hb]
    exact ⟨rfl,hin⟩

theorem uint16_safe (r : ByteReader) :
    Safe r.uint16 fun p => p.2 = r.advance 2 ∧ r.off+2 ≤ r.data.length := by
  unfold uint16
  split_ifs with h
  · exact safe_fail
  · have hin : r.off+2 ≤ r.data.length := by unfold remaining at h; omega
    obtain ⟨v,hv⟩ := uint16At_total r.data hin
    rw [hv]
    exact ⟨rfl,hin⟩

theorem bytes_safe (r : ByteReader) (n : ℕ) :
    Safe (r.bytes n) fun p => p.2 = r.advance n ∧ p.1.length = n ∧ r.off+n ≤ r.data.length := by
  unfold bytes
  split_ifs with hneg hlt
  · exact safe_fail
  · exact safe_fail
  · have hin : r.off+n ≤ r.data.length := by unfold remaining at hlt; omega
    rw [Int.toNat_natCast,slice_total (Nat.le_add_right _ _) hin]
    refine ⟨rfl,?_,hin⟩
    rw [List.length_take,List.length_drop]
    omega

/-- The two reads of a vector start with its length. -/
theorem uint8_vec8 {r : ByteReader} {xs s : Bytes} (h : r.At (vec8 xs++s)) (hx : xs.length < 256) :
    r.uint8 = .ok (UInt8.ofNat xs.length,r.advance 1) ∧ (UInt8.ofNat xs.length).toNat = xs.length ∧
      (r.advance 1).At (xs++s) := by
  have hat : r.At (UInt8.ofNat xs.length::(xs++s)) := by simpa [vec8,put8] using h
  refine ⟨uint8_of_at hat,UInt8.toNat_ofNat_of_lt hx,?_⟩
  exact @At.advance _ [UInt8.ofNat xs.length] _ hat

theorem uint16_vec16 {r : ByteReader} {xs s : Bytes} (h : r.At (vec16 xs++s))
    (hx : xs.length < 65536) :
    r.uint16 = .ok (UInt16.ofNat xs.length,r.advance 2) ∧
      (UInt16.ofNat xs.length).toNat = xs.length ∧ (r.advance 2).At (xs++s) := by
  have hn : (UInt16.ofNat xs.length).toNat = xs.length := UInt16.toNat_ofNat_of_lt hx
  have hat : r.At (putUint16 (UInt16.ofNat xs.length)++(xs++s)) := by
    simpa [vec16,putUint16,hn] using h
  exact ⟨uint16_of_at hat,hn,hat.advance⟩

theorem vec8_eq_ok {r r₁ r₂ : ByteReader} {n : UInt8} {xs s : Bytes} (h₁ : r.uint8 = .ok (n,r₁))
    (h₂ : r₁.bytes n.toNat = .ok (xs,r₂)) (hs : r.At s) :
    ∃ s', s = vec8 xs++s' ∧ xs.length < 256 ∧ r₂.At s' := by
  obtain ⟨s₁,rfl,a₁⟩ := uint8_eq_ok h₁ hs
  obtain ⟨s₂,rfl,hn,a₂⟩ := bytes_eq_ok h₂ a₁
  have hput : UInt8.ofNat xs.length = n := by rw [hn,UInt8.ofNat_toNat]
  exact ⟨s₂,by simp [vec8,put8,hput],hn ▸ n.toNat_lt,a₂⟩

theorem vec16_eq_ok {r r₁ r₂ : ByteReader} {n : UInt16} {xs s : Bytes}
    (h₁ : r.uint16 = .ok (n,r₁)) (h₂ : r₁.bytes n.toNat = .ok (xs,r₂)) (hs : r.At s) :
    ∃ s', s = vec16 xs++s' ∧ xs.length = n.toNat ∧ r₂.At s' := by
  obtain ⟨s₁,rfl,a₁⟩ := uint16_eq_ok h₁ hs
  obtain ⟨s₂,rfl,hn,a₂⟩ := bytes_eq_ok h₂ a₁
  exact ⟨s₂,by simp [vec16,putUint16,hn],hn,a₂⟩

end ByteReader

end ByteCodec
end AntiScrapling
