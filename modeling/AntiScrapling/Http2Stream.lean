import AntiScrapling.Http2Frames
import Mathlib.Data.Nat.Bitwise

/-! Streams of encoded HTTP/2 frames, and the parser as a pass over the frames of a
stream. -/
namespace AntiScrapling
namespace Http2

open CheckedRun ByteCodec

section Bits

/-- The reserved or exclusive bit, and the 31 bits below it. -/
theorem and_high (x : UInt32) : x &&& 0x80000000 = 0 ↔ x.toNat < 2^31 := by
  have hx := x.toNat_lt
  have h : (x &&& 0x80000000).toNat = (x.toNat.testBit 31).toNat*2^31 := by
    rw [UInt32.toNat_and]
    exact Nat.and_two_pow x.toNat 31
  rw [← UInt32.toNat_inj,h,Nat.testBit_eq_decide_div_mod_eq]
  by_cases hd : x.toNat/2^31%2 = 1
  · simp only [hd,decide_true,Bool.toNat_true,Nat.one_mul,UInt32.toNat_zero]
    omega
  · simp only [hd,decide_false,Bool.toNat_false,Nat.zero_mul,UInt32.toNat_zero,true_iff]
    omega

theorem toNat_and_low (x : UInt32) : (x &&& 0x7fffffff).toNat = x.toNat%2^31 := by
  rw [UInt32.toNat_and]
  exact Nat.and_two_pow_sub_one_eq_mod _ 31

theorem and_low {x : UInt32} (h : x.toNat < 2^31) : x &&& 0x7fffffff = x := by
  rw [← UInt32.toNat_inj,toNat_and_low,Nat.mod_eq_of_lt h]

theorem toNat_or_high {x : UInt32} (h : x.toNat < 2^31) :
    (x ||| 0x80000000).toNat = 2^31+x.toNat := by
  have hor := Nat.two_pow_add_eq_or_of_lt h 1
  rw [Nat.mul_one] at hor
  rw [UInt32.toNat_or,Nat.or_comm]
  exact hor.symm

end Bits

section Sorting

def pseudoNames (names : List Bytes) : List Bytes :=
  (names.filter fun name => name.head? = some 58).map List.tail

def regularNames (names : List Bytes) : List Bytes :=
  names.filter fun name => name ≠ [] ∧ name.head? ≠ some 58

theorem sortName_cons (headers : HeadersBlock) (b : UInt8) (name : Bytes) :
    sortName headers (b::name) =
      .ok (if b = 58 then {headers with pseudoHeaderOrder := headers.pseudoHeaderOrder++[name]}
        else {headers with regularHeaderOrder := headers.regularHeaderOrder++[b::name]}) := by
  have hbyte : byteAt (b::name) 0 = .ok b := rfl
  have hslice : slice (b::name) 1 (b::name).length = .ok name := slice_from (by simp)
  unfold sortName
  rw [if_neg (by simp),hbyte]
  simp only [hslice,ok_bind]
  split_ifs <;> rfl

theorem sortNames_eq (names : List Bytes) (headers : HeadersBlock) :
    names.foldlM sortName headers =
      .ok {headers with
        pseudoHeaderOrder := headers.pseudoHeaderOrder++pseudoNames names
        regularHeaderOrder := headers.regularHeaderOrder++regularNames names} := by
  induction names generalizing headers with
  | nil => simp [pseudoNames,regularNames,pure,Except.pure]
  | cons name names ih =>
    rw [List.foldlM_cons]
    cases name with
    | nil =>
      show names.foldlM sortName headers = _
      rw [ih]
      simp [pseudoNames,regularNames]
    | cons b name =>
      rw [sortName_cons]
      show names.foldlM sortName _ = _
      rw [ih]
      by_cases hb : b = 58
      · simp [hb,pseudoNames,regularNames]
      · simp [hb,pseudoNames,regularNames]

end Sorting

section Encoding

/-- A frame as it is on the wire; the reserved bit is a bit of `id`. -/
structure RawFrame where
  type : UInt8
  flags : UInt8
  id : UInt32
  payload : Bytes
  fits : payload.length < 2^24

namespace RawFrame

def header (r : RawFrame) : Bytes := put24 r.payload.length++[r.type,r.flags]

def encode (r : RawFrame) : Bytes := r.header++(put32 r.id.toNat++r.payload)

theorem header_length (r : RawFrame) : r.header.length = 5 := rfl

theorem encode_length (r : RawFrame) : r.encode.length = 9+r.payload.length := by
  simp only [encode,List.length_append,header_length,put32_length]
  omega

def read (r : RawFrame) (d : HPACKNameDecoder) : Run (Frame × HPACKNameDecoder) :=
  parsePayload {type := r.type, flags := r.flags, streamID := r.id &&& 0x7fffffff} r.payload d

end RawFrame

theorem toNat_put24 {n : ℕ} (hn : n < 2^24) :
    (UInt8.ofNat (n/65536)).toNat*65536+(UInt8.ofNat (n/256)).toNat*256+(UInt8.ofNat n).toNat = n := by
  simp only [UInt8.toNat_ofNat']
  omega

theorem uint32_id (id : UInt32) : uint32 (put32 id.toNat) = .ok id := by
  have h := uint32_put32 id.toNat_lt []
  rwa [List.append_nil,UInt32.ofNat_toNat] at h

theorem frameRound_encode (r : RawFrame) (rest : Bytes) (frames : List Frame)
    (d : HPACKNameDecoder) :
    frameRound ⟨r.encode++rest,frames,d⟩ =
      (r.read d).map fun p => .inl ⟨rest,frames++[p.1],p.2⟩ := by
  have hlen : (r.encode++rest).length = 9+r.payload.length+rest.length := by
    rw [List.length_append,r.encode_length]
  have hid : slice (r.encode++rest) 5 9 = .ok (put32 r.id.toNat) := by
    have h := slice_append r.header (put32 r.id.toNat) (r.payload++rest)
    rw [List.append_assoc,← List.append_assoc (put32 _),← List.append_assoc] at h
    exact h
  have hpayload : slice (r.encode++rest) 9 (9+r.payload.length) = .ok r.payload := by
    have h := slice_append (r.header++put32 r.id.toNat) r.payload rest
    rw [List.append_assoc r.header] at h
    exact h
  have hrest : slice (r.encode++rest) (9+r.payload.length) (r.encode++rest).length = .ok rest := by
    rw [slice_from (by omega),← r.encode_length,List.drop_left]
  have h₀ : byteAt (r.encode++rest) 0 = .ok (UInt8.ofNat (r.payload.length/65536)) := rfl
  have h₁ : byteAt (r.encode++rest) 1 = .ok (UInt8.ofNat (r.payload.length/256)) := rfl
  have h₂ : byteAt (r.encode++rest) 2 = .ok (UInt8.ofNat r.payload.length) := rfl
  have h₃ : byteAt (r.encode++rest) 3 = .ok r.type := rfl
  have h₄ : byteAt (r.encode++rest) 4 = .ok r.flags := rfl
  have hpos : (r.encode++rest).length > 0 := by omega
  have hnine : ¬ (r.encode++rest).length < 9 := by omega
  have hfull : ¬ (r.encode++rest).length < 9+r.payload.length := by omega
  unfold frameRound
  simp only [hpos,hnine,if_true,if_false,h₀,h₁,h₂,h₃,h₄,hid,uint32_id,ok_bind,
    toNat_put24 r.fits,hfull,hpayload,hrest]
  unfold RawFrame.read
  cases parsePayload _ r.payload d <;> rfl

end Encoding

section Streams

/-- The frames of a stream, one after the other, with one decoder. -/
def readFrames (d : HPACKNameDecoder) : List RawFrame → Run (List Frame × HPACKNameDecoder)
  | [] => .ok ([],d)
  | r::rs => do
    let (frame,d) ← r.read d
    let (frames,d) ← readFrames d rs
    .ok (frame::frames,d)

theorem readFrames_cons (d : HPACKNameDecoder) (r : RawFrame) (rs : List RawFrame) :
    readFrames d (r::rs) =
      r.read d >>= fun p => (readFrames p.2 rs).map fun q => (p.1::q.1,q.2) := rfl

theorem readFrames_append (d : HPACKNameDecoder) (rs rs' : List RawFrame) :
    readFrames d (rs++rs') =
      readFrames d rs >>= fun p => (readFrames p.2 rs').map fun q => (p.1++q.1,q.2) := by
  induction rs generalizing d with
  | nil =>
    rw [List.nil_append]
    show _ = (readFrames d rs').map fun q => ([]++q.1,q.2)
    cases readFrames d rs' <;> rfl
  | cons r rs ih =>
    rw [List.cons_append,readFrames_cons,readFrames_cons]
    cases r.read d with
    | error e => rfl
    | ok p =>
      show (readFrames p.2 (rs++rs')).map _ = (readFrames p.2 rs).map _ >>= _
      rw [ih]
      cases readFrames p.2 rs with
      | error e => rfl
      | ok q =>
        show ((readFrames q.2 rs').map _).map _ = (readFrames q.2 rs').map _
        cases readFrames q.2 rs' <;> rfl

/-- Frames that leave the decoder as it is are read one by one. -/
theorem readFrames_map {ι : Type} {frame : ι → RawFrame} {read : ι → Frame} {d : HPACKNameDecoder}
    {items : List ι} (h : ∀ i ∈ items, (frame i).read d = .ok (read i,d)) :
    readFrames d (items.map frame) = .ok (items.map read,d) := by
  induction items with
  | nil => rfl
  | cons i items ih =>
    rw [List.map_cons,readFrames_cons,h i (by simp),ok_bind,ih fun j hj => h j (by simp [hj])]
    rfl

theorem frameLoop_frames (rs : List RawFrame) (frames : List Frame) (d : HPACKNameDecoder)
    {fuel : ℕ} (hfuel : rs.length < fuel) :
    iterate frameRound fuel ⟨rs.flatMap RawFrame.encode,frames,d⟩ =
      (readFrames d rs).map fun p => frames++p.1 := by
  induction rs generalizing frames d fuel with
  | nil =>
    obtain ⟨fuel,rfl⟩ : ∃ k, fuel = k+1 := ⟨fuel-1,by omega⟩
    rw [iterate_done (a:=frames) rfl]
    simp [readFrames,Except.map]
  | cons r rs ih =>
    rw [List.length_cons] at hfuel
    obtain ⟨fuel,rfl⟩ : ∃ k, fuel = k+1 := ⟨fuel-1,by omega⟩
    have hround := frameRound_encode r (rs.flatMap RawFrame.encode) frames d
    rw [List.flatMap_cons,readFrames_cons]
    cases hread : r.read d with
    | error e =>
      rw [hread] at hround
      exact iterate_error hround
    | ok p =>
      rw [hread] at hround
      rw [iterate_next hround,ih _ _ (by omega)]
      show _ = ((readFrames p.2 rs).map _).map _
      cases readFrames p.2 rs with
      | error e => rfl
      | ok q => simp [Except.map]

/-- A stream of frames, with the client's preface in front or without it. -/
structure Stream where
  preface : Bool
  frames : List RawFrame
  plain : preface = false → ¬ clientPreface <+: frames.flatMap RawFrame.encode

def Stream.encode (s : Stream) : Bytes :=
  (if s.preface then clientPreface else [])++s.frames.flatMap RawFrame.encode

theorem Stream.skipPreface_encode (s : Stream) :
    skipPreface s.encode = s.frames.flatMap RawFrame.encode := by
  unfold skipPreface hasPreface Stream.encode
  cases hp : s.preface with
  | true => simp
  | false => simp [s.plain hp]

theorem parseFrames_encode (s : Stream) :
    parseFrames s.encode = (readFrames newHPACKNameDecoder s.frames).map Prod.fst := by
  have hlen : s.frames.length ≤ (s.frames.flatMap RawFrame.encode).length :=
    length_le_flatMap (fun r => by rw [r.encode_length]; omega) s.frames
  unfold parseFrames
  rw [s.skipPreface_encode,frameLoop_frames s.frames [] _ (by omega)]
  rfl

/-- The type of the first frame tells the preface from a stream of known frames. -/
theorem not_preface {r : RawFrame} {rs : List RawFrame} (h : r.type ≠ 0x20) :
    ¬ clientPreface <+: (r::rs).flatMap RawFrame.encode := by
  rintro ⟨rest,hrest⟩
  have h₃ : (clientPreface++rest)[3]? = some 0x20 := rfl
  rw [hrest] at h₃
  exact h (Option.some.inj h₃)

end Streams

end Http2
end AntiScrapling
