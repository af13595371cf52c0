import AntiScrapling.Hpack
import AntiScrapling.Http2Frames
import Mathlib.Algebra.BigOperators.Ring.List
import Mathlib.Tactic.Ring

/-! Reading HPACK: what `readHPACKInt`, `readHPACKString`, `lookupName` and one round of
`decode` do on encodings, and that a number that is read is the number that is there. -/
namespace AntiScrapling
namespace Http2

open CheckedRun ByteCodec Hpack

section FirstByte

theorem byteAt_cons (b : UInt8) (data : Bytes) : byteAt (b::data) 0 = .ok b := rfl

theorem slice_tail (b : UInt8) (data : Bytes) : slice (b::data) 1 (b::data).length = .ok data :=
  slice_from (by simp)

theorem and_0x80 (b : UInt8) : b &&& 0x80 = 0 ↔ b.toNat < 128 :=
  forall_byte (P:=fun b => b &&& 0x80 = 0 ↔ b.toNat < 128) (by decide +kernel) b

theorem and_0x40 (b : UInt8) : b &&& 0x40 = 0 ↔ b.toNat%128 < 64 :=
  forall_byte (P:=fun b => b &&& 0x40 = 0 ↔ b.toNat%128 < 64) (by decide +kernel) b

theorem and_0x20 (b : UInt8) : b &&& 0x20 = 0 ↔ b.toNat%64 < 32 :=
  forall_byte (P:=fun b => b &&& 0x20 = 0 ↔ b.toNat%64 < 32) (by decide +kernel) b

theorem toNat_mask {bits : ℕ} (hbits : bits ≤ 8) : (UInt8.ofNat (2^bits-1)).toNat = 2^bits-1 := by
  have hpow : 2^bits ≤ 2^8 := Nat.pow_le_pow_right (by decide) hbits
  rw [UInt8.toNat_ofNat']
  omega

theorem toNat_and_mask (b : UInt8) {bits : ℕ} (hbits : bits ≤ 8) :
    (b &&& UInt8.ofNat (2^bits-1)).toNat = b.toNat%2^bits := by
  rw [UInt8.toNat_and,toNat_mask hbits,Nat.and_two_pow_sub_one_eq_mod]

/-- The bits in front of a prefix of `bits` bits. -/
structure Pattern (bits pattern : ℕ) : Prop where
  pos : 1 ≤ bits
  small : bits ≤ 7
  high : pattern%2^bits = 0
  fits : pattern+2^bits ≤ 256

theorem Pattern.toNat {bits pattern n : ℕ} (h : Pattern bits pattern) (hn : n < 2^bits) :
    (UInt8.ofNat (pattern+n)).toNat = pattern+n := by
  have := h.fits
  rw [UInt8.toNat_ofNat']
  omega

theorem Pattern.low {bits pattern n : ℕ} (h : Pattern bits pattern) (hn : n < 2^bits) :
    (UInt8.ofNat (pattern+n)).toNat%2^bits = n := by
  rw [h.toNat hn,Nat.add_mod,h.high,Nat.zero_add,Nat.mod_mod,Nat.mod_eq_of_lt hn]

theorem pattern_indexed : Pattern 7 128 := ⟨by decide,by decide,by decide,by decide⟩

theorem pattern_sizeUpdate : Pattern 5 32 := ⟨by decide,by decide,by decide,by decide⟩

theorem pattern_mode (mode : Indexing) : Pattern mode.bits mode.pattern := by
  cases mode <;> exact ⟨by decide,by decide,by decide,by decide⟩

theorem pattern_string (s : StringLiteral) : Pattern 7 s.pattern := by
  unfold StringLiteral.pattern
  split_ifs <;> exact ⟨by decide,by decide,by decide,by decide⟩

theorem first_byte {bits pattern n : ℕ} {bs : Bytes} (h : PrefixInt bits pattern n bs)
    (hp : Pattern bits pattern) :
    ∃ b cs, bs = b::cs ∧ pattern ≤ b.toNat ∧ b.toNat < pattern+2^bits := by
  have hpos := Nat.two_pow_pos bits
  cases h with
  | short hn =>
    refine ⟨_,_,rfl,?_⟩
    rw [hp.toNat (by omega)]
    omega
  | long hc hlen =>
    refine ⟨_,_,rfl,?_⟩
    rw [hp.toNat (by omega)]
    omega

end FirstByte

section Integers

theorem intRound_cons (b : UInt8) (data : Bytes) (value : UInt64) {shift : ℕ} (hshift : shift ≤ 56)
    (hfit : value.toNat+b.toNat%128*2^shift < 2^64) :
    intRound ⟨b::data,value,shift⟩ =
      if b.toNat < 128 then .ok (.inr (UInt64.ofNat (value.toNat+b.toNat%128*2^shift),data))
      else if shift+7 > 56 then fail "http2: HPACK integer overflow"
      else .ok (.inl ⟨data,UInt64.ofNat (value.toNat+b.toNat%128*2^shift),shift+7⟩) := by
  have hgroup : (b &&& 0x7f).toUInt64.toNat = b.toNat%128 :=
    toNat_and_mask b (show 7 ≤ 8 by decide)
  have hs : (UInt64.ofNat shift).toNat%64 = shift := by
    rw [UInt64.toNat_ofNat']
    omega
  have hvalue : value+((b &&& 0x7f).toUInt64 <<< UInt64.ofNat shift) =
      UInt64.ofNat (value.toNat+b.toNat%128*2^shift) := by
    apply UInt64.toNat_inj.mp
    rw [UInt64.toNat_add,UInt64.toNat_shiftLeft,hgroup,hs,Nat.shiftLeft_eq,UInt64.toNat_ofNat',
      Nat.mod_eq_of_lt (a:=b.toNat%128*2^shift) (by omega)]
  have hne : ¬ (b::data).length = 0 := by simp
  unfold intRound
  simp only [hne,if_false,byteAt_cons,slice_tail,ok_bind,hvalue,and_0x80]

theorem intLoop_continuation {n : ℕ} {cs : Bytes} (h : Continuation n cs) (rest : Bytes)
    {value : UInt64} {shift fuel : ℕ} (hshift : shift+7*cs.length ≤ 63)
    (hfit : value.toNat+n*2^shift < 2^64) (hfuel : cs.length ≤ fuel) :
    iterate intRound fuel ⟨cs++rest,value,shift⟩ =
      .ok (UInt64.ofNat (value.toNat+n*2^shift),rest) := by
  induction h generalizing value shift fuel with
  | @last b hb =>
    obtain ⟨fuel,rfl⟩ : ∃ k, fuel = k+1 := ⟨fuel-1,by simp at hfuel; omega⟩
    have hnat : (UInt8.ofNat b).toNat = b := by rw [UInt8.toNat_ofNat']; omega
    have hmod : (UInt8.ofNat b).toNat%128 = b := by rw [hnat]; omega
    have hround := intRound_cons (UInt8.ofNat b) rest value (by simp at hshift; omega)
      (by rwa [hmod])
    rw [if_pos (by rwa [hnat]),hmod] at hround
    exact iterate_done hround
  | @more b n cs hb hc ih =>
    obtain ⟨fuel,rfl⟩ : ∃ k, fuel = k+1 := ⟨fuel-1,by simp at hfuel; omega⟩
    have hnat : (UInt8.ofNat (128+b)).toNat = 128+b := by rw [UInt8.toNat_ofNat']; omega
    have hmod : (UInt8.ofNat (128+b)).toNat%128 = b := by rw [hnat]; omega
    have hpos := hc.length_pos
    rw [List.length_cons] at hshift hfuel
    have hsum : (b+128*n)*2^shift = b*2^shift+n*2^(shift+7) := by rw [pow_add]; ring
    rw [hsum] at hfit ⊢
    have hle : shift ≤ 56 := by omega
    have hround := intRound_cons (UInt8.ofNat (128+b)) (cs++rest) value hle (by rw [hmod]; omega)
    rw [if_neg (by omega),if_neg (by omega),hmod] at hround
    have hvalue : (UInt64.ofNat (value.toNat+b*2^shift)).toNat = value.toNat+b*2^shift := by
      rw [UInt64.toNat_ofNat']
      omega
    rw [List.cons_append,iterate_next hround,ih (by omega) (by rw [hvalue]; omega) (by omega),
      hvalue,Nat.add_assoc]

theorem intLoop_eq_ok {fuel : ℕ} {data rest : Bytes} {value v : UInt64} {shift : ℕ}
    (h : iterate intRound fuel ⟨data,value,shift⟩ = .ok (v,rest)) (hshift : shift ≤ 56)
    (hvalue : value.toNat < 2^shift+127) :
    ∃ n cs, Continuation n cs ∧ data = cs++rest ∧ shift+7*cs.length ≤ 63 ∧
      v.toNat = value.toNat+n*2^shift := by
  induction fuel generalizing data value shift with
  | zero => simp [iterate] at h
  | succ fuel ih =>
    cases data with
    | nil => simp [iterate,intRound,fail] at h
    | cons b data =>
      have hb := b.toNat_lt
      have hpow : 2^(shift+7) = 128*2^shift := by rw [pow_add]; ring
      have hmax : 2^(shift+7) ≤ 2^63 := Nat.pow_le_pow_right (by decide) (by omega)
      have hgroup : b.toNat%128*2^shift ≤ 127*2^shift := Nat.mul_le_mul_right _ (by omega)
      have hround := intRound_cons b data value hshift (by omega)
      have hsum : (UInt64.ofNat (value.toNat+b.toNat%128*2^shift)).toNat =
          value.toNat+b.toNat%128*2^shift := by
        rw [UInt64.toNat_ofNat']
        omega
      by_cases hlast : b.toNat < 128
      · rw [if_pos hlast] at hround
        rw [iterate_done hround] at h
        simp only [Except.ok.injEq,Prod.mk.injEq] at h
        obtain ⟨rfl,rfl⟩ := h
        refine ⟨b.toNat,[b],?_,rfl,by simp; omega,by rw [hsum,Nat.mod_eq_of_lt hlast]⟩
        have := Continuation.last hlast
        rwa [UInt8.ofNat_toNat] at this
      · rw [if_neg hlast] at hround
        split_ifs at hround with hover
        · simp [iterate,hround,fail] at h
        · rw [iterate_next hround] at h
          obtain ⟨n,cs,hc,rfl,hlen,hv⟩ := ih h (by omega) (by rw [hsum]; omega)
          refine ⟨b.toNat%128+128*n,b::cs,?_,rfl,by rw [List.length_cons]; omega,?_⟩
          · have := Continuation.more (Nat.mod_lt b.toNat (by decide)) hc
            have hbyte : 128+b.toNat%128 = b.toNat := by omega
            rwa [hbyte,UInt8.ofNat_toNat] at this
          · rw [hv,hsum,hpow]
            ring

theorem readHPACKInt_cons (b : UInt8) (data : Bytes) {bits : ℕ} (hbits : bits ≤ 7) :
    readHPACKInt (b::data) bits =
      if b.toNat%2^bits < 2^bits-1 then .ok (UInt64.ofNat (b.toNat%2^bits),data)
      else iterate intRound (data.length+1) ⟨data,UInt64.ofNat (b.toNat%2^bits),0⟩ := by
  have hle : bits ≤ 8 := by omega
  have hlow : (b &&& UInt8.ofNat (2^bits-1)).toUInt64 = UInt64.ofNat (b.toNat%2^bits) := by
    apply UInt64.toNat_inj.mp
    rw [UInt8.toNat_toUInt64,toNat_and_mask b hle,UInt64.toNat_ofNat']
    have := Nat.mod_le b.toNat (2^bits)
    have := b.toNat_lt
    omega
  have hlt : UInt64.ofNat (b.toNat%2^bits) < (UInt8.ofNat (2^bits-1)).toUInt64 ↔
      b.toNat%2^bits < 2^bits-1 := by
    rw [← hlow,UInt64.lt_iff_toNat_lt,UInt8.toNat_toUInt64,UInt8.toNat_toUInt64,
      toNat_and_mask b hle,toNat_mask hle]
  have hne : ¬ (b::data).length = 0 := by simp
  unfold readHPACKInt
  simp only [hne,if_false,byteAt_cons,slice_tail,ok_bind,hlow,hlt]

theorem readHPACKInt_octets {bits pattern n : ℕ} {bs : Bytes} (h : PrefixInt bits pattern n bs)
    (hp : Pattern bits pattern) (rest : Bytes) :
    readHPACKInt (bs++rest) bits = .ok (UInt64.ofNat n,rest) := by
  have hpos := Nat.two_pow_pos bits
  have hpow : 2^bits ≤ 2^7 := Nat.pow_le_pow_right (by decide) hp.small
  have hmax := h.lt hp.small
  cases h with
  | short hn =>
    rw [List.singleton_append,readHPACKInt_cons _ _ hp.small,hp.low (by omega),if_pos hn]
  | @long n cs hc hlen =>
    have hvalue : (UInt64.ofNat (2^bits-1)).toNat = 2^bits-1 := by
      rw [UInt64.toNat_ofNat']
      omega
    rw [List.cons_append,readHPACKInt_cons _ _ hp.small,hp.low (by omega),if_neg (by omega),
      intLoop_continuation hc rest (by omega) (by rw [hvalue]; omega) (by rw [List.length_append]; omega),
      hvalue,pow_zero,Nat.mul_one]

theorem toNat_ofNat_int {bits pattern n : ℕ} {bs : Bytes} (h : PrefixInt bits pattern n bs)
    (hbits : bits ≤ 7) : (UInt64.ofNat n).toNat = n := by
  have := h.lt hbits
  rw [UInt64.toNat_ofNat']
  omega

/-- Groups of seven bits, each shifted to its place and added up. -/
def groupSum (cs : Bytes) : ℕ := (cs.zipIdx.map fun e => e.1.toNat%128*2^(7*e.2)).sum

theorem groupSum_cons (c : UInt8) (cs : Bytes) : groupSum (c::cs) = c.toNat%128+128*groupSum cs := by
  have hshift (e : UInt8 × ℕ) : e.1.toNat%128*2^(7*(e.2+1)) = 128*(e.1.toNat%128*2^(7*e.2)) := by
    rw [Nat.mul_succ,pow_add]
    ring
  unfold groupSum
  rw [List.zipIdx_cons,List.map_cons,List.sum_cons,List.zipIdx_succ,List.map_map,← List.sum_map_mul_left]
  simp only [Function.comp_def,hshift,Nat.mul_zero,pow_zero,Nat.mul_one]

theorem continuation_groupSum {n : ℕ} {cs : Bytes} (h : Continuation n cs) : groupSum cs = n := by
  induction h with
  | @last b hb =>
    have hbyte : (UInt8.ofNat b).toNat = b := by rw [UInt8.toNat_ofNat']; omega
    rw [groupSum_cons,hbyte,Nat.mod_eq_of_lt hb]
    rfl
  | @more b n cs hb _ ih =>
    have hbyte : (UInt8.ofNat (128+b)).toNat = 128+b := by rw [UInt8.toNat_ofNat']; omega
    rw [groupSum_cons,hbyte,ih,Nat.add_mod_left,Nat.mod_eq_of_lt hb]

theorem readHPACKInt_consumed {data rest : Bytes} {bits : ℕ} {v : UInt64} (hbits : bits ≤ 7)
    (h : readHPACKInt data bits = .ok (v,rest)) :
    ∃ b cs, data = b::cs++rest ∧
      (b.toNat%2^bits < 2^bits-1 ∧ cs = [] ∧ v.toNat = b.toNat%2^bits ∨
        b.toNat%2^bits = 2^bits-1 ∧ ∃ n, Continuation n cs ∧ cs.length ≤ 9 ∧ v.toNat = 2^bits-1+n) := by
  cases data with
  | nil => simp [readHPACKInt,fail] at h
  | cons b data =>
    have hb := b.toNat_lt
    have hpow : 2^bits ≤ 2^7 := Nat.pow_le_pow_right (by decide) hbits
    have hmod := Nat.mod_lt b.toNat (Nat.two_pow_pos bits)
    have hv : (UInt64.ofNat (b.toNat%2^bits)).toNat = b.toNat%2^bits := by
      rw [UInt64.toNat_ofNat']
      omega
    rw [readHPACKInt_cons b data hbits] at h
    split_ifs at h with hshort
    · obtain ⟨rfl,rfl⟩ := Prod.mk.inj (Except.ok.inj h)
      exact ⟨b,[],rfl,.inl ⟨hshort,rfl,hv⟩⟩
    · have hfull : b.toNat%2^bits = 2^bits-1 := by omega
      obtain ⟨n,cs,hc,rfl,hlen,hvn⟩ := intLoop_eq_ok h (by decide) (by rw [hv]; omega)
      refine ⟨b,cs,rfl,.inr ⟨hfull,n,hc,by omega,?_⟩⟩
      rw [hvn,hv,hfull,pow_zero,Nat.mul_one]

/-- An integer that is read is the one its bytes encode: the sum does not wrap. -/
theorem readHPACKInt_eq_ok {data rest : Bytes} {bits : ℕ} {v : UInt64} (hbits : bits ≤ 7)
    (h : readHPACKInt data bits = .ok (v,rest)) :
    ∃ pattern bs, PrefixInt bits pattern v.toNat bs ∧ data = bs++rest := by
  obtain ⟨b,cs,rfl,hcases⟩ := readHPACKInt_consumed hbits h
  have hle := Nat.mod_le b.toNat (2^bits)
  have hsplit : b.toNat-b.toNat%2^bits+b.toNat%2^bits = b.toNat := by omega
  refine ⟨b.toNat-b.toNat%2^bits,b::cs,?_,rfl⟩
  rcases hcases with ⟨hshort,rfl,hv⟩ | ⟨hfull,n,hc,hlen,hv⟩
  · have hint : PrefixInt bits (b.toNat-b.toNat%2^bits) _ [_] := .short hshort
    rw [hsplit,UInt8.ofNat_toNat] at hint
    rwa [hv]
  · have hint : PrefixInt bits (b.toNat-b.toNat%2^bits) _ (_::cs) := .long hc hlen
    rwa [← hv,← hfull,hsplit,UInt8.ofNat_toNat] at hint

/-- The numbers of RFC 7541 are read back whatever stands in front of the prefix and behind
the number, and what is read is the sum of the prefix and the groups that were consumed. -/
theorem readHPACKInt_exact {bits : ℕ} (hpos : 1 ≤ bits) (hsmall : bits ≤ 7) :
    (∀ pattern n, pattern%2^bits = 0 → pattern+2^bits ≤ 256 → n-(2^bits-1) < 2^63 → ∀ rest,
      ∃ v, readHPACKInt (encodeInt bits pattern n++rest) bits = .ok (v,rest) ∧ v.toNat = n) ∧
    ∀ data v rest, readHPACKInt data bits = .ok (v,rest) →
      ∃ b cs, data = b::cs++rest ∧ v.toNat = b.toNat%2^bits+groupSum cs := by
  constructor
  · intro pattern n hhigh hfits hn rest
    have hint : PrefixInt bits pattern n (encodeInt bits pattern n) := encodeInt_prefixInt hn
    exact ⟨_,readHPACKInt_octets hint ⟨hpos,hsmall,hhigh,hfits⟩ rest,toNat_ofNat_int hint hsmall⟩
  · intro data v rest h
    obtain ⟨b,cs,hdata,hcases⟩ := readHPACKInt_consumed hsmall h
    refine ⟨b,cs,hdata,?_⟩
    rcases hcases with ⟨-,rfl,hv⟩ | ⟨hfull,n,hc,-,hv⟩
    · exact hv
    · rw [hv,hfull,continuation_groupSum hc]

/-- The largest number, with all high bits set. -/
theorem readHPACKInt_exact_largest : ∃ v,
    readHPACKInt (encodeInt 5 224 (2^63+30)++[7]) 5 = .ok (v,[7]) ∧ v.toNat = 2^63+30 :=
  (readHPACKInt_exact (by decide) (by decide)).1 224 (2^63+30) (by decide) (by decide) (by decide) [7]

end Integers

section Strings
variable {coder : Bytes → Bytes}

/-- What the decoder makes of a string literal: nothing, if it is Huffman-coded. -/
def spelling (s : StringLiteral) : Bytes := if s.huffman then [] else s.text

theorem readHPACKString_octets {s : StringLiteral} {bs : Bytes} (h : StringOctets coder s bs)
    (rest : Bytes) : readHPACKString (bs++rest) = .ok (spelling s,rest) := by
  cases h with
  | @mk len h =>
    obtain ⟨b,cs,hlen,hlow,hhigh⟩ := first_byte h (pattern_string s)
    have hread := readHPACKInt_octets h (pattern_string s) (s.content coder++rest)
    have hnat := toNat_ofNat_int h (by decide)
    have hbyte : byteAt (len++s.content coder++rest) 0 = .ok b := by
      rw [hlen]
      rfl
    have hbit : b &&& 0x80 ≠ 0 ↔ s.huffman = true := by
      rw [Ne,and_0x80]
      unfold StringLiteral.pattern at hlow hhigh
      cases hh : s.huffman with
      | false => simp [hh] at hlow hhigh ⊢; omega
      | true => simp [hh] at hlow hhigh ⊢; omega
    have hne : ¬ (len++s.content coder++rest).length = 0 := by
      rw [hlen]
      simp
    have hfits : ¬ (s.content coder++rest).length < (s.content coder).length := by simp
    have hvalue : slice (s.content coder++rest) 0 (s.content coder).length = .ok (s.content coder) := by
      rw [slice_upto (by simp)]
      simp
    have hrest : slice (s.content coder++rest) (s.content coder).length
        (s.content coder++rest).length = .ok rest := by
      rw [slice_from (by simp)]
      simp
    rw [List.append_assoc] at hbyte hne ⊢
    unfold readHPACKString spelling
    simp only [hne,if_false,hbyte,hread,ok_bind,hnat,hfits,hvalue,hrest,hbit]
    unfold StringLiteral.content
    split_ifs <;> rfl

end Strings

section Lookup

/-- The name at a place of the two tables, or nothing. -/
def knownName (dynamicNames : List Bytes) (i : ℕ) : Bytes :=
  if i = 0 then []
  else if i ≤ 61 then hpackStaticNames.getD (i-1) []
  else dynamicNames.getD (i-62) []

theorem hpackStaticNames_length : hpackStaticNames.length = 61 := rfl

theorem nameAt_eq {names : List Bytes} {i : ℕ} (hi : i < names.length) :
    nameAt names i = .ok (names.getD i []) := by
  unfold nameAt
  rw [List.getElem?_eq_getElem hi,List.getD_eq_getElem?_getD,List.getElem?_eq_getElem hi]
  rfl

theorem toInt_dynamicIndex (index : UInt64) :
    (index.toInt64-Int64.ofNat 61-1).toInt = ((index.toNat : ℤ)-62).bmod (2^64) := by
  have hindex : index.toInt64.toInt = (index.toNat : ℤ).bmod (2^64) :=
    BitVec.toInt_eq_toNat_bmod index.toBitVec
  have h61 : (Int64.ofNat 61).toInt = 61 := by decide
  have hone : (1 : Int64).toInt = 1 := by decide
  rw [Int64.toInt_sub,Int64.toInt_sub,hindex,h61,hone,Int.sub_eq_add_neg,Int.bmod_add_bmod,
    Int.sub_eq_add_neg,Int.add_assoc,Int.bmod_add_bmod]
  rfl

theorem bmod_dynamicIndex {i : ℕ} (hi : 61 < i) (hlt : i < 2^64) :
    ((i : ℤ)-62).bmod (2^64) = if i-62 < 2^63 then (i : ℤ)-62 else (i : ℤ)-62-2^64 := by
  rw [Int.bmod_def]
  split_ifs <;> omega

theorem toNat_pred {index : UInt64} (h : index.toNat ≠ 0) : (index-1).toNat = index.toNat-1 := by
  have hle : (1 : UInt64) ≤ index := by
    rw [UInt64.le_iff_toNat_le]
    show 1 ≤ index.toNat
    omega
  exact UInt64.toNat_sub_of_le _ _ hle

/-- No index wraps into the table, as long as the index or the table is small enough. -/
theorem lookupName_eq (d : HPACKNameDecoder) (index : UInt64)
    (h : index.toNat < 2^63 ∨ d.dynamicNames.length < 2^62) :
    d.lookupName index = .ok (knownName d.dynamicNames index.toNat) := by
  have hlt := index.toNat_lt
  have hzero : index = 0 ↔ index.toNat = 0 := by rw [← UInt64.toNat_inj]; rfl
  have hstatic : index ≤ UInt64.ofNat 61 ↔ index.toNat ≤ 61 := UInt64.le_iff_toNat_le
  unfold HPACKNameDecoder.lookupName knownName
  simp only [hpackStaticNames_length,hzero,hstatic,toInt_dynamicIndex]
  split_ifs with h0 h61 hin
  · rfl
  · rw [toNat_pred h0]
    exact nameAt_eq (by rw [hpackStaticNames_length]; omega)
  · rw [bmod_dynamicIndex (by omega) hlt] at hin ⊢
    split_ifs at hin ⊢ with hsmall
    · have hnat : ((index.toNat : ℤ)-62).toNat = index.toNat-62 := by omega
      rw [hnat]
      exact nameAt_eq (by omega)
    · omega
  · have hout : d.dynamicNames.length ≤ index.toNat-62 := by
      rw [bmod_dynamicIndex (by omega) hlt] at hin
      split_ifs at hin <;> omega
    rw [List.getD_eq_getElem?_getD,List.getElem?_eq_none hout]
    rfl

end Lookup

section Fields
variable {coder : Bytes → Bytes}

def spelled (d : HPACKNameDecoder) : NameRef → Bytes
  | .index i => knownName d.dynamicNames i
  | .literal s => spelling s

/-- What one representation does to the decoder, and the name it is taken for. -/
def nameStep (d : HPACKNameDecoder) : Representation → HPACKNameDecoder × Bytes
  | .indexed i => (d,knownName d.dynamicNames i)
  | .literal mode name _ =>
    (if mode = .incremental then d.addDynamicName (spelled d name) else d,spelled d name)
  | .sizeUpdate _ => (d,[])

/-- Every place that is referred to can be one of a table. -/
def InRange (r : Representation) : Prop := ∀ i ∈ r.indices, 0 < i ∧ i < 2^63

theorem lookupName_ofNat (d : HPACKNameDecoder) {i : ℕ} (hi : i < 2^63) :
    d.lookupName (UInt64.ofNat i) = .ok (knownName d.dynamicNames i) := by
  have hnat : (UInt64.ofNat i).toNat = i := by
    rw [UInt64.toNat_ofNat']
    omega
  have := lookupName_eq d (UInt64.ofNat i) (.inl (by rwa [hnat]))
  rwa [hnat] at this

theorem readLiteralName_index (d : HPACKNameDecoder) {bits pattern i : ℕ} {bs vs : Bytes}
    {value : StringLiteral} (hp : Pattern bits pattern) (h : PrefixInt bits pattern i bs)
    (hv : StringOctets coder value vs) (hi : 0 < i ∧ i < 2^63) (rest : Bytes) :
    d.readLiteralName (bs++vs++rest) bits = .ok (knownName d.dynamicNames i,rest) := by
  have hpos : UInt64.ofNat i > 0 := by
    rw [gt_iff_lt,UInt64.lt_iff_toNat_lt,UInt64.toNat_ofNat']
    show 0 < i%2^64
    omega
  unfold HPACKNameDecoder.readLiteralName
  simp only [List.append_assoc,readHPACKInt_octets h hp,ok_bind,if_pos hpos,
    lookupName_ofNat d hi.2,readHPACKString_octets hv]

theorem readLiteralName_literal (d : HPACKNameDecoder) {bits pattern : ℕ} {bs ns vs : Bytes}
    {name value : StringLiteral} (hp : Pattern bits pattern) (h : PrefixInt bits pattern 0 bs)
    (hn : StringOctets coder name ns) (hv : StringOctets coder value vs) (rest : Bytes) :
    d.readLiteralName (bs++ns++vs++rest) bits = .ok (spelling name,rest) := by
  have hzero : ¬ UInt64.ofNat 0 > 0 := by decide
  unfold HPACKNameDecoder.readLiteralName
  simp only [List.append_assoc,readHPACKInt_octets h hp,ok_bind,if_neg hzero,
    readHPACKString_octets hn,readHPACKString_octets hv]

theorem decodeRound_unindexed {d : HPACKNameDecoder} {names : List Bytes} {bs rest name : Bytes}
    {b : UInt8} (hb : byteAt bs 0 = .ok b) (hlow : b.toNat < 32) (hlen : bs.length > 0)
    (hread : d.readLiteralName bs 4 = .ok (name,rest)) :
    decodeRound ⟨d,names,bs⟩ = .ok (.inl ⟨d,appendName names name,rest⟩) := by
  have h80 : ¬ b &&& 0x80 ≠ 0 := by rw [not_not,and_0x80]; omega
  have h40 : ¬ b &&& 0x40 ≠ 0 := by rw [not_not,and_0x40]; omega
  have h20 : ¬ b &&& 0x20 ≠ 0 := by rw [not_not,and_0x20]; omega
  unfold decodeRound
  simp only [hlen,if_true,hb,ok_bind,if_neg h80,if_neg h40,if_neg h20,hread]

theorem decodeRound_literal {d : HPACKNameDecoder} {names : List Bytes} {mode : Indexing}
    {bs rest name : Bytes} {b : UInt8} (hb : byteAt bs 0 = .ok b)
    (hlow : mode.pattern ≤ b.toNat) (hhigh : b.toNat < mode.pattern+2^mode.bits)
    (hread : d.readLiteralName bs mode.bits = .ok (name,rest)) :
    decodeRound ⟨d,names,bs⟩ =
      .ok (.inl ⟨if mode = .incremental then d.addDynamicName name else d,
        appendName names name,rest⟩) := by
  have hlen : bs.length > 0 := by
    cases bs with
    | nil => simp [byteAt] at hb
    | cons _ _ => simp
  cases mode with
  | incremental =>
    simp only [Indexing.pattern,Indexing.bits] at hlow hhigh hread
    have h80 : ¬ b &&& 0x80 ≠ 0 := by rw [not_not,and_0x80]; omega
    have h40 : b &&& 0x40 ≠ 0 := by rw [Ne,and_0x40]; omega
    unfold decodeRound
    simp only [hlen,if_true,hb,ok_bind,if_neg h80,if_pos h40,hread]
  | without =>
    simp only [Indexing.pattern,Indexing.bits] at hhigh
    exact decodeRound_unindexed hb (by omega) hlen hread
  | never =>
    simp only [Indexing.pattern,Indexing.bits] at hhigh
    exact decodeRound_unindexed hb (by omega) hlen hread

/-- One round reads one representation. -/
theorem decodeRound_octets {r : Representation} {bs : Bytes} (h : Octets coder r bs) (hr : InRange r)
    (d : HPACKNameDecoder) (names : List Bytes) (rest : Bytes) :
    decodeRound ⟨d,names,bs++rest⟩ =
      .ok (.inl ⟨(nameStep d r).1,appendName names (nameStep d r).2,rest⟩) := by
  cases h with
  | @indexed i bs h =>
    obtain ⟨b,cs,hbs,hlow,-⟩ := first_byte h pattern_indexed
    have hi := hr i (by simp [Representation.indices])
    have hb : byteAt (bs++rest) 0 = .ok b := by rw [hbs]; rfl
    have hlen : (bs++rest).length > 0 := by rw [hbs]; simp
    have h80 : b &&& 0x80 ≠ 0 := by rw [Ne,and_0x80]; omega
    unfold decodeRound
    simp only [hlen,if_true,hb,ok_bind,if_pos h80,readHPACKInt_octets h pattern_indexed,
      lookupName_ofNat d hi.2,nameStep]
  | @literalIndex mode i value bs vs h hv =>
    obtain ⟨b,cs,hbs,hlow,hhigh⟩ := first_byte h (pattern_mode mode)
    have hi := hr i (by simp [Representation.indices])
    have hb : byteAt (bs++vs++rest) 0 = .ok b := by rw [hbs]; rfl
    exact decodeRound_literal hb hlow hhigh
      (readLiteralName_index d (pattern_mode mode) h hv hi rest)
  | @literalName mode name value bs ns vs h hn hv =>
    obtain ⟨b,cs,hbs,hlow,hhigh⟩ := first_byte h (pattern_mode mode)
    have hb : byteAt (bs++ns++vs++rest) 0 = .ok b := by rw [hbs]; rfl
    exact decodeRound_literal hb hlow hhigh
      (readLiteralName_literal d (pattern_mode mode) h hn hv rest)
  | @sizeUpdate n bs h =>
    obtain ⟨b,cs,hbs,hlow,hhigh⟩ := first_byte h pattern_sizeUpdate
    have hb : byteAt (bs++rest) 0 = .ok b := by rw [hbs]; rfl
    have hlen : (bs++rest).length > 0 := by rw [hbs]; simp
    have h80 : ¬ b &&& 0x80 ≠ 0 := by rw [not_not,and_0x80]; omega
    have h40 : ¬ b &&& 0x40 ≠ 0 := by rw [not_not,and_0x40]; omega
    have h20 : b &&& 0x20 ≠ 0 := by rw [Ne,and_0x20]; omega
    unfold decodeRound
    simp only [hlen,if_true,hb,ok_bind,if_neg h80,if_neg h40,if_pos h20,
      readHPACKInt_octets h pattern_sizeUpdate,nameStep]
    rfl

end Fields

end Http2
end AntiScrapling
