import AntiScrapling.HpackReading
import AntiScrapling.Http2Stream

/-! The HTTP/2 frame parser on arbitrary bytes: it stays inside its data, every round of
its loops reads something, no index wraps into the table, and it ends with frames or with
a reported error. -/
namespace AntiScrapling
namespace Http2

open CheckedRun ByteCodec Hpack

section Integers

def IntState.Within (n : ℕ) (s : IntState) : Prop := s.data.length ≤ n

theorem intRound_safe {n : ℕ} {s : IntState} (hs : s.Within n) :
    Safe (intRound s) (Progress (IntState.Within n) (fun s => s.data.length)
      (fun p => p.2.length < n) s) := by
  obtain ⟨data,value,shift⟩ := s
  cases data with
  | nil => simp [intRound]
  | cons b data =>
    have hne : ¬ (b::data).length = 0 := by simp
    have hn : data.length+1 ≤ n := hs
    unfold intRound
    simp only [hne,if_false,byteAt_cons,slice_tail,ok_bind]
    split_ifs
    · show data.length < n
      omega
    · exact safe_fail
    · show data.length ≤ n ∧ data.length < (b::data).length
      rw [List.length_cons]
      omega

theorem readHPACKInt_safe (data : Bytes) (bits : ℕ) :
    Safe (readHPACKInt data bits) fun p => p.2.length < data.length := by
  cases data with
  | nil => simp [readHPACKInt]
  | cons b data =>
    have hne : ¬ (b::data).length = 0 := by simp
    unfold readHPACKInt
    simp only [hne,if_false,byteAt_cons,slice_tail,ok_bind]
    split_ifs
    · show data.length < (b::data).length
      simp
    · have hstart : IntState.Within (b::data).length
          ⟨data,(b &&& UInt8.ofNat (2^bits-1)).toUInt64,0⟩ := Nat.le_succ data.length
      exact safe_iterate (fun s => s.data.length) (fun _ => intRound_safe) hstart
        (Nat.lt_succ_self data.length)

theorem readHPACKString_safe (data : Bytes) :
    Safe (readHPACKString data) fun p => p.2.length < data.length := by
  unfold readHPACKString
  split_ifs with hlen
  · exact safe_fail
  · obtain ⟨b,hb⟩ := byteAt_total data (i:=0) (by omega)
    rw [hb]
    apply (readHPACKInt_safe data 7).bind
    rintro ⟨length,rest⟩ hrest
    simp only at hrest ⊢
    by_cases hshort : rest.length < length.toNat
    · rw [if_pos hshort]
      exact safe_fail
    · rw [if_neg hshort,slice_upto (by omega),slice_from (by omega)]
      simp only [ok_bind]
      split_ifs <;> simp only [safe_ok,List.length_drop] <;> omega

end Integers

section Names

theorem lookupName_total (d : HPACKNameDecoder) (index : UInt64) :
    ∃ name, d.lookupName index = .ok name := by
  unfold HPACKNameDecoder.lookupName
  simp only
  split_ifs with h0 hstatic hin
  · exact ⟨_,rfl⟩
  · have hle : index.toNat ≤ 61 := UInt64.le_iff_toNat_le.mp hstatic
    have hpos : index.toNat ≠ 0 := fun h => h0 (UInt64.toNat_inj.mp h)
    exact ⟨_,nameAt_eq (by rw [toNat_pred hpos,hpackStaticNames_length]; omega)⟩
  · exact ⟨_,nameAt_eq (by omega)⟩
  · exact ⟨_,rfl⟩

theorem readLiteralName_safe (d : HPACKNameDecoder) (block : Bytes) (bits : ℕ) :
    Safe (d.readLiteralName block bits) fun p => p.2.length+2 ≤ block.length := by
  apply (readHPACKInt_safe block bits).bind
  rintro ⟨index,rest⟩ hindex
  have hvalue (name rest₁ : Bytes) (hrest₁ : rest₁.length ≤ rest.length) :
      Safe (readHPACKString rest₁ >>= fun p => .ok (name,p.2))
        fun p : Bytes × Bytes => p.2.length+2 ≤ block.length := by
    apply (readHPACKString_safe rest₁).bind
    rintro ⟨value,rest₂⟩ hrest₂
    simp only [safe_ok] at hindex hrest₂ ⊢
    omega
  simp only
  split_ifs
  · obtain ⟨name,hname⟩ := lookupName_total d index
    rw [hname]
    exact hvalue name rest le_rfl
  · apply (readHPACKString_safe rest).bind
    rintro ⟨name,rest₁⟩ hrest₁
    exact hvalue name rest₁ hrest₁.le

theorem addDynamicName_length (d : HPACKNameDecoder) (name : Bytes) :
    (d.addDynamicName name).dynamicNames.length ≤ d.dynamicNames.length+1 := by
  unfold HPACKNameDecoder.addDynamicName
  split_ifs
  · omega
  · simp

/-- A name costs two bytes at least, so what the table and the rest of the block weigh
together never grows. -/
def DecodeState.Weighs (n : ℕ) (s : DecodeState) : Prop :=
  2*s.decoder.dynamicNames.length+s.block.length ≤ n

theorem decodeRound_safe {n : ℕ} {s : DecodeState} (hs : s.Weighs n) :
    Safe (decodeRound s) (Progress (DecodeState.Weighs n) (fun s => s.block.length)
      (fun p => 2*p.2.dynamicNames.length ≤ n) s) := by
  unfold DecodeState.Weighs at *
  unfold decodeRound
  split_ifs with hlen
  · obtain ⟨b,hb⟩ := byteAt_total s.block hlen
    rw [hb]
    simp only [ok_bind]
    split_ifs
    · apply (readHPACKInt_safe s.block 7).bind
      rintro ⟨index,rest⟩ hrest
      obtain ⟨name,hname⟩ := lookupName_total s.decoder index
      simp only [hname,ok_bind,safe_ok,Progress] at hrest ⊢
      omega
    · apply (readLiteralName_safe s.decoder s.block 6).bind
      rintro ⟨name,rest⟩ hrest
      have := addDynamicName_length s.decoder name
      simp only [safe_ok,Progress] at hrest ⊢
      omega
    · apply (readHPACKInt_safe s.block 5).bind
      rintro ⟨size,rest⟩ hrest
      simp only [safe_ok,Progress] at hrest ⊢
      omega
    · apply (readLiteralName_safe s.decoder s.block 4).bind
      rintro ⟨name,rest⟩ hrest
      simp only [safe_ok,Progress] at hrest ⊢
      omega
  · simp only [safe_ok,Progress]
    omega

theorem decode_safe (d : HPACKNameDecoder) (block : Bytes) :
    Safe (d.decode block) fun p =>
      2*p.2.dynamicNames.length ≤ 2*d.dynamicNames.length+block.length := by
  have hstart : DecodeState.Weighs (2*d.dynamicNames.length+block.length) ⟨d,[],block⟩ := Nat.le_refl _
  exact safe_iterate (fun s => s.block.length) (fun _ => decodeRound_safe) hstart
    (Nat.lt_succ_self block.length)

end Names

section Payloads

theorem settingsRound_safe {s : Bytes × List Setting} (hs : s.1.length%6 = 0) :
    Safe (settingsRound s) (Progress (fun s => s.1.length%6 = 0) (fun s => s.1.length)
      (fun _ => True) s) := by
  unfold settingsRound
  split_ifs with hlen
  · obtain ⟨id,hid⟩ := uint16At_total s.1 (i:=0) (by omega)
    obtain ⟨value,hvalue⟩ : ∃ v, uint32 ((s.1.drop 2).take (6-2)) = .ok v :=
      uint32_total (by rw [List.length_take,List.length_drop]; omega)
    have hid' : (do uint16 (← slice s.1 0 2)) = .ok id := hid
    obtain ⟨two,htwo,hid⟩ := bind_eq_ok.mp hid'
    rw [htwo]
    simp only [ok_bind,hid,slice_total (show 2 ≤ 6 by decide) (show 6 ≤ s.1.length by omega),
      hvalue,slice_from (show 6 ≤ s.1.length by omega),safe_ok,Progress,List.length_drop]
    omega
  · trivial

theorem parseSettings_safe (payload : Bytes) : Safe (parseSettings payload) fun _ => True := by
  unfold parseSettings
  split_ifs with hmod
  · exact safe_fail
  · exact safe_iterate (fun s => s.1.length) (fun _ => settingsRound_safe) (by simpa using hmod)
      (by simp)

theorem parseWindowUpdate_safe (payload : Bytes) :
    Safe (parseWindowUpdate payload) fun _ => True := by
  unfold parseWindowUpdate
  split_ifs with hlen
  · exact safe_fail
  · obtain ⟨v,hv⟩ := uint32_total (b:=payload) (by omega)
    rw [hv]
    trivial

theorem parsePriority_safe (payload : Bytes) (streamID : UInt32) :
    Safe (parsePriority payload streamID) fun _ => True := by
  unfold parsePriority
  split_ifs with hlen
  · exact safe_fail
  · obtain ⟨v,hv⟩ : ∃ v, uint32 (payload.take 4) = .ok v :=
      uint32_total (by rw [List.length_take]; omega)
    obtain ⟨w,hw⟩ := byteAt_total payload (i:=4) (by omega)
    simp only [slice_upto (show 4 ≤ payload.length by omega),hv,hw,ok_bind]
    trivial

theorem removePadding_safe (payload : Bytes) (flags : UInt8) :
    Safe (removePadding payload flags) fun p => p.length ≤ payload.length := by
  unfold removePadding
  split_ifs with hflag hlen
  · exact safe_fail
  · obtain ⟨b,hb⟩ := byteAt_total payload (i:=0) (by omega)
    simp only [hb,slice_from (show 1 ≤ payload.length by omega),ok_bind]
    split_ifs with hpad
    · exact safe_fail
    · rw [slice_upto (by omega)]
      simp only [safe_ok,List.length_take,List.length_drop]
      omega
  · exact le_rfl

theorem takePriority_safe (payload : Bytes) (flags : UInt8) (streamID : UInt32) :
    Safe (takePriority payload flags streamID) fun p => p.2.length ≤ payload.length := by
  unfold takePriority
  split_ifs with hflag hlen
  · exact safe_fail
  · rw [slice_upto (by omega)]
    apply (parsePriority_safe _ streamID).bind
    rintro priority -
    rw [slice_from (by omega)]
    simp only [ok_bind,safe_ok,List.length_drop]
    omega
  · exact le_rfl

theorem parseHeaders_safe (payload : Bytes) (flags : UInt8) (streamID : UInt32)
    (d : HPACKNameDecoder) :
    Safe (parseHeaders payload flags streamID d) fun p =>
      2*p.2.dynamicNames.length ≤ 2*d.dynamicNames.length+payload.length := by
  apply (removePadding_safe payload flags).bind
  intro unpadded hunpadded
  apply (takePriority_safe unpadded flags streamID).bind
  rintro ⟨priority,block⟩ hblock
  apply (decode_safe d block).bind
  rintro ⟨names,d'⟩ hd'
  simp only at hblock hd' ⊢
  rw [sortNames_eq]
  simp only [ok_bind,safe_ok]
  omega

theorem parsePayload_safe (frame : Frame) (payload : Bytes) (d : HPACKNameDecoder) :
    Safe (parsePayload frame payload d) fun p =>
      2*p.2.dynamicNames.length ≤ 2*d.dynamicNames.length+payload.length := by
  unfold parsePayload
  split_ifs
  · apply (parseSettings_safe payload).bind
    rintro settings -
    simp
  · apply (parseWindowUpdate_safe payload).bind
    rintro increment -
    simp
  · apply (parsePriority_safe payload frame.streamID).bind
    rintro priority -
    simp
  · apply (parseHeaders_safe payload frame.flags frame.streamID d).bind
    rintro ⟨headers,d'⟩ hd'
    exact hd'
  · simp

end Payloads

section Frames

def FrameState.Weighs (n : ℕ) (s : FrameState) : Prop :=
  2*s.decoder.dynamicNames.length+s.data.length ≤ n

theorem frameRound_safe {n : ℕ} {s : FrameState} (hs : s.Weighs n) :
    Safe (frameRound s) (Progress (FrameState.Weighs n) (fun s => s.data.length)
      (fun _ => True) s) := by
  unfold FrameState.Weighs at *
  unfold frameRound
  split_ifs with hpos hshort
  · exact safe_fail
  · obtain ⟨b₀,h₀⟩ := byteAt_total s.data (i:=0) (by omega)
    obtain ⟨b₁,h₁⟩ := byteAt_total s.data (i:=1) (by omega)
    obtain ⟨b₂,h₂⟩ := byteAt_total s.data (i:=2) (by omega)
    obtain ⟨type,h₃⟩ := byteAt_total s.data (i:=3) (by omega)
    obtain ⟨flags,h₄⟩ := byteAt_total s.data (i:=4) (by omega)
    obtain ⟨id,hid⟩ : ∃ v, uint32 ((s.data.drop 5).take (9-5)) = .ok v :=
      uint32_total (by rw [List.length_take,List.length_drop]; omega)
    simp only [h₀,h₁,h₂,ok_bind]
    split_ifs with hlong
    · exact safe_fail
    · simp only [h₃,h₄,slice_total (show 5 ≤ 9 by decide) (show 9 ≤ s.data.length by omega),hid,
        ok_bind]
      rw [slice_total (by omega) (by omega),ok_bind]
      apply (parsePayload_safe _ _ s.decoder).bind
      rintro ⟨frame,d⟩ hd
      rw [slice_from (by omega)]
      simp only [List.length_take,List.length_drop] at hd
      show 2*d.dynamicNames.length+(s.data.drop _).length ≤ n ∧ (s.data.drop _).length < s.data.length
      rw [List.length_drop]
      omega
  · trivial

def firstState (data : Bytes) : FrameState := ⟨skipPreface data,[],newHPACKNameDecoder⟩

theorem firstState_weighs (data : Bytes) : (firstState data).Weighs data.length := by
  unfold FrameState.Weighs firstState skipPreface
  split_ifs
  · rw [List.length_drop]
    simp only [newHPACKNameDecoder,List.length_nil]
    omega
  · simp only [newHPACKNameDecoder,List.length_nil]
    omega

theorem parseFrames_safe (data : Bytes) : Safe (parseFrames data) fun _ => True :=
  safe_iterate (fun s => s.data.length) (fun _ => frameRound_safe) (firstState_weighs data)
    (Nat.lt_succ_self (skipPreface data).length)

end Frames

section Loops

theorem intRound_consumes : Consumes (fun s => s.data.length) intRound :=
  fun s _ h => ((intRound_safe (Nat.le_refl s.data.length)).progress h).2

theorem decodeRound_consumes : Consumes (fun s => s.block.length) decodeRound :=
  fun s _ h => ((decodeRound_safe (s:=s) (Nat.le_refl _)).progress h).2

theorem frameRound_consumes : Consumes (fun s => s.data.length) frameRound :=
  fun s _ h => ((frameRound_safe (s:=s) (Nat.le_refl _)).progress h).2

/-- A decoder that some block of the stream can meet: the frame loop reaches a HEADERS
frame, and the HPACK loop a field of its block. -/
def Meets (data : Bytes) (d : HPACKNameDecoder) : Prop :=
  ∃ s s' block, Relation.ReflTransGen (Goes frameRound) (firstState data) s ∧
    block.length ≤ s.data.length ∧
    Relation.ReflTransGen (Goes decodeRound) ⟨s.decoder,[],block⟩ s' ∧ s'.decoder = d

theorem Meets.length_le {data : Bytes} {d : HPACKNameDecoder} (h : Meets data d) :
    2*d.dynamicNames.length ≤ data.length := by
  obtain ⟨s,s',block,hframes,hblock,hfields,rfl⟩ := h
  have hs : s.Weighs data.length :=
    goes_invariant (fun _ _ hs hgo => ((frameRound_safe hs).progress hgo).1) hframes
      (firstState_weighs data)
  have hstart : DecodeState.Weighs data.length ⟨s.decoder,[],block⟩ := by
    unfold FrameState.Weighs at hs
    show 2*s.decoder.dynamicNames.length+block.length ≤ data.length
    omega
  have hs' : s'.Weighs data.length :=
    goes_invariant (fun _ _ hs hgo => ((decodeRound_safe hs).progress hgo).1) hfields hstart
  unfold DecodeState.Weighs at hs'
  omega

/-- On arbitrary bytes the parser returns frames or an error; its loops read something in
every round; an integer it reads is the number its bytes encode, and an index into the
tables names the entry with that number or none.  A Go slice is shorter than `2^63`. -/
theorem parseFrames_returns (data : Bytes) :
    ((∃ frames, parseFrames data = .ok frames) ∨ ∃ msg, parseFrames data = fail msg) ∧
    Consumes (fun s => s.data.length) frameRound ∧ Consumes (fun s => s.block.length) decodeRound ∧
    Consumes (fun s => s.data.length) intRound ∧
    (∀ {bits v} {block rest : Bytes}, bits ≤ 7 → readHPACKInt block bits = .ok (v,rest) →
      ∃ pattern bs, PrefixInt bits pattern v.toNat bs ∧ block = bs++rest) ∧
    (data.length < 2^63 → ∀ d, Meets data d → ∀ index : UInt64,
      d.lookupName index = .ok (knownName d.dynamicNames index.toNat)) := by
  refine ⟨?_,frameRound_consumes,decodeRound_consumes,intRound_consumes,?_,?_⟩
  · rcases (parseFrames_safe data).value_or_error with ⟨frames,h,-⟩ | ⟨msg,h⟩
    · exact .inl ⟨frames,h⟩
    · exact .inr ⟨msg,h⟩
  · intro bits v block rest hbits h
    exact readHPACKInt_eq_ok hbits h
  · intro hdata d hd index
    have hlength := hd.length_le
    exact lookupName_eq d index (.inr (by omega))

end Loops

end Http2
end AntiScrapling
