import AntiScrapling.ClientHello

/-! The extension readers of the ClientHello parser: each returns on every input,
and each inverts the wire encoding of the list it is meant for. -/
namespace AntiScrapling
namespace ClientHello

open CheckedRun ByteCodec

section Totality

theorem uint16Values_total {data : Bytes} {off stop : ℕ} (hoff : off ≤ stop)
    (hstop : stop ≤ data.length) (heven : (stop-off)%2 = 0) :
    ∃ vs, uint16Values data off stop = .ok vs := by
  apply iterate_total (P:=fun s => s.1 ≤ stop ∧ (stop-s.1)%2 = 0) (fun s => stop-s.1)
  · rintro ⟨i,acc⟩ ⟨hi,he⟩
    simp only at hi he
    by_cases hlt : i < stop
    · obtain ⟨v,hv⟩ := uint16At_total data (i:=i) (by omega)
      refine ⟨.inl (i+2,acc++[v]),by simp [uint16Round,hlt,hv,ok_bind],?_⟩
      rintro s' hs'
      cases hs'
      exact ⟨⟨by simp only; omega,by simp only; omega⟩,by simp only; omega⟩
    · exact ⟨.inr acc,by simp [uint16Round,hlt],by simp⟩
  · exact ⟨hoff,heven⟩
  · simp only
    omega

/-- A vector behind its length: nothing is read from data that are too short or whose length
does not fit. -/
theorem lengthPrefixed_total {α β : Type} {short : Prop} [Decidable short] {misfit : α → Prop}
    [DecidablePred misfit] {readLength : Run α} {readRest : α → Run β} (nothing : β)
    (hlength : ¬ short → ∃ n, readLength = .ok n)
    (hrest : ¬ short → ∀ n, ¬ misfit n → ∃ b, readRest n = .ok b) :
    ∃ b, (if short then .ok nothing
      else readLength >>= fun n => if misfit n then .ok nothing else readRest n) = .ok b := by
  split_ifs with hshort
  · exact ⟨nothing,rfl⟩
  · apply total_bind (hlength hshort)
    intro n
    split_ifs with hn
    · exact ⟨nothing,rfl⟩
    · exact hrest hshort n hn

theorem parseServerName_total (data : Bytes) : ∃ name, parseServerName data = .ok name := by
  refine lengthPrefixed_total [] (fun hlen => uint16At_total data (by omega)) fun hlen v hlist => ?_
  apply iterate_total (P:=fun off => off ≤ 2+v.toNat) (fun off => 2+v.toNat-off)
  · intro off hoff
    unfold serverNameRound
    split_ifs with hlt hshort
    · exact ⟨_,rfl,by simp⟩
    · obtain ⟨t,ht⟩ := byteAt_total data (i:=off) (by omega)
      obtain ⟨n,hn⟩ := uint16At_total data (i:=off+1) (by omega)
      simp only [ht,hn,ok_bind]
      split_ifs with hbig hhost
      · exact ⟨_,rfl,by simp⟩
      · rw [slice_total (by omega) (by omega)]
        exact ⟨_,rfl,by simp⟩
      · refine ⟨_,rfl,?_⟩
        rintro s' hs'
        cases hs'
        omega
    · exact ⟨_,rfl,by simp⟩
  · omega
  · omega

theorem parseUint16Vector16_total (data : Bytes) : ∃ vs, parseUint16Vector16 data = .ok vs := by
  refine lengthPrefixed_total [] (fun hlen => uint16At_total data (by omega)) fun hlen v hlist => ?_
  exact uint16Values_total (by omega) (by omega) (by omega)

theorem parseUint8Vector8_total (data : Bytes) : ∃ vs, parseUint8Vector8 data = .ok vs := by
  refine lengthPrefixed_total [] (fun hlen => byteAt_total data (by omega)) fun hlen v hlist => ?_
  exact ⟨_,slice_total (by omega) (by omega)⟩

theorem parseSupportedVersions_total (data : Bytes) :
    ∃ vs, parseSupportedVersions data = .ok vs := by
  refine lengthPrefixed_total [] (fun hlen => byteAt_total data (by omega)) fun hlen v hlist => ?_
  exact uint16Values_total (by omega) (by omega) (by omega)

theorem takeProtocol_total (data : Bytes) (off : ℕ) {n : ℕ} (hoff : off ≤ data.length)
    (acc : List Bytes) :
    ∃ r, takeProtocol data off n acc = .ok r ∧
      ∀ s', r = .inl s' → s'.1 ≤ data.length ∧ off ≤ s'.1 := by
  unfold takeProtocol
  split_ifs with hn
  · exact ⟨_,rfl,by simp⟩
  · rw [slice_total (by omega) (by omega)]
    refine ⟨_,rfl,?_⟩
    rintro s' hs'
    cases hs'
    simp only
    omega

theorem alpnStandardRound_total (data : Bytes) (s : ℕ × List Bytes) :
    ∃ r, alpnStandardRound data s = .ok r ∧
      ∀ s', r = .inl s' → s'.1 ≤ data.length ∧ data.length-s'.1 < data.length-s.1 := by
  unfold alpnStandardRound
  split_ifs with hlt
  · obtain ⟨n,hn⟩ := byteAt_total data (i:=s.1) hlt
    simp only [hn,ok_bind]
    obtain ⟨r,hr,hs'⟩ := takeProtocol_total data (s.1+1) (n:=n.toNat) (by omega) s.2
    refine ⟨r,hr,fun s' h => ?_⟩
    have := hs' s' h
    omega
  · exact ⟨_,rfl,by simp⟩

theorem alpnTwoByteRound_total (data : Bytes) (s : ℕ × List Bytes) :
    ∃ r, alpnTwoByteRound data s = .ok r ∧
      ∀ s', r = .inl s' → s'.1 ≤ data.length ∧ data.length-s'.1 < data.length-s.1 := by
  unfold alpnTwoByteRound
  split_ifs with hlt hshort
  · exact ⟨_,rfl,by simp⟩
  · obtain ⟨n,hn⟩ := uint16At_total data (i:=s.1) (by omega)
    simp only [hn,ok_bind]
    obtain ⟨r,hr,hs'⟩ := takeProtocol_total data (s.1+2) (n:=n.toNat) (by omega) s.2
    refine ⟨r,hr,fun s' h => ?_⟩
    have := hs' s' h
    omega
  · exact ⟨_,rfl,by simp⟩

theorem parseALPNWith_total
    {round : Bytes → ℕ × List Bytes → Run ((ℕ × List Bytes) ⊕ Option (List Bytes))} (data : Bytes)
    (hround : ∀ s : ℕ × List Bytes, ∃ r, round data s = .ok r ∧
      ∀ s', r = .inl s' → s'.1 ≤ data.length ∧ data.length-s'.1 < data.length-s.1) :
    ∃ ps, parseALPNWith round data = .ok ps := by
  refine lengthPrefixed_total none (fun hlen => uint16At_total data (by omega)) fun hlen v _ => ?_
  exact iterate_total (P:=fun s : ℕ × List Bytes => s.1 ≤ data.length)
    (fun s => data.length-s.1) (fun s _ => hround s) (by simp only; omega) (by simp only; omega)

theorem parseALPN_total (data : Bytes) : ∃ ps, parseALPN data = .ok ps := by
  apply total_bind (parseALPNWith_total data (alpnStandardRound_total data))
  intro standard
  cases standard with
  | some ps => exact ⟨ps,rfl⟩
  | none =>
    apply total_bind (parseALPNWith_total data (alpnTwoByteRound_total data))
    intro twoByte
    cases twoByte with
    | some ps => exact ⟨ps,rfl⟩
    | none => exact ⟨[],rfl⟩

end Totality

section WireForms

/-- One entry of a server name list: a type, and a name behind its length. -/
def serverNameEntry (n : UInt8 × Bytes) : Bytes := n.1::vec16 n.2

def encodeServerNames (names : List (UInt8 × Bytes)) : Bytes :=
  vec16 (names.flatMap serverNameEntry)

/-- The first entry of type `host_name`, or nothing. -/
def firstHostName (names : List (UInt8 × Bytes)) : Bytes :=
  ((names.find? fun n => n.1 = 0).map Prod.snd).getD []

def encodeUint16Vector (vs : List UInt16) : Bytes := vec16 (uint16List vs)

def encodeVersions (vs : List UInt16) : Bytes := vec8 (uint16List vs)

def encodeALPN (names : List Bytes) : Bytes := vec16 (names.flatMap vec8)

theorem uint16Values_wire (pre post : Bytes) (vs : List UInt16) :
    uint16Values (pre++uint16List vs++post) pre.length (pre.length+2*vs.length) = .ok vs := by
  have h := iterate_collect (uint16Round (pre++uint16List vs++post) (pre.length+2*vs.length))
    vs (fun xs acc => (pre.length+2*(vs.length-xs.length),acc)) id
    (by
      rintro v xs acc ⟨ys,rfl⟩
      have hat : uint16At (pre++uint16List (ys++v::xs)++post) (pre.length+2*ys.length) = .ok v := by
        have := uint16At_append (pre++uint16List ys) (uint16List xs++post) v
        simpa [uint16List,Nat.mul_comm] using this
      have hlt : pre.length+2*ys.length < pre.length+2*(ys++v::xs).length := by simp
      have hn : (ys++v::xs).length-(v::xs).length = ys.length := by simp
      have hn' : (ys++v::xs).length-xs.length = ys.length+1 := by simp; omega
      rw [hn,hn',uint16Round,if_pos hlt,hat]
      rfl)
    (by intro acc; simp [uint16Round])
    (n:=(pre++uint16List vs++post).length+1) (by simp; omega)
  simpa [uint16Values] using h

theorem parseUint16Vector16_wire {vs : List UInt16} (h : 2*vs.length < 65536) :
    parseUint16Vector16 (encodeUint16Vector vs) = .ok vs := by
  have hlen : (encodeUint16Vector vs).length = 2+2*vs.length := by simp [encodeUint16Vector]
  have hat : uint16At (encodeUint16Vector vs) 0 = .ok (UInt16.ofNat (2*vs.length)) := by
    rw [← uint16List_length] at h ⊢
    exact uint16At_vec16 h
  have hn : (UInt16.ofNat (2*vs.length)).toNat = 2*vs.length := UInt16.toNat_ofNat_of_lt h
  have hv : uint16Values (encodeUint16Vector vs) 2 (2+2*vs.length) = .ok vs := by
    simpa [encodeUint16Vector,vec16] using uint16Values_wire (put16 (2*vs.length)) [] vs
  have hne : ¬ (encodeUint16Vector vs).length < 2 := by omega
  have hin : ¬ (2*vs.length > (encodeUint16Vector vs).length-2 ∨ 2*vs.length%2 ≠ 0) := by omega
  simp only [parseUint16Vector16,hne,if_false,hat,ok_bind,hn,hin,hv]

/-- What follows the list of versions is not read. -/
theorem parseSupportedVersions_append {vs : List UInt16} (h : 2*vs.length < 256) (rest : Bytes) :
    parseSupportedVersions (encodeVersions vs++rest) = .ok vs := by
  have hlen : (encodeVersions vs++rest).length = 1+2*vs.length+rest.length := by
    simp [encodeVersions]
  have hat : byteAt (encodeVersions vs++rest) 0 = .ok (UInt8.ofNat (2*vs.length)) := by
    simp [encodeVersions,vec8,put8,byteAt]
  have hn : (UInt8.ofNat (2*vs.length)).toNat = 2*vs.length := UInt8.toNat_ofNat_of_lt h
  have hv : uint16Values (encodeVersions vs++rest) 1 (1+2*vs.length) = .ok vs := by
    simpa [encodeVersions,vec8] using uint16Values_wire (put8 (2*vs.length)) rest vs
  have hne : ¬ (encodeVersions vs++rest).length < 1 := by omega
  have hin : ¬ (2*vs.length > (encodeVersions vs++rest).length-1 ∨ 2*vs.length%2 ≠ 0) := by omega
  simp only [parseSupportedVersions,hne,if_false,hat,ok_bind,hn,hin,hv]

theorem parseSupportedVersions_wire {vs : List UInt16} (h : 2*vs.length < 256) :
    parseSupportedVersions (encodeVersions vs) = .ok vs := by
  simpa using parseSupportedVersions_append h []

theorem parseUint8Vector8_wire {ps : Bytes} (h : ps.length < 256) :
    parseUint8Vector8 (vec8 ps) = .ok ps := by
  have hat : byteAt (vec8 ps) 0 = .ok (UInt8.ofNat ps.length) := by simp [vec8,put8,byteAt]
  have hn : (UInt8.ofNat ps.length).toNat = ps.length := by simp; omega
  have hs : slice (vec8 ps) 1 (1+ps.length) = .ok ps := by
    simpa [vec8] using slice_append (put8 ps.length) ps []
  have hne : ¬ (vec8 ps).length < 1 := by simp
  have hin : ¬ ps.length > (vec8 ps).length-1 := by simp
  simp only [parseUint8Vector8,hne,if_false,hat,ok_bind,hn,hin,hs]

theorem alpnStandardRound_wire (pre post name : Bytes) (acc : List Bytes)
    (hpos : 0 < name.length) (hfits : name.length < 256) :
    alpnStandardRound (pre++vec8 name++post) (pre.length,acc) =
      .ok (.inl (pre.length+(vec8 name).length,acc++[name])) := by
  have hb : byteAt (pre++vec8 name++post) pre.length = .ok (UInt8.ofNat name.length) := by
    simpa [vec8,put8] using byteAt_append pre (name++post) (UInt8.ofNat name.length)
  have hn : (UInt8.ofNat name.length).toNat = name.length := by simp; omega
  have hs : slice (pre++vec8 name++post) (pre.length+1) (pre.length+1+name.length) = .ok name := by
    have := slice_append (pre++put8 name.length) name post
    simpa [vec8,Nat.add_assoc] using this
  have hlt : pre.length < (pre++vec8 name++post).length := by simp
  have hin : ¬ (name.length = 0 ∨ name.length > (pre++vec8 name++post).length-(pre.length+1)) := by
    simp only [List.length_append,vec8_length]
    omega
  simp only [alpnStandardRound,hlt,if_true,hb,ok_bind,hn,takeProtocol,hin,if_false,hs,
    vec8_length]
  congr 3
  omega

theorem parseALPN_wire {names : List Bytes} (hne : names ≠ [])
    (hname : ∀ x ∈ names, 0 < x.length ∧ x.length < 256)
    (hfits : (names.flatMap vec8).length < 65536) :
    parseALPN (encodeALPN names) = .ok names := by
  have hlen : (encodeALPN names).length = 2+(names.flatMap vec8).length := by simp [encodeALPN]
  have hat : uint16At (encodeALPN names) 0 = .ok (UInt16.ofNat (names.flatMap vec8).length) :=
    uint16At_vec16 hfits
  have hn : (UInt16.ofNat (names.flatMap vec8).length).toNat = (names.flatMap vec8).length :=
    UInt16.toNat_ofNat_of_lt hfits
  have hcount : names.length ≤ (names.flatMap vec8).length :=
    length_le_flatMap (fun x => by simp) names
  have hloop := iterate_collect (alpnStandardRound (encodeALPN names)) names
    (fun xs acc => ((encodeALPN names).length-(xs.flatMap vec8).length,acc)) someProtocols
    (by
      rintro x xs acc ⟨ys,rfl⟩
      obtain ⟨hpos,hx⟩ := hname x (by simp)
      have hd : encodeALPN (ys++x::xs) =
          put16 ((ys++x::xs).flatMap vec8).length++ys.flatMap vec8++vec8 x++xs.flatMap vec8 := by
        simp [encodeALPN,vec16]
      have hr := alpnStandardRound_wire (put16 ((ys++x::xs).flatMap vec8).length++ys.flatMap vec8)
        (xs.flatMap vec8) x acc hpos hx
      rw [← hd] at hr
      convert hr using 3
      · simp only [hd,List.flatMap_cons,List.length_append]
        omega
      · simp only [hd,List.length_append]
        congr 2
        omega)
    (by intro acc; simp [alpnStandardRound])
    (n:=(encodeALPN names).length+1) (by omega)
  have hstart : (encodeALPN names).length-(names.flatMap vec8).length = 2 := by omega
  simp only [hstart] at hloop
  have hsome : someProtocols names = some names := by
    simp [someProtocols,List.length_pos_iff.mpr hne]
  have hge : ¬ (encodeALPN names).length < 2 := by omega
  have heq : ¬ (names.flatMap vec8).length ≠ (encodeALPN names).length-2 := by omega
  have hstd : parseALPNStandard (encodeALPN names) = .ok (some names) := by
    simp only [parseALPNStandard,parseALPNWith,hge,if_false,hat,ok_bind,hn,heq,hloop,hsome]
  simp [parseALPN,hstd,ok_bind]

@[simp] theorem serverNameEntry_length (n : UInt8 × Bytes) :
    (serverNameEntry n).length = 3+n.2.length := by
  simp [serverNameEntry]
  omega

/-- One round over a server name list: a `host_name` ends the loop, any other
entry is passed over. -/
theorem serverNameRound_wire (pre post : Bytes) (n : UInt8 × Bytes) (hfits : n.2.length < 65536) :
    serverNameRound (pre++serverNameEntry n++post) (pre++serverNameEntry n++post).length pre.length =
      .ok (if n.1 = 0 then .inr n.2 else .inl (pre.length+(serverNameEntry n).length)) := by
  have hb : byteAt (pre++serverNameEntry n++post) pre.length = .ok n.1 := by
    simpa [serverNameEntry] using byteAt_append pre (vec16 n.2++post) n.1
  have hat : uint16At (pre++serverNameEntry n++post) (pre.length+1) =
      .ok (UInt16.ofNat n.2.length) := by
    have := uint16At_put16 hfits (pre++[n.1]) (n.2++post)
    simpa [serverNameEntry,vec16] using this
  have hn : (UInt16.ofNat n.2.length).toNat = n.2.length := UInt16.toNat_ofNat_of_lt hfits
  have hs : slice (pre++serverNameEntry n++post) (pre.length+3) (pre.length+3+n.2.length) =
      .ok n.2 := by
    have := slice_append (pre++n.1::put16 n.2.length) n.2 post
    simpa [serverNameEntry,vec16,Nat.add_assoc] using this
  have hlt : pre.length < (pre++serverNameEntry n++post).length := by simp
  have hlong : ¬ (pre++serverNameEntry n++post).length-pre.length < 3 := by
    simp only [List.length_append,serverNameEntry_length]
    omega
  have hin : ¬ n.2.length > (pre++serverNameEntry n++post).length-(pre.length+3) := by
    simp only [List.length_append,serverNameEntry_length]
    omega
  simp only [serverNameRound,hlt,if_true,hlong,if_false,hb,hat,ok_bind,hn,hin,hs,
    serverNameEntry_length]
  split_ifs
  · rfl
  · congr 2
    omega

theorem serverNames_loop (names : List (UInt8 × Bytes)) (pre : Bytes) {n : ℕ}
    (hfits : ∀ x ∈ names, x.2.length < 65536) (hn : names.length < n) :
    iterate (serverNameRound (pre++names.flatMap serverNameEntry)
      (pre++names.flatMap serverNameEntry).length) n pre.length = .ok (firstHostName names) := by
  induction names generalizing pre n with
  | nil =>
    obtain ⟨m,rfl⟩ := Nat.exists_eq_add_of_lt hn
    exact iterate_done (by simp [serverNameRound,firstHostName])
  | cons x xs ih =>
    cases n with
    | zero => simp at hn
    | succ n =>
      have hr := serverNameRound_wire pre (xs.flatMap serverNameEntry) x (hfits x (by simp))
      rw [List.flatMap_cons,← List.append_assoc]
      by_cases hx : x.1 = 0
      · rw [if_pos hx] at hr
        rw [iterate_done hr]
        simp [firstHostName,hx]
      · rw [if_neg hx] at hr
        rw [iterate_next hr]
        have := ih (pre++serverNameEntry x) (fun y hy => hfits y (by simp [hy]))
          (by simpa using hn : xs.length < n)
        simpa [firstHostName,hx] using this

theorem parseServerName_wire {names : List (UInt8 × Bytes)}
    (hfits : (names.flatMap serverNameEntry).length < 65536) :
    parseServerName (encodeServerNames names) = .ok (firstHostName names) := by
  have hlen : (encodeServerNames names).length = 2+(names.flatMap serverNameEntry).length := by
    simp [encodeServerNames]
  have hat : uint16At (encodeServerNames names) 0 =
      .ok (UInt16.ofNat (names.flatMap serverNameEntry).length) := uint16At_vec16 hfits
  have hn : (UInt16.ofNat (names.flatMap serverNameEntry).length).toNat =
      (names.flatMap serverNameEntry).length := UInt16.toNat_ofNat_of_lt hfits
  have hcount : names.length ≤ (names.flatMap serverNameEntry).length :=
    length_le_flatMap (fun x => by simp; omega) names
  have hname : ∀ x ∈ names, x.2.length < 65536 := by
    intro x hx
    have := item_le_flatMap serverNameEntry hx
    simp only [serverNameEntry_length] at this
    omega
  have hloop := serverNames_loop names (put16 (names.flatMap serverNameEntry).length)
    (n:=(encodeServerNames names).length+1) hname (by omega)
  change iterate (serverNameRound (encodeServerNames names) (encodeServerNames names).length) _ 2 =
    _ at hloop
  have hge : ¬ (encodeServerNames names).length < 2 := by omega
  have hin : ¬ (names.flatMap serverNameEntry).length > (encodeServerNames names).length-2 := by
    omega
  rw [hlen] at hloop
  simp only [parseServerName,hge,if_false,hat,ok_bind,hn,hin]
  rwa [hlen]

end WireForms

end ClientHello
end AntiScrapling
