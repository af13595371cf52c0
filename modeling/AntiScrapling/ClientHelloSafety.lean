import AntiScrapling.ExtensionParsers

/-! The ClientHello parser on arbitrary bytes: it stays inside the record, its loops
move forward, and it ends with a ClientHello or with a reported error. -/
namespace AntiScrapling
namespace ClientHello

open CheckedRun ByteCodec ByteReader

section Rounds

theorem uint16Round_advances (data : Bytes) (stop : ℕ) :
    Advances Prod.fst (uint16Round data stop) := by
  intro s s' h
  unfold uint16Round at h
  split_ifs at h
  · obtain ⟨v,_,h⟩ := bind_eq_ok.mp h
    cases h
    simp
  · cases h

theorem serverNameRound_advances (data : Bytes) (stop : ℕ) :
    Advances id (serverNameRound data stop) := by
  intro off off' h
  unfold serverNameRound at h
  split_ifs at h
  · cases h
  · obtain ⟨nameType,_,h⟩ := bind_eq_ok.mp h
    obtain ⟨nameLen,_,h⟩ := bind_eq_ok.mp h
    simp only at h
    split_ifs at h
    · cases h
    · obtain ⟨name,_,h⟩ := bind_eq_ok.mp h
      cases h
    · cases h
      simp only [id]
      omega
  · cases h

theorem takeProtocol_advances {data : Bytes} {off n : ℕ} {acc : List Bytes} {s' : ℕ × List Bytes}
    (h : takeProtocol data off n acc = .ok (.inl s')) : off ≤ s'.1 := by
  unfold takeProtocol at h
  split_ifs at h
  · cases h
  · obtain ⟨name,_,h⟩ := bind_eq_ok.mp h
    cases h
    simp

theorem alpnStandardRound_advances (data : Bytes) : Advances Prod.fst (alpnStandardRound data) := by
  intro s s' h
  unfold alpnStandardRound at h
  split_ifs at h
  · obtain ⟨n,_,h⟩ := bind_eq_ok.mp h
    have := takeProtocol_advances h
    omega
  · cases h

theorem alpnTwoByteRound_advances (data : Bytes) : Advances Prod.fst (alpnTwoByteRound data) := by
  intro s s' h
  unfold alpnTwoByteRound at h
  split_ifs at h
  · cases h
  · obtain ⟨n,_,h⟩ := bind_eq_ok.mp h
    have := takeProtocol_advances h
    omega
  · cases h

theorem readExtension_safe (r : ByteReader) :
    Safe (readExtension r) fun p =>
      p.2.data = r.data ∧ r.off+4 ≤ p.2.off ∧ p.2.off ≤ p.2.data.length := by
  apply (uint16_safe r).wrap.bind
  rintro ⟨kind,r₁⟩ ⟨rfl,_⟩
  apply (uint16_safe _).wrap.bind
  rintro ⟨len,r₂⟩ ⟨rfl,_⟩
  apply (bytes_safe _ len.toNat).wrap.bind
  rintro ⟨data,r₃⟩ ⟨rfl,_,hin⟩
  simp only [ByteReader.advance,safe_ok] at hin ⊢
  exact ⟨trivial,by omega,hin⟩

theorem parseKnownExtension_total (hello : Hello) (e : Extension) :
    ∃ hello', parseKnownExtension hello e = .ok hello' := by
  unfold parseKnownExtension
  split_ifs
  · exact total_bind (parseServerName_total e.data) fun _ => ⟨_,rfl⟩
  · exact total_bind (parseUint16Vector16_total e.data) fun _ => ⟨_,rfl⟩
  · exact total_bind (parseUint8Vector8_total e.data) fun _ => ⟨_,rfl⟩
  · exact total_bind (parseUint16Vector16_total e.data) fun _ => ⟨_,rfl⟩
  · exact total_bind (parseALPN_total e.data) fun _ => ⟨_,rfl⟩
  · exact total_bind (parseSupportedVersions_total e.data) fun _ => ⟨_,rfl⟩
  · exact ⟨hello,rfl⟩

theorem extensionRound_safe (s : ByteReader × Hello) :
    Safe (extensionRound s) (Progress (fun _ => True) (fun s => s.1.data.length-s.1.off)
      (fun _ => True) s) := by
  unfold extensionRound
  split_ifs with hrem
  · apply (readExtension_safe s.1).bind
    rintro ⟨e,r⟩ ⟨hdata,hoff,hin⟩
    apply (safe_of_total (parseKnownExtension_total _ e)).bind
    rintro hello -
    simp only [ByteReader.remaining,safe_ok,Progress,true_and] at hrem hdata hoff hin ⊢
    rw [hdata] at hin ⊢
    omega
  · trivial

theorem extensionRound_advances :
    Advances (fun s : ByteReader × Hello => s.1.off) extensionRound := by
  intro s s' h
  unfold extensionRound at h
  split_ifs at h
  · obtain ⟨⟨e,r⟩,hread,h⟩ := bind_eq_ok.mp h
    obtain ⟨hello,_,h⟩ := bind_eq_ok.mp h
    cases h
    have hsafe := readExtension_safe s.1
    rw [hread] at hsafe
    have := hsafe.2.1
    simp only at this ⊢
    omega
  · cases h

end Rounds

section WholeParser

theorem parseExtensions_safe (hello : Hello) (data : Bytes) :
    Safe (parseExtensions hello data) fun _ => True :=
  safe_iterate (fun s => s.1.data.length-s.1.off) (fun s _ => extensionRound_safe s) trivial
    (by simp only; omega)

theorem readExtensions_safe (hello : Hello) (r : ByteReader) :
    Safe (readExtensions hello r) fun _ => True := by
  unfold readExtensions
  split_ifs
  · trivial
  · apply (uint16_safe r).wrap.bind
    rintro ⟨len,r₁⟩ -
    apply (bytes_safe r₁ len.toNat).wrap.bind
    rintro ⟨data,r₂⟩ -
    simp only
    split_ifs
    · exact safe_fail
    · exact parseExtensions_safe hello data

theorem readFields_safe (r : ByteReader) : Safe (readFields r) fun _ => True := by
  apply (uint16_safe r).wrap.bind
  rintro ⟨version,r⟩ -
  apply (bytes_safe r 32).wrap.bind
  rintro ⟨random,r⟩ -
  apply (uint8_safe r).wrap.bind
  rintro ⟨sessionIDLen,r⟩ -
  apply (bytes_safe r sessionIDLen.toNat).wrap.bind
  rintro ⟨sessionID,r⟩ -
  apply (uint16_safe r).wrap.bind
  rintro ⟨cipherBytesLen,r⟩ -
  simp only
  split_ifs with hodd
  · exact safe_fail
  · apply (bytes_safe r cipherBytesLen.toNat).wrap.bind
    rintro ⟨cipherBytes,r⟩ ⟨-,hlen,-⟩
    -- the check on the length makes the last read of two bytes fit
    have hvalues : ∃ vs, uint16Values cipherBytes 0 cipherBytes.length = .ok vs :=
      uint16Values_total (Nat.zero_le _) le_rfl (by simp only at hlen; omega)
    apply (safe_of_total hvalues).bind
    rintro cipherSuites -
    apply (uint8_safe r).wrap.bind
    rintro ⟨compressionLen,r⟩ -
    apply (bytes_safe r compressionLen.toNat).wrap.bind
    rintro ⟨compressionMethods,r⟩ -
    trivial

theorem handshakeBody_safe (handshake : Bytes) : Safe (handshakeBody handshake) fun _ => True := by
  unfold handshakeBody
  split_ifs with hlen
  · exact safe_fail
  · obtain ⟨kind,hkind⟩ := byteAt_total handshake (i:=0) (by omega)
    obtain ⟨b₁,h₁⟩ := byteAt_total handshake (i:=1) (by omega)
    obtain ⟨b₂,h₂⟩ := byteAt_total handshake (i:=2) (by omega)
    obtain ⟨b₃,h₃⟩ := byteAt_total handshake (i:=3) (by omega)
    simp only [hkind,h₁,h₂,h₃,ok_bind]
    split_ifs with hk hshort
    · exact safe_fail
    · exact safe_fail
    · exact safe_of_total ⟨_,slice_total (by omega) (by omega)⟩

theorem clientHelloBody_safe (raw : Bytes) : Safe (clientHelloBody raw) fun _ => True := by
  unfold clientHelloBody
  split_ifs with hempty hlen
  · exact safe_fail
  · obtain ⟨kind,hkind⟩ := byteAt_total raw (i:=0) (by omega)
    obtain ⟨recordLen,hrec⟩ := uint16At_total raw (i:=3) (by omega)
    simp only [hkind,hrec,ok_bind]
    split_ifs with hk hshort
    · exact safe_fail
    · rw [slice_total (by omega) (by omega)]
      exact handshakeBody_safe _
    · exact handshakeBody_safe raw
  · exact handshakeBody_safe raw

theorem parseClientHello_safe (raw : Bytes) : Safe (parseClientHello raw) fun _ => True := by
  apply (clientHelloBody_safe raw).bind
  rintro body -
  apply (readFields_safe _).bind
  rintro ⟨hello,r⟩ -
  exact readExtensions_safe hello r

/-- On every byte string the parser returns a ClientHello or an error, and each of
its loops moves its offset forward in every round that goes on. -/
theorem parseClientHello_returns (raw : Bytes) :
    ((∃ hello, parseClientHello raw = .ok hello) ∨ ∃ msg, parseClientHello raw = fail msg) ∧
      (∀ data stop, Advances Prod.fst (uint16Round data stop)) ∧
      (∀ data stop, Advances id (serverNameRound data stop)) ∧
      (∀ data, Advances Prod.fst (alpnStandardRound data)) ∧
      (∀ data, Advances Prod.fst (alpnTwoByteRound data)) ∧
      Advances (fun s : ByteReader × Hello => s.1.off) extensionRound := by
  refine ⟨?_,uint16Round_advances,serverNameRound_advances,alpnStandardRound_advances,
    alpnTwoByteRound_advances,extensionRound_advances⟩
  rcases (parseClientHello_safe raw).value_or_error with ⟨hello,h,-⟩ | h
  · exact .inl ⟨hello,h⟩
  · exact .inr h

end WholeParser

end ClientHello
end AntiScrapling
