import AntiScrapling.ClientHello

/-! Where a ClientHello ends (`clientHelloBody`, `handshakeBody`).  The two length fields in
front of it delimit it: a proper part is refused, and bytes behind it are not looked at. -/
namespace AntiScrapling
namespace ClientHello

open CheckedRun ByteCodec

section Delimited
variable {α β : Type}

/-- The reader takes exactly `p`: whatever follows it is not read, and less is an error. -/
structure Delimits (read : Bytes → Run α) (p : Bytes) (a : α) : Prop where
  complete : ∀ post, read (p++post) = .ok a
  truncated : ∀ q, q <+: p → q ≠ p → ∃ msg, read q = fail msg

theorem Delimits.bind {read : Bytes → Run α} {p : Bytes} {a : α} (h : Delimits read p a)
    {f : α → Run β} {b : β} (hf : f a = .ok b) : Delimits (fun raw => read raw >>= f) p b where
  complete post := by rw [h.complete,ok_bind,hf]
  truncated q hq hne := by
    obtain ⟨msg,hmsg⟩ := h.truncated q hq hne
    exact ⟨msg,by rw [hmsg,fail,error_bind,fail]⟩

end Delimited

section Handshake

/-- The length that the header of a handshake message gives. -/
def handshakeLength (b₁ b₂ b₃ : UInt8) : ℕ := b₁.toNat*65536+b₂.toNat*256+b₃.toNat

theorem handshakeBody_short {handshake : Bytes} (h : handshake.length < 4) :
    ∃ msg, handshakeBody handshake = fail msg := by
  rw [handshakeBody,if_pos h]
  exact ⟨_,rfl⟩

theorem handshakeBody_ok (b₁ b₂ b₃ : UInt8) {rest : Bytes} (h : handshakeLength b₁ b₂ b₃ ≤ rest.length) :
    handshakeBody (clientHelloType::b₁::b₂::b₃::rest) = .ok (rest.take (handshakeLength b₁ b₂ b₃)) := by
  unfold handshakeLength at h ⊢
  rw [handshakeBody,if_neg (by simp)]
  simp only [byteAt,List.getElem?_cons_zero,List.getElem?_cons_succ,ok_bind,ne_eq,not_true_eq_false,if_false]
  rw [if_neg (by simp only [List.length_cons]; omega),
    slice_total (by omega) (by simp only [List.length_cons]; omega)]
  simp

theorem handshakeBody_truncated (b₁ b₂ b₃ : UInt8) {rest : Bytes}
    (h : rest.length < handshakeLength b₁ b₂ b₃) :
    ∃ msg, handshakeBody (clientHelloType::b₁::b₂::b₃::rest) = fail msg := by
  unfold handshakeLength at h
  rw [handshakeBody,if_neg (by simp)]
  simp only [byteAt,List.getElem?_cons_zero,List.getElem?_cons_succ,ok_bind,ne_eq,not_true_eq_false,if_false]
  rw [if_pos (by simp only [List.length_cons]; omega)]
  exact ⟨_,rfl⟩

theorem handshakeBody_type {b₀ : UInt8} (h : b₀ ≠ clientHelloType) (rest : Bytes) :
    ∃ msg, handshakeBody (b₀::rest) = fail msg := by
  by_cases hshort : (b₀::rest).length < 4
  · exact handshakeBody_short hshort
  · rw [handshakeBody,if_neg hshort]
    simp only [byteAt,List.getElem?_cons_zero,ok_bind]
    rw [if_pos h]
    exact ⟨_,rfl⟩

/-- An accepted message starts with a header and has as many bytes as that says. -/
theorem handshakeBody_eq_ok {handshake body : Bytes} (h : handshakeBody handshake = .ok body) :
    ∃ b₁ b₂ b₃ rest, handshake = clientHelloType::b₁::b₂::b₃::rest ∧
      handshakeLength b₁ b₂ b₃ ≤ rest.length ∧ body = rest.take (handshakeLength b₁ b₂ b₃) := by
  have hok : ¬ ∃ msg, handshakeBody handshake = fail msg := by
    rintro ⟨msg,hmsg⟩
    exact fail_ne_ok (hmsg.symm.trans h)
  rcases handshake with _ | ⟨b₀,_ | ⟨b₁,_ | ⟨b₂,_ | ⟨b₃,rest⟩⟩⟩⟩
  iterate 4 exact absurd (handshakeBody_short (by simp)) hok
  by_cases htype : b₀ = clientHelloType
  · subst htype
    rcases Nat.lt_or_ge rest.length (handshakeLength b₁ b₂ b₃) with hcut | hlen
    · exact absurd (handshakeBody_truncated b₁ b₂ b₃ hcut) hok
    · rw [handshakeBody_ok b₁ b₂ b₃ hlen] at h
      exact ⟨b₁,b₂,b₃,rest,rfl,hlen,(Except.ok.inj h).symm⟩
  · exact absurd (handshakeBody_type htype _) hok

/-- A proper part of a message with all its bytes is shorter than its header or than its length. -/
theorem handshakeBody_delimits (b₁ b₂ b₃ : UInt8) {body : Bytes}
    (h : body.length = handshakeLength b₁ b₂ b₃) :
    Delimits handshakeBody (clientHelloType::b₁::b₂::b₃::body) body where
  complete post := by
    have hlen : handshakeLength b₁ b₂ b₃ ≤ (body++post).length := by
      rw [List.length_append]
      omega
    have := handshakeBody_ok b₁ b₂ b₃ hlen
    rwa [← h,List.take_left] at this
  truncated q hq hne := by
    obtain ⟨missing,hsplit⟩ := hq
    have hmissing : missing ≠ [] := by
      rintro rfl
      exact hne (by rwa [List.append_nil] at hsplit)
    rcases q with _ | ⟨c₀,_ | ⟨c₁,_ | ⟨c₂,_ | ⟨c₃,part⟩⟩⟩⟩
    iterate 4 exact handshakeBody_short (by simp)
    simp only [List.cons_append,List.cons.injEq] at hsplit
    obtain ⟨rfl,rfl,rfl,rfl,hpart⟩ := hsplit
    apply handshakeBody_truncated
    have hpos := List.length_pos_iff.mpr hmissing
    rw [← h,← hpart,List.length_append]
    omega

end Handshake

section Record

theorem clientHelloBody_nil : ∃ msg, clientHelloBody [] = fail msg := ⟨_,rfl⟩

/-- What does not start like a record is a bare message. -/
theorem clientHelloBody_bare {b₀ : UInt8} (h : b₀ ≠ tlsHandshakeRecordType) (rest : Bytes) :
    clientHelloBody (b₀::rest) = handshakeBody (b₀::rest) := by
  rw [clientHelloBody,if_neg (by simp)]
  split_ifs with hlen
  · simp only [byteAt,List.getElem?_cons_zero,ok_bind]
    rw [if_neg h]
  · rfl

theorem clientHelloBody_short {rest : Bytes} (h : rest.length < 4) :
    ∃ msg, clientHelloBody (tlsHandshakeRecordType::rest) = fail msg := by
  rw [clientHelloBody,if_neg (by simp),if_neg (by simp only [List.length_cons]; omega)]
  exact handshakeBody_type (by decide) rest

def recordLength (hi lo : UInt8) : ℕ := hi.toNat*256+lo.toNat

theorem uint16At_recordLength (major minor hi lo : UInt8) (rest : Bytes) :
    ∃ v, uint16At (tlsHandshakeRecordType::major::minor::hi::lo::rest) 3 = .ok v ∧
      v.toNat = recordLength hi lo := by
  have hhi := hi.toNat_lt
  have hlo := lo.toNat_lt
  refine ⟨UInt16.ofNat (recordLength hi lo),by simp [uint16At,slice,ok_bind,uint16,recordLength],?_⟩
  apply UInt16.toNat_ofNat_of_lt
  change recordLength hi lo < 65536
  unfold recordLength
  omega

theorem clientHelloBody_ok (major minor hi lo : UInt8) {rest : Bytes}
    (h : recordLength hi lo ≤ rest.length) :
    clientHelloBody (tlsHandshakeRecordType::major::minor::hi::lo::rest) =
      handshakeBody (rest.take (recordLength hi lo)) := by
  obtain ⟨v,hat,hv⟩ := uint16At_recordLength major minor hi lo rest
  rw [clientHelloBody,if_neg (by simp),if_pos (by simp)]
  simp only [byteAt,List.getElem?_cons_zero,ok_bind,if_true,hat,hv]
  rw [if_neg (by simp only [List.length_cons]; omega),
    slice_total (by omega) (by simp only [List.length_cons]; omega),ok_bind]
  simp

theorem clientHelloBody_truncated (major minor hi lo : UInt8) {rest : Bytes}
    (h : rest.length < recordLength hi lo) :
    ∃ msg, clientHelloBody (tlsHandshakeRecordType::major::minor::hi::lo::rest) = fail msg := by
  obtain ⟨v,hat,hv⟩ := uint16At_recordLength major minor hi lo rest
  rw [clientHelloBody,if_neg (by simp),if_pos (by simp)]
  simp only [byteAt,List.getElem?_cons_zero,ok_bind,if_true,hat,hv]
  rw [if_pos (by simp only [List.length_cons]; omega)]
  exact ⟨_,rfl⟩

theorem clientHelloBody_delimits_record (major minor hi lo : UInt8) {payload body : Bytes}
    (h : payload.length = recordLength hi lo) (hbody : handshakeBody payload = .ok body) :
    Delimits clientHelloBody (tlsHandshakeRecordType::major::minor::hi::lo::payload) body where
  complete post := by
    have hlen : recordLength hi lo ≤ (payload++post).length := by
      rw [List.length_append]
      omega
    have := clientHelloBody_ok major minor hi lo hlen
    rwa [← h,List.take_left,hbody] at this
  truncated q hq hne := by
    obtain ⟨missing,hsplit⟩ := hq
    have hmissing : missing ≠ [] := by
      rintro rfl
      exact hne (by rwa [List.append_nil] at hsplit)
    rcases q with _ | ⟨c₀,q⟩
    · exact clientHelloBody_nil
    rw [List.cons_append,List.cons.injEq] at hsplit
    obtain ⟨rfl,hsplit⟩ := hsplit
    rcases q with _ | ⟨c₁,_ | ⟨c₂,_ | ⟨c₃,_ | ⟨c₄,part⟩⟩⟩⟩
    iterate 4 exact clientHelloBody_short (by simp)
    simp only [List.cons_append,List.cons.injEq] at hsplit
    obtain ⟨rfl,rfl,rfl,rfl,hpart⟩ := hsplit
    apply clientHelloBody_truncated
    have hpos := List.length_pos_iff.mpr hmissing
    rw [← h,← hpart,List.length_append]
    omega

theorem clientHelloBody_delimits_bare (b₁ b₂ b₃ : UInt8) {body : Bytes}
    (h : body.length = handshakeLength b₁ b₂ b₃) :
    Delimits clientHelloBody (clientHelloType::b₁::b₂::b₃::body) body where
  complete post := by
    rw [List.cons_append,clientHelloBody_bare (by decide)]
    exact (handshakeBody_delimits b₁ b₂ b₃ h).complete post
  truncated q hq hne := by
    rcases q with _ | ⟨c₀,q⟩
    · exact clientHelloBody_nil
    · obtain rfl : c₀ = clientHelloType := (List.cons_prefix_cons.mp hq).1
      rw [clientHelloBody_bare (by decide)]
      exact (handshakeBody_delimits b₁ b₂ b₃ h).truncated _ hq hne

/-- An accepted byte string is a bare message, or a record with a message in it. -/
theorem clientHelloBody_eq_ok {raw body : Bytes} (h : clientHelloBody raw = .ok body) :
    (raw.head? = some clientHelloType ∧ handshakeBody raw = .ok body) ∨
    ∃ major minor hi lo rest, raw = tlsHandshakeRecordType::major::minor::hi::lo::rest ∧
      recordLength hi lo ≤ rest.length ∧ handshakeBody (rest.take (recordLength hi lo)) = .ok body := by
  have hok : ¬ ∃ msg, clientHelloBody raw = fail msg := by
    rintro ⟨msg,hmsg⟩
    exact fail_ne_ok (hmsg.symm.trans h)
  rcases raw with _ | ⟨b₀,raw⟩
  · exact absurd clientHelloBody_nil hok
  by_cases hrecord : b₀ = tlsHandshakeRecordType
  · subst hrecord
    rcases raw with _ | ⟨major,_ | ⟨minor,_ | ⟨hi,_ | ⟨lo,rest⟩⟩⟩⟩
    iterate 4 exact absurd (clientHelloBody_short (by simp)) hok
    rcases Nat.lt_or_ge rest.length (recordLength hi lo) with hcut | hlen
    · exact absurd (clientHelloBody_truncated major minor hi lo hcut) hok
    · rw [clientHelloBody_ok major minor hi lo hlen] at h
      exact .inr ⟨major,minor,hi,lo,rest,rfl,hlen,h⟩
  · rw [clientHelloBody_bare hrecord] at h
    obtain ⟨b₁,b₂,b₃,rest,hraw,-⟩ := handshakeBody_eq_ok h
    exact .inl ⟨by rw [hraw]; rfl,h⟩

theorem clientHelloBody_delimited {raw body : Bytes} (h : clientHelloBody raw = .ok body) :
    ∃ p, p <+: raw ∧ Delimits clientHelloBody p body := by
  rcases clientHelloBody_eq_ok h with ⟨-,hmessage⟩ | ⟨major,minor,hi,lo,rest,rfl,hlen,hmessage⟩
  · obtain ⟨b₁,b₂,b₃,rest,rfl,hlen,rfl⟩ := handshakeBody_eq_ok hmessage
    refine ⟨clientHelloType::b₁::b₂::b₃::rest.take (handshakeLength b₁ b₂ b₃),?_,
      clientHelloBody_delimits_bare b₁ b₂ b₃ ?_⟩
    · simpa using List.take_prefix _ rest
    · rw [List.length_take,Nat.min_eq_left hlen]
  · refine ⟨tlsHandshakeRecordType::major::minor::hi::lo::rest.take (recordLength hi lo),?_,
      clientHelloBody_delimits_record major minor hi lo ?_ hmessage⟩
    · simpa using List.take_prefix _ rest
    · rw [List.length_take,Nat.min_eq_left hlen]

end Record

/-- Every accepted byte string starts with one that is accepted as it is, that is refused if
any bytes are missing at its end, and whose ClientHello does not change with what follows. -/
theorem parseClientHello_delimited {raw : Bytes} {hello : Hello} (h : parseClientHello raw = .ok hello) :
    ∃ p, p <+: raw ∧ parseClientHello p = .ok hello ∧
      (∀ q, q <+: p → q ≠ p → ∃ msg, parseClientHello q = fail msg) ∧
      ∀ post, parseClientHello (p++post) = .ok hello := by
  obtain ⟨body,hbody,hrest⟩ := bind_eq_ok.mp h
  obtain ⟨p,hp,hdelimits⟩ := clientHelloBody_delimited hbody
  have hparse : Delimits parseClientHello p hello := hdelimits.bind hrest
  refine ⟨p,hp,?_,hparse.truncated,hparse.complete⟩
  have := hparse.complete []
  rwa [List.append_nil] at this

/-- A message without cipher suites and extensions, and the start of another record. -/
def plainMessage : Bytes := [1,0,0,38,3,3]++List.replicate 32 7++[0,0,0,0]++[23,3,3]

theorem parseClientHello_delimited_plain : ∃ p hello, p <+: plainMessage ∧
    (∀ q, q <+: p → q ≠ p → ∃ msg, parseClientHello q = fail msg) ∧
    ∀ post, parseClientHello (p++post) = .ok hello := by
  have hok : parseClientHello plainMessage = .ok ⟨0x0303,List.replicate 32 7,[],[],[],[],[],[],[],[],[],[]⟩ := by
    decide +kernel
  obtain ⟨p,hp,-,htruncated,hpost⟩ := parseClientHello_delimited hok
  exact ⟨p,_,hp,htruncated,hpost⟩

end ClientHello
end AntiScrapling
