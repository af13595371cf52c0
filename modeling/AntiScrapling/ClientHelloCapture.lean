import AntiScrapling.ClientHelloWire

/-! The recorder of `internal/server/clienthello.go` in front of the ClientHello parser.
A connection hands every chunk it reads to the recorder, which keeps the first
bytes of the stream; the parser later sees the first TLS record of them. -/
namespace AntiScrapling
namespace ClientHelloCapture

open CheckedRun ByteCodec ClientHello

def maxClientHelloBytes : ℕ := 8 <<< 10

/-- A connection with the bytes recorded from its early reads. -/
structure WrappedConn where
  raw : Bytes := []
  bounded : raw.length ≤ maxClientHelloBytes := by decide

/-- What `record` leaves in the buffer. -/
def recorded (raw data : Bytes) : Bytes :=
  if raw.length ≥ maxClientHelloBytes then raw
  else
    let remaining := maxClientHelloBytes-raw.length
    if data.length > remaining then raw++data.take remaining else raw++data

theorem recorded_eq_take {raw : Bytes} (h : raw.length ≤ maxClientHelloBytes) (data : Bytes) :
    recorded raw data = (raw++data).take maxClientHelloBytes := by
  have hraw : raw.take maxClientHelloBytes = raw := List.take_of_length_le h
  simp only [recorded,List.take_append,hraw]
  split_ifs with hfull hcut
  · have hz : maxClientHelloBytes-raw.length = 0 := by omega
    simp [hz]
  · rfl
  · rw [List.take_of_length_le (by omega)]

def WrappedConn.record (c : WrappedConn) (data : Bytes) : WrappedConn where
  raw := recorded c.raw data
  bounded := by
    rw [recorded_eq_take c.bounded,List.length_take]
    exact Nat.min_le_left _ _

/-- A `Read` that returned the bytes `p`. -/
def WrappedConn.read (c : WrappedConn) (p : Bytes) : WrappedConn :=
  if p.length > 0 then c.record p else c

def afterReads (reads : List Bytes) : WrappedConn := reads.foldl WrappedConn.read {}

/-- The first TLS record of the recorded bytes, or all of them. -/
def WrappedConn.rawClientHello (c : WrappedConn) : Run Bytes :=
  if c.raw.length ≥ 5 then do
    let kind ← byteAt c.raw 0
    if kind = 0x16 then
      let recordLen := (← uint16At c.raw 3).toNat
      if c.raw.length ≥ 5+recordLen then slice c.raw 0 (5+recordLen)
      else .ok c.raw
    else .ok c.raw
  else .ok c.raw

/-- `ParseClientHello(RawClientHello())` after a sequence of reads. -/
def parseCaptured (reads : List Bytes) : Run Hello := do
  parseClientHello (← (afterReads reads).rawClientHello)

section Recorder

theorem read_raw (c : WrappedConn) (p : Bytes) :
    (c.read p).raw = (c.raw++p).take maxClientHelloBytes := by
  unfold WrappedConn.read
  split_ifs with hp
  · exact recorded_eq_take c.bounded p
  · have hnil : p = [] := List.length_eq_zero_iff.mp (by omega)
    rw [hnil,List.append_nil,List.take_of_length_le c.bounded]

theorem foldl_read_raw (reads : List Bytes) (c : WrappedConn) :
    (reads.foldl WrappedConn.read c).raw = (c.raw++reads.flatten).take maxClientHelloBytes := by
  induction reads generalizing c with
  | nil => simpa using (List.take_of_length_le c.bounded).symm
  | cons p reads ih =>
    have hcut : ∀ xs ys : Bytes, ((xs.take maxClientHelloBytes)++ys).take maxClientHelloBytes =
        (xs++ys).take maxClientHelloBytes := by
      intro xs ys
      simp only [List.take_append,List.take_take,Nat.min_self,List.length_take]
      congr 2
      omega
    rw [List.foldl_cons,ih,read_raw,hcut,List.flatten_cons,List.append_assoc]

theorem afterReads_raw (reads : List Bytes) :
    (afterReads reads).raw = reads.flatten.take maxClientHelloBytes := by
  rw [afterReads,foldl_read_raw,List.nil_append]

theorem rawClientHello_cons {c : WrappedConn} {major minor hi lo : UInt8} {rest : Bytes}
    (hraw : c.raw = tlsHandshakeRecordType::major::minor::hi::lo::rest) :
    c.rawClientHello =
      .ok (if recordLength hi lo ≤ rest.length then c.raw.take (5+recordLength hi lo) else c.raw) := by
  obtain ⟨v,hat,hv⟩ := uint16At_recordLength major minor hi lo rest
  have hb : byteAt c.raw 0 = .ok 0x16 := by rw [hraw]; rfl
  have hlength : c.raw.length = 5+rest.length := by simp [hraw]; omega
  rw [← hraw] at hat
  rw [WrappedConn.rawClientHello,if_pos (by omega)]
  simp only [hb,ok_bind,if_true,hat,hv]
  by_cases hlen : recordLength hi lo ≤ rest.length
  · rw [if_pos (by omega),if_pos hlen,slice_upto (by omega)]
  · rw [if_neg (by omega),if_neg hlen]

theorem rawClientHello_record {c : WrappedConn} {major minor : UInt8} {payload post : Bytes}
    (hraw : c.raw = tlsRecord major minor payload++post) (hlen : payload.length < 65536) :
    c.rawClientHello = .ok (tlsRecord major minor payload) := by
  obtain ⟨hi,lo,hn⟩ := exists_recordLength hlen
  have hrecord := tlsRecord_eq hn major minor
  have hlength : (tlsRecord major minor payload).length = 5+recordLength hi lo := by
    rw [hrecord,← hn]
    simp only [List.length_cons]
    omega
  have hcons : c.raw = tlsHandshakeRecordType::major::minor::hi::lo::(payload++post) := by
    rw [hraw,hrecord]
    rfl
  rw [rawClientHello_cons hcons,if_pos (by rw [List.length_append]; omega),hraw,← hlength,List.take_left]

/-- However a stream is cut into reads, its first bytes are recorded; and once the first
record has been read, it is handed out, and reads after it change nothing. -/
theorem rawClientHello_stable (reads : List Bytes) :
    (afterReads reads).raw = reads.flatten.take (min maxClientHelloBytes reads.flatten.length) ∧
    ∀ (major minor hi lo : UInt8) (rest : Bytes), reads.flatten = 0x16::major::minor::hi::lo::rest →
      5+recordLength hi lo ≤ maxClientHelloBytes → 5+recordLength hi lo ≤ reads.flatten.length →
      ∀ later, (afterReads (reads++later)).rawClientHello =
        .ok (reads.flatten.take (5+recordLength hi lo)) := by
  constructor
  · rw [afterReads_raw,List.take_eq_take_min]
  · intro major minor hi lo rest hstream hfits hread later
    have hmax : maxClientHelloBytes = 8192 := rfl
    have hraw : (afterReads (reads++later)).raw =
        0x16::major::minor::hi::lo::(rest++later.flatten).take (maxClientHelloBytes-5) := by
      rw [afterReads_raw,List.flatten_append,hstream]
      rfl
    have hlength : reads.flatten.length = 5+rest.length := by
      rw [hstream]
      simp only [List.length_cons]
      omega
    rw [rawClientHello_cons hraw,if_pos (by rw [List.length_take,List.length_append]; omega),afterReads_raw,
      List.take_take,Nat.min_eq_left hfits,List.flatten_append,List.take_append_of_le_length hread]

/-- A record of two bytes, read in three parts, the last with a byte of the next record. -/
theorem rawClientHello_stable_small :
    (afterReads ([[0x16,3],[1,0,2,9],[9,0x17]]++[[3,3],[0]])).rawClientHello = .ok [0x16,3,1,0,2,9,9] :=
  (rawClientHello_stable [[0x16,3],[1,0,2,9],[9,0x17]]).2 3 1 0 2 [9,9,0x17] rfl (by decide) (by decide) _

end Recorder

section Fragmentation

/-- One TLS handshake record with a part of the handshake message. -/
structure Fragment where
  major : UInt8
  minor : UInt8
  payload : Bytes
  fits : payload.length < 65536

def Fragment.record (f : Fragment) : Bytes := tlsRecord f.major f.minor f.payload

/-- The whole message is in the first record, and that record fits the recorder. -/
def InFirstRecord (fragments : List Fragment) (message : Bytes) : Prop :=
  ∃ f rest, fragments = f::rest ∧ f.payload = message ∧
    5+message.length ≤ maxClientHelloBytes

theorem handshakeBody_part {body part rest : Bytes} (hlen : body.length < 16777216)
    (hpart : part++rest = handshakeMessage body) (hrest : rest ≠ []) :
    ∃ msg, handshakeBody part = fail msg := by
  refine (handshakeMessage_delimits hlen).truncated part ⟨rest,hpart⟩ fun heq => hrest ?_
  rw [← heq] at hpart
  exact List.append_right_eq_self.mp hpart

theorem parseClientHello_cut {c : WrappedConn} {major minor hi lo : UInt8} {rest : Bytes}
    (hraw : c.raw = tlsHandshakeRecordType::major::minor::hi::lo::rest)
    (hcut : rest.length < recordLength hi lo) :
    ∃ msg, (do parseClientHello (← c.rawClientHello) : Run Hello) = fail msg := by
  obtain ⟨msg,hmsg⟩ := clientHelloBody_truncated major minor hi lo hcut
  rw [rawClientHello_cons hraw,if_neg (Nat.not_le.mpr hcut),ok_bind,hraw,parseClientHello,hmsg]
  exact ⟨msg,rfl⟩

theorem clientHelloBody_fragment (f : Fragment) :
    clientHelloBody f.record = handshakeBody f.payload := by
  simpa [Fragment.record] using clientHelloBody_tlsRecord f.major f.minor [] f.fits

theorem parseCaptured_record {reads : List Bytes} {f : Fragment} {later : Bytes}
    (hreads : reads.flatten = f.record++later)
    (hfits : 5+f.payload.length ≤ maxClientHelloBytes) :
    parseCaptured reads = parseClientHello f.record := by
  have hrec : f.record.length = 5+f.payload.length := by
    simp [Fragment.record,tlsRecord]
    omega
  have hraw : (afterReads reads).raw = f.record++later.take (maxClientHelloBytes-f.record.length) := by
    rw [afterReads_raw,hreads,List.take_append,List.take_of_length_le (by omega)]
  rw [parseCaptured,rawClientHello_record hraw f.fits]
  rfl

theorem parseCaptured_cut {reads : List Bytes} {f : Fragment} {later : Bytes}
    (hreads : reads.flatten = f.record++later)
    (hcut : maxClientHelloBytes < 5+f.payload.length) :
    ∃ msg, parseCaptured reads = fail msg := by
  obtain ⟨hi,lo,hn⟩ := exists_recordLength f.fits
  have hraw : (afterReads reads).raw = tlsHandshakeRecordType::f.major::f.minor::hi::lo::
      (f.payload++later).take (maxClientHelloBytes-5) := by
    rw [afterReads_raw,hreads,Fragment.record,tlsRecord_eq hn]
    rfl
  refine parseClientHello_cut hraw ?_
  have hmax : maxClientHelloBytes = 8192 := rfl
  rw [List.length_take]
  omega

/-- A ClientHello message in the first record of the stream is parsed as if it
were sent alone, if that record fits the recorder; in every other case the parser
reports an error, whatever the records and the reads are. -/
theorem parseCaptured_fragments (body : Bytes) (fragments : List Fragment) (reads : List Bytes)
    (later : Bytes) (hbody : body.length < 16777216)
    (hsplit : fragments.flatMap Fragment.payload = handshakeMessage body)
    (hreads : reads.flatten = fragments.flatMap Fragment.record++later) :
    (InFirstRecord fragments (handshakeMessage body) → ∀ major minor : UInt8,
      parseCaptured reads = parseClientHello (tlsRecord major minor (handshakeMessage body))) ∧
    (¬ InFirstRecord fragments (handshakeMessage body) → ∃ msg, parseCaptured reads = fail msg) := by
  cases fragments with
  | nil => simp [handshakeMessage] at hsplit
  | cons f rest =>
    rw [List.flatMap_cons,List.append_assoc] at hreads
    rw [List.flatMap_cons] at hsplit
    by_cases hfits : 5+f.payload.length ≤ maxClientHelloBytes
    · constructor
      · rintro ⟨f',rest',he,hpay,hmsg⟩ major minor
        obtain ⟨rfl,rfl⟩ := List.cons.inj he
        rw [handshakeMessage_length] at hmsg
        have hsmall : 4+body.length < 65536 := by
          have : maxClientHelloBytes = 8192 := rfl
          omega
        have hone : ∀ a b : UInt8, clientHelloBody (tlsRecord a b (handshakeMessage body)) = .ok body :=
          fun a b => by simpa using clientHelloBody_record a b [] hsmall
        rw [parseCaptured_record hreads hfits,Fragment.record,hpay,parseClientHello,parseClientHello,
          hone,hone]
      · intro hnot
        have hrest : rest.flatMap Fragment.payload ≠ [] := by
          intro hnil
          rw [hnil,List.append_nil] at hsplit
          exact hnot ⟨f,rest,rfl,hsplit,hsplit ▸ hfits⟩
        obtain ⟨msg,hmsg⟩ := handshakeBody_part hbody hsplit hrest
        refine ⟨msg,?_⟩
        rw [parseCaptured_record hreads hfits,parseClientHello,clientHelloBody_fragment,hmsg]
        rfl
    · constructor
      · rintro ⟨f',rest',he,hpay,hmsg⟩
        obtain ⟨rfl,rfl⟩ := List.cons.inj he
        exact absurd (hpay ▸ hmsg) hfits
      · intro _
        exact parseCaptured_cut hreads (by omega)

def smallMessage : Bytes := handshakeMessage (encodeBody smallHello.hello)

def wholeMessage : List Fragment := [⟨3,1,smallMessage,by decide⟩]

def splitMessage : List Fragment :=
  [⟨3,1,smallMessage.take 10,by decide⟩,⟨3,1,smallMessage.drop 10,by decide⟩]

/-- Reads that cut the record in the middle of its header, with bytes after it. -/
theorem parseCaptured_fragments_small :
    parseCaptured [[22,3],(wholeMessage.flatMap Fragment.record).drop 2++[23,3,3]] =
      parseClientHello (tlsRecord 3 1 smallMessage) :=
  (parseCaptured_fragments (encodeBody smallHello.hello) wholeMessage _ [23,3,3] (by decide)
    (by decide) (by decide)).1 ⟨_,[],rfl,rfl,by decide⟩ 3 1

/-- Two records hide the message from the parser. -/
theorem parseCaptured_split :
    splitMessage.flatMap Fragment.payload = smallMessage ∧
    parseCaptured [splitMessage.flatMap Fragment.record] =
      fail "truncated ClientHello: need 64 bytes, got 10" ∧
    (parseClientHello (tlsRecord 3 1 smallMessage)).isOk = true := by
  refine ⟨by decide,by decide +kernel,by decide +kernel⟩

end Fragmentation

end ClientHelloCapture
end AntiScrapling
