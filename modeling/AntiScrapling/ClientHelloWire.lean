import AntiScrapling.ClientHelloFraming
import AntiScrapling.ExtensionParsers

/-! The wire encoding of a ClientHello, and that the parser and the encoder invert
each other.  Decoding inverts encoding on every ClientHello that fits its length
prefixes; encoding inverts decoding on every byte string that is accepted. -/
namespace AntiScrapling
namespace ClientHello

open CheckedRun ByteCodec

def encodeExtension (e : Extension) : Bytes := putUint16 e.type++vec16 e.data

def encodeFields (h : Hello) : Bytes :=
  putUint16 h.version++(h.random++(vec8 h.sessionID++
    (vec16 (uint16List h.cipherSuites)++vec8 h.compressionMethods)))

def encodeExtensions (es : List Extension) : Bytes := vec16 (es.flatMap encodeExtension)

def encodeBody (h : Hello) : Bytes := encodeFields h++encodeExtensions h.extensions

def handshakeMessage (body : Bytes) : Bytes := clientHelloType::vec24 body

def tlsRecord (major minor : UInt8) (payload : Bytes) : Bytes :=
  tlsHandshakeRecordType::major::minor::vec16 payload

/-- The bodies that encode `h`: without extensions their two-byte length may be left out. -/
def Hello.IsBody (h : Hello) (body : Bytes) : Prop :=
  body = encodeBody h ∨ h.extensions = [] ∧ body = encodeFields h

section Framing

theorem handshakeMessage_length (body : Bytes) : (handshakeMessage body).length = 4+body.length := by
  simp [handshakeMessage]
  omega

theorem handshakeMessage_eq {b₁ b₂ b₃ : UInt8} {body : Bytes} (h : body.length = handshakeLength b₁ b₂ b₃) :
    handshakeMessage body = clientHelloType::b₁::b₂::b₃::body := by
  have h₁ := b₁.toNat_lt
  have h₂ := b₂.toNat_lt
  have h₃ := b₃.toNat_lt
  have hput : put24 body.length = [b₁,b₂,b₃] := by
    rw [h]
    simp only [put24,handshakeLength,List.cons.injEq,and_true,← UInt8.toNat_inj,UInt8.toNat_ofNat']
    omega
  rw [handshakeMessage,vec24,hput]
  rfl

theorem tlsRecord_eq {hi lo : UInt8} {payload : Bytes} (h : payload.length = recordLength hi lo)
    (major minor : UInt8) :
    tlsRecord major minor payload = tlsHandshakeRecordType::major::minor::hi::lo::payload := by
  have hhi := hi.toNat_lt
  have hlo := lo.toNat_lt
  have hput : put16 payload.length = [hi,lo] := by
    rw [h]
    simp only [put16,recordLength,List.cons.injEq,and_true,← UInt8.toNat_inj,UInt8.toNat_ofNat']
    omega
  rw [tlsRecord,vec16,hput]
  rfl

theorem exists_handshakeLength {n : ℕ} (h : n < 16777216) : ∃ b₁ b₂ b₃, n = handshakeLength b₁ b₂ b₃ := by
  refine ⟨UInt8.ofNat (n/65536),UInt8.ofNat (n/256),UInt8.ofNat n,?_⟩
  simp only [handshakeLength,UInt8.toNat_ofNat']
  omega

theorem exists_recordLength {n : ℕ} (h : n < 65536) : ∃ hi lo, n = recordLength hi lo := by
  refine ⟨UInt8.ofNat (n/256),UInt8.ofNat n,?_⟩
  simp only [recordLength,UInt8.toNat_ofNat']
  omega

theorem handshakeMessage_delimits {body : Bytes} (h : body.length < 16777216) :
    Delimits handshakeBody (handshakeMessage body) body := by
  obtain ⟨b₁,b₂,b₃,hlen⟩ := exists_handshakeLength h
  rw [handshakeMessage_eq hlen]
  exact handshakeBody_delimits b₁ b₂ b₃ hlen

theorem handshakeBody_message {body : Bytes} (post : Bytes) (h : body.length < 16777216) :
    handshakeBody (handshakeMessage body++post) = .ok body := (handshakeMessage_delimits h).complete post

theorem clientHelloBody_message {body : Bytes} (post : Bytes) (h : body.length < 16777216) :
    clientHelloBody (handshakeMessage body++post) = .ok body := by
  rw [handshakeMessage,List.cons_append,clientHelloBody_bare (by decide)]
  exact handshakeBody_message post h

theorem clientHelloBody_tlsRecord (major minor : UInt8) {payload : Bytes} (post : Bytes)
    (h : payload.length < 65536) :
    clientHelloBody (tlsRecord major minor payload++post) = handshakeBody payload := by
  obtain ⟨hi,lo,hlen⟩ := exists_recordLength h
  have hle : recordLength hi lo ≤ (payload++post).length := by
    rw [List.length_append]
    omega
  rw [tlsRecord_eq hlen]
  simp only [List.cons_append]
  rw [clientHelloBody_ok major minor hi lo hle,← hlen,List.take_left]

theorem clientHelloBody_record {body : Bytes} (major minor : UInt8) (post : Bytes)
    (h : 4+body.length < 65536) :
    clientHelloBody (tlsRecord major minor (handshakeMessage body)++post) = .ok body := by
  rw [clientHelloBody_tlsRecord major minor post (by rwa [handshakeMessage_length])]
  simpa using handshakeBody_message [] (by omega : body.length < 16777216)

end Framing

section Fields

/-- The part of a ClientHello that stands in front of the extensions. -/
def Hello.fields (h : Hello) : Hello where
  version := h.version
  random := h.random
  sessionID := h.sessionID
  cipherSuites := h.cipherSuites
  compressionMethods := h.compressionMethods

/-- Every field in front of the extensions fits its length prefix. -/
structure Hello.FieldsFit (h : Hello) : Prop where
  random_length : h.random.length = 32
  sessionID_fits : h.sessionID.length < 256
  cipherSuites_fit : 2*h.cipherSuites.length < 65536
  compression_fits : h.compressionMethods.length < 256

theorem readFields_encode {h : Hello} (hfit : h.FieldsFit) {r : ByteReader} {s : Bytes}
    (hat : r.At (encodeFields h++s)) : ∃ r', readFields r = .ok (h.fields,r') ∧ r'.At s := by
  simp only [encodeFields,List.append_assoc] at hat
  have h₁ := ByteReader.uint16_of_at hat
  have a₁ : (r.advance 2).At _ := hat.advance
  have h₂ := ByteReader.bytes_of_at a₁
  have a₂ := a₁.advance
  rw [hfit.random_length] at h₂ a₂
  obtain ⟨h₃,n₃,a₃⟩ := ByteReader.uint8_vec8 a₂ hfit.sessionID_fits
  have h₄ := ByteReader.bytes_of_at a₃
  have a₄ := a₃.advance
  obtain ⟨h₅,n₅,a₅⟩ := ByteReader.uint16_vec16 a₄ (by simpa using hfit.cipherSuites_fit)
  have h₆ := ByteReader.bytes_of_at a₅
  have a₆ := a₅.advance
  obtain ⟨h₇,n₇,a₇⟩ := ByteReader.uint8_vec8 a₆ hfit.compression_fits
  have h₈ := ByteReader.bytes_of_at a₇
  have a₈ := a₇.advance
  have hodd : ¬ (uint16List h.cipherSuites).length%2 ≠ 0 := by simp
  have hvals : uint16Values (uint16List h.cipherSuites) 0 (uint16List h.cipherSuites).length =
      .ok h.cipherSuites := by
    simpa using uint16Values_wire [] [] h.cipherSuites
  refine ⟨_,?_,a₈⟩
  have h₂' : (r.advance 2).bytes 32 = _ := h₂
  simp only [readFields,h₁,h₂',h₃,n₃,h₄,h₅,n₅,hodd,h₆,hvals,h₇,n₇,h₈,wrap_ok,ok_bind,
    if_false,Hello.fields]

end Fields

section Extensions

/-- The value of a run, for runs that are known to have one. -/
def valueOf {α : Type} (a : α) : Run α → α
  | .ok v => v
  | .error _ => a

/-- What `parseKnownExtension` stores for one extension. -/
def Hello.withKnown (hello : Hello) (e : Extension) : Hello :=
  if e.type = 0 then {hello with serverName := valueOf [] (parseServerName e.data)}
  else if e.type = 10 then {hello with supportedCurves := valueOf [] (parseUint16Vector16 e.data)}
  else if e.type = 11 then {hello with supportedPoints := valueOf [] (parseUint8Vector8 e.data)}
  else if e.type = 13 then {hello with signatureAlgorithms := valueOf [] (parseUint16Vector16 e.data)}
  else if e.type = 16 then {hello with supportedProtos := valueOf [] (parseALPN e.data)}
  else if e.type = 43 then {hello with supportedVersions := valueOf [] (parseSupportedVersions e.data)}
  else hello

theorem parseKnownExtension_eq (hello : Hello) (e : Extension) :
    parseKnownExtension hello e = .ok (hello.withKnown e) := by
  obtain ⟨v₀,h₀⟩ := parseServerName_total e.data
  obtain ⟨v₁,h₁⟩ := parseUint16Vector16_total e.data
  obtain ⟨v₂,h₂⟩ := parseUint8Vector8_total e.data
  obtain ⟨v₃,h₃⟩ := parseALPN_total e.data
  obtain ⟨v₄,h₄⟩ := parseSupportedVersions_total e.data
  unfold parseKnownExtension Hello.withKnown
  split_ifs <;> simp only [h₀,h₁,h₂,h₃,h₄,ok_bind,valueOf]

/-- One extension appended to a ClientHello, with the typed field it sets. -/
def Hello.push (hello : Hello) (e : Extension) : Hello :=
  ({hello with extensions := hello.extensions++[e]} : Hello).withKnown e

theorem encodeExtension_length (e : Extension) : (encodeExtension e).length = 4+e.data.length := by
  rw [encodeExtension,List.length_append,putUint16_length,vec16_length]
  omega

theorem readExtension_encode {r : ByteReader} {e : Extension} {s : Bytes}
    (hat : r.At (encodeExtension e++s)) (hfits : e.data.length < 65536) :
    readExtension r = .ok (e,r.advance (encodeExtension e).length) := by
  simp only [encodeExtension,List.append_assoc] at hat
  have h₁ := ByteReader.uint16_of_at hat
  have a₁ : (r.advance 2).At _ := hat.advance
  obtain ⟨h₂,n₂,a₂⟩ := ByteReader.uint16_vec16 a₁ hfits
  have h₃ := ByteReader.bytes_of_at a₂
  simp only [readExtension,h₁,h₂,n₂,h₃,wrap_ok,ok_bind]
  simp [ByteReader.advance,encodeExtension]
  omega

theorem extensionRound_encode (hello : Hello) (pre post : Bytes) {e : Extension}
    (hfits : e.data.length < 65536) :
    extensionRound (⟨pre++(encodeExtension e++post),pre.length⟩,hello) =
      .ok (.inl (⟨pre++(encodeExtension e++post),pre.length+(encodeExtension e).length⟩,hello.push e)) := by
  have hat : ByteReader.At ⟨pre++(encodeExtension e++post),pre.length⟩ (encodeExtension e++post) := by
    simp [ByteReader.At]
  have hgt : ByteReader.remaining ⟨pre++(encodeExtension e++post),pre.length⟩ > 0 := by
    rw [hat.remaining_eq,List.length_append,encodeExtension_length]
    omega
  simp only [extensionRound,hgt,if_true,readExtension_encode hat hfits,ok_bind,
    parseKnownExtension_eq]
  rfl

theorem parseExtensions_encode (hello : Hello) {es : List Extension}
    (hfits : ∀ e ∈ es, e.data.length < 65536) :
    parseExtensions hello (es.flatMap encodeExtension) = .ok (es.foldl Hello.push hello) := by
  have hcount : es.length ≤ (es.flatMap encodeExtension).length :=
    length_le_flatMap (fun e => by rw [encodeExtension_length]; omega) es
  have h := iterate_foldl extensionRound es
    (fun xs hello => (⟨es.flatMap encodeExtension,
      (es.flatMap encodeExtension).length-(xs.flatMap encodeExtension).length⟩,hello))
    Hello.push id
    (by
      rintro e xs hello ⟨ys,rfl⟩
      have hd : (ys++e::xs).flatMap encodeExtension =
          ys.flatMap encodeExtension++(encodeExtension e++xs.flatMap encodeExtension) := by simp
      have hoff : ((ys++e::xs).flatMap encodeExtension).length-
          ((e::xs).flatMap encodeExtension).length = (ys.flatMap encodeExtension).length := by
        simp only [hd,List.flatMap_cons,List.length_append]
        omega
      have hoff' : ((ys++e::xs).flatMap encodeExtension).length-
          (xs.flatMap encodeExtension).length =
          (ys.flatMap encodeExtension).length+(encodeExtension e).length := by
        simp only [hd,List.length_append]
        omega
      rw [hoff,hoff',hd]
      exact extensionRound_encode hello _ _ (hfits e (by simp)))
    (by intro hello; simp [extensionRound,ByteReader.remaining]) hello
    (n:=(es.flatMap encodeExtension).length+1) (by omega)
  simpa [parseExtensions] using h

theorem readExtensions_encode (hello : Hello) {es : List Extension} {r : ByteReader}
    (hat : r.At (encodeExtensions es)) (hfits : ∀ e ∈ es, e.data.length < 65536)
    (hlen : (es.flatMap encodeExtension).length < 65536) :
    readExtensions hello r = .ok (es.foldl Hello.push hello) := by
  have hne : ¬ r.remaining = 0 := by
    rw [hat.remaining_eq,encodeExtensions,vec16_length]
    omega
  have hat' : r.At (vec16 (es.flatMap encodeExtension)++[]) := by simpa [encodeExtensions] using hat
  obtain ⟨h₁,n₁,a₁⟩ := ByteReader.uint16_vec16 hat' hlen
  have h₂ := ByteReader.bytes_of_at a₁
  have hend := a₁.advance.remaining_eq
  have hz : ¬ ((r.advance 2).advance (es.flatMap encodeExtension).length).remaining ≠ 0 := by
    rw [hend]
    simp
  simp only [readExtensions,hne,if_false,h₁,n₁,h₂,hz,wrap_ok,ok_bind,
    parseExtensions_encode hello hfits]

@[simp] theorem push_fields (hello : Hello) (e : Extension) :
    (hello.push e).fields = hello.fields := by
  unfold Hello.push Hello.withKnown
  split_ifs <;> rfl

@[simp] theorem push_extensions (hello : Hello) (e : Extension) :
    (hello.push e).extensions = hello.extensions++[e] := by
  unfold Hello.push Hello.withKnown
  split_ifs <;> rfl

theorem foldl_push_fields (es : List Extension) (hello : Hello) :
    (es.foldl Hello.push hello).fields = hello.fields := by
  induction es generalizing hello with
  | nil => rfl
  | cons e es ih => simp [ih]

theorem foldl_push_extensions (es : List Extension) (hello : Hello) :
    (es.foldl Hello.push hello).extensions = hello.extensions++es := by
  induction es generalizing hello with
  | nil => simp
  | cons e es ih => simp [ih]

theorem push_serverName (hello : Hello) (e : Extension) : (hello.push e).serverName =
    if e.type = 0 then valueOf [] (parseServerName e.data) else hello.serverName := by
  by_cases h : e.type = 0
  · simp [Hello.push,Hello.withKnown,h]
  · simp only [Hello.push,Hello.withKnown,h,if_false]
    split_ifs <;> rfl

theorem push_supportedCurves (hello : Hello) (e : Extension) : (hello.push e).supportedCurves =
    if e.type = 10 then valueOf [] (parseUint16Vector16 e.data) else hello.supportedCurves := by
  by_cases h : e.type = 10
  · simp [Hello.push,Hello.withKnown,h]
  · simp only [Hello.push,Hello.withKnown,h,if_false]
    split_ifs <;> rfl

theorem push_supportedPoints (hello : Hello) (e : Extension) : (hello.push e).supportedPoints =
    if e.type = 11 then valueOf [] (parseUint8Vector8 e.data) else hello.supportedPoints := by
  by_cases h : e.type = 11
  · simp [Hello.push,Hello.withKnown,h]
  · simp only [Hello.push,Hello.withKnown,h,if_false]
    split_ifs <;> rfl

theorem push_signatureAlgorithms (hello : Hello) (e : Extension) : (hello.push e).signatureAlgorithms =
    if e.type = 13 then valueOf [] (parseUint16Vector16 e.data) else hello.signatureAlgorithms := by
  by_cases h : e.type = 13
  · simp [Hello.push,Hello.withKnown,h]
  · simp only [Hello.push,Hello.withKnown,h,if_false]
    split_ifs <;> rfl

theorem push_supportedProtos (hello : Hello) (e : Extension) : (hello.push e).supportedProtos =
    if e.type = 16 then valueOf [] (parseALPN e.data) else hello.supportedProtos := by
  by_cases h : e.type = 16
  · simp [Hello.push,Hello.withKnown,h]
  · simp only [Hello.push,Hello.withKnown,h,if_false]
    split_ifs <;> rfl

theorem push_supportedVersions (hello : Hello) (e : Extension) : (hello.push e).supportedVersions =
    if e.type = 43 then valueOf [] (parseSupportedVersions e.data) else hello.supportedVersions := by
  by_cases h : e.type = 43
  · simp [Hello.push,Hello.withKnown,h]
  · simp only [Hello.push,Hello.withKnown,h,if_false]
    split_ifs <;> rfl

/-- A field that only extensions of one type set holds what the extension of that
type set, when no type occurs twice. -/
theorem foldl_push_typed {α : Type} (g : Hello → List α) (t : UInt16) (parse : Bytes → Run (List α))
    (hpush : ∀ hello e, g (Hello.push hello e) =
      if e.type = t then valueOf [] (parse e.data) else g hello)
    {es : List Extension} (hnodup : (es.map Extension.type).Nodup) {d : Bytes} (hmem : ⟨t,d⟩ ∈ es)
    {v : List α} (hparse : parse d = .ok v) (hello : Hello) : g (es.foldl Hello.push hello) = v := by
  obtain ⟨ys,zs,rfl⟩ := List.append_of_mem hmem
  have hz : ∀ e ∈ zs, e.type ≠ t := by
    intro e he het
    have hdisj := (List.nodup_append.mp (by simpa using hnodup)).2.1
    exact (List.nodup_cons.mp hdisj).1 (List.mem_map.mpr ⟨e,he,het⟩)
  have hrest : ∀ hello', g (zs.foldl Hello.push hello') = g hello' := by
    clear hmem hnodup
    induction zs with
    | nil => intro hello'; rfl
    | cons z zs ih =>
      intro hello'
      rw [List.foldl_cons,ih (fun e he => hz e (by simp [he])),hpush,if_neg (hz z (by simp))]
  rw [List.foldl_append,List.foldl_cons,hrest,hpush,if_pos rfl,hparse]
  rfl

end Extensions

section DecodeEncode

/-- An abstract ClientHello: every part fits its length prefix, and no extension
type occurs twice. -/
structure WireHello where
  version : UInt16
  random : Bytes
  sessionID : Bytes
  cipherSuites : List UInt16
  compressionMethods : Bytes
  extensions : List Extension
  random_length : random.length = 32
  sessionID_fits : sessionID.length < 256
  cipherSuites_fit : 2*cipherSuites.length < 65536
  compression_fits : compressionMethods.length < 256
  extension_fits : ∀ e ∈ extensions, e.data.length < 65536
  extensions_fit : (extensions.flatMap encodeExtension).length < 65536
  types_distinct : (extensions.map Extension.type).Nodup

def WireHello.hello (w : WireHello) : Hello where
  version := w.version
  random := w.random
  sessionID := w.sessionID
  cipherSuites := w.cipherSuites
  compressionMethods := w.compressionMethods
  extensions := w.extensions

inductive Framed (body : Bytes) : Bytes → Prop
  | message : Framed body (handshakeMessage body)
  | record (major minor : UInt8) (hfits : (handshakeMessage body).length < 65536) :
      Framed body (tlsRecord major minor (handshakeMessage body))

/-- The typed fields hold the lists that standard extensions carry. -/
structure TypedFields (es : List Extension) (h : Hello) : Prop where
  serverName : ∀ names, ⟨0,encodeServerNames names⟩ ∈ es → h.serverName = firstHostName names
  supportedCurves : ∀ vs, ⟨10,encodeUint16Vector vs⟩ ∈ es → h.supportedCurves = vs
  supportedPoints : ∀ ps : Bytes, ps.length < 256 → ⟨11,vec8 ps⟩ ∈ es → h.supportedPoints = ps
  signatureAlgorithms : ∀ vs, ⟨13,encodeUint16Vector vs⟩ ∈ es → h.signatureAlgorithms = vs
  supportedProtos : ∀ names : List Bytes, names ≠ [] →
    (∀ x ∈ names, 0 < x.length ∧ x.length < 256) → ⟨16,encodeALPN names⟩ ∈ es →
    h.supportedProtos = names
  supportedVersions : ∀ vs : List UInt16, 2*vs.length < 256 → ⟨43,encodeVersions vs⟩ ∈ es →
    h.supportedVersions = vs

theorem typedFields_foldl {es : List Extension} (hnodup : (es.map Extension.type).Nodup)
    (hfits : ∀ e ∈ es, e.data.length < 65536) (hello : Hello) :
    TypedFields es (es.foldl Hello.push hello) where
  serverName names hmem := by
    have hf := hfits _ hmem
    simp only [encodeServerNames,vec16_length] at hf
    exact foldl_push_typed _ 0 _ push_serverName hnodup hmem (parseServerName_wire (by omega)) hello
  supportedCurves vs hmem := by
    have hf := hfits _ hmem
    simp only [encodeUint16Vector,vec16_length,uint16List_length] at hf
    exact foldl_push_typed _ 10 _ push_supportedCurves hnodup hmem
      (parseUint16Vector16_wire (by omega)) hello
  supportedPoints ps hps hmem :=
    foldl_push_typed _ 11 _ push_supportedPoints hnodup hmem (parseUint8Vector8_wire hps) hello
  signatureAlgorithms vs hmem := by
    have hf := hfits _ hmem
    simp only [encodeUint16Vector,vec16_length,uint16List_length] at hf
    exact foldl_push_typed _ 13 _ push_signatureAlgorithms hnodup hmem
      (parseUint16Vector16_wire (by omega)) hello
  supportedProtos names hne hname hmem := by
    have hf := hfits _ hmem
    simp only [encodeALPN,vec16_length] at hf
    exact foldl_push_typed _ 16 _ push_supportedProtos hnodup hmem
      (parseALPN_wire hne hname (by omega)) hello
  supportedVersions vs hvs hmem :=
    foldl_push_typed _ 43 _ push_supportedVersions hnodup hmem (parseSupportedVersions_wire hvs) hello

theorem parseClientHello_of_body {h : Hello} {raw body : Bytes} (hfit : h.FieldsFit)
    (hdata : ∀ e ∈ h.extensions, e.data.length < 65536)
    (hlen : (h.extensions.flatMap encodeExtension).length < 65536)
    (hraw : clientHelloBody raw = .ok body) (hbody : h.IsBody body) :
    parseClientHello raw = .ok (h.extensions.foldl Hello.push h.fields) := by
  rcases hbody with rfl | ⟨hnil,rfl⟩
  · obtain ⟨r,hr,a⟩ := readFields_encode hfit (ByteReader.at_start (encodeBody h))
    simp only [parseClientHello,hraw,hr,ok_bind,readExtensions_encode _ a hdata hlen]
  · obtain ⟨r,hr,a⟩ := readFields_encode hfit (s:=[]) (by simpa using ByteReader.at_start _)
    have hz : r.remaining = 0 := by simpa using a.remaining_eq
    simp only [parseClientHello,hraw,hr,ok_bind,readExtensions,hz,if_true,hnil,
      List.foldl_nil]

theorem isBody_length {h : Hello} (hfit : h.FieldsFit)
    (hlen : (h.extensions.flatMap encodeExtension).length < 65536) {body : Bytes} (hbody : h.IsBody body) :
    body.length < 16777216 := by
  have h₁ := hfit.random_length
  have h₂ := hfit.sessionID_fits
  have h₃ := hfit.cipherSuites_fit
  have h₄ := hfit.compression_fits
  rcases hbody with rfl | ⟨_,rfl⟩ <;>
    simp only [encodeBody,encodeFields,encodeExtensions,List.length_append,putUint16_length,
      vec8_length,vec16_length,uint16List_length] <;>
    omega

theorem clientHelloBody_of_framed {body raw : Bytes} (hlen : body.length < 16777216)
    (h : Framed body raw) : clientHelloBody raw = .ok body := by
  cases h with
  | message => simpa using clientHelloBody_message [] hlen
  | record major minor hfits =>
    rw [handshakeMessage_length] at hfits
    simpa using clientHelloBody_record major minor [] hfits

/-- Decode after encode: the parser returns the encoded ClientHello, and its typed
fields are the lists that the standard extensions carry. -/
theorem parseClientHello_encode (w : WireHello) {body raw : Bytes} (hbody : w.hello.IsBody body)
    (hraw : Framed body raw) :
    ∃ h, parseClientHello raw = .ok h ∧ h.version = w.version ∧ h.random = w.random ∧
      h.sessionID = w.sessionID ∧ h.cipherSuites = w.cipherSuites ∧
      h.compressionMethods = w.compressionMethods ∧ h.extensions = w.extensions ∧
      TypedFields w.extensions h := by
  have hfit : w.hello.FieldsFit :=
    ⟨w.random_length,w.sessionID_fits,w.cipherSuites_fit,w.compression_fits⟩
  have hlen := isBody_length hfit w.extensions_fit hbody
  have hparse := parseClientHello_of_body hfit w.extension_fits w.extensions_fit
    (clientHelloBody_of_framed hlen hraw) hbody
  have hfields := foldl_push_fields w.extensions w.hello.fields
  simp only [Hello.fields,Hello.mk.injEq] at hfields
  refine ⟨_,hparse,hfields.1,hfields.2.1,hfields.2.2.1,hfields.2.2.2.1,hfields.2.2.2.2.1,?_,
    typedFields_foldl w.types_distinct w.extension_fits _⟩
  exact foldl_push_extensions w.extensions w.hello.fields

def smallHello : WireHello where
  version := 0x0303
  random := List.replicate 32 7
  sessionID := []
  cipherSuites := [0x1301]
  compressionMethods := [0]
  extensions := [⟨0,encodeServerNames [(0,[97])]⟩,⟨43,encodeVersions [0x0304]⟩]
  random_length := by simp
  sessionID_fits := by decide
  cipherSuites_fit := by decide
  compression_fits := by decide
  extension_fits := by decide
  extensions_fit := by decide
  types_distinct := by decide

theorem parseClientHello_encode_small :
    ∃ h, parseClientHello (tlsRecord 3 1 (handshakeMessage (encodeBody smallHello.hello))) = .ok h ∧
      h.serverName = [97] ∧ h.supportedVersions = [0x0304] := by
  obtain ⟨h,hok,-,-,-,-,-,-,ht⟩ := parseClientHello_encode smallHello (.inl rfl)
    (.record 3 1 (by decide))
  exact ⟨h,hok,ht.serverName [(0,[97])] (by decide),ht.supportedVersions [0x0304] (by decide) (by decide)⟩

end DecodeEncode

section EncodeDecode

theorem uint16Values_eq_ok {data : Bytes} {vs : List UInt16}
    (h : uint16Values data 0 data.length = .ok vs) : data = uint16List vs := by
  refine iterate_invariant
    (P:=fun s => s.1 ≤ data.length ∧ data.take s.1 = uint16List s.2) (Q:=fun vs => data = uint16List vs)
    ?_ ?_ (by simp [uint16List]) h
  · rintro ⟨off,acc⟩ s' ⟨hoff,htake⟩ hround
    simp only [uint16Round] at hround
    split_ifs at hround with hlt
    · obtain ⟨v,hv,hs⟩ := bind_eq_ok.mp hround
      simp only [Except.ok.injEq,Sum.inl.injEq] at hs
      subst hs
      obtain ⟨hle,hput⟩ := uint16At_eq_ok hv
      refine ⟨hle,?_⟩
      simp only at htake
      rw [List.take_add,htake,hput]
      simp [uint16List]
    · simp at hround
  · rintro ⟨off,acc⟩ a ⟨hoff,htake⟩ hround
    simp only [uint16Round] at hround
    split_ifs at hround with hlt
    · obtain ⟨v,-,hs⟩ := bind_eq_ok.mp hround
      simp at hs
    · simp only [Except.ok.injEq,Sum.inr.injEq] at hround
      simp only at hoff htake hlt
      have he : off = data.length := by omega
      rw [← hround,← htake,he,List.take_length]

theorem readFields_eq_ok {r r' : ByteReader} {h : Hello} {s : Bytes}
    (hok : readFields r = .ok (h,r')) (hs : r.At s) :
    ∃ s', s = encodeFields h++s' ∧ h.FieldsFit ∧ h.fields = h ∧ r'.At s' := by
  obtain ⟨⟨version,r₁⟩,h₁,hok⟩ := bind_eq_ok.mp hok
  obtain ⟨⟨random,r₂⟩,h₂,hok⟩ := bind_eq_ok.mp hok
  obtain ⟨⟨n₃,r₃⟩,h₃,hok⟩ := bind_eq_ok.mp hok
  obtain ⟨⟨sessionID,r₄⟩,h₄,hok⟩ := bind_eq_ok.mp hok
  obtain ⟨⟨n₅,r₅⟩,h₅,hok⟩ := bind_eq_ok.mp hok
  simp only at hok
  split_ifs at hok with hodd
  · simp at hok
  obtain ⟨⟨cipherBytes,r₆⟩,h₆,hok⟩ := bind_eq_ok.mp hok
  obtain ⟨cipherSuites,hc,hok⟩ := bind_eq_ok.mp hok
  obtain ⟨⟨n₇,r₇⟩,h₇,hok⟩ := bind_eq_ok.mp hok
  obtain ⟨⟨compression,r₈⟩,h₈,hok⟩ := bind_eq_ok.mp hok
  simp only [wrap_eq_ok] at h₁ h₂ h₃ h₄ h₅ h₆ h₇ h₈
  simp only [Except.ok.injEq,Prod.mk.injEq] at hok
  obtain ⟨rfl,rfl⟩ := hok
  obtain ⟨s₁,rfl,a₁⟩ := ByteReader.uint16_eq_ok h₁ hs
  obtain ⟨s₂,rfl,hrandom,a₂⟩ := ByteReader.bytes_eq_ok (n:=32) h₂ a₁
  obtain ⟨s₃,rfl,hsid,a₃⟩ := ByteReader.vec8_eq_ok h₃ h₄ a₂
  obtain ⟨s₄,rfl,hclen,a₄⟩ := ByteReader.vec16_eq_ok h₅ h₆ a₃
  obtain ⟨s₅,rfl,hcomp,a₅⟩ := ByteReader.vec8_eq_ok h₇ h₈ a₄
  have hcipher : cipherBytes = uint16List cipherSuites := uint16Values_eq_ok hc
  have hlt : 2*cipherSuites.length < 65536 := by
    rw [← uint16List_length,← hcipher,hclen]
    exact n₅.toNat_lt
  refine ⟨s₅,?_,⟨hrandom,hsid,hlt,hcomp⟩,rfl,a₅⟩
  simp [encodeFields,hcipher]

theorem readExtension_eq_ok {r r' : ByteReader} {e : Extension} {s : Bytes}
    (hok : readExtension r = .ok (e,r')) (hs : r.At s) :
    ∃ s', s = encodeExtension e++s' ∧ e.data.length < 65536 ∧ r'.At s' := by
  obtain ⟨⟨type,r₁⟩,h₁,hok⟩ := bind_eq_ok.mp hok
  obtain ⟨⟨n,r₂⟩,h₂,hok⟩ := bind_eq_ok.mp hok
  obtain ⟨⟨data,r₃⟩,h₃,hok⟩ := bind_eq_ok.mp hok
  simp only [wrap_eq_ok] at h₁ h₂ h₃
  simp only [Except.ok.injEq,Prod.mk.injEq] at hok
  obtain ⟨rfl,rfl⟩ := hok
  obtain ⟨s₁,rfl,a₁⟩ := ByteReader.uint16_eq_ok h₁ hs
  obtain ⟨s₂,rfl,hlen,a₂⟩ := ByteReader.vec16_eq_ok h₂ h₃ a₁
  exact ⟨s₂,by simp [encodeExtension],hlen ▸ n.toNat_lt,a₂⟩

theorem parseExtensions_eq_ok {hello h : Hello} {data : Bytes}
    (hok : parseExtensions hello data = .ok h) :
    ∃ es : List Extension, data = es.flatMap encodeExtension ∧ h = es.foldl Hello.push hello ∧
      ∀ e ∈ es, e.data.length < 65536 := by
  refine iterate_invariant
    (P:=fun s => ∃ (es : List Extension) (t : Bytes), s.1.At t ∧ data = es.flatMap encodeExtension++t ∧
      s.2 = es.foldl Hello.push hello ∧ ∀ e ∈ es, e.data.length < 65536)
    (Q:=fun h => ∃ es : List Extension, data = es.flatMap encodeExtension ∧
      h = es.foldl Hello.push hello ∧ ∀ e ∈ es, e.data.length < 65536)
    ?_ ?_ ⟨[],data,ByteReader.at_start data,by simp⟩ hok
  · rintro ⟨r,_⟩ s' ⟨es,t,hat,hdata,rfl,hfits⟩ hround
    simp only [extensionRound] at hround
    split_ifs at hround with hpos
    · obtain ⟨⟨e,r'⟩,he,hround⟩ := bind_eq_ok.mp hround
      obtain ⟨t',rfl,hlen,hat'⟩ := readExtension_eq_ok he hat
      simp only [parseKnownExtension_eq,ok_bind,Except.ok.injEq,Sum.inl.injEq] at hround
      subst hround
      refine ⟨es++[e],t',hat',by simp [hdata],by simp [Hello.push],?_⟩
      intro x hx
      rcases List.mem_append.mp hx with hx | hx
      · exact hfits x hx
      · rw [List.mem_singleton.mp hx]
        exact hlen
    · simp at hround
  · rintro ⟨r,_⟩ a ⟨es,t,hat,hdata,rfl,hfits⟩ hround
    simp only [extensionRound] at hround
    split_ifs at hround with hpos
    · obtain ⟨⟨e,r'⟩,he,hround⟩ := bind_eq_ok.mp hround
      simp [parseKnownExtension_eq,ok_bind] at hround
    · simp only [Except.ok.injEq,Sum.inr.injEq] at hround
      have ht : t = [] := by
        rw [hat.remaining_eq] at hpos
        exact List.length_eq_zero_iff.mp (by omega)
      exact ⟨es,by simp [hdata,ht],hround.symm,hfits⟩

theorem readExtensions_eq_ok {hello h : Hello} {r : ByteReader} {s : Bytes}
    (hok : readExtensions hello r = .ok h) (hs : r.At s) :
    s = [] ∧ h = hello ∨ ∃ es : List Extension, s = encodeExtensions es ∧ h = es.foldl Hello.push hello ∧
      (∀ e ∈ es, e.data.length < 65536) ∧ (es.flatMap encodeExtension).length < 65536 := by
  unfold readExtensions at hok
  split_ifs at hok with hz
  · left
    rw [hs.remaining_eq] at hz
    exact ⟨List.length_eq_zero_iff.mp (by omega),by simpa [eq_comm] using hok⟩
  · right
    obtain ⟨⟨n,r₁⟩,h₁,hok⟩ := bind_eq_ok.mp hok
    obtain ⟨⟨data,r₂⟩,h₂,hok⟩ := bind_eq_ok.mp hok
    simp only [wrap_eq_ok] at h₁ h₂
    simp only at hok
    obtain ⟨t,rfl,hlen,a⟩ := ByteReader.vec16_eq_ok h₁ h₂ hs
    split_ifs at hok with htrail
    · simp at hok
    have ht : t = [] := by
      rw [a.remaining_eq] at htrail
      exact List.length_eq_zero_iff.mp (by omega)
    obtain ⟨es,rfl,hh,hfits⟩ := parseExtensions_eq_ok hok
    exact ⟨es,by simp [ht,encodeExtensions],hh,hfits,hlen ▸ n.toNat_lt⟩

/-- The ClientHello grammar: every part fits its length prefix. -/
structure Hello.Fits (h : Hello) : Prop extends h.FieldsFit where
  extension_fits : ∀ e ∈ h.extensions, e.data.length < 65536
  extensions_fit : (h.extensions.flatMap encodeExtension).length < 65536

theorem encodeFields_congr {h h' : Hello} (hf : h.fields = h'.fields) :
    encodeFields h = encodeFields h' := by
  have e₁ : encodeFields h = encodeFields h.fields := rfl
  have e₂ : encodeFields h' = encodeFields h'.fields := rfl
  rw [e₁,e₂,hf]

theorem fieldsFit_congr {h h' : Hello} (hf : h.fields = h'.fields) (hfit : h.FieldsFit) :
    h'.FieldsFit := by
  simp only [Hello.fields,Hello.mk.injEq] at hf
  obtain ⟨-,h₁,h₂,h₃,h₄,-⟩ := hf
  exact ⟨h₁ ▸ hfit.random_length,h₂ ▸ hfit.sessionID_fits,h₃ ▸ hfit.cipherSuites_fit,
    h₄ ▸ hfit.compression_fits⟩

theorem parseClientHello_eq_ok {raw : Bytes} {h : Hello} (hok : parseClientHello raw = .ok h) :
    ∃ body, clientHelloBody raw = .ok body ∧ h.Fits ∧ h.IsBody body := by
  obtain ⟨body,hbody,hrest⟩ := bind_eq_ok.mp hok
  obtain ⟨⟨hello,r⟩,hr,hext⟩ := bind_eq_ok.mp hrest
  obtain ⟨s,rfl,hfit,hfields,hat⟩ := readFields_eq_ok hr (ByteReader.at_start body)
  have hnil : hello.extensions = [] := by rw [← hfields]; rfl
  refine ⟨_,hbody,?_⟩
  rcases readExtensions_eq_ok hext hat with ⟨rfl,rfl⟩ | ⟨es,rfl,rfl,hdata,hlen⟩
  · exact ⟨⟨hfit,by simp [hnil],by simp [hnil]⟩,.inr ⟨hnil,by simp⟩⟩
  · have hf := foldl_push_fields es hello
    have he : (es.foldl Hello.push hello).extensions = es := by simp [foldl_push_extensions,hnil]
    refine ⟨⟨fieldsFit_congr hf.symm hfit,by rwa [he],by rwa [he]⟩,.inl ?_⟩
    rw [encodeBody,he,encodeFields_congr hf]

/-- Encode after decode: an accepted body is an encoding of the result, so two
accepted bodies with one result differ at most in an empty list of extensions. -/
theorem encode_parseClientHello {raw : Bytes} {h : Hello} (hok : parseClientHello raw = .ok h) :
    ∃ body, clientHelloBody raw = .ok body ∧ h.Fits ∧
      (body = encodeBody h ∨ h.extensions = [] ∧ body = encodeFields h) ∧
      ∀ raw' h' body', parseClientHello raw' = .ok h' → clientHelloBody raw' = .ok body' →
        h'.fields = h.fields → h'.extensions = h.extensions →
        body' = body ∨ h.extensions = [] ∧
          (body' = body++put16 0 ∨ body = body'++put16 0) := by
  obtain ⟨body,hbody,hfits,his⟩ := parseClientHello_eq_ok hok
  refine ⟨body,hbody,hfits,his,?_⟩
  intro raw' h' body' hok' hbody' hf he
  obtain ⟨body'',hb,-,his'⟩ := parseClientHello_eq_ok hok'
  obtain rfl : body'' = body' := by simpa [hb] using hbody'
  have hempty : h.extensions = [] → encodeBody h = encodeFields h++put16 0 := by
    intro hnil
    simp [encodeBody,hnil,encodeExtensions,vec16]
  simp only [Hello.IsBody,encodeBody,he,encodeFields_congr hf] at his'
  rcases his with rfl | ⟨hnil,rfl⟩ <;> rcases his' with rfl | ⟨_,rfl⟩
  · exact .inl rfl
  · exact .inr ⟨‹_›,.inr (hempty ‹_›)⟩
  · exact .inr ⟨hnil,.inl (hempty hnil)⟩
  · exact .inl rfl

theorem encode_parseClientHello_small :
    ∃ h, parseClientHello (handshakeMessage (encodeFields smallHello.hello)) = .ok h ∧ h.Fits ∧
      h.extensions = [] := by
  have hok : parseClientHello (handshakeMessage (encodeFields smallHello.hello)) =
      .ok smallHello.hello.fields := by decide +kernel
  obtain ⟨body,hbody,hfits,-⟩ := encode_parseClientHello hok
  exact ⟨_,hok,hfits,rfl⟩

end EncodeDecode

end ClientHello
end AntiScrapling
