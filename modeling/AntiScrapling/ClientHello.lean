import AntiScrapling.ByteCodec

/-! The TLS ClientHello parser of `internal/signal/tls/parser.go`.
Slices and indices are checked, loops carry fuel, and errors keep their texts. -/
namespace AntiScrapling
namespace ClientHello

open CheckedRun ByteCodec

structure Extension where
  type : UInt16
  data : Bytes
  deriving DecidableEq, Repr

/-- The parsed subset of a TLS ClientHello needed for JA3/JA4.  Host names and
protocol names are byte strings. -/
structure Hello where
  version : UInt16
  random : Bytes
  sessionID : Bytes
  cipherSuites : List UInt16
  compressionMethods : Bytes
  extensions : List Extension := []
  supportedCurves : List UInt16 := []
  supportedPoints : List UInt8 := []
  supportedProtos : List Bytes := []
  supportedVersions : List UInt16 := []
  signatureAlgorithms : List UInt16 := []
  serverName : Bytes := []
  deriving DecidableEq, Repr

def tlsHandshakeRecordType : UInt8 := 22
def clientHelloType : UInt8 := 1

def handshakeBody (handshake : Bytes) : Run Bytes :=
  if handshake.length < 4 then
    fail ("truncated handshake header: got " ++ toString handshake.length ++ " bytes")
  else do
    let kind ← byteAt handshake 0
    if kind ≠ clientHelloType then
      fail ("unexpected handshake type " ++ toString kind.toNat)
    else
      let b₁ ← byteAt handshake 1
      let b₂ ← byteAt handshake 2
      let b₃ ← byteAt handshake 3
      let handshakeLen := b₁.toNat*65536+b₂.toNat*256+b₃.toNat
      if handshake.length < 4+handshakeLen then
        fail ("truncated ClientHello: need " ++ toString (4+handshakeLen) ++ " bytes, got " ++
          toString handshake.length)
      else slice handshake 4 (4+handshakeLen)

/-- The body of the ClientHello, from a TLS record or from a bare handshake message. -/
def clientHelloBody (raw : Bytes) : Run Bytes :=
  if raw.length = 0 then fail "empty clienthello"
  else if raw.length ≥ 5 then do
    let kind ← byteAt raw 0
    if kind = tlsHandshakeRecordType then
      let recordLen := (← uint16At raw 3).toNat
      if raw.length < 5+recordLen then
        fail ("truncated TLS record: need " ++ toString (5+recordLen) ++ " bytes, got " ++
          toString raw.length)
      else handshakeBody (← slice raw 5 (5+recordLen))
    else handshakeBody raw
  else handshakeBody raw

/-- One round of `for off < stop { values = append(values, Uint16(data[off:off+2])); off += 2 }`. -/
def uint16Round (data : Bytes) (stop : ℕ) (s : ℕ × List UInt16) :
    Run ((ℕ × List UInt16) ⊕ List UInt16) :=
  if s.1 < stop then do
    let value ← uint16At data s.1
    .ok (.inl (s.1+2,s.2++[value]))
  else .ok (.inr s.2)

def uint16Values (data : Bytes) (off stop : ℕ) : Run (List UInt16) :=
  iterate (uint16Round data stop) (data.length+1) (off,[])

/-- One round over a server name list; the loop ends with the first `host_name`. -/
def serverNameRound (data : Bytes) (stop off : ℕ) : Run (ℕ ⊕ Bytes) :=
  if off < stop then
    if stop-off < 3 then .ok (.inr [])
    else do
      let nameType ← byteAt data off
      let nameLen := (← uint16At data (off+1)).toNat
      let off := off+3
      if nameLen > stop-off then .ok (.inr [])
      else if nameType = 0 then
        let name ← slice data off (off+nameLen)
        .ok (.inr name)
      else .ok (.inl (off+nameLen))
  else .ok (.inr [])

def parseServerName (data : Bytes) : Run Bytes :=
  if data.length < 2 then .ok []
  else do
    let listLen := (← uint16At data 0).toNat
    if listLen > data.length-2 then .ok []
    else iterate (serverNameRound data (2+listLen)) (data.length+1) 2

def parseUint16Vector16 (data : Bytes) : Run (List UInt16) :=
  if data.length < 2 then .ok []
  else do
    let vectorLen := (← uint16At data 0).toNat
    if vectorLen > data.length-2 ∨ vectorLen%2 ≠ 0 then .ok []
    else uint16Values data 2 (2+vectorLen)

def parseUint8Vector8 (data : Bytes) : Run (List UInt8) :=
  if data.length < 1 then .ok []
  else do
    let vectorLen := (← byteAt data 0).toNat
    if vectorLen > data.length-1 then .ok []
    else slice data 1 (1+vectorLen)

def parseSupportedVersions (data : Bytes) : Run (List UInt16) :=
  if data.length < 1 then .ok []
  else do
    let vectorLen := (← byteAt data 0).toNat
    if vectorLen > data.length-1 ∨ vectorLen%2 ≠ 0 then .ok []
    else uint16Values data 1 (1+vectorLen)

/-- The end of both ALPN readers: `protocols, len(protocols) > 0`. -/
def someProtocols (protocols : List Bytes) : Option (List Bytes) :=
  if protocols.length > 0 then some protocols else none

/-- Read one protocol name of `protocolLen` bytes, shared by both ALPN loops. -/
def takeProtocol (data : Bytes) (off protocolLen : ℕ) (protocols : List Bytes) :
    Run ((ℕ × List Bytes) ⊕ Option (List Bytes)) :=
  if protocolLen = 0 ∨ protocolLen > data.length-off then .ok (.inr none)
  else do
    let name ← slice data off (off+protocolLen)
    .ok (.inl (off+protocolLen,protocols++[name]))

def alpnStandardRound (data : Bytes) (s : ℕ × List Bytes) :
    Run ((ℕ × List Bytes) ⊕ Option (List Bytes)) :=
  if s.1 < data.length then do
    let protocolLen := (← byteAt data s.1).toNat
    takeProtocol data (s.1+1) protocolLen s.2
  else .ok (.inr (someProtocols s.2))

def alpnTwoByteRound (data : Bytes) (s : ℕ × List Bytes) :
    Run ((ℕ × List Bytes) ⊕ Option (List Bytes)) :=
  if s.1 < data.length then
    if data.length-s.1 < 2 then .ok (.inr none)
    else do
      let protocolLen := (← uint16At data s.1).toNat
      takeProtocol data (s.1+2) protocolLen s.2
  else .ok (.inr (someProtocols s.2))

/-- Both readers check the list length and differ only in the loop. -/
def parseALPNWith (round : Bytes → ℕ × List Bytes → Run ((ℕ × List Bytes) ⊕ Option (List Bytes)))
    (data : Bytes) : Run (Option (List Bytes)) :=
  if data.length < 2 then .ok none
  else do
    let listLen := (← uint16At data 0).toNat
    if listLen ≠ data.length-2 then .ok none
    else iterate (round data) (data.length+1) (2,[])

def parseALPNStandard : Bytes → Run (Option (List Bytes)) := parseALPNWith alpnStandardRound

def parseALPNTwoByteLengths : Bytes → Run (Option (List Bytes)) := parseALPNWith alpnTwoByteRound

def parseALPN (data : Bytes) : Run (List Bytes) := do
  match ← parseALPNStandard data with
  | some protocols => .ok protocols
  | none =>
    match ← parseALPNTwoByteLengths data with
    | some protocols => .ok protocols
    | none => .ok []

def parseKnownExtension (hello : Hello) (e : Extension) : Run Hello :=
  if e.type = 0 then do .ok {hello with serverName := ← parseServerName e.data}
  else if e.type = 10 then do .ok {hello with supportedCurves := ← parseUint16Vector16 e.data}
  else if e.type = 11 then do .ok {hello with supportedPoints := ← parseUint8Vector8 e.data}
  else if e.type = 13 then do .ok {hello with signatureAlgorithms := ← parseUint16Vector16 e.data}
  else if e.type = 16 then do .ok {hello with supportedProtos := ← parseALPN e.data}
  else if e.type = 43 then do .ok {hello with supportedVersions := ← parseSupportedVersions e.data}
  else .ok hello

def readExtension (r : ByteReader) : Run (Extension × ByteReader) := do
  let (extensionType,r) ← wrap "parse extension type" r.uint16
  let (extensionLen,r) ← wrap ("parse extension " ++ toString extensionType.toNat ++ " length") r.uint16
  let (extensionData,r) ← wrap ("parse extension " ++ toString extensionType.toNat ++ " data")
    (r.bytes extensionLen.toNat)
  .ok (⟨extensionType,extensionData⟩,r)

def extensionRound (s : ByteReader × Hello) : Run ((ByteReader × Hello) ⊕ Hello) :=
  if s.1.remaining > 0 then do
    let (e,r) ← readExtension s.1
    let hello ← parseKnownExtension {s.2 with extensions := s.2.extensions++[e]} e
    .ok (.inl (r,hello))
  else .ok (.inr s.2)

def parseExtensions (hello : Hello) (data : Bytes) : Run Hello :=
  iterate extensionRound (data.length+1) (⟨data,0⟩,hello)

def readFields (r : ByteReader) : Run (Hello × ByteReader) := do
  let (legacyVersion,r) ← wrap "parse clienthello version" r.uint16
  let (random,r) ← wrap "parse clienthello random" (r.bytes 32)
  let (sessionIDLen,r) ← wrap "parse session id length" r.uint8
  let (sessionID,r) ← wrap "parse session id" (r.bytes sessionIDLen.toNat)
  let (cipherBytesLen,r) ← wrap "parse cipher suite length" r.uint16
  if cipherBytesLen.toNat%2 ≠ 0 then
    fail ("parse cipher suites: odd length " ++ toString cipherBytesLen.toNat)
  else
    let (cipherBytes,r) ← wrap "parse cipher suites" (r.bytes cipherBytesLen.toNat)
    let cipherSuites ← uint16Values cipherBytes 0 cipherBytes.length
    let (compressionLen,r) ← wrap "parse compression length" r.uint8
    let (compressionMethods,r) ← wrap "parse compression methods" (r.bytes compressionLen.toNat)
    .ok ({version := legacyVersion, random, sessionID, cipherSuites, compressionMethods},r)

def readExtensions (hello : Hello) (r : ByteReader) : Run Hello :=
  if r.remaining = 0 then .ok hello
  else do
    let (extensionsLen,r) ← wrap "parse extensions length" r.uint16
    let (extensionsData,r) ← wrap "parse extensions" (r.bytes extensionsLen.toNat)
    if r.remaining ≠ 0 then
      fail ("parse clienthello: " ++ toString r.remaining ++ " trailing bytes")
    else parseExtensions hello extensionsData

/-- Parse a TLS record or a raw handshake message that holds a ClientHello. -/
def parseClientHello (raw : Bytes) : Run Hello := do
  let body ← clientHelloBody raw
  let (hello,r) ← readFields ⟨body,0⟩
  readExtensions hello r

end ClientHello
end AntiScrapling
