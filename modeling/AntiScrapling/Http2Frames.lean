import AntiScrapling.ByteCodec
import AntiScrapling.UnicodeText

/-! The HTTP/2 frame parser of `internal/signal/http2/frames.go`.
Header names are byte strings.  Slices and indices are checked, loops carry fuel,
HPACK integers are 64-bit words, and errors keep their texts. -/
namespace AntiScrapling
namespace Http2

open CheckedRun ByteCodec UnicodeText

def clientPreface : Bytes := utf8 "PRI * HTTP/2.0\r\n\r\nSM\r\n\r\n"

def frameTypeHeaders : UInt8 := 1
def frameTypePriority : UInt8 := 2
def frameTypeSettings : UInt8 := 4
def frameTypeWindowUpdate : UInt8 := 8
def frameTypeContinuation : UInt8 := 9

def flagHeadersPadded : UInt8 := 0x8
def flagHeadersPriority : UInt8 := 0x20

def errNeedMoreData : String := "http2: incomplete frame data"

section Types

structure Setting where
  id : UInt16
  value : UInt32
  deriving DecidableEq, Repr

/-- The priority tuple encoded by PRIORITY or HEADERS frames. -/
structure PriorityParam where
  streamID : UInt32
  exclusive : Bool
  dependsOn : UInt32
  weight : UInt8
  deriving DecidableEq, Repr

structure HeadersBlock where
  streamID : UInt32
  pseudoHeaderOrder : List Bytes := []
  regularHeaderOrder : List Bytes := []
  priority : Option PriorityParam := none
  deriving DecidableEq, Repr

structure Frame where
  type : UInt8
  flags : UInt8
  streamID : UInt32
  settings : List Setting := []
  windowUpdateIncrement : UInt32 := 0
  priority : Option PriorityParam := none
  headers : Option HeadersBlock := none
  deriving DecidableEq, Repr

structure HPACKNameDecoder where
  dynamicNames : List Bytes
  deriving DecidableEq, Repr

def newHPACKNameDecoder : HPACKNameDecoder := ⟨[]⟩

end Types

section Integers

structure IntState where
  data : Bytes
  value : UInt64
  shift : ℕ

def intRound (s : IntState) : Run (IntState ⊕ (UInt64 × Bytes)) :=
  if s.data.length = 0 then fail errNeedMoreData
  else do
    let b ← byteAt s.data 0
    let data ← slice s.data 1 s.data.length
    let value := s.value+((b &&& 0x7f).toUInt64 <<< UInt64.ofNat s.shift)
    if b &&& 0x80 = 0 then .ok (.inr (value,data))
    else
      let shift := s.shift+7
      if shift > 56 then fail "http2: HPACK integer overflow"
      else .ok (.inl ⟨data,value,shift⟩)

/-- `readHPACKInt`; `bits` is the size of the prefix. -/
def readHPACKInt (data : Bytes) (bits : ℕ) : Run (UInt64 × Bytes) :=
  if data.length = 0 then fail errNeedMoreData
  else do
    let mask := UInt8.ofNat (2^bits-1)
    let value := ((← byteAt data 0) &&& mask).toUInt64
    let data ← slice data 1 data.length
    if value < mask.toUInt64 then .ok (value,data)
    else iterate intRound (data.length+1) ⟨data,value,0⟩

/-- A Huffman-coded string is read over and left unidentified. -/
def readHPACKString (data : Bytes) : Run (Bytes × Bytes) :=
  if data.length = 0 then fail errNeedMoreData
  else do
    let huffman := (← byteAt data 0) &&& 0x80 ≠ 0
    let (length,rest) ← readHPACKInt data 7
    if rest.length < length.toNat then fail errNeedMoreData
    else
      let value ← slice rest 0 length.toNat
      let rest ← slice rest length.toNat rest.length
      if huffman then .ok ([],rest) else .ok (value,rest)

end Integers

section Names

def hpackStaticNames : List Bytes := [
  ":authority",":method",":method",":path",":path",":scheme",":scheme",":status",":status",
  ":status",":status",":status",":status",":status","accept-charset","accept-encoding",
  "accept-language","accept-ranges","accept","access-control-allow-origin","age","allow",
  "authorization","cache-control","content-disposition","content-encoding","content-language",
  "content-length","content-location","content-range","content-type","cookie","date","etag",
  "expect","expires","from","host","if-match","if-modified-since","if-none-match","if-range",
  "if-unmodified-since","last-modified","link","location","max-forwards","proxy-authenticate",
  "proxy-authorization","range","referer","refresh","retry-after","server","set-cookie",
  "strict-transport-security","transfer-encoding","user-agent","vary","via","www-authenticate"].map utf8

/-- `names[i]`. -/
def nameAt (names : List Bytes) (i : ℕ) : Run Bytes :=
  match names[i]? with
  | some name => .ok name
  | none => .error .panic

namespace HPACKNameDecoder

def lookupName (d : HPACKNameDecoder) (index : UInt64) : Run Bytes :=
  if index = 0 then .ok []
  else if index ≤ UInt64.ofNat hpackStaticNames.length then
    nameAt hpackStaticNames (index-1).toNat
  else
    let dynamicIndex := index.toInt64-Int64.ofNat hpackStaticNames.length-1
    if 0 ≤ dynamicIndex.toInt ∧ dynamicIndex.toInt < d.dynamicNames.length then
      nameAt d.dynamicNames dynamicIndex.toInt.toNat
    else .ok []

def addDynamicName (d : HPACKNameDecoder) (name : Bytes) : HPACKNameDecoder :=
  if name = [] then d else ⟨name::d.dynamicNames⟩

def readLiteralName (d : HPACKNameDecoder) (block : Bytes) (bits : ℕ) : Run (Bytes × Bytes) := do
  let (index,rest) ← readHPACKInt block bits
  let (name,rest) ←
    if index > 0 then do .ok (← d.lookupName index,rest) else readHPACKString rest
  let (_,rest) ← readHPACKString rest
  .ok (name,rest)

end HPACKNameDecoder

structure DecodeState where
  decoder : HPACKNameDecoder
  names : List Bytes
  block : Bytes

def appendName (names : List Bytes) (name : Bytes) : List Bytes :=
  if name ≠ [] then names++[name] else names

def decodeRound (s : DecodeState) : Run (DecodeState ⊕ (List Bytes × HPACKNameDecoder)) :=
  if s.block.length > 0 then do
    let b ← byteAt s.block 0
    if b &&& 0x80 ≠ 0 then
      let (index,rest) ← readHPACKInt s.block 7
      let name ← s.decoder.lookupName index
      .ok (.inl ⟨s.decoder,appendName s.names name,rest⟩)
    else if b &&& 0x40 ≠ 0 then
      let (name,rest) ← s.decoder.readLiteralName s.block 6
      .ok (.inl ⟨s.decoder.addDynamicName name,appendName s.names name,rest⟩)
    else if b &&& 0x20 ≠ 0 then
      let (_,rest) ← readHPACKInt s.block 5
      .ok (.inl ⟨s.decoder,s.names,rest⟩)
    else
      let (name,rest) ← s.decoder.readLiteralName s.block 4
      .ok (.inl ⟨s.decoder,appendName s.names name,rest⟩)
  else .ok (.inr (s.names,s.decoder))

def HPACKNameDecoder.decode (d : HPACKNameDecoder) (block : Bytes) :
    Run (List Bytes × HPACKNameDecoder) :=
  iterate decodeRound (block.length+1) ⟨d,[],block⟩

end Names

section Payloads

def settingsRound (s : Bytes × List Setting) : Run ((Bytes × List Setting) ⊕ List Setting) :=
  if s.1.length > 0 then do
    let id ← uint16 (← slice s.1 0 2)
    let value ← uint32 (← slice s.1 2 6)
    let payload ← slice s.1 6 s.1.length
    .ok (.inl (payload,s.2++[⟨id,value⟩]))
  else .ok (.inr s.2)

def parseSettings (payload : Bytes) : Run (List Setting) :=
  if payload.length%6 ≠ 0 then
    fail ("http2: SETTINGS payload length " ++ toString payload.length ++ " is not divisible by 6")
  else iterate settingsRound (payload.length+1) (payload,[])

def parseWindowUpdate (payload : Bytes) : Run UInt32 :=
  if payload.length ≠ 4 then
    fail ("http2: WINDOW_UPDATE payload length " ++ toString payload.length ++ ", want 4")
  else do .ok ((← uint32 payload) &&& 0x7fffffff)

def parsePriority (payload : Bytes) (streamID : UInt32) : Run PriorityParam :=
  if payload.length ≠ 5 then
    fail ("http2: PRIORITY payload length " ++ toString payload.length ++ ", want 5")
  else do
    let dependency ← uint32 (← slice payload 0 4)
    .ok { streamID := streamID
          exclusive := dependency &&& 0x80000000 ≠ 0
          dependsOn := dependency &&& 0x7fffffff
          weight := ← byteAt payload 4 }

/-- What is left of a HEADERS payload without its padding. -/
def removePadding (payload : Bytes) (flags : UInt8) : Run Bytes :=
  if flags &&& flagHeadersPadded ≠ 0 then
    if payload.length = 0 then fail errNeedMoreData
    else do
      let padLength := (← byteAt payload 0).toNat
      let payload ← slice payload 1 payload.length
      if padLength > payload.length then
        fail ("http2: HEADERS padding length " ++ toString padLength ++ " exceeds payload")
      else slice payload 0 (payload.length-padLength)
  else .ok payload

/-- The priority in front of the header block, if there is one, and the block. -/
def takePriority (payload : Bytes) (flags : UInt8) (streamID : UInt32) :
    Run (Option PriorityParam × Bytes) :=
  if flags &&& flagHeadersPriority ≠ 0 then
    if payload.length < 5 then fail errNeedMoreData
    else do
      let priority ← parsePriority (← slice payload 0 5) streamID
      let payload ← slice payload 5 payload.length
      .ok (some priority,payload)
  else .ok (none,payload)

def sortName (headers : HeadersBlock) (name : Bytes) : Run HeadersBlock :=
  if name.length = 0 then .ok headers
  else do
    if (← byteAt name 0) = 58 then
      let pseudo ← slice name 1 name.length
      .ok {headers with pseudoHeaderOrder := headers.pseudoHeaderOrder++[pseudo]}
    else .ok {headers with regularHeaderOrder := headers.regularHeaderOrder++[name]}

def parseHeaders (payload : Bytes) (flags : UInt8) (streamID : UInt32)
    (decoder : HPACKNameDecoder) : Run (HeadersBlock × HPACKNameDecoder) := do
  let payload ← removePadding payload flags
  let (priority,payload) ← takePriority payload flags streamID
  let (names,decoder) ← decoder.decode payload
  let headers ← names.foldlM sortName {streamID, priority}
  .ok (headers,decoder)

end Payloads

section Frames

def parsePayload (frame : Frame) (payload : Bytes) (decoder : HPACKNameDecoder) :
    Run (Frame × HPACKNameDecoder) :=
  if frame.type = frameTypeSettings then do
    .ok ({frame with settings := ← parseSettings payload},decoder)
  else if frame.type = frameTypeWindowUpdate then do
    .ok ({frame with windowUpdateIncrement := ← parseWindowUpdate payload},decoder)
  else if frame.type = frameTypePriority then do
    .ok ({frame with priority := some (← parsePriority payload frame.streamID)},decoder)
  else if frame.type = frameTypeHeaders then do
    let (headers,decoder) ← parseHeaders payload frame.flags frame.streamID decoder
    .ok ({frame with headers := some headers},decoder)
  else .ok (frame,decoder)

structure FrameState where
  data : Bytes
  frames : List Frame
  decoder : HPACKNameDecoder

def frameRound (s : FrameState) : Run (FrameState ⊕ List Frame) :=
  if s.data.length > 0 then
    if s.data.length < 9 then fail errNeedMoreData
    else do
      let b₀ ← byteAt s.data 0
      let b₁ ← byteAt s.data 1
      let b₂ ← byteAt s.data 2
      let length := b₀.toNat*65536+b₁.toNat*256+b₂.toNat
      if s.data.length < 9+length then fail errNeedMoreData
      else
        let type ← byteAt s.data 3
        let flags ← byteAt s.data 4
        let streamID := (← uint32 (← slice s.data 5 9)) &&& 0x7fffffff
        let payload ← slice s.data 9 (9+length)
        let (frame,decoder) ← parsePayload {type, flags, streamID} payload s.decoder
        let data ← slice s.data (9+length) s.data.length
        .ok (.inl ⟨data,s.frames++[frame],decoder⟩)
  else .ok (.inr s.frames)

/-- Whether the connection preface is in front of the frames. -/
def hasPreface (data : Bytes) : Bool := decide (clientPreface <+: data)

def skipPreface (data : Bytes) : Bytes :=
  if hasPreface data then data.drop clientPreface.length else data

/-- Parse raw HTTP/2 frame bytes into the minimal frame model. -/
def parseFrames (data : Bytes) : Run (List Frame) :=
  let data := skipPreface data
  iterate frameRound (data.length+1) ⟨data,[],newHPACKNameDecoder⟩

end Frames

end Http2
end AntiScrapling
