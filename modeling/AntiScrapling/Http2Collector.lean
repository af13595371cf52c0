import AntiScrapling.Akamai
import AntiScrapling.Fingerprint
import AntiScrapling.Http2Safety
import AntiScrapling.Ja4h

/-! The http2 collector (`internal/signal/http2/collector.go`): the JA4H of every request, and
the Akamai fingerprint where the frames of the connection were kept. -/
namespace AntiScrapling
namespace Http2Collector

open UnicodeText ByteCodec CheckedRun Http2 Ja4h

/-- What the collector reads of a request besides its context: the protocol version, and
the frames on the two Go contexts. -/
structure Wire where
  protoMajor : ℤ := 1
  protoMinor : ℤ := 1
  contextFrames : Option Bytes := none
  requestFrames : Option Bytes := none

/-- `Collector`; a map may be nil. -/
structure Known where
  knownAkamai : Option (StringMap String)
  knownJA4H : Option (StringMap String)

def chromeAkamai : String := "1:65536,3:1000,4:6291456,6:262144|15663105|0|m,a,s,p"

def firefoxAkamai : String := "1:65536,4:131072,5:16384|12517377|0|m,a,s,p"

def defaultKnownAkamai : StringMap String :=
  (StringMap.empty.insert chromeAkamai "chrome131").insert firefoxAkamai "firefox134"

def defaultKnownJA4H : StringMap String :=
  (StringMap.empty.insert "ge11cn060000_7c8a3eaa8540_2c6e4f16ff14" "chrome131").insert
    "ge11cn060000_b5d4f0c8a3d1_e17a92c3b8f4" "firefox134"

def newCollector : Known := ⟨some defaultKnownAkamai,some defaultKnownJA4H⟩

def frameBytesFromContext (stored : Option Bytes) : Option Bytes := stored.filter (· ≠ [])

def frameBytesFromRequestContext (wire : Wire) (ctx : RequestContext) : Option Bytes :=
  match frameBytesFromContext wire.contextFrames with
  | some frames => some frames
  | none => ctx.request.bind fun _ => frameBytesFromContext wire.requestFrames

def requestWithContextHeaders (ctx : RequestContext) : Option HttpRequest :=
  ctx.request.map fun r => if ctx.headers.entries.length = 0 then r else {r with header := ctx.headers}

def expectedAkamaiForRequest (r : HttpRequest) : String :=
  let ua := toLower r.userAgent
  if contains ua "firefox/134" then firefoxAkamai
  else if contains ua "chrome/131" || contains ua "chromium/131" then chromeAkamai
  else ""

def akamaiSignal (known : Known) (r : HttpRequest) (akamai : String) : Option Signal :=
  let expected := expectedAkamaiForRequest r
  if expected ≠ "" then
    if akamai = expected then none
    else some ⟨"h2_akamai_mismatch",35,"HTTP/2 Akamai fingerprint does not match the declared browser family"⟩
  else if ((known.knownAkamai.getD defaultKnownAkamai).lookup akamai).isSome then none
  else some ⟨"h2_akamai_mismatch",35,"HTTP/2 Akamai fingerprint is not in the known browser baseline"⟩

variable (sha256 : Bytes → Bytes)

def computeJA4H (req : Option HttpRequest) (wire : Wire) (headerOrder : List String) : Bytes :=
  match req with
  | none => []
  | some r => computeJA4HFromShape sha256
      ⟨r.method,wire.protoMajor,wire.protoMinor,r.header,headerOrder,r.host⟩

def isKnownJA4H (known : Known) (ja4h : Bytes) : Bool :=
  (known.knownJA4H.getD defaultKnownJA4H).entries.any fun e => utf8 e.1 = ja4h

def ja4hSignals (known : Known) (wire : Wire) (ctx : RequestContext) : List Signal :=
  let ja4h := computeJA4H sha256 (requestWithContextHeaders ctx) wire ctx.headerOrder
  if ja4h ≠ [] && !isKnownJA4H known ja4h then
    [⟨"ja4h_unknown",20,"JA4H fingerprint is not in the known browser baseline"⟩] else []

/-- `Collect`: the signals and the reported error, if there is one. -/
def collect (known : Known) (wire : Wire) (ctx : RequestContext) : Run (List Signal × Option String) :=
  match ctx.request with
  | none => .ok ([],none)
  | some r =>
    let signals := ja4hSignals sha256 known wire ctx
    match frameBytesFromRequestContext wire ctx with
    | none => .ok (signals,none)
    | some frames =>
      match computeAkamaiFingerprintBytes frames with
      | .error (.error msg) => .ok (signals,some msg)
      | .error fault => .error fault
      | .ok akamai =>
        if akamai = "" then .ok (signals,none)
        else .ok (signals++(akamaiSignal known r akamai).toList,none)

/-- The collector answers every request; broken frames only cost it the second signal. -/
theorem collect_cases (known : Known) (wire : Wire) (ctx : RequestContext) :
    collect sha256 known wire ctx = .ok ([],none) ∨
    (∃ err, collect sha256 known wire ctx = .ok (ja4hSignals sha256 known wire ctx,err)) ∨
    ∃ r akamai, collect sha256 known wire ctx =
      .ok (ja4hSignals sha256 known wire ctx++(akamaiSignal known r akamai).toList,none) := by
  unfold collect
  cases ctx.request with
  | none => exact .inl rfl
  | some r =>
    refine .inr ?_
    cases hframes : frameBytesFromRequestContext wire ctx with
    | none => exact .inl ⟨none,rfl⟩
    | some frames =>
      have hsafe : Safe (computeAkamaiFingerprintBytes frames) fun _ => True :=
        (parseFrames_safe frames).bind fun _ _ => trivial
      rcases hsafe.value_or_error with ⟨akamai,h,-⟩ | ⟨msg,h⟩
      · simp only [h]
        split_ifs
        · exact .inl ⟨none,rfl⟩
        · exact .inr ⟨r,akamai,rfl⟩
      · simp only [h,fail]
        exact .inl ⟨some msg,rfl⟩

end Http2Collector
end AntiScrapling
