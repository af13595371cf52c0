import AntiScrapling.BehaviorRecorder
import AntiScrapling.ChallengeClient
import Mathlib.Data.List.Dedup
import Mathlib.Data.List.Sort

/-! The fingerprint collectors of the challenge page (`web/challenge/src/fingerprint`).  A
browser is what its interfaces answer, calls that throw included; a collector that throws is
replaced by its empty probe.  The report is as `web/challenge/src/types.ts` has it. -/
namespace AntiScrapling
namespace FingerprintCollector

open ByteCodec UnicodeText
open BehaviorRecorder (mathRound integer)
open Binary64 (Double)
open Challenge (bytesToHex)

section Script

/-- What a call throws: an `Error` with its message, or another value with its text. -/
inductive Thrown
  | error (message : String)
  | other (text : String)

abbrev Call (α : Type) := Except Thrown α

def safe {α : Type} (collector : Call α) (fallback : α) : α :=
  match collector with
  | .ok a => a
  | .error _ => fallback

/-- `error instanceof Error ? error.message : String(error)`. -/
def Thrown.text : Thrown → String
  | .error message => message
  | .other text => text

/-- A finite number by its text: all digits of an integer, or the literal of another double. -/
inductive Number
  | integer (n : ℤ) (small : n.natAbs < 10^21)
  | fraction (literal : String) (noInteger : JsonDecode.int64OfLiteral literal = none)
      (finite : JsonDecode.float64InRange literal = true)
  deriving DecidableEq

instance : OfNat Number 0 := ⟨.integer 0 (by decide)⟩

def Number.text : Number → String
  | .integer n _ => toString n
  | .fraction literal _ _ => literal

/-- `toLowerCase`, which differs from the simple mapping in one letter as far as ASCII letters
in the result go. -/
def toLowerCase (s : String) : String :=
  String.ofList (s.toList.flatMap fun c => if c.toNat = 0x130 then ['i',Char.ofNat 0x307] else [toLowerRune c])

/-- The code units by which `sort` compares. -/
def codeUnits (s : String) : List ℕ :=
  s.toList.flatMap fun c =>
    if c.toNat < 0x10000 then [c.toNat]
    else [0xD800+(c.toNat-0x10000)/0x400,0xDC00+(c.toNat-0x10000)%0x400]

def notAfter : List ℕ → List ℕ → Bool
  | [],_ => true
  | _::_,[] => false
  | a::as,b::bs => if a = b then notAfter as bs else decide (a < b)

def sort (values : List String) : List String :=
  values.insertionSort fun a b => notAfter (codeUnits a) (codeUnits b) = true

def uniqueCount (values : List String) : ℤ := values.dedup.length

end Script

section Report

structure NavigatorProbe where
  userAgent : String
  platform : String
  vendor : String
  languages : List String
  language : String
  hardwareConcurrency : Number
  deviceMemory : Number
  webdriver : Bool
  plugins : List String
  mimeTypes : List String
  oscpu : Option String
  product : String
  productSub : String

structure WebGLProbe where
  vendor : String
  renderer : String
  unmaskedVendor : String
  unmaskedRenderer : String
  version : String
  shadingLanguageVer : String
  extensions : List String
  maxTextureSize : Number
  maxAnisotropy : Number

structure VarianceProbe where
  hashes : List String
  variance : ℤ

structure CodecsProbe where
  common : List (String × String)
  rare : List (String × String)

structure FontsProbe where
  detectedCount : ℤ
  detected : List String
  missingOsBundled : List String

structure WindowProbe where
  innerWidth : Number
  innerHeight : Number
  outerWidth : Number
  outerHeight : Number
  screenWidth : Number
  screenHeight : Number
  devicePixelRatio : Number
  colorDepth : Number
  pixelDepth : Number

structure ChromeProbe where
  present : Bool
  runtimePresent : Bool
  appPresent : Bool
  loadTimesPresent : Bool
  csiPresent : Bool
  runtimeConnectError : Option String

structure PermissionsProbe where
  notificationsState : String
  midiState : String
  cameraState : String

structure WebRTCProbe where
  localIps : List String
  publicIp : String

structure DOMProbe where
  iframeContentWindowIdentity : Bool
  closedShadowRootAccessible : Bool
  documentElementKeys : List String

structure RuntimeProbe where
  functionToStringNative : Bool
  consoleDebugArity : Number
  consoleDebugToString : String
  evalLength : Number
  errorStackContainsPwSig : Bool

structure SpeechProbe where
  voicesCount : ℤ
  voices : List String

structure ServiceWorkerProbe where
  registered : Bool
  controller : Bool
  error : Option String

structure TimingProbe where
  collectionDurationMs : ℤ
  navigationStart : ℤ
  domContentLoaded : ℤ

structure FingerprintReport where
  version : ℤ
  navigator : NavigatorProbe
  webgl : WebGLProbe
  canvas : VarianceProbe
  audio : VarianceProbe
  codecs : CodecsProbe
  fonts : FontsProbe
  window : WindowProbe
  chrome : ChromeProbe
  permissions : PermissionsProbe
  webrtc : WebRTCProbe
  dom : DOMProbe
  runtime : RuntimeProbe
  speech : SpeechProbe
  serviceWorker : ServiceWorkerProbe
  hairline : Number
  timing : TimingProbe

end Report

section Navigator

/-- `navigator`; what is missing or no number is `none`. -/
structure Navigator where
  userAgent : Option String := none
  platform : Option String := none
  vendor : Option String := none
  languages : Option (List String) := none
  language : Option String := none
  hardwareConcurrency : Option Number := none
  deviceMemory : Option Number := none
  webdriver : Option Bool := none
  plugins : Option (List String) := none
  mimeTypes : Option (List String) := none
  oscpu : Option String := none
  product : Option String := none
  productSub : Option String := none

/-- The names of plugins or MIME types that are not empty. -/
def names (items : Option (List String)) : List String := (items.getD []).filter (· ≠ "")

def collectNavigator (nav : Navigator) : NavigatorProbe where
  userAgent := nav.userAgent.getD ""
  platform := nav.platform.getD ""
  vendor := nav.vendor.getD ""
  languages := nav.languages.getD []
  language := nav.language.getD ""
  hardwareConcurrency := nav.hardwareConcurrency.getD 0
  deviceMemory := nav.deviceMemory.getD 0
  webdriver := nav.webdriver.getD false
  plugins := names nav.plugins
  mimeTypes := names nav.mimeTypes
  oscpu := nav.oscpu.filter (· ≠ "")
  product := nav.product.getD ""
  productSub := nav.productSub.getD ""

def emptyNavigator : NavigatorProbe := ⟨"","","",[],"",0,0,false,[],[],none,"",""⟩

end Navigator

section Graphics

inductive Parameter
  | vendor | renderer | unmaskedVendor | unmaskedRenderer | version | shadingLanguageVersion
  | maxTextureSize | maxAnisotropy

/-- What `getParameter` returns. -/
inductive ParameterValue
  | string (s : String)
  | number (n : Number)
  | missing
  | other (text : String)

structure WebGL where
  getExtension : String → Bool
  getParameter : Parameter → ParameterValue
  getSupportedExtensions : Option (List String)

def stringParam (gl : WebGL) (param : Parameter) : String :=
  match gl.getParameter param with
  | .string s => s
  | .number n => n.text
  | .missing => ""
  | .other text => text

def numberParam (gl : WebGL) (param : Parameter) : Number :=
  match gl.getParameter param with
  | .number n => n
  | _ => 0

def getAnisotropy (gl : WebGL) : Bool :=
  gl.getExtension "EXT_texture_filter_anisotropic" || gl.getExtension "WEBKIT_EXT_texture_filter_anisotropic" ||
    gl.getExtension "MOZ_EXT_texture_filter_anisotropic"

def emptyWebGL : WebGLProbe := ⟨"","","","","","",[],0,0⟩

def getWebGLContext (getContext : String → Call (Option WebGL)) : Call (Option WebGL) := do
  match ← getContext "webgl" with
  | some gl => pure (some gl)
  | none => getContext "experimental-webgl"

def collectWebGL (getContext : String → Call (Option WebGL)) : WebGLProbe :=
  let probe : Call WebGLProbe := do
    match ← getWebGLContext getContext with
    | none => pure emptyWebGL
    | some gl =>
      let debugInfo := gl.getExtension "WEBGL_debug_renderer_info"
      pure {
        vendor := stringParam gl .vendor
        renderer := stringParam gl .renderer
        unmaskedVendor := if debugInfo then stringParam gl .unmaskedVendor else ""
        unmaskedRenderer := if debugInfo then stringParam gl .unmaskedRenderer else ""
        version := stringParam gl .version
        shadingLanguageVer := stringParam gl .shadingLanguageVersion
        extensions := sort (gl.getSupportedExtensions.getD [])
        maxTextureSize := numberParam gl .maxTextureSize
        maxAnisotropy := if getAnisotropy gl then numberParam gl .maxAnisotropy else 0 }
  safe probe emptyWebGL

/-- `crypto.subtle.digest`, which is missing in an insecure context. -/
abbrev Digest := Bytes → Call Bytes

def sha256Hex (digest : Digest) (data : Bytes) : Call String := (digest data).map bytesToHex

/-- Three renders of the same picture or sound, by their hashes. -/
def renders (digest : Digest) (render : ℕ → Call Bytes) : Call VarianceProbe := do
  let hashes ← (List.range 3).mapM fun index => do sha256Hex digest (← render index)
  pure ⟨hashes,uniqueCount hashes⟩

def emptyVariance : VarianceProbe := ⟨[],0⟩

/-- The pixels that each of the renders leaves on the canvas, if there is a context for one. -/
def collectCanvas (digest : Digest) (context : Call (Option (ℕ → Call Bytes))) : VarianceProbe :=
  let probe : Call VarianceProbe := do
    match ← context with
    | none => pure emptyVariance
    | some render => renders digest render
  safe probe emptyVariance

/-- A sample as a 16-bit integer.  A sample that is not a number is `none`. -/
def compress (sample : Option ℚ) : ℤ :=
  match sample with
  | none => 0
  | some sample => mathRound (max (-1) (min 1 sample)*32767)

def int16Bytes (n : ℤ) : Bytes := [UInt8.ofNat (n%65536).toNat,UInt8.ofNat ((n%65536).toNat/256)]

def audioBytes (samples : List (Option ℚ)) : Bytes := samples.flatMap fun sample => int16Bytes (compress sample)

def collectAudio (digest : Digest) (context : Option (ℕ → Call (List (Option ℚ)))) : VarianceProbe :=
  match context with
  | none => emptyVariance
  | some render => safe (renders digest fun index => (render index).map audioBytes) emptyVariance

end Graphics

section Media

def commonCodecs : List (String × String) := [
  ("mp4","video/mp4"),
  ("webm","video/webm"),
  ("h264","video/mp4; codecs=\"avc1.42E01E\""),
  ("vp9","video/webm; codecs=\"vp09.00.10.08\"")]

def rareCodecs : List (String × String) := [
  ("hevc","video/mp4; codecs=\"hvc1.1.6.L93.B0\""),
  ("av1.0.04M.08","video/mp4; codecs=\"av01.0.04M.08\""),
  ("dvhe.05.06","video/mp4; codecs=\"dvhe.05.06\"")]

def probeCodecs (canPlayType : String → Call String) (codecs : List (String × String)) :
    Call (List (String × String)) :=
  codecs.mapM fun codec => do pure (codec.1,← canPlayType codec.2)

def collectCodecs (canPlayType : String → Call String) : Call CodecsProbe := do
  pure ⟨← probeCodecs canPlayType commonCodecs,← probeCodecs canPlayType rareCodecs⟩

def emptyCodecs : CodecsProbe := ⟨[],[]⟩

end Media

section Fonts

def fontCandidates : List String := [
  "Arial","Arial Black","Arial Narrow","Avenir","Calibri","Cambria","Candara","Century Gothic","Comic Sans MS",
  "Consolas","Courier New","DejaVu Sans","DejaVu Serif","Fira Sans","Franklin Gothic Medium","Georgia","Gill Sans",
  "Helvetica","Helvetica Neue","Impact","Liberation Sans","Liberation Serif","Lucida Console","Menlo","Monaco",
  "Noto Sans","Noto Serif","Optima","Palatino","Roboto","Segoe UI","SF Pro Display","SF Pro Text","Tahoma",
  "Times New Roman","Trebuchet MS","Ubuntu","Verdana","Wingdings","Zapfino","Apple Color Emoji","Segoe UI Emoji",
  "Noto Color Emoji","Symbol","MS Gothic","Meiryo","Yu Gothic","PingFang SC","Hiragino Sans","Droid Sans",
  "Source Sans Pro","System Font"]

inductive OSFamily
  | mac | windows | linux | unknown
  deriving DecidableEq

def expectedBundled : OSFamily → List String
  | .mac => ["Helvetica","Helvetica Neue","Menlo","Monaco","Avenir","Gill Sans","Apple Color Emoji","PingFang SC",
      "Hiragino Sans"]
  | .windows => ["Arial","Calibri","Cambria","Consolas","Courier New","Georgia","Segoe UI","Tahoma",
      "Times New Roman","Verdana"]
  | .linux => ["DejaVu Sans","DejaVu Serif","Liberation Sans","Liberation Serif","Noto Sans","Noto Serif","Ubuntu"]
  | .unknown => []

def baseFonts : List String := ["monospace","serif","sans-serif"]

/-- `document.fonts?.check`, and the width of the test text in a font. -/
structure FontAccess where
  check : String → Call (Option Bool)
  measure : Call (Option (String → Call Double))

def fontSetCheck (access : FontAccess) (font : String) : Bool :=
  safe ((access.check ("16px \"" ++ font ++ "\"")).map (·.getD false)) false

/-- Does some base font change the width?  The first one that does ends the search. -/
def someBase (width : String → Call Double) (font : String) : List String → Call Bool
  | [] => pure false
  | base::bases => do
    let baseline ← width ("72px " ++ base)
    let changed ← width ("72px \"" ++ font ++ "\", " ++ base)
    if .ofRat (1/10) < (changed-baseline).abs then pure true else someBase width font bases

def canvasMeasureCheck (access : FontAccess) (font : String) : Bool :=
  let probe : Call Bool := do
    match ← access.measure with
    | none => pure false
    | some width => someBase width font baseFonts
  safe probe false

def isFontDetected (access : FontAccess) (font : String) : Bool :=
  fontSetCheck access font || canvasMeasureCheck access font

/-- A platform or a user agent that is missing has no `toLowerCase`. -/
def osFamily (nav : Navigator) : Call OSFamily :=
  match nav.platform,nav.userAgent with
  | some platform,some userAgent =>
    let platform := toLowerCase platform
    let ua := toLowerCase userAgent
    .ok (if contains platform "mac" || contains ua "mac os" then .mac
      else if contains platform "win" || contains ua "windows" then .windows
      else if contains platform "linux" || contains ua "linux" || contains ua "x11" then .linux
      else .unknown)
  | _,_ => .error (.error "Cannot read properties of undefined")

def collectFonts (access : FontAccess) (nav : Navigator) : Call FontsProbe := do
  let detected := fontCandidates.filter (isFontDetected access)
  let expected := expectedBundled (← osFamily nav)
  pure ⟨detected.length,detected,expected.filter fun font => font ∉ detected⟩

def emptyFonts : FontsProbe := ⟨0,[],[]⟩

end Fonts

section Window

structure Screen where
  width : Option Number
  height : Option Number
  colorDepth : Option Number
  pixelDepth : Option Number

structure Window where
  innerWidth : Option Number
  innerHeight : Option Number
  outerWidth : Option Number
  outerHeight : Option Number
  screen : Option Screen
  devicePixelRatio : Option Number

def collectWindow (window : Window) : WindowProbe where
  innerWidth := window.innerWidth.getD 0
  innerHeight := window.innerHeight.getD 0
  outerWidth := window.outerWidth.getD 0
  outerHeight := window.outerHeight.getD 0
  screenWidth := (window.screen.bind Screen.width).getD 0
  screenHeight := (window.screen.bind Screen.height).getD 0
  devicePixelRatio := window.devicePixelRatio.getD 0
  colorDepth := (window.screen.bind Screen.colorDepth).getD 0
  pixelDepth := (window.screen.bind Screen.pixelDepth).getD 0

def emptyWindow : WindowProbe := ⟨0,0,0,0,0,0,0,0,0⟩

/-- `window.chrome`; `connect` is a call to it and the disconnection. -/
structure Chrome where
  runtime : Option (Option (Call Unit))
  app : Bool
  loadTimes : Bool
  csi : Bool

def runtimeConnectError (chrome : Option Chrome) : String :=
  match chrome.bind (·.runtime) with
  | some (some (.error thrown)) => thrown.text
  | _ => ""

def collectChrome (chrome : Option Chrome) : ChromeProbe where
  present := chrome.isSome
  runtimePresent := (chrome.bind (·.runtime)).isSome
  appPresent := (chrome.map (·.app)).getD false
  loadTimesPresent := (chrome.map (·.loadTimes)).getD false
  csiPresent := (chrome.map (·.csi)).getD false
  runtimeConnectError := some (runtimeConnectError chrome)

def emptyChrome : ChromeProbe := ⟨false,false,false,false,false,none⟩

/-- `navigator.permissions.query`, which answers with a state. -/
def queryPermission (query : Option (String → Call String)) (name : String) : String :=
  match query with
  | none => "unsupported"
  | some query =>
    match query name with
    | .ok state => state
    | .error (.error message) => "error:" ++ message
    | .error (.other _) => "error"

def collectPermissions (query : Option (String → Call String)) : PermissionsProbe where
  notificationsState := queryPermission query "notifications"
  midiState := queryPermission query "midi"
  cameraState := queryPermission query "camera"

def emptyPermissions : PermissionsProbe := ⟨"unsupported","unsupported","unsupported"⟩

end Window

section Network

def isWordChar (c : Char) : Bool := c.isAlphanum || c == '_'

/-- `\b` between two characters. -/
def boundary (before after : Option Char) : Bool := before.any isWordChar != after.any isWordChar

def digitIn (lo hi : Char) (c : Char) : Bool := decide (lo ≤ c ∧ c ≤ hi)

/-- The alternatives of an octet in their order, each with the number of characters it takes. -/
def octet : List Char → List ℕ
  | cs =>
    let digits := cs.take 3
    let is (i : ℕ) (lo hi : Char) := (digits[i]?).any (digitIn lo hi)
    (if is 0 '2' '2' && is 1 '5' '5' && is 2 '0' '5' then [3] else [])++
    (if is 0 '2' '2' && is 1 '0' '4' && is 2 '0' '9' then [3] else [])++
    (if is 0 '1' '1' && is 1 '0' '9' && is 2 '0' '9' then [3] else [])++
    (if is 0 '1' '9' && is 1 '0' '9' then [2] else [])++
    (if is 0 '0' '9' then [1] else [])

/-- The lengths of all matches of the dots and octets that are left, as backtracking tries them. -/
def octets : ℕ → List Char → List ℕ
  | 0,_ => [0]
  | n+1,cs =>
    match cs with
    | '.'::cs => (octet cs).flatMap fun taken => (octets n (cs.drop taken)).map fun more => 1+taken+more
    | _ => []

/-- The length of the match of `IPV4_RE` at the start of a text. -/
def ipv4Length (before : Option Char) (cs : List Char) : Option ℕ :=
  if boundary before cs.head? then
    ((octet cs).flatMap fun taken => (octets 3 (cs.drop taken)).map (taken+·)).find? fun length =>
      boundary (cs[length-1]?) (cs[length]?)
  else none

/-- All matches from left to right; `skip` characters belong to the last one. -/
def ipv4Matches (before : Option Char) (skip : ℕ) : List Char → List String
  | [] => []
  | c::cs =>
    match skip with
    | skip+1 => ipv4Matches (some c) skip cs
    | 0 =>
      match ipv4Length before (c::cs) with
      | some length => String.ofList ((c::cs).take length)::ipv4Matches (some c) (length-1) cs
      | none => ipv4Matches (some c) 0 cs

def candidateIps (candidate : String) : List String :=
  if contains candidate " typ host " then ipv4Matches none 0 candidate.toList else []

/-- `RTCPeerConnection`, by the candidates that its handler gets until the connection is closed. -/
def collectWebRTC (connection : Option (Call (List String))) : Call WebRTCProbe :=
  match connection with
  | none => .ok ⟨[],""⟩
  | some candidates => do pure ⟨sort ((← candidates).flatMap candidateIps).dedup,""⟩

def emptyWebRTC : WebRTCProbe := ⟨[],""⟩

/-- `navigator.serviceWorker`: the registration, and whether there is a controller in the end. -/
structure ServiceWorker where
  register : Call Unit
  controller : Bool

def collectServiceWorker (worker : Option ServiceWorker) (isSecureContext : Bool) : ServiceWorkerProbe :=
  match worker with
  | none => ⟨false,false,some "unsupported"⟩
  | some worker =>
    if !isSecureContext then ⟨false,false,some "insecure_context"⟩
    else
      match worker.register with
      | .ok _ => ⟨true,worker.controller,none⟩
      | .error thrown => ⟨false,worker.controller,some thrown.text⟩

def emptyServiceWorker : ServiceWorkerProbe := ⟨false,false,some "unsupported"⟩

end Network

section Document

/-- The window of a frame: does a second look give the same one, and is it its own `self`? -/
structure FrameWindow where
  same : Bool
  self : Bool

/-- What the elements that the probes add to the document answer. -/
structure Document where
  contentWindow : Call (Option FrameWindow)
  shadowRoot : Call Bool
  attributeNames : List String

def iframeIdentityProbe (doc : Document) : Bool :=
  safe (doc.contentWindow.map fun first => first.any fun w => w.same && w.self) false

def closedShadowRootProbe (doc : Document) : Bool := safe doc.shadowRoot false

def collectDOM (doc : Document) : DOMProbe :=
  ⟨iframeIdentityProbe doc,closedShadowRootProbe doc,doc.attributeNames⟩

def emptyDOM : DOMProbe := ⟨false,false,[]⟩

structure Runtime where
  functionToString : String
  consoleDebugLength : Number
  consoleDebugText : String
  evalLength : Number
  stack : Option String

def playwrightPatterns : List String := ["__playwright","__pwinitscripts","patchright"]

/-- `PLAYWRIGHT_RE`; without the flag for Unicode, only ASCII letters match ASCII letters. -/
def playwrightTest (stack : String) : Bool :=
  playwrightPatterns.any fun pattern => contains (String.ofList (stack.toList.map Char.toLower)) pattern

def collectRuntime (runtime : Runtime) : RuntimeProbe where
  functionToStringNative := contains runtime.functionToString "[native code]"
  consoleDebugArity := runtime.consoleDebugLength
  consoleDebugToString := runtime.consoleDebugText
  evalLength := runtime.evalLength
  errorStackContainsPwSig := playwrightTest (runtime.stack.getD "")

def emptyRuntime : RuntimeProbe := ⟨false,0,"",0,false⟩

structure Voice where
  name : String
  lang : String
  voiceURI : String
  localService : Bool

def formatVoice (voice : Voice) : String :=
  voice.name ++ "|" ++ voice.lang ++ "|" ++ voice.voiceURI ++ "|" ++ if voice.localService then "local" else "remote"

/-- `speechSynthesis`: the voices at first, and after the event or the timeout. -/
structure Speech where
  initial : List Voice
  later : List Voice

def waitForVoices (speech : Speech) : List Voice :=
  if speech.initial.length > 0 then speech.initial else speech.later

def collectSpeech (speech : Option Speech) : SpeechProbe :=
  match speech with
  | none => ⟨0,[]⟩
  | some speech => ⟨(waitForVoices speech).length,sort ((waitForVoices speech).map formatVoice)⟩

def emptySpeech : SpeechProbe := ⟨0,[]⟩

/-- `offsetHeight` of the probe's element. -/
def collectHairline (offsetHeight : Call Number) : Number := safe offsetHeight 0

end Document

section Collection

structure Timing where
  elapsed : ℚ
  timeOrigin : ℚ
  legacyStart : ℤ
  dateNow : ℤ
  navigationEntry : Option ℚ
  legacyLoaded : ℤ

def navigationStart (t : Timing) : ℤ :=
  if t.timeOrigin ≠ 0 then mathRound t.timeOrigin
  else if t.legacyStart ≠ 0 then t.legacyStart
  else t.dateNow

def domContentLoaded (t : Timing) : ℤ :=
  match t.navigationEntry with
  | some loadedEnd => mathRound (Binary64.nearest (navigationStart t+loadedEnd))
  | none => t.legacyLoaded

/-- Everything that the collectors ask the browser for. -/
structure Browser where
  digest : Digest
  navigator : Call Navigator
  getContext : String → Call (Option WebGL)
  canvas : Call (Option (ℕ → Call Bytes))
  audio : Option (ℕ → Call (List (Option ℚ)))
  canPlayType : String → Call String
  fonts : FontAccess
  window : Call Window
  chrome : Call (Option Chrome)
  permissions : Call (Option (String → Call String))
  peerConnection : Option (Call (List String))
  document : Call Document
  runtime : Call Runtime
  speech : Call (Option Speech)
  serviceWorker : Call (Option ServiceWorker)
  isSecureContext : Bool
  offsetHeight : Call Number
  timing : Timing

def collectFingerprintReport (b : Browser) : FingerprintReport where
  version := 1
  navigator := safe (b.navigator.map collectNavigator) emptyNavigator
  -- the collectors of the graphics have a try of their own
  webgl := collectWebGL b.getContext
  canvas := collectCanvas b.digest b.canvas
  audio := collectAudio b.digest b.audio
  codecs := safe (collectCodecs b.canPlayType) emptyCodecs
  fonts := safe (b.navigator.bind (collectFonts b.fonts)) emptyFonts
  window := safe (b.window.map collectWindow) emptyWindow
  chrome := safe (b.chrome.map collectChrome) emptyChrome
  permissions := safe (b.permissions.map collectPermissions) emptyPermissions
  webrtc := safe (collectWebRTC b.peerConnection) emptyWebRTC
  dom := safe (b.document.map collectDOM) emptyDOM
  runtime := safe (b.runtime.map collectRuntime) emptyRuntime
  speech := safe (b.speech.map collectSpeech) emptySpeech
  serviceWorker := safe (b.serviceWorker.map fun worker => collectServiceWorker worker b.isSecureContext)
    emptyServiceWorker
  hairline := collectHairline b.offsetHeight
  timing := ⟨mathRound b.timing.elapsed,navigationStart b.timing,domContentLoaded b.timing⟩

end Collection

section Wire

def Number.json (n : Number) : Json := .num n.text

def stringArray (values : List String) : Json := .arr (values.map .str)

def stringRecord (entries : List (String × String)) : Json := .obj (entries.map fun e => (e.1,.str e.2))

def optional (name : String) (value : Option String) : List (String × Json) :=
  (value.map fun v => (name,Json.str v)).toList

def NavigatorProbe.json (p : NavigatorProbe) : Json := .obj ([
  ("user_agent",.str p.userAgent),
  ("platform",.str p.platform),
  ("vendor",.str p.vendor),
  ("languages",stringArray p.languages),
  ("language",.str p.language),
  ("hardware_concurrency",p.hardwareConcurrency.json),
  ("device_memory",p.deviceMemory.json),
  ("webdriver",.bool p.webdriver),
  ("plugins",stringArray p.plugins),
  ("mime_types",stringArray p.mimeTypes),
  ("product",.str p.product),
  ("product_sub",.str p.productSub)]++optional "oscpu" p.oscpu)

def WebGLProbe.json (p : WebGLProbe) : Json := .obj [
  ("vendor",.str p.vendor),
  ("renderer",.str p.renderer),
  ("unmasked_vendor",.str p.unmaskedVendor),
  ("unmasked_renderer",.str p.unmaskedRenderer),
  ("version",.str p.version),
  ("shading_language_ver",.str p.shadingLanguageVer),
  ("extensions",stringArray p.extensions),
  ("max_texture_size",p.maxTextureSize.json),
  ("max_anisotropy",p.maxAnisotropy.json)]

def VarianceProbe.json (p : VarianceProbe) : Json := .obj [
  ("hashes",stringArray p.hashes),
  ("variance",integer p.variance)]

def CodecsProbe.json (p : CodecsProbe) : Json := .obj [
  ("common",stringRecord p.common),
  ("rare",stringRecord p.rare)]

def FontsProbe.json (p : FontsProbe) : Json := .obj [
  ("detected_count",integer p.detectedCount),
  ("detected",stringArray p.detected),
  ("missing_os_bundled",stringArray p.missingOsBundled)]

def WindowProbe.json (p : WindowProbe) : Json := .obj [
  ("inner_width",p.innerWidth.json),
  ("inner_height",p.innerHeight.json),
  ("outer_width",p.outerWidth.json),
  ("outer_height",p.outerHeight.json),
  ("screen_width",p.screenWidth.json),
  ("screen_height",p.screenHeight.json),
  ("device_pixel_ratio",p.devicePixelRatio.json),
  ("color_depth",p.colorDepth.json),
  ("pixel_depth",p.pixelDepth.json)]

def ChromeProbe.json (p : ChromeProbe) : Json := .obj ([
  ("present",.bool p.present),
  ("runtime_present",.bool p.runtimePresent),
  ("app_present",.bool p.appPresent),
  ("load_times_present",.bool p.loadTimesPresent),
  ("csi_present",.bool p.csiPresent)]++optional "runtime_connect_error" p.runtimeConnectError)

def PermissionsProbe.json (p : PermissionsProbe) : Json := .obj [
  ("notifications_state",.str p.notificationsState),
  ("midi_state",.str p.midiState),
  ("camera_state",.str p.cameraState)]

def WebRTCProbe.json (p : WebRTCProbe) : Json := .obj [
  ("local_ips",stringArray p.localIps),
  ("public_ip",.str p.publicIp)]

def DOMProbe.json (p : DOMProbe) : Json := .obj [
  ("iframe_content_window_identity",.bool p.iframeContentWindowIdentity),
  ("closed_shadow_root_accessible",.bool p.closedShadowRootAccessible),
  ("document_element_keys",stringArray p.documentElementKeys)]

def RuntimeProbe.json (p : RuntimeProbe) : Json := .obj [
  ("function_to_string_native",.bool p.functionToStringNative),
  ("console_debug_arity",p.consoleDebugArity.json),
  ("console_debug_to_string",.str p.consoleDebugToString),
  ("eval_length",p.evalLength.json),
  ("error_stack_contains_pw_sig",.bool p.errorStackContainsPwSig)]

def SpeechProbe.json (p : SpeechProbe) : Json := .obj [
  ("voices_count",integer p.voicesCount),
  ("voices",stringArray p.voices)]

def ServiceWorkerProbe.json (p : ServiceWorkerProbe) : Json := .obj ([
  ("registered",.bool p.registered),
  ("controller",.bool p.controller)]++optional "error" p.error)

def TimingProbe.json (p : TimingProbe) : Json := .obj [
  ("collection_duration_ms",integer p.collectionDurationMs),
  ("navigation_start",integer p.navigationStart),
  ("dom_content_loaded",integer p.domContentLoaded)]

/-- `JSON.stringify`. -/
def FingerprintReport.json (r : FingerprintReport) : Json := .obj [
  ("version",integer r.version),
  ("navigator",r.navigator.json),
  ("webgl",r.webgl.json),
  ("canvas",r.canvas.json),
  ("audio",r.audio.json),
  ("codecs",r.codecs.json),
  ("fonts",r.fonts.json),
  ("window",r.window.json),
  ("chrome",r.chrome.json),
  ("permissions",r.permissions.json),
  ("webrtc",r.webrtc.json),
  ("dom",r.dom.json),
  ("runtime",r.runtime.json),
  ("speech",r.speech.json),
  ("service_worker",r.serviceWorker.json),
  ("hairline",.obj [("non_modernizr_result",r.hairline.json)]),
  ("timing",r.timing.json)]

end Wire

end FingerprintCollector
end AntiScrapling
