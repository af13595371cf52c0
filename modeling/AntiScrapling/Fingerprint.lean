import AntiScrapling.JsonDecode

/-! The browser fingerprint report (`internal/types/fingerprint.go`) and its
scoring (`internal/signal/fingerprint`).  A report has the fields that the probes
read; the other members of its JSON form are checked for their type only. -/
namespace AntiScrapling

/-- One observation about a request that contributes to the risk score. -/
structure Signal where
  name : String
  score : ℤ
  reason : String
  deriving DecidableEq, Repr

namespace Fingerprint

open UnicodeText JsonDecode

structure NavigatorProbe where
  userAgent : String := ""
  platform : String := ""
  vendor : String := ""
  hardwareConcurrency : ℤ := 0
  webdriver : Bool := false
  plugins : List String := []
  oscpu : String := ""

structure WebGLProbe where
  unmaskedVendor : String := ""
  unmaskedRenderer : String := ""
  extensions : List String := []

structure WindowProbe where
  innerHeight : ℤ := 0
  outerHeight : ℤ := 0

structure ChromeProbe where
  present : Bool := false
  runtimeConnectError : String := ""

structure PermissionsProbe where
  notificationsState : String := ""
  midiState : String := ""

structure DOMProbe where
  iframeContentWindowIdentity : Bool := false
  closedShadowRootAccessible : Bool := false

structure RuntimeProbe where
  functionToStringNative : Bool := false
  consoleDebugArity : ℤ := 0
  errorStackContainsPwSig : Bool := false

structure SpeechProbe where
  voicesCount : ℤ := 0
  voices : List String := []

structure ServiceWorkerProbe where
  registered : Bool := false
  controller : Bool := false
  error : String := ""

structure FingerprintReport where
  navigator : NavigatorProbe := {}
  webgl : WebGLProbe := {}
  canvasVariance : ℤ := 0
  audioVariance : ℤ := 0
  codecsRare : List (String × String) := []
  fontsMissingOSBundled : List String := []
  window : WindowProbe := {}
  chrome : ChromeProbe := {}
  permissions : PermissionsProbe := {}
  webrtcLocalIPs : List String := []
  dom : DOMProbe := {}
  runtime : RuntimeProbe := {}
  speech : SpeechProbe := {}
  serviceWorker : ServiceWorkerProbe := {}
  hairlineNonModernizrResult : ℤ := 0

section Decoding

def navigatorProbe : Decoder NavigatorProbe := object [
  ("user_agent",field (·.userAgent) (fun p v => {p with userAgent := v}) string),
  ("platform",field (·.platform) (fun p v => {p with platform := v}) string),
  ("vendor",field (·.vendor) (fun p v => {p with vendor := v}) string),
  ("languages",unread strings []),
  ("language",unread string ""),
  ("hardware_concurrency",
    field (·.hardwareConcurrency) (fun p v => {p with hardwareConcurrency := v}) int64),
  ("device_memory",unread float64 ()),
  ("webdriver",field (·.webdriver) (fun p v => {p with webdriver := v}) boolean),
  ("plugins",field (·.plugins) (fun p v => {p with plugins := v}) strings),
  ("mime_types",unread strings []),
  ("oscpu",field (·.oscpu) (fun p v => {p with oscpu := v}) string),
  ("product",unread string ""),
  ("product_sub",unread string "")]

def webglProbe : Decoder WebGLProbe := object [
  ("vendor",unread string ""),
  ("renderer",unread string ""),
  ("unmasked_vendor",field (·.unmaskedVendor) (fun p v => {p with unmaskedVendor := v}) string),
  ("unmasked_renderer",field (·.unmaskedRenderer) (fun p v => {p with unmaskedRenderer := v}) string),
  ("version",unread string ""),
  ("shading_language_ver",unread string ""),
  ("extensions",field (·.extensions) (fun p v => {p with extensions := v}) strings),
  ("max_texture_size",unread int64 0),
  ("max_anisotropy",unread float64 ())]

def varianceProbe : Decoder ℤ := object [
  ("hashes",unread strings []),
  ("variance",int64)]

def codecsProbe : Decoder (List (String × String)) := object [
  ("common",unread stringMap []),
  ("rare",stringMap)]

def fontsProbe : Decoder (List String) := object [
  ("detected_count",unread int64 0),
  ("detected",unread strings []),
  ("missing_os_bundled",strings)]

def windowProbe : Decoder WindowProbe := object [
  ("inner_width",unread int64 0),
  ("inner_height",field (·.innerHeight) (fun p v => {p with innerHeight := v}) int64),
  ("outer_width",unread int64 0),
  ("outer_height",field (·.outerHeight) (fun p v => {p with outerHeight := v}) int64),
  ("screen_width",unread int64 0),
  ("screen_height",unread int64 0),
  ("device_pixel_ratio",unread float64 ()),
  ("color_depth",unread int64 0),
  ("pixel_depth",unread int64 0)]

def chromeProbe : Decoder ChromeProbe := object [
  ("present",field (·.present) (fun p v => {p with present := v}) boolean),
  ("runtime_present",unread boolean false),
  ("app_present",unread boolean false),
  ("load_times_present",unread boolean false),
  ("csi_present",unread boolean false),
  ("runtime_connect_error",
    field (·.runtimeConnectError) (fun p v => {p with runtimeConnectError := v}) string)]

def permissionsProbe : Decoder PermissionsProbe := object [
  ("notifications_state",
    field (·.notificationsState) (fun p v => {p with notificationsState := v}) string),
  ("midi_state",field (·.midiState) (fun p v => {p with midiState := v}) string),
  ("camera_state",unread string "")]

def webrtcProbe : Decoder (List String) := object [
  ("local_ips",strings),
  ("public_ip",unread string "")]

def domProbe : Decoder DOMProbe := object [
  ("iframe_content_window_identity",
    field (·.iframeContentWindowIdentity) (fun p v => {p with iframeContentWindowIdentity := v}) boolean),
  ("closed_shadow_root_accessible",
    field (·.closedShadowRootAccessible) (fun p v => {p with closedShadowRootAccessible := v}) boolean),
  ("document_element_keys",unread strings [])]

def runtimeProbe : Decoder RuntimeProbe := object [
  ("function_to_string_native",
    field (·.functionToStringNative) (fun p v => {p with functionToStringNative := v}) boolean),
  ("console_debug_arity",
    field (·.consoleDebugArity) (fun p v => {p with consoleDebugArity := v}) int64),
  ("console_debug_to_string",unread string ""),
  ("eval_length",unread int64 0),
  ("error_stack_contains_pw_sig",
    field (·.errorStackContainsPwSig) (fun p v => {p with errorStackContainsPwSig := v}) boolean)]

def speechProbe : Decoder SpeechProbe := object [
  ("voices_count",field (·.voicesCount) (fun p v => {p with voicesCount := v}) int64),
  ("voices",field (·.voices) (fun p v => {p with voices := v}) strings)]

def serviceWorkerProbe : Decoder ServiceWorkerProbe := object [
  ("registered",field (·.registered) (fun p v => {p with registered := v}) boolean),
  ("controller",field (·.controller) (fun p v => {p with controller := v}) boolean),
  ("error",field (·.error) (fun p v => {p with error := v}) string)]

def hairlineProbe : Decoder ℤ := object [("non_modernizr_result",int64)]

def timingProbe : Decoder Unit := object [
  ("collection_duration_ms",unread int64 0),
  ("navigation_start",unread int64 0),
  ("dom_content_loaded",unread int64 0)]

def fingerprintReport : Decoder FingerprintReport := object [
  ("version",unread int64 0),
  ("navigator",field (·.navigator) (fun r v => {r with navigator := v}) navigatorProbe),
  ("webgl",field (·.webgl) (fun r v => {r with webgl := v}) webglProbe),
  ("canvas",field (·.canvasVariance) (fun r v => {r with canvasVariance := v}) varianceProbe),
  ("audio",field (·.audioVariance) (fun r v => {r with audioVariance := v}) varianceProbe),
  ("codecs",field (·.codecsRare) (fun r v => {r with codecsRare := v}) codecsProbe),
  ("fonts",field (·.fontsMissingOSBundled) (fun r v => {r with fontsMissingOSBundled := v}) fontsProbe),
  ("window",field (·.window) (fun r v => {r with window := v}) windowProbe),
  ("chrome",field (·.chrome) (fun r v => {r with chrome := v}) chromeProbe),
  ("permissions",field (·.permissions) (fun r v => {r with permissions := v}) permissionsProbe),
  ("webrtc",field (·.webrtcLocalIPs) (fun r v => {r with webrtcLocalIPs := v}) webrtcProbe),
  ("dom",field (·.dom) (fun r v => {r with dom := v}) domProbe),
  ("runtime",field (·.runtime) (fun r v => {r with runtime := v}) runtimeProbe),
  ("speech",field (·.speech) (fun r v => {r with speech := v}) speechProbe),
  ("service_worker",field (·.serviceWorker) (fun r v => {r with serviceWorker := v}) serviceWorkerProbe),
  ("hairline",field (·.hairlineNonModernizrResult)
    (fun r v => {r with hairlineNonModernizrResult := v}) hairlineProbe),
  ("timing",unread timingProbe ())]

end Decoding

section UserAgents

def isFirefoxUA (userAgent : String) : Bool :=
  let ua := toLower userAgent
  contains ua "firefox/" || contains ua "fxios/"

def isChromeUA (userAgent : String) : Bool :=
  let ua := toLower userAgent
  if contains ua "firefox/" || contains ua "fxios/" then false
  else if contains ua "edg/" || contains ua "opr/" then false
  else contains ua "chrome/" || contains ua "chromium/" || contains ua "crios/"

def isSafariUA (userAgent : String) : Bool :=
  let ua := toLower userAgent
  contains ua "safari/" && contains ua "version/" && !isChromeUA userAgent && !isFirefoxUA userAgent

/-- The operating systems that a user agent or a platform can name. -/
inductive OS
  | windows | linux | mac | ios
  deriving DecidableEq, Repr

def osFromUA (userAgent : String) : Option OS :=
  let ua := toLower userAgent
  if contains ua "windows nt" then some .windows
  else if contains ua "linux" || contains ua "x11" then some .linux
  else if contains ua "mac os x" || contains ua "macintosh" then some .mac
  else if contains ua "iphone" || contains ua "ipad" then some .ios
  else none

def osFromPlatform (platform : String) : Option OS :=
  let value := toLower platform
  if contains value "win" then some .windows
  else if contains value "linux" || contains value "x11" then some .linux
  else if contains value "mac" then some .mac
  else if contains value "iphone" || contains value "ipad" then some .ios
  else none

def hasExactString (values : List String) (want : String) : Bool :=
  values.any fun value => equalFold (trimSpace value) want

def hasCanonicalChromePlugins (plugins : List String) : Bool :=
  let hasPDFViewer := hasExactString plugins "PDF Viewer"
  let hasChromePDFViewer := hasExactString plugins "Chrome PDF Viewer"
  let hasChromiumPDFViewer := hasExactString plugins "Chromium PDF Viewer"
  let hasNativeClient := hasExactString plugins "Native Client"
  hasPDFViewer && (hasChromePDFViewer || hasChromiumPDFViewer) &&
    (hasNativeClient || (hasChromePDFViewer && hasChromiumPDFViewer))

def containsFold (value substr : String) : Bool := contains (toLower value) (toLower substr)

def mediaSupportPresent (value : String) : Bool :=
  match toLower (trimSpace value) with
  | "maybe" => true
  | "probably" => true
  | _ => false

end UserAgents

section Probes

def signalIf (fires : Bool) (name : String) (score : ℤ) (reason : String) : List Signal :=
  if fires then [⟨name,score,reason⟩] else []

def navigator (report : FingerprintReport) : List Signal :=
  let nav := report.navigator
  let uaOS := osFromUA nav.userAgent
  let platformOS := osFromPlatform nav.platform
  signalIf (uaOS.isSome && platformOS.isSome && uaOS != platformOS) "nav_platform_ua_mismatch" 50
      "navigator.platform does not match the operating system in user_agent" ++
  signalIf (nav.hardwareConcurrency == 4) "nav_hardware_concurrency_trap" 30
      "navigator.hardwareConcurrency is exactly the common stealth default of 4" ++
  signalIf nav.webdriver "nav_webdriver_set" 60 "navigator.webdriver is true" ++
  signalIf (isChromeUA nav.userAgent && !hasCanonicalChromePlugins nav.plugins)
      "nav_plugins_anomaly" 20
      "Chrome plugin list is missing the canonical PDF viewer plugin names" ++
  signalIf (isFirefoxUA nav.userAgent && nav.plugins.length > 0) "nav_plugins_anomaly" 20
      "Firefox should expose an empty navigator.plugins list" ++
  signalIf (isChromeUA nav.userAgent && nav.vendor != "Google Inc.") "nav_vendor_ua_mismatch" 25
      "Chrome user agent must report navigator.vendor as Google Inc." ++
  signalIf (isFirefoxUA nav.userAgent && nav.vendor != "") "nav_vendor_ua_mismatch" 25
      "Firefox user agent must report an empty navigator.vendor" ++
  signalIf (!isFirefoxUA nav.userAgent && trimSpace nav.oscpu != "") "nav_oscpu_firefox_only" 15
      "navigator.oscpu is Firefox-only but is present for this user agent"

def webGLExtensionsAnomalous (extensions : List String) : Bool :=
  if extensions.length < 10 then true
  else extensions.length ≤ 12 && hasExactString extensions "WEBGL_debug_renderer_info" &&
    !hasExactString extensions "OES_texture_float"

def webGL (report : FingerprintReport) : List Signal :=
  let webgl := report.webgl
  signalIf (containsFold webgl.unmaskedVendor "Intel" && containsFold webgl.unmaskedRenderer "Apple GPU")
      "webgl_vendor_renderer_impossible" 40
      "WebGL unmasked vendor and renderer describe an impossible GPU combination" ++
  signalIf (webgl.unmaskedVendor == "" || webgl.unmaskedRenderer == "") "webgl_unmasked_missing" 20
      "WEBGL_debug_renderer_info did not expose unmasked vendor and renderer" ++
  signalIf (webGLExtensionsAnomalous webgl.extensions) "webgl_extensions_anomaly" 15
      "WebGL extension surface is too small or matches a fake extension set"

def canvas (report : FingerprintReport) : List Signal :=
  signalIf (!(report.canvasVariance < 2)) "canvas_seeded_noise" 50
    "repeated canvas renders produced multiple hashes in the same session"

def audio (report : FingerprintReport) : List Signal :=
  signalIf (!(report.audioVariance < 2)) "audio_seeded_noise" 40
    "repeated AudioContext renders produced multiple hashes in the same session"

def codecs (report : FingerprintReport) : List Signal :=
  let ua := report.navigator.userAgent
  let hevc := (report.codecsRare.lookup "hevc").getD ""
  let av1 := (report.codecsRare.lookup "av1_p1").getD ""
  signalIf ((isChromeUA ua || isSafariUA ua) && !(mediaSupportPresent hevc && mediaSupportPresent av1))
    "codec_rare_missing" 20
    "modern Chrome/Safari user agent is missing HEVC or AV1 rare codec support"

def fonts (report : FingerprintReport) : List Signal :=
  signalIf (report.fontsMissingOSBundled.length != 0) "font_os_bundled_missing" 25
    "claimed platform is missing OS-bundled fonts"

def sub64 (a b : ℤ) : ℤ := (a-b).bmod (2^64)

def window (report : FingerprintReport) : List Signal :=
  signalIf (sub64 report.window.outerHeight report.window.innerHeight == 85)
    "window_outer_height_85_trap" 50
    "window.outerHeight - window.innerHeight is the playwright-stealth constant 85"

def isRealChromeRuntimeConnectError (value : String) : Bool :=
  containsFold value "Could not establish connection" && !containsFold value "TypeError"

def chromeRuntime (report : FingerprintReport) : List Signal :=
  let chrome := report.chrome
  let ua := report.navigator.userAgent
  signalIf (isChromeUA ua && chrome.runtimeConnectError != "" &&
      !isRealChromeRuntimeConnectError chrome.runtimeConnectError) "chrome_runtime_connect_failure" 40
      "chrome.runtime.connect failed with a mock-specific error" ++
  signalIf (isFirefoxUA ua && chrome.present) "chrome_present_for_firefox" 60
      "window.chrome is present for a Firefox user agent"

def permissions (report : FingerprintReport) : List Signal :=
  let permissions := report.permissions
  signalIf (permissions.notificationsState == "granted" &&
      (permissions.midiState == "denied" || permissions.midiState == "prompt"))
    "permissions_midi_inconsistent" 35
    "notifications permission is granted while midi remains denied or prompt"

def webRTC (report : FingerprintReport) : List Signal :=
  signalIf (!(report.webrtcLocalIPs.length > 0)) "webrtc_no_local_ips" 15
    "WebRTC STUN probe did not expose any local IP candidates"

def dom (report : FingerprintReport) : List Signal :=
  signalIf report.dom.iframeContentWindowIdentity "dom_iframe_contentwindow_anomaly" 40
      "iframe.contentWindow identity probe matched a stealth patch signature" ++
  signalIf report.dom.closedShadowRootAccessible "dom_closed_shadow_root_accessible" 50
      "closed shadow root was accessible from page JavaScript"

def runtime (report : FingerprintReport) : List Signal :=
  signalIf (report.runtime.consoleDebugArity == 0) "runtime_console_debug_disabled" 60
      "console.debug.length is zero, matching the patchright Console API patch" ++
  signalIf (!report.runtime.functionToStringNative) "runtime_to_string_proxy" 35
      "Function.prototype.toString failed the native reflection probe" ++
  signalIf report.runtime.errorStackContainsPwSig "runtime_error_stack_pw_signature" 70
      "error stack contains a Playwright init-script signature"

def browserBundlesVoices (userAgent : String) : Bool :=
  isChromeUA userAgent || isFirefoxUA userAgent || isSafariUA userAgent

def speech (report : FingerprintReport) : List Signal :=
  signalIf (browserBundlesVoices report.navigator.userAgent &&
      !(report.speech.voicesCount != 0 || report.speech.voices.length != 0)) "speech_voices_empty" 15
    "speechSynthesis voice list is empty for a browser/OS that bundles default voices"

def serviceWorker (report : FingerprintReport) : List Signal :=
  let sw := report.serviceWorker
  signalIf ((sw.registered && !sw.controller) || (sw.error != "" && containsFold sw.error "no-op"))
    "sw_register_noop" 45
    "service worker registration did not produce a controller after wait"

def hairline (report : FingerprintReport) : List Signal :=
  signalIf (!(report.hairlineNonModernizrResult ≤ 0)) "hairline_non_modernizr_anomaly" 20
    "non-Modernizr hairline probe returned a positive result"

def probeFamilies : List (FingerprintReport → List Signal) :=
  [navigator,webGL,canvas,audio,codecs,fonts,window,chromeRuntime,permissions,webRTC,dom,runtime,
    speech,serviceWorker,hairline]

/-- All signals of a report; the source never reports an error here. -/
def score (report : FingerprintReport) : Except String (List Signal) :=
  .ok (probeFamilies.flatMap fun family => family report)

end Probes

end Fingerprint
end AntiScrapling
