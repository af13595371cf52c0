import AntiScrapling.FingerprintCollector
import AntiScrapling.FingerprintSignals
import AntiScrapling.ChallengeRuns
import Mathlib.Algebra.Order.BigOperators.Group.List

/-! What the daemon makes of the reports of the challenge page: it reads them as the page
meant them, and scores the browser by them. -/
namespace AntiScrapling
namespace FingerprintCollector

open JsonDecode
open BehaviorRecorder (Fits int64_integer)
open ByteCodec (Bytes eq_of_flatMap_eq)
open CheckedRun (bind_eq_ok exists_of_mapM forall₂_of_mapM map_eq_ok mapM_eq_ok)

section Numbers

/-- The daemon reads the number into an integer. -/
def Number.Whole : Number → Prop
  | .integer n _ => Fits n
  | .fraction _ _ _ => False

instance : DecidablePred Number.Whole
  | .integer n _ => inferInstanceAs (Decidable (Fits n))
  | .fraction _ _ _ => inferInstanceAs (Decidable False)

def Number.value : Number → ℤ
  | .integer n _ => n
  | .fraction _ _ _ => 0

theorem fits_of_int64 {n old v : ℤ} (h : int64 (BehaviorRecorder.integer n) old = some v) : Fits n := by
  rw [BehaviorRecorder.integer,int64,int64OfLiteral,intOfDigits_toString] at h
  obtain ⟨hv,hfits⟩ := Option.filter_eq_some_iff.mp h
  cases hv
  exact of_decide_eq_true hfits

theorem int64_json {n : Number} (h : n.Whole) (old : ℤ) : int64 n.json old = some n.value := by
  cases n with
  | integer n small => exact int64_integer h old
  | fraction literal noInteger finite => exact h.elim

theorem whole_of_int64 {n : Number} {old v : ℤ} (h : int64 n.json old = some v) : n.Whole := by
  cases n with
  | integer n small => exact fits_of_int64 h
  | fraction literal noInteger finite =>
    rw [Number.json,int64,Number.text,noInteger] at h
    cases h

theorem float64_json (n : Number) : float64 n.json () = some () := by
  cases n with
  | integer n small => exact if_pos (float64InRange_toString (small.trans (by decide +kernel)))
  | fraction literal noInteger finite => exact if_pos finite

theorem strings_stringArray (values old : List String) : strings (stringArray values) old = some values := by
  induction values with
  | nil => rfl
  | cons value values ih =>
    rw [stringArray,List.map_cons,strings,List.mapM_cons]
    exact congrArg (Option.bind · _) ih

end Numbers

section Reading

def FingerprintReport.received (r : FingerprintReport) : Fingerprint.FingerprintReport where
  navigator := ⟨r.navigator.userAgent,r.navigator.platform,r.navigator.vendor,r.navigator.hardwareConcurrency.value,
    r.navigator.webdriver,r.navigator.plugins,r.navigator.oscpu.getD ""⟩
  webgl := ⟨r.webgl.unmaskedVendor,r.webgl.unmaskedRenderer,r.webgl.extensions⟩
  canvasVariance := r.canvas.variance
  audioVariance := r.audio.variance
  codecsRare := r.codecs.rare.reverse
  fontsMissingOSBundled := r.fonts.missingOsBundled
  window := ⟨r.window.innerHeight.value,r.window.outerHeight.value⟩
  chrome := ⟨r.chrome.present,r.chrome.runtimeConnectError.getD ""⟩
  permissions := ⟨r.permissions.notificationsState,r.permissions.midiState⟩
  webrtcLocalIPs := r.webrtc.localIps
  dom := ⟨r.dom.iframeContentWindowIdentity,r.dom.closedShadowRootAccessible⟩
  runtime := ⟨r.runtime.functionToStringNative,r.runtime.consoleDebugArity.value,r.runtime.errorStackContainsPwSig⟩
  speech := ⟨r.speech.voicesCount,r.speech.voices⟩
  serviceWorker := ⟨r.serviceWorker.registered,r.serviceWorker.controller,r.serviceWorker.error.getD ""⟩
  hairlineNonModernizrResult := r.hairline.value

theorem stringMap_stringRecord {entries old : List (String × String)}
    (h : ((entries.reverse++old).map Prod.fst).Nodup) :
    stringMap (stringRecord entries) old = some (entries.reverse++old) := by
  induction entries generalizing old with
  | nil => rfl
  | cons e entries ih =>
    rw [List.reverse_cons,List.append_assoc,List.singleton_append] at h ⊢
    have hnew : old.filter (fun e' => e'.1 ≠ e.1) = old := by
      rw [List.map_append,List.nodup_append] at h
      refine List.filter_eq_self.mpr fun e' he' => decide_eq_true fun heq => ?_
      exact (List.nodup_cons.mp h.2.1).1 (heq ▸ List.mem_map_of_mem he')
    rw [stringRecord,List.map_cons,stringMap,List.foldlM_cons]
    exact (congrArg (fun m => List.foldlM _ (e::m) _) hnew).trans (ih h)

section Optional
variable {α : Type} {fields : List (String × Decoder α)} {name : String} {a : α}

theorem object_optional {get : α → String} {set : α → String → α}
    (hname : memberDecoder fields name = some (field get set string)) (value : Option String) :
    object fields (.obj (optional name value)) a = some (value.elim a (set a)) := by
  cases value with
  | none => rfl
  | some v => exact object_field hname rfl rfl

end Optional

theorem navigatorProbe_json {p : NavigatorProbe} (hcores : p.hardwareConcurrency.Whole) :
    Fingerprint.navigatorProbe p.json {} = some ⟨p.userAgent,p.platform,p.vendor,p.hardwareConcurrency.value,
      p.webdriver,p.plugins,p.oscpu.getD ""⟩ := by
  refine object_field rfl rfl (object_field rfl rfl (object_field rfl rfl ?_))
  refine object_unread rfl (strings_stringArray _ _) (object_unread rfl rfl ?_)
  refine object_field rfl (int64_json hcores _) (object_unread rfl (float64_json _) ?_)
  refine object_field rfl rfl (object_field rfl (strings_stringArray _ _) ?_)
  refine object_unread rfl (strings_stringArray _ _) (object_unread rfl rfl (object_unread rfl rfl ?_))
  refine (object_optional rfl p.oscpu).trans ?_
  cases p.oscpu <;> rfl

theorem webglProbe_json {p : WebGLProbe} (hsize : p.maxTextureSize.Whole) :
    Fingerprint.webglProbe p.json {} = some ⟨p.unmaskedVendor,p.unmaskedRenderer,p.extensions⟩ := by
  refine object_unread rfl rfl (object_unread rfl rfl ?_)
  refine object_field rfl rfl (object_field rfl rfl (object_unread rfl rfl (object_unread rfl rfl ?_)))
  refine object_field rfl (strings_stringArray _ _) (object_unread rfl (int64_json hsize _) ?_)
  exact object_unread rfl (float64_json _) rfl

theorem varianceProbe_json {p : VarianceProbe} (h : Fits p.variance) :
    Fingerprint.varianceProbe p.json 0 = some p.variance :=
  object_unread rfl (strings_stringArray _ _) (object_member rfl (int64_integer h 0) rfl)

theorem codecsProbe_json {p : CodecsProbe} (hcommon : (p.common.map Prod.fst).Nodup)
    (hrare : (p.rare.map Prod.fst).Nodup) : Fingerprint.codecsProbe p.json [] = some p.rare.reverse := by
  have hreverse {entries : List (String × String)} (h : (entries.map Prod.fst).Nodup) :
      stringMap (stringRecord entries) [] = some entries.reverse := by
    rw [stringMap_stringRecord,List.append_nil]
    rwa [List.append_nil,List.map_reverse,List.nodup_reverse]
  exact object_unread rfl (hreverse hcommon) (object_member rfl (hreverse hrare) rfl)

theorem fontsProbe_json {p : FontsProbe} (h : Fits p.detectedCount) :
    Fingerprint.fontsProbe p.json [] = some p.missingOsBundled :=
  object_unread rfl (int64_integer h _) (object_unread rfl (strings_stringArray _ _)
    (object_member rfl (strings_stringArray _ []) rfl))

/-- The numbers of the window that are integers for the daemon. -/
def WindowProbe.integers (p : WindowProbe) : List Number :=
  [p.innerWidth,p.innerHeight,p.outerWidth,p.outerHeight,p.screenWidth,p.screenHeight,p.colorDepth,p.pixelDepth]

theorem windowProbe_json {p : WindowProbe} (h : ∀ n ∈ p.integers, n.Whole) :
    Fingerprint.windowProbe p.json {} = some ⟨p.innerHeight.value,p.outerHeight.value⟩ := by
  simp only [WindowProbe.integers,List.forall_mem_cons] at h
  obtain ⟨hinnerWidth,hinnerHeight,houterWidth,houterHeight,hwidth,hheight,hcolor,hpixel,-⟩ := h
  refine object_unread rfl (int64_json hinnerWidth _) (object_field rfl (int64_json hinnerHeight _) ?_)
  refine object_unread rfl (int64_json houterWidth _) (object_field rfl (int64_json houterHeight _) ?_)
  refine object_unread rfl (int64_json hwidth _) (object_unread rfl (int64_json hheight _) ?_)
  refine object_unread rfl (float64_json _) (object_unread rfl (int64_json hcolor _) ?_)
  exact object_unread rfl (int64_json hpixel _) rfl

theorem windowProbe_whole {p : WindowProbe} {old v : Fingerprint.WindowProbe}
    (h : Fingerprint.windowProbe p.json old = some v) : ∀ n ∈ p.integers, n.Whole := by
  obtain ⟨_,_,hinnerWidth⟩ := exists_of_unread h "inner_width" rfl rfl
  obtain ⟨_,_,hinnerHeight⟩ := exists_of_field h "inner_height" rfl rfl
  obtain ⟨_,_,houterWidth⟩ := exists_of_unread h "outer_width" rfl rfl
  obtain ⟨_,_,houterHeight⟩ := exists_of_field h "outer_height" rfl rfl
  obtain ⟨_,_,hwidth⟩ := exists_of_unread h "screen_width" rfl rfl
  obtain ⟨_,_,hheight⟩ := exists_of_unread h "screen_height" rfl rfl
  obtain ⟨_,_,hcolor⟩ := exists_of_unread h "color_depth" rfl rfl
  obtain ⟨_,_,hpixel⟩ := exists_of_unread h "pixel_depth" rfl rfl
  simp only [WindowProbe.integers,List.forall_mem_cons]
  exact ⟨whole_of_int64 hinnerWidth,whole_of_int64 hinnerHeight,whole_of_int64 houterWidth,
    whole_of_int64 houterHeight,whole_of_int64 hwidth,whole_of_int64 hheight,whole_of_int64 hcolor,
    whole_of_int64 hpixel,List.forall_mem_nil _⟩

theorem chromeProbe_json (p : ChromeProbe) :
    Fingerprint.chromeProbe p.json {} = some ⟨p.present,p.runtimeConnectError.getD ""⟩ := by
  refine object_field rfl rfl (object_unread rfl rfl (object_unread rfl rfl ?_))
  refine object_unread rfl rfl (object_unread rfl rfl ?_)
  refine (object_optional rfl p.runtimeConnectError).trans ?_
  cases p.runtimeConnectError <;> rfl

theorem permissionsProbe_json (p : PermissionsProbe) :
    Fingerprint.permissionsProbe p.json {} = some ⟨p.notificationsState,p.midiState⟩ :=
  object_field rfl rfl (object_field rfl rfl (object_unread rfl rfl rfl))

theorem webrtcProbe_json (p : WebRTCProbe) : Fingerprint.webrtcProbe p.json [] = some p.localIps :=
  object_member rfl (strings_stringArray _ []) (object_unread rfl rfl rfl)

theorem domProbe_json (p : DOMProbe) :
    Fingerprint.domProbe p.json {} = some ⟨p.iframeContentWindowIdentity,p.closedShadowRootAccessible⟩ :=
  object_field rfl rfl (object_field rfl rfl (object_unread rfl (strings_stringArray _ _) rfl))

theorem runtimeProbe_json {p : RuntimeProbe} (harity : p.consoleDebugArity.Whole) (heval : p.evalLength.Whole) :
    Fingerprint.runtimeProbe p.json {} =
      some ⟨p.functionToStringNative,p.consoleDebugArity.value,p.errorStackContainsPwSig⟩ :=
  object_field rfl rfl (object_field rfl (int64_json harity _) (object_unread rfl rfl
    (object_unread rfl (int64_json heval _) (object_field rfl rfl rfl))))

theorem speechProbe_json {p : SpeechProbe} (h : Fits p.voicesCount) :
    Fingerprint.speechProbe p.json {} = some ⟨p.voicesCount,p.voices⟩ :=
  object_field rfl (int64_integer h _) (object_field rfl (strings_stringArray _ _) rfl)

theorem serviceWorkerProbe_json (p : ServiceWorkerProbe) :
    Fingerprint.serviceWorkerProbe p.json {} = some ⟨p.registered,p.controller,p.error.getD ""⟩ := by
  refine object_field rfl rfl (object_field rfl rfl ((object_optional rfl p.error).trans ?_))
  cases p.error <;> rfl

theorem timingProbe_json {p : TimingProbe} (hcollection : Fits p.collectionDurationMs)
    (hstart : Fits p.navigationStart) (hloaded : Fits p.domContentLoaded) :
    Fingerprint.timingProbe p.json () = some () :=
  object_unread rfl (int64_integer hcollection _) (object_unread rfl (int64_integer hstart _)
    (object_unread rfl (int64_integer hloaded _) rfl))

/-- The numbers of a report that are integers for the daemon. -/
structure FingerprintReport.Readable (r : FingerprintReport) : Prop where
  hardwareConcurrency : r.navigator.hardwareConcurrency.Whole
  maxTextureSize : r.webgl.maxTextureSize.Whole
  window : ∀ n ∈ r.window.integers, n.Whole
  consoleDebugArity : r.runtime.consoleDebugArity.Whole
  evalLength : r.runtime.evalLength.Whole
  voicesCount : Fits r.speech.voicesCount
  hairline : r.hairline.Whole
  collectionDurationMs : Fits r.timing.collectionDurationMs
  navigationStart : Fits r.timing.navigationStart
  domContentLoaded : Fits r.timing.domContentLoaded

/-- The parts of a report that do not depend on numbers of the browser. -/
structure FingerprintReport.Regular (r : FingerprintReport) : Prop where
  version : Fits r.version
  canvas : Fits r.canvas.variance
  audio : Fits r.audio.variance
  fonts : Fits r.fonts.detectedCount
  common : (r.codecs.common.map Prod.fst).Nodup
  rare : (r.codecs.rare.map Prod.fst).Nodup

variable {r : FingerprintReport}

theorem fingerprintReport_json (h : r.Readable) (hregular : r.Regular) :
    Fingerprint.fingerprintReport r.json {} = some r.received := by
  refine object_unread rfl (int64_integer hregular.version _) ?_
  refine object_field rfl (navigatorProbe_json h.hardwareConcurrency) ?_
  refine object_field rfl (webglProbe_json h.maxTextureSize) ?_
  refine object_field rfl (varianceProbe_json hregular.canvas) ?_
  refine object_field rfl (varianceProbe_json hregular.audio) ?_
  refine object_field rfl (codecsProbe_json hregular.common hregular.rare) ?_
  refine object_field rfl (fontsProbe_json hregular.fonts) ?_
  refine object_field rfl (windowProbe_json h.window) ?_
  refine object_field rfl (chromeProbe_json _) (object_field rfl (permissionsProbe_json _) ?_)
  refine object_field rfl (webrtcProbe_json _) (object_field rfl (domProbe_json _) ?_)
  refine object_field rfl (runtimeProbe_json h.consoleDebugArity h.evalLength) ?_
  refine object_field rfl (speechProbe_json h.voicesCount) (object_field rfl (serviceWorkerProbe_json _) ?_)
  refine object_field rfl (object_member rfl (int64_json h.hairline 0) rfl) ?_
  exact object_unread rfl (timingProbe_json h.collectionDurationMs h.navigationStart h.domContentLoaded) rfl

theorem readable_of_read {old report : Fingerprint.FingerprintReport}
    (h : Fingerprint.fingerprintReport r.json old = some report) : r.Readable := by
  obtain ⟨_,_,hnavigator⟩ := exists_of_field h "navigator" rfl rfl
  obtain ⟨_,_,hcores⟩ := exists_of_field hnavigator "hardware_concurrency" rfl rfl
  obtain ⟨_,_,hwebgl⟩ := exists_of_field h "webgl" rfl rfl
  obtain ⟨_,_,hsize⟩ := exists_of_unread hwebgl "max_texture_size" rfl rfl
  obtain ⟨_,_,hwindow⟩ := exists_of_field h "window" rfl rfl
  obtain ⟨_,_,hruntime⟩ := exists_of_field h "runtime" rfl rfl
  obtain ⟨_,_,harity⟩ := exists_of_field hruntime "console_debug_arity" rfl rfl
  obtain ⟨_,_,heval⟩ := exists_of_unread hruntime "eval_length" rfl rfl
  obtain ⟨_,_,hspeech⟩ := exists_of_field h "speech" rfl rfl
  obtain ⟨_,_,hvoices⟩ := exists_of_field hspeech "voices_count" rfl rfl
  obtain ⟨_,_,hhairline⟩ := exists_of_field h "hairline" rfl rfl
  obtain ⟨_,_,hresult⟩ := exists_of_object hhairline "non_modernizr_result" rfl rfl
  obtain ⟨_,_,htiming⟩ := exists_of_unread h "timing" rfl rfl
  obtain ⟨_,_,hcollection⟩ := exists_of_unread htiming "collection_duration_ms" rfl rfl
  obtain ⟨_,_,hstart⟩ := exists_of_unread htiming "navigation_start" rfl rfl
  obtain ⟨_,_,hloaded⟩ := exists_of_unread htiming "dom_content_loaded" rfl rfl
  exact ⟨whole_of_int64 hcores,whole_of_int64 hsize,windowProbe_whole hwindow,whole_of_int64 harity,
    whole_of_int64 heval,fits_of_int64 hvoices,@whole_of_int64 _ 0 _ hresult,fits_of_int64 hcollection,
    fits_of_int64 hstart,fits_of_int64 hloaded⟩

end Reading

section Collected
variable {digest : Digest} {render : ℕ → Call Bytes}

theorem safe_of {α : Type} {P : α → Prop} {collector : Call α} {fallback : α} (h : ∀ a, collector = .ok a → P a)
    (hfallback : P fallback) : P (safe collector fallback) := by
  cases hcollector : collector with
  | ok a => exact h a hcollector
  | error _ => exact hfallback

theorem probeCodecs_keys {canPlayType : String → Call String} {codecs entries : List (String × String)}
    (h : probeCodecs canPlayType codecs = .ok entries) : entries.map Prod.fst = codecs.map Prod.fst := by
  have hentries := forall₂_of_mapM h
  clear h
  induction hentries with
  | nil => rfl
  | cons hentry _ ih =>
    obtain ⟨answer,-,hentry⟩ := bind_eq_ok.mp hentry
    cases hentry
    exact congrArg (_::·) ih

theorem collectCodecs_keys {canPlayType : String → Call String} {p : CodecsProbe}
    (h : collectCodecs canPlayType = .ok p) :
    p.common.map Prod.fst = commonCodecs.map Prod.fst ∧ p.rare.map Prod.fst = rareCodecs.map Prod.fst := by
  obtain ⟨common,hcommon,h⟩ := bind_eq_ok.mp h
  obtain ⟨rare,hrare,h⟩ := bind_eq_ok.mp h
  cases h
  exact ⟨probeCodecs_keys hcommon,probeCodecs_keys hrare⟩

theorem renders_variance {p : VarianceProbe} (h : renders digest render = .ok p) : Fits p.variance := by
  obtain ⟨hashes,hhashes,h⟩ := bind_eq_ok.mp h
  cases h
  have hlength : hashes.length = 3 := (forall₂_of_mapM hhashes).length_eq.symm
  have hdedup : hashes.dedup.length ≤ hashes.length := hashes.dedup_sublist.length_le
  simp only [Fits,uniqueCount]
  omega

theorem collectFonts_count {access : FontAccess} {nav : Navigator} {p : FontsProbe}
    (h : collectFonts access nav = .ok p) : Fits p.detectedCount := by
  obtain ⟨os,-,h⟩ := bind_eq_ok.mp h
  cases h
  have hcount : (fontCandidates.filter (isFontDetected access)).length ≤ 52 := List.length_filter_le _ fontCandidates
  simp only [Fits]
  omega

theorem safe_renders_variance (digest : Digest) (render : ℕ → Call Bytes) :
    Fits (safe (renders digest render) emptyVariance).variance :=
  safe_of (P := fun p : VarianceProbe => Fits p.variance) (fun _ h => renders_variance h) (by decide)

theorem collectCanvas_variance (digest : Digest) (context : Call (Option (ℕ → Call Bytes))) :
    Fits (collectCanvas digest context).variance := by
  match context with
  | .error _ | .ok none => exact (by decide : Fits 0)
  | .ok (some render) => exact safe_renders_variance digest render

theorem collectAudio_variance (digest : Digest) (context : Option (ℕ → Call (List (Option ℚ)))) :
    Fits (collectAudio digest context).variance := by
  cases context with
  | none => exact (by decide : Fits 0)
  | some render => exact safe_renders_variance digest _

theorem collect_regular (b : Browser) : (collectFingerprintReport b).Regular where
  version := (by decide : Fits 1)
  canvas := collectCanvas_variance b.digest b.canvas
  audio := collectAudio_variance b.digest b.audio
  fonts := by
    refine safe_of (P := fun p : FontsProbe => Fits p.detectedCount) (fun p h => ?_) (by decide)
    obtain ⟨nav,-,h⟩ := bind_eq_ok.mp h
    exact collectFonts_count h
  common := safe_of (P := fun p : CodecsProbe => (p.common.map Prod.fst).Nodup)
    (fun p h => by rw [(collectCodecs_keys h).1]; decide) List.nodup_nil
  rare := safe_of (P := fun p : CodecsProbe => (p.rare.map Prod.fst).Nodup)
    (fun p h => by rw [(collectCodecs_keys h).2]; decide) List.nodup_nil

/-- The daemon reads a report of the page as it was meant, as far as it scores it, or not at all:
it refuses the report exactly if some number does not fit into the integer that is meant for it. -/
theorem report_received (b : Browser) (report : Fingerprint.FingerprintReport) :
    Fingerprint.fingerprintReport (collectFingerprintReport b).json {} = some report ↔
      (collectFingerprintReport b).Readable ∧ report = (collectFingerprintReport b).received := by
  constructor
  · intro h
    have hreadable := readable_of_read h
    rw [fingerprintReport_json hreadable (collect_regular b)] at h
    exact ⟨hreadable,(Option.some.inj h).symm⟩
  · rintro ⟨hreadable,rfl⟩
    exact fingerprintReport_json hreadable (collect_regular b)

/-- SHA-256 on single bytes. -/
def plainDigest : Bytes → Bytes
  | [0] => [110,52,11,156,255,179,122,152,156,165,68,230,187,120,10,44,120,144,29,63,179,55,56,118,133,17,163,6,23,
      175,160,29]
  | [1] => [75,245,18,47,52,69,84,197,59,222,46,187,140,210,183,227,209,96,10,214,49,195,133,165,215,204,226,60,119,
      133,69,154]
  | _ => [227,176,196,66,152,252,28,20,154,251,244,200,153,111,185,36,39,174,65,228,100,155,147,76,164,149,153,27,
      120,82,184,85]

/-- A browser that follows the standards and has few interfaces. -/
def plainBrowser : Browser where
  digest data := .ok (plainDigest data)
  navigator := .ok {
    userAgent := some "Mozilla/5.0 (X11; Linux x86_64) Chrome/120.0.0.0 Safari/537.36"
    platform := some "Linux x86_64" }
  getContext _ := .ok none
  canvas := .ok (some fun i => .ok [UInt8.ofNat (i/2)])
  audio := none
  canPlayType _ := .ok "probably"
  fonts := ⟨fun _ => .ok none,.error (.error "no canvas")⟩
  window := .ok ⟨some 0,some 0,some 0,some 0,none,none⟩
  chrome := .ok none
  permissions := .ok none
  peerConnection := none
  document := .ok ⟨.ok (some ⟨true,true⟩),.ok false,["lang"]⟩
  runtime := .ok ⟨"[native code]",0,"[native code]",.integer 1 (by decide),none⟩
  speech := .ok none
  serviceWorker := .error (.other "blocked")
  isSecureContext := true
  offsetHeight := .ok 0
  timing := ⟨3,1700000000000,0,0,none,0⟩

theorem plainBrowser_readable : (collectFingerprintReport plainBrowser).Readable where
  hardwareConcurrency := by decide +kernel
  maxTextureSize := by decide +kernel
  window := by decide +kernel
  consoleDebugArity := by decide +kernel
  evalLength := by decide +kernel
  voicesCount := by decide +kernel
  hairline := by decide +kernel
  collectionDurationMs := by decide +kernel
  navigationStart := by decide +kernel
  domContentLoaded := by decide +kernel

end Collected

section Blocks

theorem bytesToHex_injective : Function.Injective Challenge.bytesToHex := by
  intro xs ys h
  refine eq_of_flatMap_eq (n := 1) (fun _ => rfl) (fun x _ y _ hxy => ?_) (String.ofList_injective h)
  have hdigits : ∀ i j : Fin 16, Challenge.hexDigits.getD i '0' = Challenge.hexDigits.getD j '0' → i = j := by decide
  simp only [List.cons.injEq,and_true] at hxy
  have hx := x.toNat_lt
  have hy := y.toNat_lt
  have hhigh := Fin.mk.inj (hdigits ⟨x.toNat/16,by omega⟩ ⟨y.toNat/16,by omega⟩ hxy.1)
  have hlow := Fin.mk.inj (hdigits ⟨x.toNat%16,by omega⟩ ⟨y.toNat%16,by omega⟩ hxy.2)
  exact UInt8.toNat_inj.mp (by omega)

theorem compress_bounds (sample : Option ℚ) : -32767 ≤ compress sample ∧ compress sample ≤ 32767 := by
  cases sample with
  | none => decide
  | some sample =>
    have hlow : -1 ≤ max (-1) (min 1 sample) := le_max_left _ _
    have hhigh : max (-1) (min 1 sample) ≤ 1 := max_le (by norm_num) (min_le_left _ _)
    have hupper : compress (some sample) < 32768 := by
      refine Rat.floor_lt_iff.mpr ?_
      push_cast
      linarith
    refine ⟨Rat.le_floor_iff.mpr ?_,by omega⟩
    push_cast
    linarith

theorem int16Bytes_inj {m n : ℤ} (hm : -32767 ≤ m ∧ m ≤ 32767) (hn : -32767 ≤ n ∧ n ≤ 32767)
    (h : int16Bytes m = int16Bytes n) : m = n := by
  simp only [int16Bytes,List.cons.injEq,and_true,← UInt8.toNat_inj,UInt8.toNat_ofNat'] at h
  omega

theorem audioBytes_eq_iff {xs ys : List (Option ℚ)} :
    audioBytes xs = audioBytes ys ↔ xs.map compress = ys.map compress := by
  have hbytes (zs : List (Option ℚ)) : audioBytes zs = (zs.map compress).flatMap int16Bytes := by
    rw [List.flatMap_map]
    rfl
  rw [hbytes,hbytes]
  refine ⟨fun h => eq_of_flatMap_eq (n := 1) (fun _ => rfl) (fun m hm n hn => ?_) h,fun h => by rw [h]⟩
  obtain ⟨x,-,rfl⟩ := List.mem_map.mp hm
  obtain ⟨y,-,rfl⟩ := List.mem_map.mp hn
  exact int16Bytes_inj (compress_bounds x) (compress_bounds y)

theorem two_le_uniqueCount {values : List String} : 2 ≤ uniqueCount values ↔ ∃ x ∈ values, ∃ y ∈ values, x ≠ y := by
  have hcard : (2 : ℤ) ≤ uniqueCount values ↔ 1 < values.toFinset.card := by
    rw [uniqueCount,List.card_toFinset]
    omega
  rw [hcard,Finset.one_lt_card]
  simp only [List.mem_toFinset]

end Blocks

section Flags
variable (b : Browser)

theorem flagged_iff (report : Fingerprint.FingerprintReport) :
    ("canvas_seeded_noise" ∈ (Fingerprint.signals report).map Signal.name ↔ ¬ report.canvasVariance < 2) ∧
    ("audio_seeded_noise" ∈ (Fingerprint.signals report).map Signal.name ↔ ¬ report.audioVariance < 2) ∧
    ("codec_rare_missing" ∈ (Fingerprint.signals report).map Signal.name ↔
      (Fingerprint.isChromeUA report.navigator.userAgent = true ∨
        Fingerprint.isSafariUA report.navigator.userAgent = true) ∧
      (Fingerprint.mediaSupportPresent ((report.codecsRare.lookup "hevc").getD "") = false ∨
        Fingerprint.mediaSupportPresent ((report.codecsRare.lookup "av1_p1").getD "") = false)) ∧
    ("dom_iframe_contentwindow_anomaly" ∈ (Fingerprint.signals report).map Signal.name ↔
      report.dom.iframeContentWindowIdentity = true) ∧
    ("runtime_console_debug_disabled" ∈ (Fingerprint.signals report).map Signal.name ↔
      report.runtime.consoleDebugArity = 0) := by
  refine ⟨?_,?_,?_,?_,?_⟩ <;>
  simp [Fingerprint.signals,Fingerprint.probeFamilies,Fingerprint.navigator,Fingerprint.webGL,Fingerprint.canvas,
    Fingerprint.audio,Fingerprint.codecs,Fingerprint.fonts,Fingerprint.window,Fingerprint.chromeRuntime,
    Fingerprint.permissions,Fingerprint.webRTC,Fingerprint.dom,Fingerprint.runtime,Fingerprint.speech,
    Fingerprint.serviceWorker,Fingerprint.hairline,Fingerprint.mem_signalIf,or_and_right,exists_or]

/-- The names of the anomalies that the daemon sees in a report of the page; one that it cannot
read is answered with the status 400. -/
def anomalies : Option (List String) :=
  (Fingerprint.fingerprintReport (collectFingerprintReport b).json {}).map fun report =>
    (Fingerprint.signals report).map Signal.name

variable {b} in
theorem anomalies_eq {names : List String} (h : anomalies b = some names) :
    names = (Fingerprint.signals (collectFingerprintReport b).received).map Signal.name := by
  obtain ⟨report,hreport,rfl⟩ := Option.map_eq_some_iff.mp h
  rw [((report_received b report).mp hreport).2]

theorem anomalies_plain : anomalies plainBrowser =
    some ((Fingerprint.signals (collectFingerprintReport plainBrowser).received).map Signal.name) :=
  congrArg (Option.map _) ((report_received plainBrowser _).mpr ⟨plainBrowser_readable,rfl⟩)

/-- All three renders succeed, and not all are the same. -/
def Varies {α : Type} (render : ℕ → Call α) : Prop :=
  (∀ i < 3, ∃ a, render i = .ok a) ∧ ∃ i < 3, ∃ j < 3, render i ≠ render j

section Noise
variable {b} {sha256 : Bytes → Bytes} {digest : Digest}

theorem renders_eq (hdigest : ∀ data, digest data = .ok (sha256 data)) {data : ℕ → Bytes}
    {render : ℕ → Call Bytes} (h : ∀ i < 3, render i = .ok (data i)) :
    (safe (renders digest render) emptyVariance).variance =
      uniqueCount ((List.range 3).map fun i => Challenge.bytesToHex (sha256 (data i))) := by
  have hhashes : ((List.range 3).mapM fun index => render index >>= sha256Hex digest) =
      .ok ((List.range 3).map fun i => Challenge.bytesToHex (sha256 (data i))) := by
    refine mapM_eq_ok fun i hi => ?_
    rw [h i (List.mem_range.mp hi)]
    exact congrArg (Except.map _) (hdigest _)
  rw [renders,hhashes]
  rfl

theorem renders_fail {render : ℕ → Call Bytes} (h : ¬ ∀ i < 3, ∃ data, render i = .ok data) :
    safe (renders digest render) emptyVariance = emptyVariance := by
  cases hp : renders digest render with
  | error thrown => rfl
  | ok p =>
    obtain ⟨hashes,hhashes,-⟩ := bind_eq_ok.mp hp
    refine absurd (fun i hi => ?_) h
    obtain ⟨hash,hhash⟩ := exists_of_mapM hhashes (List.mem_range.mpr hi)
    obtain ⟨data,hdata,-⟩ := bind_eq_ok.mp hhash
    exact ⟨data,hdata⟩

theorem two_le_variance_iff (hdigest : ∀ data, digest data = .ok (sha256 data)) {render : ℕ → Call Bytes}
    (hsha : Set.InjOn sha256 {data | ∃ i < 3, render i = .ok data}) :
    2 ≤ (safe (renders digest render) emptyVariance).variance ↔ Varies render := by
  by_cases hall : ∀ i < 3, ∃ data, render i = .ok data
  · have hdata : ∀ i < 3, render i = .ok (safe (render i) []) := by
      intro i hi
      obtain ⟨data,hdata⟩ := hall i hi
      rw [hdata]
      rfl
    have hsame {i j : ℕ} (hi : i < 3) (hj : j < 3) :
        Challenge.bytesToHex (sha256 (safe (render i) [])) = Challenge.bytesToHex (sha256 (safe (render j) [])) ↔
          render i = render j := by
      rw [bytesToHex_injective.eq_iff,hsha.eq_iff ⟨i,hi,hdata i hi⟩ ⟨j,hj,hdata j hj⟩,hdata i hi,hdata j hj,
        Except.ok.injEq]
      rfl
    rw [renders_eq hdigest hdata,two_le_uniqueCount]
    constructor
    · rintro ⟨x,hx,y,hy,hne⟩
      obtain ⟨i,hi,rfl⟩ := List.mem_map.mp hx
      obtain ⟨j,hj,rfl⟩ := List.mem_map.mp hy
      rw [List.mem_range] at hi hj
      exact ⟨hall,i,hi,j,hj,fun h => hne ((hsame hi hj).mpr h)⟩
    · rintro ⟨-,i,hi,j,hj,hne⟩
      exact ⟨_,List.mem_map_of_mem (List.mem_range.mpr hi),_,List.mem_map_of_mem (List.mem_range.mpr hj),
        fun h => hne ((hsame hi hj).mp h)⟩
  · rw [renders_fail hall]
    exact iff_of_false (by decide) fun h => hall h.1

def Browser.Hashed (b : Browser) (data : Bytes) : Prop :=
  (∃ render, b.canvas = .ok (some render) ∧ ∃ i < 3, render i = .ok data) ∨
    ∃ render, b.audio = some render ∧ ∃ i < 3, (render i).map audioBytes = .ok data

theorem collectCanvas_varies (hdigest : ∀ data, digest data = .ok (sha256 data))
    {context : Call (Option (ℕ → Call Bytes))}
    (hsha : Set.InjOn sha256 {data | ∃ render, context = .ok (some render) ∧ ∃ i < 3, render i = .ok data}) :
    2 ≤ (collectCanvas digest context).variance ↔ ∃ render, context = .ok (some render) ∧ Varies render := by
  match context with
  | .error _ | .ok none => exact iff_of_false (by decide : ¬ (2 : ℤ) ≤ 0) fun ⟨_,h,_⟩ => by cases h
  | .ok (some render) =>
    have hrender : Set.InjOn sha256 {data | ∃ i < 3, render i = .ok data} :=
      fun _ hx _ hy => hsha ⟨render,rfl,hx⟩ ⟨render,rfl,hy⟩
    refine (two_le_variance_iff hdigest hrender).trans ⟨fun h => ⟨render,rfl,h⟩,?_⟩
    rintro ⟨_,h,hvaries⟩
    cases h
    exact hvaries

theorem varies_map {α β γ : Type} {f : α → β} {g : α → γ} (hfg : ∀ x y, f x = f y ↔ g x = g y)
    (render : ℕ → Call α) : Varies (fun i => (render i).map f) ↔ Varies fun i => (render i).map g := by
  have hok {δ : Type} {h : α → δ} (i : ℕ) : (∃ b, (render i).map h = .ok b) ↔ ∃ a, render i = .ok a := by
    cases render i with
    | error thrown => simp [Except.map]
    | ok a => simp [Except.map]
  have hne {i j : ℕ} : (render i).map f = (render j).map f ↔ (render i).map g = (render j).map g := by
    cases render i <;> cases render j <;> simp [Except.map,hfg]
  simp only [Varies,hok,ne_eq,hne]

theorem collectAudio_varies (hdigest : ∀ data, digest data = .ok (sha256 data))
    {context : Option (ℕ → Call (List (Option ℚ)))}
    (hsha : Set.InjOn sha256 {data | ∃ render, context = some render ∧ ∃ i < 3, (render i).map audioBytes = .ok data}) :
    2 ≤ (collectAudio digest context).variance ↔
      ∃ render, context = some render ∧ Varies fun i => (render i).map (List.map compress) := by
  cases context with
  | none => exact iff_of_false (by decide : ¬ (2 : ℤ) ≤ 0) fun ⟨_,h,_⟩ => by cases h
  | some render =>
    have hrender : Set.InjOn sha256 {data | ∃ i < 3, (render i).map audioBytes = .ok data} :=
      fun _ hx _ hy => hsha ⟨render,rfl,hx⟩ ⟨render,rfl,hy⟩
    refine (two_le_variance_iff hdigest hrender).trans ((varies_map (fun _ _ => audioBytes_eq_iff) render).trans ?_)
    refine ⟨fun h => ⟨render,rfl,h⟩,?_⟩
    rintro ⟨_,h,hvaries⟩
    cases h
    exact hvaries

/-- In a report that the daemon can read, noise is seen exactly if a canvas or a sound can be
rendered three times and does not come out the same. -/
theorem noise_flagged_iff (hdigest : ∀ data, b.digest data = .ok (sha256 data))
    (hsha : Set.InjOn sha256 {data | b.Hashed data}) {names : List String} (hnames : anomalies b = some names) :
    ("canvas_seeded_noise" ∈ names ↔ ∃ render, b.canvas = .ok (some render) ∧ Varies render) ∧
    ("audio_seeded_noise" ∈ names ↔
      ∃ render, b.audio = some render ∧ Varies fun i => (render i).map (List.map compress)) := by
  rw [anomalies_eq hnames]
  exact ⟨(flagged_iff _).1.trans (not_lt.trans (collectCanvas_varies hdigest (hsha.mono fun _ => .inl))),
    (flagged_iff _).2.1.trans (not_lt.trans (collectAudio_varies hdigest (hsha.mono fun _ => .inr)))⟩

theorem hashed_plain {data : Bytes} (h : plainBrowser.Hashed data) : data = [0] ∨ data = [1] := by
  rcases h with ⟨render,hrender,i,hi,hdata⟩ | ⟨render,hrender,-⟩
  · cases hrender
    cases hdata
    revert i
    decide
  · cases hrender

/-- The third render of the plain browser is another one. -/
theorem noise_flagged_iff_plain : ∃ names, anomalies plainBrowser = some names ∧ "canvas_seeded_noise" ∈ names ∧
    "audio_seeded_noise" ∉ names := by
  have hsha : Set.InjOn plainDigest {data | plainBrowser.Hashed data} := by
    intro x hx y hy hxy
    rcases hashed_plain hx with rfl | rfl <;> rcases hashed_plain hy with rfl | rfl <;> first | rfl | cases hxy
  obtain ⟨hcanvas,haudio⟩ := noise_flagged_iff (fun _ => rfl) hsha anomalies_plain
  refine ⟨_,anomalies_plain,hcanvas.mpr ⟨_,rfl,fun i _ => ⟨_,rfl⟩,0,by decide,2,by decide,fun h => ?_⟩,fun h => ?_⟩
  · exact absurd (Except.ok.inj h) (by decide)
  obtain ⟨render,hrender,-⟩ := haudio.mp h
  cases hrender

end Noise

section Codecs

theorem rare_lookup : ((collectFingerprintReport b).received.codecsRare.lookup "av1_p1").getD "" = "" := by
  have hkeys : "av1_p1" ∉ (collectFingerprintReport b).codecs.rare.map Prod.fst :=
    safe_of (P := fun p : CodecsProbe => "av1_p1" ∉ p.rare.map Prod.fst)
      (fun p h => by rw [(collectCodecs_keys h).2]; decide) List.not_mem_nil
  have hnone : (collectFingerprintReport b).codecs.rare.reverse.lookup "av1_p1" = none := by
    refine List.lookup_eq_none_iff.mpr fun e he => bne_iff_ne.mpr fun heq => hkeys ?_
    rw [heq]
    exact List.mem_map_of_mem (List.mem_reverse.mp he)
  change ((collectFingerprintReport b).codecs.rare.reverse.lookup "av1_p1").getD "" = ""
  rw [hnone]
  rfl

/-- Every Chrome and Safari whose report can be read is said to lack a codec, whatever it can play. -/
theorem codec_flagged_iff {names : List String} (hnames : anomalies b = some names) : "codec_rare_missing" ∈ names ↔
    Fingerprint.isChromeUA (collectFingerprintReport b).navigator.userAgent = true ∨
      Fingerprint.isSafariUA (collectFingerprintReport b).navigator.userAgent = true := by
  rw [anomalies_eq hnames]
  refine (flagged_iff _).2.2.1.trans (and_iff_left (.inr ?_))
  rw [rare_lookup]
  decide

theorem codec_flagged_iff_plain : ∃ names, anomalies plainBrowser = some names ∧
    (∀ mime, plainBrowser.canPlayType mime = .ok "probably") ∧ "codec_rare_missing" ∈ names :=
  ⟨_,anomalies_plain,fun _ => rfl,(codec_flagged_iff plainBrowser anomalies_plain).mpr (.inl (by decide +kernel))⟩

end Codecs

section Conformance
open Challenge

/-- What the standards ask of a browser: a frame has one window, which is its own `self`, and
`console.debug`, which takes any number of arguments, has the length zero. -/
structure Browser.Conforming (b : Browser) : Prop where
  frame : ∃ doc, b.document = .ok doc ∧ doc.contentWindow = .ok (some ⟨true,true⟩)
  console : ∀ runtime, b.runtime = .ok runtime → runtime.consoleDebugLength = 0

variable {b}

theorem Browser.Conforming.dom (h : b.Conforming) :
    (collectFingerprintReport b).received.dom.iframeContentWindowIdentity = true := by
  obtain ⟨doc,hdoc,hframe⟩ := h.frame
  have hcollected : (collectFingerprintReport b).dom = collectDOM doc := by
    change safe (b.document.map collectDOM) emptyDOM = _
    rw [hdoc]
    rfl
  change (collectFingerprintReport b).dom.iframeContentWindowIdentity = true
  rw [hcollected,collectDOM,iframeIdentityProbe,hframe]
  rfl

theorem Browser.Conforming.arity (h : b.Conforming) :
    (collectFingerprintReport b).received.runtime.consoleDebugArity = 0 := by
  refine safe_of (P := fun p : RuntimeProbe => p.consoleDebugArity.value = 0) (fun p hp => ?_) rfl
  obtain ⟨runtime,hruntime,rfl⟩ := map_eq_ok.mp hp
  exact congrArg Number.value (h.console runtime hruntime)

theorem anomalyWeights_mono {names names' : List String} (h : names ⊆ names') :
    Fingerprint.anomalyWeights names ≤ Fingerprint.anomalyWeights names' := by
  have hfilter : (Fingerprint.anomalyTable.flatten.filter fun entry => entry.1 ∈ names).Sublist
      (Fingerprint.anomalyTable.flatten.filter fun entry => entry.1 ∈ names') :=
    List.monotone_filter_right _ fun entry hentry => decide_eq_true (h (of_decide_eq_true hentry))
  refine (hfilter.map Prod.snd).sum_le_sum fun weight hweight => ?_
  obtain ⟨entry,hentry,rfl⟩ := List.mem_map.mp hweight
  exact (Fingerprint.anomalyTable_pos entry (List.mem_of_mem_filter hentry)).le

theorem Browser.Conforming.score (h : b.Conforming) :
    100 ≤ ((Fingerprint.signals (collectFingerprintReport b).received).map Signal.score).sum := by
  have hnames : ["dom_iframe_contentwindow_anomaly","runtime_console_debug_disabled"] ⊆
      (Fingerprint.signals (collectFingerprintReport b).received).map Signal.name := by
    simp only [List.cons_subset,List.nil_subset,and_true]
    exact ⟨(flagged_iff _).2.2.2.1.mpr h.dom,(flagged_iff _).2.2.2.2.mpr h.arity⟩
  have hweights : Fingerprint.anomalyWeights
      ["dom_iframe_contentwindow_anomaly","runtime_console_debug_disabled"] = 100 := by decide +kernel
  calc 100 = _ := hweights.symm
    _ ≤ Fingerprint.anomalyWeights _ := anomalyWeights_mono hnames
    _ = _ := (Fingerprint.ownScore_signals _).symm

def verifyBody (solution : String) (report : Json) (id origin : String) : Json := .obj [
  ("pow_solution",.str solution),
  ("fingerprint_report",report),
  ("challenge_id",.str id),
  ("origin_url",.str origin)]

theorem decodeBody_verifyBody {solution id origin : String} {req : VerifyRequest}
    (h : decodeBody (some (verifyBody solution (collectFingerprintReport b).json id origin)) = some req) :
    req = ⟨solution,(collectFingerprintReport b).received,id,origin⟩ := by
  obtain ⟨_,_,hreport⟩ := exists_of_field h "fingerprint_report" rfl rfl
  have hmeant := fingerprintReport_json (readable_of_read hreport) (collect_regular b)
  have hbody : decodeBody (some (verifyBody solution (collectFingerprintReport b).json id origin)) =
      some ⟨solution,(collectFingerprintReport b).received,id,origin⟩ :=
    object_field rfl rfl (object_field rfl hmeant (object_field rfl rfl (object_field rfl rfl rfl)))
  exact Option.some.inj (h.symm.trans hbody)

/-- No browser that follows the standards gets a pass by the page's own report, as long as a
score of 100 is too high.  A report that the daemon cannot read does not get one either. -/
theorem conforming_refused (sha256 : Bytes → Bytes) (J : Token.Jwt) {svc : Service}
    (hthreshold : svc.denyThreshold ≤ 100) (hconforming : b.Conforming) (st : State) {r : VerifyHTTP}
    {solution id origin : String}
    (hbody : r.body = some (verifyBody solution (collectFingerprintReport b).json id origin))
    (now signedAt : Token.Time) : (handleVerify sha256 J svc st r now signedAt).2.cookies = [] := by
  rcases handleVerify_cases sha256 J svc st r now signedAt with
    ⟨-,hcookies,-⟩ | ⟨req,issued,hreq,-,-,-,hanswer,-⟩
  · exact hcookies
  rw [hbody] at hreq
  obtain rfl := decodeBody_verifyBody hreq
  rw [hanswer]
  cases hpass : (afterValidation sha256 J svc st.issuer.powDifficulty r _ signedAt).1 with
  | error status text => rfl
  | tooHigh score reasons => rfl
  | pass cookie target =>
    obtain ⟨-,signals,hsignals,hlow⟩ := afterValidation_pass sha256 J hpass
    obtain rfl := Except.ok.inj hsignals
    exact absurd hlow (not_lt.mpr (hthreshold.trans hconforming.score))

theorem conforming_refused_plain :
    (handleVerify sampleSHA256 passJwt sampleService sampleLedger.state
      ⟨"POST",some (verifyBody "6" (collectFingerprintReport plainBrowser).json sampleID "/"),
        "192.0.2.1:52311","Mozilla/5.0"⟩ (sampleStart+Token.second) (sampleStart+Token.second)).2.cookies = [] :=
  conforming_refused sampleSHA256 passJwt (by decide) ⟨⟨_,rfl,rfl⟩,fun _ h => by cases h; rfl⟩ _ rfl _ _

end Conformance

end Flags

end FingerprintCollector
end AntiScrapling
