import AntiScrapling.ScoringRule
import AntiScrapling.Subsequences

/-! Which signals a fingerprint report can give.  The probes go through a fixed table of
anomalies, each with its weight, and report each of them at most once. -/
namespace AntiScrapling
namespace Fingerprint

open UnicodeText ScoringRule Challenge Token ByteCodec
open scoped List

section UserAgents

theorem not_isFirefoxUA_of_isChromeUA {userAgent : String} (h : isChromeUA userAgent = true) :
    isFirefoxUA userAgent = false := by
  unfold isChromeUA at h
  unfold isFirefoxUA
  cases hfirefox : contains (toLower userAgent) "firefox/" || contains (toLower userAgent) "fxios/" with
  | false => rfl
  | true => simp [hfirefox] at h

theorem isSafariUA_eq_true {userAgent : String} (h : isSafariUA userAgent = true) :
    isChromeUA userAgent = false ∧ isFirefoxUA userAgent = false := by
  unfold isSafariUA at h
  simp only [Bool.and_eq_true,Bool.not_eq_true'] at h
  exact ⟨h.1.2,h.2⟩

theorem userAgents_exclusive (userAgent : String) :
    [isChromeUA,isFirefoxUA,isSafariUA].Pairwise fun p q => ¬ (p userAgent = true ∧ q userAgent = true) := by
  simp only [List.pairwise_cons,List.mem_cons,List.not_mem_nil,or_false,forall_eq_or_imp,forall_eq,
    List.Pairwise.nil,and_true,IsEmpty.forall_iff,implies_true]
  refine ⟨⟨?_,?_⟩,?_⟩
  · rintro ⟨hchrome,hfirefox⟩
    rw [not_isFirefoxUA_of_isChromeUA hchrome] at hfirefox
    cases hfirefox
  · rintro ⟨hchrome,hsafari⟩
    rw [(isSafariUA_eq_true hsafari).1] at hchrome
    cases hchrome
  · rintro ⟨hfirefox,hsafari⟩
    rw [(isSafariUA_eq_true hsafari).2] at hfirefox
    cases hfirefox

end UserAgents

section Table

def weight (sig : Signal) : String × ℤ := (sig.name,sig.score)

/-- The anomalies of each family, in the order in which its probes report them. -/
def anomalyTable : List (List (String × ℤ)) := [
  [("nav_platform_ua_mismatch",50),("nav_hardware_concurrency_trap",30),("nav_webdriver_set",60),
    ("nav_plugins_anomaly",20),("nav_vendor_ua_mismatch",25),("nav_oscpu_firefox_only",15)],
  [("webgl_vendor_renderer_impossible",40),("webgl_unmasked_missing",20),("webgl_extensions_anomaly",15)],
  [("canvas_seeded_noise",50)],
  [("audio_seeded_noise",40)],
  [("codec_rare_missing",20)],
  [("font_os_bundled_missing",25)],
  [("window_outer_height_85_trap",50)],
  [("chrome_runtime_connect_failure",40),("chrome_present_for_firefox",60)],
  [("permissions_midi_inconsistent",35)],
  [("webrtc_no_local_ips",15)],
  [("dom_iframe_contentwindow_anomaly",40),("dom_closed_shadow_root_accessible",50)],
  [("runtime_console_debug_disabled",60),("runtime_to_string_proxy",35),
    ("runtime_error_stack_pw_signature",70)],
  [("speech_voices_empty",15)],
  [("sw_register_noop",45)],
  [("hairline_non_modernizr_anomaly",20)]]

/-- Signals that stand in a table, each at most once and in its order. -/
def Within (signals : List Signal) (table : List (String × ℤ)) : Prop := signals.map weight <+ table

theorem Within.append {xs ys : List Signal} {table rest : List (String × ℤ)} (hxs : Within xs table)
    (hys : Within ys rest) : Within (xs++ys) (table++rest) := by
  unfold Within
  rw [List.map_append]
  exact List.Sublist.append hxs hys

theorem signalIf_within (fires : Bool) (name : String) (score : ℤ) (reason : String) :
    Within (signalIf fires name score reason) [(name,score)] := by
  cases fires with
  | false => exact List.nil_sublist _
  | true => exact List.Sublist.refl _

theorem signalIf_append_within (fires : Bool) (name : String) (score : ℤ) (reason : String)
    {signals : List Signal} {table : List (String × ℤ)} (h : Within signals table) :
    Within (signalIf fires name score reason++signals) ((name,score)::table) :=
  (signalIf_within fires name score reason).append h

theorem signalIf_either_within {a b : Bool} (hab : a = true → b = false) (name : String) (score : ℤ)
    (reason reason' : String) {signals : List Signal} {table : List (String × ℤ)} (h : Within signals table) :
    Within (signalIf a name score reason++(signalIf b name score reason'++signals)) ((name,score)::table) := by
  cases a with
  | false => exact signalIf_append_within b name score reason' h
  | true =>
    rw [hab rfl]
    exact signalIf_append_within true name score reason h

theorem navigator_within (report : FingerprintReport) :
    Within (navigator report) [("nav_platform_ua_mismatch",50),("nav_hardware_concurrency_trap",30),
      ("nav_webdriver_set",60),("nav_plugins_anomaly",20),("nav_vendor_ua_mismatch",25),
      ("nav_oscpu_firefox_only",15)] := by
  -- the plugins and the vendor have a branch for Chrome and one for Firefox
  have hexclusive {p q : Bool} : (isChromeUA report.navigator.userAgent && p) = true →
      (isFirefoxUA report.navigator.userAgent && q) = false := by
    intro h
    rw [Bool.and_eq_true] at h
    rw [not_isFirefoxUA_of_isChromeUA h.1,Bool.false_and]
  simp only [navigator,List.append_assoc]
  refine signalIf_append_within _ _ _ _ (signalIf_append_within _ _ _ _ (signalIf_append_within _ _ _ _ ?_))
  refine signalIf_either_within hexclusive _ _ _ _ (signalIf_either_within hexclusive _ _ _ _ ?_)
  exact signalIf_within _ _ _ _

theorem probeFamilies_within (report : FingerprintReport) :
    List.Forall₂ (fun family table => Within (family report) table) probeFamilies anomalyTable := by
  have hwebGL : Within (webGL report) _ :=
    ((signalIf_within _ _ _ _).append (signalIf_within _ _ _ _)).append (signalIf_within _ _ _ _)
  have hchrome : Within (chromeRuntime report) _ :=
    (signalIf_within _ _ _ _).append (signalIf_within _ _ _ _)
  have hdom : Within (dom report) _ := (signalIf_within _ _ _ _).append (signalIf_within _ _ _ _)
  have hruntime : Within (runtime report) _ :=
    ((signalIf_within _ _ _ _).append (signalIf_within _ _ _ _)).append (signalIf_within _ _ _ _)
  have hcanvas : Within (canvas report) _ := signalIf_within _ _ _ _
  have haudio : Within (audio report) _ := signalIf_within _ _ _ _
  have hcodecs : Within (codecs report) _ := signalIf_within _ _ _ _
  have hfonts : Within (fonts report) _ := signalIf_within _ _ _ _
  have hwindow : Within (window report) _ := signalIf_within _ _ _ _
  have hpermissions : Within (permissions report) _ := signalIf_within _ _ _ _
  have hwebRTC : Within (webRTC report) _ := signalIf_within _ _ _ _
  have hspeech : Within (speech report) _ := signalIf_within _ _ _ _
  have hserviceWorker : Within (serviceWorker report) _ := signalIf_within _ _ _ _
  have hhairline : Within (hairline report) _ := signalIf_within _ _ _ _
  exact .cons (navigator_within report) <| .cons hwebGL <| .cons hcanvas <| .cons haudio <|
    .cons hcodecs <| .cons hfonts <| .cons hwindow <| .cons hchrome <| .cons hpermissions <|
    .cons hwebRTC <| .cons hdom <| .cons hruntime <| .cons hspeech <| .cons hserviceWorker <|
    .cons hhairline .nil

def signals (report : FingerprintReport) : List Signal := probeFamilies.flatMap fun family => family report

theorem score_eq (report : FingerprintReport) : score report = .ok (signals report) := rfl

theorem signals_within (report : FingerprintReport) : Within (signals report) anomalyTable.flatten := by
  have hfamilies : List.Forall₂ (· <+ ·) (probeFamilies.map fun family => (family report).map weight)
      anomalyTable :=
    List.forall₂_map_left_iff.mpr (probeFamilies_within report)
  have hflatten := Subsequences.flatten_sublist_flatten hfamilies
  unfold Within signals
  rwa [List.map_flatMap,List.flatMap_def]

theorem anomalyTable_nodup : (anomalyTable.flatten.map Prod.fst).Nodup := by decide +kernel

theorem anomalyTable_pos : ∀ entry ∈ anomalyTable.flatten, 0 < entry.2 := by decide +kernel

theorem signals_nodup (report : FingerprintReport) : ((signals report).map Signal.name).Nodup := by
  have hnames := ((signals_within report).map Prod.fst).nodup anomalyTable_nodup
  rwa [List.map_map] at hnames

theorem signals_pos (report : FingerprintReport) : ∀ sig ∈ signals report, 0 < sig.score := by
  intro sig hsig
  exact anomalyTable_pos (weight sig) ((signals_within report).subset (List.mem_map_of_mem hsig))

def anomalyWeights (names : List String) : ℤ :=
  ((anomalyTable.flatten.filter fun entry => entry.1 ∈ names).map Prod.snd).sum

theorem ownScore_signals (report : FingerprintReport) :
    ownScore (signals report) = anomalyWeights ((signals report).map Signal.name) := by
  have hentries := Subsequences.eq_filter_of_sublist (signals_within report) anomalyTable_nodup
  have hscores : (signals report).map Signal.score = ((signals report).map weight).map Prod.snd := by
    rw [List.map_map]
    rfl
  have hnames : ((signals report).map weight).map Prod.fst = (signals report).map Signal.name := by
    rw [List.map_map]
    rfl
  rw [ownScore,hscores,hentries,hnames,anomalyWeights]

end Table

section Browsers

/-- A signal that only reports of one browser give. -/
def OnlyFor (isUA : String → Bool) (sig : Signal) : Prop :=
  ∀ report : FingerprintReport, sig ∈ signals report → isUA report.navigator.userAgent = true

def chromeSignals : List Signal := [
  ⟨"nav_plugins_anomaly",20,"Chrome plugin list is missing the canonical PDF viewer plugin names"⟩,
  ⟨"nav_vendor_ua_mismatch",25,"Chrome user agent must report navigator.vendor as Google Inc."⟩,
  ⟨"chrome_runtime_connect_failure",40,"chrome.runtime.connect failed with a mock-specific error"⟩]

/-- The signals of the branches for Firefox.  `nav_oscpu_firefox_only` is not one of them: the
property is Firefox's, and the signal that of the other browsers that have it. -/
def firefoxSignals : List Signal := [
  ⟨"nav_plugins_anomaly",20,"Firefox should expose an empty navigator.plugins list"⟩,
  ⟨"nav_vendor_ua_mismatch",25,"Firefox user agent must report an empty navigator.vendor"⟩,
  ⟨"chrome_present_for_firefox",60,"window.chrome is present for a Firefox user agent"⟩]

theorem mem_signalIf {sig : Signal} {fires : Bool} {name : String} {score : ℤ} {reason : String} :
    sig ∈ signalIf fires name score reason ↔ fires = true ∧ sig = ⟨name,score,reason⟩ := by
  cases fires <;> simp [signalIf]

theorem browserSignals_only :
    (∀ sig ∈ chromeSignals, OnlyFor isChromeUA sig) ∧ ∀ sig ∈ firefoxSignals, OnlyFor isFirefoxUA sig := by
  simp only [chromeSignals,firefoxSignals,List.mem_cons,List.not_mem_nil,or_false,forall_eq_or_imp,forall_eq]
  refine ⟨⟨?_,?_,?_⟩,?_,?_,?_⟩ <;>
  · intro report hsig
    simp [signals,probeFamilies,navigator,webGL,canvas,audio,codecs,fonts,window,chromeRuntime,permissions,
      webRTC,dom,runtime,speech,serviceWorker,hairline,mem_signalIf,and_assoc] at hsig
    exact hsig.1

theorem not_both_browsers {report : FingerprintReport} {a b : Signal} (ha : a ∈ signals report)
    (hb : b ∈ signals report) (hchrome : OnlyFor isChromeUA a) : ¬ OnlyFor isFirefoxUA b := by
  intro hfirefox
  have hua := hfirefox report hb
  rw [not_isFirefoxUA_of_isChromeUA (hchrome report ha)] at hua
  cases hua

end Browsers

section Totals
variable {sha256 : Bytes → Bytes}

/-- The signals of a report have distinct names and positive scores, never one for Chrome only
next to one for Firefox only, and the total that is held against the deny threshold has
the weight of each anomaly once. -/
theorem fingerprint_counts_once (report : FingerprintReport) :
    ∃ fired, score report = .ok fired ∧ (fired.map Signal.name).Nodup ∧ (∀ sig ∈ fired, 0 < sig.score) ∧
      (∀ a ∈ fired, ∀ b ∈ fired, ¬ (OnlyFor isChromeUA a ∧ OnlyFor isFirefoxUA b)) ∧
      (∀ a ∈ fired, ∀ b ∈ fired, ¬ (a ∈ chromeSignals ∧ b ∈ firefoxSignals)) ∧
      (∀ userAgent, [isChromeUA,isFirefoxUA,isSafariUA].Pairwise
        fun p q => ¬ (p userAgent = true ∧ q userAgent = true)) ∧
      ownScore fired = anomalyWeights (fired.map Signal.name) ∧
      ∀ (J : Jwt) (svc : Service) (st : State) (r : VerifyHTTP) (now signedAt : Time) (req : VerifyRequest),
        req.fingerprintReport = report → Reaches sha256 st r now req fired →
          (RefusedForScore (handleVerify sha256 J svc st r now signedAt).2 ↔
            svc.denyThreshold ≤ anomalyWeights (fired.map Signal.name)) := by
  refine ⟨signals report,score_eq report,signals_nodup report,signals_pos report,?_,?_,
    userAgents_exclusive,ownScore_signals report,?_⟩
  · rintro a ha b hb ⟨hchrome,hfirefox⟩
    exact not_both_browsers ha hb hchrome hfirefox
  · rintro a ha b hb ⟨hchrome,hfirefox⟩
    exact not_both_browsers ha hb (browserSignals_only.1 a hchrome) (browserSignals_only.2 b hfirefox)
  · intro J svc st r now signedAt req _ h
    rw [refused_iff J h,ownScore_signals]

/-- The sample report has three anomalies, of 50 together. -/
theorem fingerprint_counts_once_sample :
    Reaches sampleSHA256 sampleLedger.state sampleVerify (sampleStart+second) sampleRequest sampleSignals ∧
    anomalyWeights (sampleSignals.map Signal.name) = 50 ∧
    (RefusedForScore (handleVerify sampleSHA256 passJwt sampleService sampleLedger.state sampleVerify
        (sampleStart+second) (sampleStart+second)).2 ↔
      sampleService.denyThreshold ≤ anomalyWeights (sampleSignals.map Signal.name)) := by
  obtain ⟨fired,hfired,_,_,_,_,_,_,hrefused⟩ :=
    @fingerprint_counts_once sampleSHA256 sampleRequest.fingerprintReport
  obtain rfl : fired = sampleSignals := Except.ok.inj (hfired.symm.trans sampleVerify_reaches.scored)
  exact ⟨sampleVerify_reaches,by decide +kernel,
    hrefused passJwt sampleService _ _ _ _ _ rfl sampleVerify_reaches⟩

end Totals

end Fingerprint
end AntiScrapling
