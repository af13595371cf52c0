import AntiScrapling.ClientHelloFraming
import AntiScrapling.Ja3Strings
import AntiScrapling.TrimBytes

/-! The forms in which the tls collector is given a fingerprint (`internal/signal/tls/collector.go`):
the bytes of the ClientHello, its JA3 and JA4, or the hash of the JA3 and the JA4.  The JA4
of a context is a byte string here, like the one that is computed. -/
namespace AntiScrapling
namespace TlsFingerprint

open ByteCodec ClientHello UnicodeText GoText SeparatedText TrimBytes

section Bytes
variable (md5 sha256 : Bytes → Bytes)

def fingerprintsBytes (ctx : RequestContext) (ja4 : Bytes) : CheckedRun.Run Fingerprints :=
  if ctx.clientHello = [] then
    .ok ⟨(normalizeJA3 md5 ctx.ja3).1,(normalizeJA3 md5 ctx.ja3).2,trimSpaceBytes ja4⟩
  else (parseClientHello ctx.clientHello).map (helloFingerprints md5 sha256)

/-- `Collect` with a JA4 that need not be UTF-8. -/
def collectBytes (ctx : RequestContext) (ja4 : Bytes) : CheckedRun.Run (List Signal) :=
  (fingerprintsBytes md5 sha256 ctx ja4).map (signals md5 ctx)

theorem collectBytes_utf8 (ctx : RequestContext) :
    collectBytes md5 sha256 ctx (utf8 ctx.ja4) = collect md5 sha256 ctx := by
  unfold collectBytes collect fingerprintsBytes fingerprints contextFingerprints
  rw [trimSpaceBytes_utf8]

end Bytes

section Spaces

/-- White space only. -/
def Blank (s : String) : Prop := ∀ c ∈ s.toList, isSpace c = true

theorem blank_of_all {s : String} (h : s.toList.all isSpace = true) : Blank s := List.all_eq_true.mp h

theorem visible_of_all {s : String} (h : s.toList.all (fun c => !isSpace c) = true) :
    ∀ c ∈ s.toList, isSpace c = false := by
  simpa using h

theorem isSpace_facts {c : Char} (h : isSpace c = true) :
    c.isDigit = false ∧ c ≠ ',' ∧ c ≠ '-' ∧ toLowerRune c = c := by
  have hall : spaces.all (fun c => !c.isDigit && c != ',' && c != '-' && toLowerRune c == c) = true := by
    decide +kernel
  simpa [and_assoc] using List.all_eq_true.mp hall c (mem_spaces h)

theorem hexDigit_facts (n : ℕ) : isSpace (hexDigit n) = false ∧ hexDigit n ≠ ',' := by
  have hall : ∀ i : Fin 16, isSpace (hexDigit i) = false ∧ hexDigit i ≠ ',' := by decide
  obtain ⟨i,hi⟩ := exists_hexDigit n
  rw [hi]
  exact hall i

theorem ja3String_trimmed (hello : Hello) : Trimmed (ja3String hello) := by
  refine trimmed_of_forall fun c hc => ?_
  by_contra hspace
  obtain ⟨hdigit,hcomma,hdash,-⟩ := isSpace_facts (Bool.eq_true_of_not_eq_false hspace)
  have hsep : Without c "," := by
    rw [Without,comma_toList]
    simpa using hcomma
  exact without_join hsep (without_ja3Parts hdigit hdash hello) hc

theorem contains_comma {s : String} : contains s "," = true ↔ ',' ∈ s.toList := by
  unfold contains
  rw [decide_eq_true_eq,comma_toList,List.singleton_infix_iff]

theorem comma_mem_ja3String (hello : Hello) : ',' ∈ (ja3String hello).toList := by
  rw [ja3String_eq_join,String.toList_intercalate,ja3Parts,List.map_cons,List.map_cons,
    List.intercalate_cons_cons,comma_toList]
  simp

theorem recased_hash {t : String} {bs : Bytes} (h : toLower t = hexOfBytes bs) :
    Trimmed t ∧ ',' ∉ t.toList := by
  have hdigit : ∀ c ∈ t.toList, ∃ n, toLowerRune c = hexDigit n := by
    intro c hc
    have hmem : toLowerRune c ∈ (hexOfBytes bs).toList := by
      rw [← h,toLower,String.toList_ofList]
      exact List.mem_map_of_mem hc
    exact mem_hexOfBytes hmem
  refine ⟨trimmed_of_forall fun c hc => ?_,fun hc => ?_⟩
  · by_contra hspace
    have hspace := Bool.eq_true_of_not_eq_false hspace
    obtain ⟨n,hn⟩ := hdigit c hc
    rw [(isSpace_facts hspace).2.2.2] at hn
    rw [hn,(hexDigit_facts n).1] at hspace
    cases hspace
  · obtain ⟨n,hn⟩ := hdigit ',' hc
    have hcomma : toLowerRune ',' = ',' := by decide
    exact (hexDigit_facts n).2 (hn.symm.trans hcomma)

end Spaces

section Forms
variable (md5 sha256 : Bytes → Bytes) {left right : String}

theorem normalizeJA3_string (hello : Hello) (hleft : Blank left) (hright : Blank right) :
    normalizeJA3 md5 (left ++ ja3String hello ++ right) = (ja3String hello,ja3Hash md5 (ja3String hello)) := by
  have hcomma := comma_mem_ja3String hello
  have hne : ja3String hello ≠ "" := by
    intro hempty
    rw [hempty] at hcomma
    simp at hcomma
  unfold normalizeJA3
  simp only [trimSpace_surrounded (ja3String_trimmed hello) hleft hright]
  rw [if_neg hne,if_pos (contains_comma.mpr hcomma)]

theorem normalizeJA3_hash {t : String} {bs : Bytes} (h : toLower t = hexOfBytes bs) (hleft : Blank left)
    (hright : Blank right) : normalizeJA3 md5 (left ++ t ++ right) = ("",hexOfBytes bs) := by
  obtain ⟨htrimmed,hcomma⟩ := recased_hash h
  unfold normalizeJA3
  simp only [trimSpace_surrounded htrimmed hleft hright]
  split_ifs with hempty hjoined
  · rw [← h,hempty]
    rfl
  · exact absurd (contains_comma.mp hjoined) hcomma
  · rw [h]

theorem sha256Truncated12_visible (s : String) : ∀ c ∈ (sha256Truncated12 sha256 s).toList, isSpace c = false := by
  intro c hc
  rw [sha256Truncated12,String.toList_ofList] at hc
  obtain ⟨n,rfl⟩ := mem_hexOfBytes (List.mem_of_mem_take hc)
  exact (hexDigit_facts n).1

theorem trimSpaceBytes_ja4 (hello : Hello) (hleft : Blank left) (hright : Blank right) :
    trimSpaceBytes (utf8 left++ja4String sha256 hello++utf8 right) = ja4String sha256 hello := by
  refine trimSpaceBytes_surrounded hleft hright (fun c hc => ?_) (fun c hc => ?_)
  · unfold ja4String
    simp only [utf8_append,List.append_assoc]
    exact not_space_prefix (by decide) (trimmed_of_forall (visible_of_all (by decide))) _ hc
  · refine not_space_suffix ?_ (trimmed_of_forall ?_) _ hc
    · intro hempty
      have := congrArg String.toList hempty
      simp at this
    · intro d hd
      simp only [String.toList_append,List.mem_append] at hd
      rcases hd with ((hd | hd) | hd) | hd
      · exact visible_of_all (by decide) d hd
      · exact sha256Truncated12_visible sha256 _ d hd
      · exact visible_of_all (by decide) d hd
      · exact sha256Truncated12_visible sha256 _ d hd

theorem signals_congr {ctx ctx' : RequestContext} {fp fp' : Fingerprints}
    (hctx : contextMismatch md5 ctx fp = false) (hctx' : contextMismatch md5 ctx' fp' = false)
    (hrequest : ctx.request = ctx'.request) (hhash : fp.hash = fp'.hash) (hja4 : fp.ja4 = fp'.ja4) :
    signals md5 ctx fp = signals md5 ctx' fp' := by
  have hagent (hash : String) : ja3MismatchByUserAgent ctx hash = ja3MismatchByUserAgent ctx' hash := by
    unfold ja3MismatchByUserAgent requestUserAgent
    rw [hrequest]
  unfold signals
  simp only [hctx,hctx',hagent,hhash,hja4]

theorem collectBytes_context {ctx : RequestContext} {ja3 : String} {ja4 : Bytes} {hello : Hello}
    (hhash : (normalizeJA3 md5 ja3).2 = ja3Hash md5 (ja3String hello))
    (hja4 : trimSpaceBytes ja4 = ja4String sha256 hello) :
    collectBytes md5 sha256 {ctx with clientHello := [], ja3 := ja3} ja4 =
      .ok (signals md5 {ctx with clientHello := [], ja3 := ""} (helloFingerprints md5 sha256 hello)) := by
  refine congrArg Except.ok (signals_congr md5 ?_ ?_ rfl hhash hja4)
  · simp [contextMismatch]
  · simp [contextMismatch]

/-- The collector takes the three forms of a fingerprint for the same. -/
theorem collect_forms_agree {raw : Bytes} {hello : Hello} (hraw : parseClientHello raw = .ok hello)
    (ctx : RequestContext) :
    ∃ fired, collectBytes md5 sha256 {ctx with clientHello := raw, ja3 := ""} [] = .ok fired ∧
      ∀ left right left' right', Blank left → Blank right → Blank left' → Blank right' →
        collectBytes md5 sha256 {ctx with clientHello := [], ja3 := left ++ ja3String hello ++ right}
          (utf8 left'++ja4String sha256 hello++utf8 right') = .ok fired ∧
        ∀ t, toLower t = ja3Hash md5 (ja3String hello) →
          collectBytes md5 sha256 {ctx with clientHello := [], ja3 := left ++ t ++ right}
            (utf8 left'++ja4String sha256 hello++utf8 right') = .ok fired := by
  have hne : raw ≠ [] := by
    rintro rfl
    cases hraw
  have hnone : normalizeJA3 md5 "" = ("","") := by
    unfold normalizeJA3
    exact if_pos (by decide)
  refine ⟨signals md5 {ctx with clientHello := [], ja3 := ""} (helloFingerprints md5 sha256 hello),?_,?_⟩
  · unfold collectBytes fingerprintsBytes
    rw [if_neg hne,hraw]
    refine congrArg Except.ok (signals_congr md5 ?_ ?_ rfl rfl rfl)
    · simp [contextMismatch,hnone]
    · simp [contextMismatch]
  · intro left right left' right' hleft hright hleft' hright'
    have hja4 := trimSpaceBytes_ja4 sha256 hello hleft' hright'
    refine ⟨collectBytes_context md5 sha256 ?_ hja4,fun t ht => collectBytes_context md5 sha256 ?_ hja4⟩
    · rw [normalizeJA3_string md5 hello hleft hright]
    · rw [normalizeJA3_hash md5 ht hleft hright]
      rfl

/-- The ClientHello of `testdata/clienthello/curl_default.hex`. -/
def curlRecord : Bytes := [
  22,3,1,1,4,1,0,1,0,3,3,244,68,250,200,145,60,12,77,51,26,29,123,178,27,177,96,212,53,136,4,131,141,182,80,119,
  163,209,112,161,25,41,246,0,0,60,19,2,19,3,19,1,192,44,192,43,204,169,204,168,192,48,192,47,0,159,0,158,192,
  36,192,35,192,40,192,39,0,107,0,103,192,10,192,9,192,20,192,19,0,57,0,51,0,157,0,156,0,61,0,60,0,53,0,47,0,
  255,1,0,0,155,0,0,0,16,0,14,0,0,11,101,120,97,109,112,108,101,46,99,111,109,0,11,0,2,1,0,0,10,0,8,0,6,0,29,0,
  23,0,24,0,35,0,0,0,22,0,0,0,23,0,0,0,13,0,32,0,30,4,3,5,3,6,3,8,4,8,5,8,6,4,1,5,1,6,1,3,3,3,1,3,2,4,2,5,2,6,2,
  0,43,0,7,6,3,4,3,3,3,2,0,45,0,2,1,1,0,51,0,38,0,36,0,29,0,32,239,195,135,106,159,32,108,100,254,22,43,160,250,
  215,93,153,4,255,153,56,64,166,39,230,29,243,20,159,86,49,158,137,0,21,0,1,0,255,1,0,1,0]

def curlJA3 : String :=
  "771,4866-4867-4865-49196-49195-52393-52392-49200-49199-159-158-49188-49187-49192-49191-107-103-49162-49161-49172-" ++
  "49171-57-51-157-156-61-60-53-47-255,0-11-10-35-22-23-13-43-45-51-21-65281,29-23-24,0"

/-- MD5 and SHA-256 on the texts of that ClientHello. -/
def curlMD5 (b : Bytes) : Bytes :=
  if b = utf8 curlJA3 then [151,91,105,174,179,75,93,71,185,104,67,69,202,7,157,236] else []

def curlSHA256 (b : Bytes) : Bytes :=
  if b = utf8 ("47,51,53,57,60,61,103,107,156,157,158,159,4865,4866,4867,49161,49162,49171,49172,49187,49188," ++
      "49191,49192,49195,49196,49199,49200,52392,52393") then
    [40,142,140,178,216,99,183,188,229,190,61,176,59,0,58,134,44,109,152,56,4,224,215,229,124,61,234,203,86,95,15,159]
  else if b = utf8 ("10,11,13,21,22,23,35,43,45,51,65281,1027,1283,1539,2052,2053,2054,1025,1281,1537,771,769,770," ++
      "1026,1282,1538") then
    [43,135,249,17,25,24,154,134,171,99,27,67,158,252,83,125,116,60,85,116,181,116,39,177,228,163,147,94,245,82,85,
      140]
  else []

def curlJA4 : Bytes := utf8 "t13d291200_288e8cb2d863_2b87f9111918"

/-- A request with a browser's user agent. -/
def curlContext : RequestContext where
  request := some ⟨"GET","example.com",some "/",StringMap.empty.insert "User-Agent" ["Mozilla/5.0 Firefox/134.0"],
    "203.0.113.9:40000"⟩
  remoteIP := "203.0.113.9"

theorem curlRecord_parsed : (parseClientHello curlRecord).map (fun hello =>
    (ja3String hello,ja3Hash curlMD5 (ja3String hello),ja4String curlSHA256 hello)) =
      .ok (curlJA3,"975b69aeb34b5d47b9684345ca079dec",curlJA4) := by
  decide +kernel

theorem collect_forms_agree_curl : ∃ fired, fired.map Signal.name = ["ja3_known_scraper","ja4_unknown"] ∧
    collectBytes curlMD5 curlSHA256 {curlContext with clientHello := curlRecord} [] = .ok fired ∧
    collectBytes curlMD5 curlSHA256 {curlContext with ja3 := " " ++ curlJA3 ++ "\n"}
      (utf8 ""++curlJA4++utf8 " ") = .ok fired ∧
    collectBytes curlMD5 curlSHA256 {curlContext with ja3 := " " ++ "975B69AEB34B5D47B9684345CA079DEC" ++ "\n"}
      (utf8 ""++curlJA4++utf8 " ") = .ok fired := by
  obtain ⟨hello,hok,hforms⟩ := CheckedRun.map_eq_ok.mp curlRecord_parsed
  obtain ⟨hja3,hrest⟩ := Prod.mk.inj hforms
  obtain ⟨hhash,hja4⟩ := Prod.mk.inj hrest
  obtain ⟨fired,hfired,hagree⟩ := collect_forms_agree curlMD5 curlSHA256 hok curlContext
  obtain ⟨hstring,hcoded⟩ := hagree " " "\n" "" " " (blank_of_all (by decide)) (blank_of_all (by decide))
    (blank_of_all (by decide)) (blank_of_all (by decide))
  have hupper := hcoded "975B69AEB34B5D47B9684345CA079DEC" (by rw [hhash]; decide +kernel)
  rw [hja3,hja4] at hstring
  rw [hja4] at hupper
  -- what fires is read off the form that needs no digest
  have hnames : (collectBytes curlMD5 curlSHA256
      {curlContext with ja3 := " " ++ "975B69AEB34B5D47B9684345CA079DEC" ++ "\n"}
      (utf8 ""++curlJA4++utf8 " ")).map (List.map Signal.name) = .ok ["ja3_known_scraper","ja4_unknown"] := by
    decide +kernel
  refine ⟨fired,?_,hfired,hstring,hupper⟩
  exact Except.ok.inj ((congrArg (Except.map (List.map Signal.name)) hupper).symm.trans hnames)

end Forms

end TlsFingerprint
end AntiScrapling
