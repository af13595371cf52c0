import AntiScrapling.ClientHelloWire
import AntiScrapling.HeaderChecks
import AntiScrapling.IpReputation
import AntiScrapling.PolicyVerdict
import AntiScrapling.TlsFingerprint
import AntiScrapling.Token

/-! The main handler of the proxy (`cmd/antiscrapling/wire.go`): from a request on the wire
to what the collectors and the rules are given. -/
namespace AntiScrapling
namespace ProxyHandler

open ByteCodec ClientHello UnicodeText

section Wire

def isTokenChar (c : Char) : Bool :=
  c.isAlphanum || c ∈ ['!','#','$','%','&','\'','*','+','-','.','^','_','\x60','|','~']

/-- Upper case at the start and after a hyphen, lower case elsewhere. -/
def canonicalChars : Bool → List Char → List Char
  | _,[] => []
  | upper,c::cs => (if upper then c.toUpper else c.toLower)::canonicalChars (c == '-') cs

/-- `textproto.CanonicalMIMEHeaderKey`. -/
def canonicalKey (name : String) : String :=
  if name.toList.all isTokenChar then String.ofList (canonicalChars true name.toList) else name

/-- A request as it arrives, with its header lines in order. -/
structure WireRequest where
  method : String
  path : String
  lines : List (String × String)
  remoteAddr : String

def WireRequest.headerNames (w : WireRequest) : List String := w.lines.map Prod.fst

def addLine (h : Header) (line : String × String) : Header :=
  h.insert (canonicalKey line.1) ((h.lookup (canonicalKey line.1)).getD []++[line.2])

/-- A request for a fresh copy also counts as a cache directive. -/
def fixPragmaCacheControl (h : Header) : Header :=
  if Header.get h "Pragma" = "no-cache" ∧ h.lookup "Cache-Control" = none then
    h.insert "Cache-Control" ["no-cache"]
  else h

/-- The request that `net/http` hands to the handler: the names are canonical and no longer in
order, and `Host` is a field of its own. -/
def WireRequest.received (w : WireRequest) : HttpRequest :=
  let header := fixPragmaCacheControl (w.lines.foldl addLine .empty)
  { method := w.method
    host := Header.get header "Host"
    path := some w.path
    header := header.erase "Host"
    remoteAddr := w.remoteAddr }

end Wire

section Cookies

def isASCIISpace (c : Char) : Bool := c ∈ [' ','\t','\n','\r']

/-- `textproto.TrimString`. -/
def trimString (cs : List Char) : List Char :=
  ((cs.dropWhile isASCIISpace).reverse.dropWhile isASCIISpace).reverse

def validCookieValueChar (c : Char) : Bool :=
  decide (0x20 ≤ c.toNat ∧ c.toNat < 0x7f) && c ∉ ['"',';','\\']

/-- The value of a cookie without its quotes, if all of it is allowed. -/
def parseCookieValue (raw : List Char) : Option (List Char) :=
  let value :=
    if raw.length > 1 ∧ raw.head? = some '"' ∧ raw.getLast? = some '"' then (raw.drop 1).dropLast
    else raw
  if value.all validCookieValueChar then some value else none

/-- The value of one part of a cookie line, if it is about `name`. -/
def cookiePart (name : List Char) (part : List Char) : Option (List Char) :=
  let part := trimString part
  let key := trimString (part.takeWhile (· ≠ '='))
  if key = name ∧ key ≠ [] ∧ key.all isTokenChar then
    parseCookieValue ((part.dropWhile (· ≠ '=')).drop 1)
  else none

def defaultCookieName : String := "__as_pass"

/-- `token.GetCookie`: the first cookie of that name, or the empty string. -/
def getCookie (r : HttpRequest) (name : String) : String :=
  let values := ((r.header.lookup "Cookie").getD []).flatMap fun line =>
    ((trimString line.toList).splitOn ';').filterMap (cookiePart name.toList)
  String.ofList (values.head?.getD [])

theorem trimString_eq {cs : List Char} (h : ∀ c ∈ cs, isASCIISpace c = false) : trimString cs = cs := by
  have hkeep (xs : List Char) (hxs : ∀ c ∈ xs, isASCIISpace c = false) :
      xs.dropWhile isASCIISpace = xs := by
    cases xs with
    | nil => rfl
    | cons x xs => exact List.dropWhile_cons_of_neg (by simp [hxs x])
  unfold trimString
  rw [hkeep cs h,hkeep cs.reverse (by simpa using h),List.reverse_reverse]

theorem ne_of_allowed {p : Char → Bool} {c d : Char} (hc : p c = true) (hd : p d = false) : c ≠ d :=
  ne_of_apply_ne p (by simp [hc,hd])

theorem isASCIISpace_eq_false {c : Char} :
    isASCIISpace c = false ↔ c ≠ ' ' ∧ c ≠ '\t' ∧ c ≠ '\n' ∧ c ≠ '\r' := by
  simp [isASCIISpace]

theorem parseCookieValue_eq {value : List Char} (h : ∀ c ∈ value, validCookieValueChar c = true) :
    parseCookieValue value = some value := by
  have hquote : ¬ (value.length > 1 ∧ value.head? = some '"' ∧ value.getLast? = some '"') := by
    rintro ⟨-,hhead,-⟩
    exact absurd (h '"' (List.mem_of_head? hhead)) (by decide)
  unfold parseCookieValue
  rw [if_neg hquote]
  exact if_pos (List.all_eq_true.mpr h)

/-- A cookie of visible characters is read as it was set. -/
theorem getCookie_pair {r : HttpRequest} {name value : String}
    (hline : r.header.lookup "Cookie" = some [name ++ "=" ++ value]) (hname : name ≠ "")
    (htokens : name.toList.all isTokenChar = true)
    (hvalues : value.toList.all (fun c => validCookieValueChar c && c ≠ ' ') = true) :
    getCookie r name = value := by
  have htoken : ∀ c ∈ name.toList, isTokenChar c = true := List.all_eq_true.mp htokens
  have hvalue : ∀ c ∈ value.toList, validCookieValueChar c = true ∧ c ≠ ' ' := by simpa using hvalues
  have hvisible : ∀ c ∈ name.toList++ '='::value.toList, isASCIISpace c = false ∧ c ≠ ';' := by
    intro c hc
    rw [isASCIISpace_eq_false]
    rcases List.mem_append.mp hc with hc | hc
    · have hne (d : Char) (hd : isTokenChar d = false) := ne_of_allowed (htoken c hc) hd
      exact ⟨⟨hne _ (by decide),hne _ (by decide),hne _ (by decide),hne _ (by decide)⟩,hne _ (by decide)⟩
    · rcases List.mem_cons.mp hc with rfl | hc
      · decide
      · obtain ⟨hvalid,hspace⟩ := hvalue c hc
        have hne (d : Char) (hd : validCookieValueChar d = false) := ne_of_allowed hvalid hd
        exact ⟨⟨hspace,hne _ (by decide),hne _ (by decide),hne _ (by decide)⟩,hne _ (by decide)⟩
  have htext : (name ++ "=" ++ value).toList = name.toList++ '='::value.toList := by simp
  have hkey : (name.toList++ '='::value.toList).takeWhile (· ≠ '=') = name.toList := by
    rw [List.takeWhile_append_of_pos fun c hc => by
      simpa using ne_of_allowed (htoken c hc) (by decide)]
    simp
  have hrest : ((name.toList++ '='::value.toList).dropWhile (· ≠ '=')).drop 1 = value.toList := by
    rw [List.dropWhile_append_of_pos fun c hc => by
      simpa using ne_of_allowed (htoken c hc) (by decide)]
    simp
  have hpart : cookiePart name.toList (name.toList++ '='::value.toList) = some value.toList := by
    have htrim : trimString name.toList = name.toList :=
      trimString_eq fun c hc => (hvisible c (by simp [hc])).1
    unfold cookiePart
    simp only [trimString_eq fun c hc => (hvisible c hc).1,hkey,htrim,hrest,
      parseCookieValue_eq fun c hc => (hvalue c hc).1]
    exact if_pos ⟨trivial,by simpa using hname,htokens⟩
  unfold getCookie
  simp only [hline,Option.getD_some,List.flatMap_cons,List.flatMap_nil,List.append_nil,htext,
    trimString_eq fun c hc => (hvisible c hc).1,
    List.splitOn_eq_singleton fun hc => (hvisible ';' hc).2 rfl,
    List.filterMap_cons,List.filterMap_nil,hpart,List.head?_cons,String.ofList_toList]

end Cookies

/-- `buildRequestContext`, with the bytes of the captured ClientHello. -/
def buildRequestContext (r : HttpRequest) (capture : Option Bytes) : RequestContext where
  request := some r
  remoteIP := HostPort.hostOf r.remoteAddr
  clientHello := capture.getD []
  headers := r.header

/-- Whether the pass cookie of a request is accepted, as the main handler finds out. -/
def hasValidToken (J : Token.Jwt) (v : Token.Verifier) (now : Token.Time) (r : HttpRequest)
    (capture : Option Bytes) : Bool :=
  let ctx := buildRequestContext r capture
  let cookieVal := getCookie r defaultCookieName
  if cookieVal ≠ "" then
    match v.verify J now cookieVal
        {ip := ctx.remoteIP, ua := Header.get r.header "User-Agent", ja3 := ctx.ja3, ja4 := ctx.ja4} with
    | .ok _ => true
    | .error _ => false
  else false

section Derived
variable (md5 sha256 : Bytes → Bytes) (ctx : RequestContext)

/-- The JA3 and the JA4 that the tls collector works with; an error leaves none. -/
def derivedJA3 : String :=
  match TlsFingerprint.fingerprints md5 sha256 ctx with
  | .ok fp => fp.ja3
  | .error _ => ""

def derivedJA4 : Bytes :=
  match TlsFingerprint.fingerprints md5 sha256 ctx with
  | .ok fp => fp.ja4
  | .error _ => []

/-- The category that the ip collector finds for the address. -/
def derivedCategory : String :=
  match IpReputation.derivedEntry ctx with
  | some e => e.category.text
  | none => ""

end Derived

section Fidelity
variable (md5 sha256 : Bytes → Bytes) (urlHost : String → Option String)

/-- The rules see what the collectors derive, and the headers collector sees the order on
the wire. -/
structure InputsFaithful (p : Pipeline) (w : WireRequest) (capture : Option Bytes) (hasValidToken : Bool) :
    Prop where
  ja3 : (p.rulesContext (buildRequestContext w.received capture) hasValidToken).ja3 =
    derivedJA3 md5 sha256 (buildRequestContext w.received capture)
  ja4 : utf8 (p.rulesContext (buildRequestContext w.received capture) hasValidToken).ja4 =
    derivedJA4 md5 sha256 (buildRequestContext w.received capture)
  category : (p.rulesContext (buildRequestContext w.received capture) hasValidToken).ip.category =
    derivedCategory (buildRequestContext w.received capture)
  order : (buildRequestContext w.received capture).headerOrder = w.headerNames
  canonical : w.headerNames.map toLower ∈ HeaderChecks.canonicalOrders →
    ∀ t, ∃ t' signals, HeaderChecks.collect urlHost t (buildRequestContext w.received capture) =
      .ok (t',signals) ∧ ∀ s ∈ signals, s.name ≠ "header_order_anomaly"

theorem ja3String_ne (hello : Hello) : TlsFingerprint.ja3String hello ≠ "" := by
  intro h
  have hchars := congrArg String.toList h
  simp [TlsFingerprint.ja3String] at hchars

theorem category_text_ne (c : IpReputation.Category) : c.text ≠ "" := by
  cases c <;> decide

theorem fingerprints_proxy (r : HttpRequest) (capture : Option Bytes) :
    TlsFingerprint.fingerprints md5 sha256 (buildRequestContext r capture) =
      if capture.getD [] = [] then .ok ⟨"","",[]⟩
      else (parseClientHello (capture.getD [])).map (TlsFingerprint.helloFingerprints md5 sha256) := by
  rfl

theorem derived_cases (r : HttpRequest) (capture : Option Bytes) :
    (∃ hello, parseClientHello (capture.getD []) = .ok hello ∧
      derivedJA3 md5 sha256 (buildRequestContext r capture) = TlsFingerprint.ja3String hello ∧
      derivedJA4 md5 sha256 (buildRequestContext r capture) = TlsFingerprint.ja4String sha256 hello) ∨
    (∀ hello, parseClientHello (capture.getD []) ≠ .ok hello) ∧
      derivedJA3 md5 sha256 (buildRequestContext r capture) = "" ∧
      derivedJA4 md5 sha256 (buildRequestContext r capture) = [] := by
  unfold derivedJA3 derivedJA4
  rw [fingerprints_proxy]
  by_cases hraw : capture.getD [] = []
  · rw [if_pos hraw,hraw]
    exact .inr ⟨fun _ h => (by cases h),rfl,rfl⟩
  · rw [if_neg hraw]
    cases hparse : parseClientHello (capture.getD []) with
    | ok hello => exact .inl ⟨hello,rfl,rfl,rfl⟩
    | error e => exact .inr ⟨fun _ h => (by cases h),rfl,rfl⟩

/-- Addresses about which the ip collector says nothing. -/
def NotPublic (addr : String) : Prop :=
  ∀ ip, IpReputation.parseRemoteIP addr = some ip →
    IpAddress.isLoopback ip = true ∨ IpAddress.isPrivate ip = true ∨ IpAddress.isLinkLocalUnicast ip = true

theorem derivedCategory_eq_empty (ctx : RequestContext) :
    derivedCategory ctx = "" ↔ NotPublic ctx.remoteIP := by
  unfold derivedCategory IpReputation.derivedEntry NotPublic
  cases IpReputation.parseRemoteIP ctx.remoteIP with
  | none => simp
  | some ip =>
    by_cases h : (IpAddress.isLoopback ip || IpAddress.isPrivate ip || IpAddress.isLinkLocalUnicast ip) = true
    · simp only [h,if_true,true_iff]
      intro ip' hip
      rw [← Option.some.inj hip]
      simpa [or_assoc] using h
    · simp only [h,Bool.false_eq_true,if_false]
      refine iff_of_false (category_text_ne _) fun hall => h ?_
      simpa [or_assoc] using hall ip rfl

/-- The inputs are faithful only where there is nothing to be faithful to: no ClientHello that
parses, no public address and no header. -/
theorem inputsFaithful_iff (p : Pipeline) (w : WireRequest) (capture : Option Bytes)
    (hasValidToken : Bool) :
    InputsFaithful md5 sha256 urlHost p w capture hasValidToken ↔
      (∀ hello, parseClientHello (capture.getD []) ≠ .ok hello) ∧
      NotPublic (HostPort.hostOf w.remoteAddr) ∧ w.lines = [] := by
  have hcategory := derivedCategory_eq_empty (buildRequestContext w.received capture)
  constructor
  · intro h
    refine ⟨?_,hcategory.mp h.category.symm,List.map_eq_nil_iff.mp h.order.symm⟩
    rcases derived_cases md5 sha256 w.received capture with ⟨hello,-,hja3,-⟩ | ⟨hnone,-⟩
    · exact absurd (hja3.symm.trans h.ja3.symm) (ja3String_ne hello)
    · exact hnone
  · rintro ⟨hnone,hpublic,hlines⟩
    rcases derived_cases md5 sha256 w.received capture with ⟨hello,hok,-⟩ | ⟨-,hja3,hja4⟩
    · exact absurd hok (hnone hello)
    have hnames : w.headerNames = [] := by simp [WireRequest.headerNames,hlines]
    refine ⟨hja3.symm,hja4.symm,(hcategory.mpr hpublic).symm,hnames.symm,fun hcanonical => ?_⟩
    rw [hnames] at hcanonical
    exact absurd hcanonical (by decide)

theorem orderSignal_proxy (r : HttpRequest) (capture : Option Bytes) :
    HeaderChecks.orderSignal (buildRequestContext r capture) =
      [⟨"header_order_anomaly",20,"fewer than 8 headers and no browser canonical pattern matched"⟩] := rfl

def sampleWire : WireRequest where
  method := "GET"
  path := "/"
  lines := [("Host","example.com"),("User-Agent","Mozilla/5.0 (X11; Linux x86_64; rv:134.0) Firefox/134.0"),
    ("Accept","text/html"),("Accept-Language","en"),("Accept-Encoding","gzip"),
    ("Connection","keep-alive"),("Upgrade-Insecure-Requests","1"),("Sec-Fetch-Dest","document"),
    ("Sec-Fetch-Mode","navigate"),("Sec-Fetch-Site","none"),("Sec-Fetch-User","?1")]
  remoteAddr := "54.1.2.3:40000"

def sampleCapture : Bytes := tlsRecord 3 1 (handshakeMessage (encodeBody smallHello.hello))

def sampleHello : Hello :=
  {smallHello.hello with serverName := [97], supportedVersions := [0x0304]}

theorem parseClientHello_sampleCapture : parseClientHello sampleCapture = .ok sampleHello := by
  decide +kernel

/-- MD5 and SHA-256 on the inputs of the sample request. -/
def sampleMD5 (b : Bytes) : Bytes :=
  if b = utf8 "771,4865,0-43,," then [86,198,87,13,10,123,160,254,110,135,190,191,209,9,49,222] else []

def sampleSHA256 (b : Bytes) : Bytes :=
  if b = utf8 "4865" then
    [103,233,18,227,226,181,50,102,244,214,161,88,222,7,180,119,
      22,77,139,16,54,255,8,228,255,51,235,55,74,193,2,196]
  else if b = utf8 "43" then
    [68,203,115,12,66,4,128,160,71,123,80,90,230,138,245,8,
      251,144,249,108,240,236,84,198,173,22,148,157,212,39,241,58]
  else []

def sampleContext : RequestContext := buildRequestContext sampleWire.received (some sampleCapture)

theorem fingerprints_sampleContext : TlsFingerprint.fingerprints sampleMD5 sampleSHA256 sampleContext =
    .ok (TlsFingerprint.helloFingerprints sampleMD5 sampleSHA256 sampleHello) := by
  rw [sampleContext,fingerprints_proxy,Option.getD_some,if_neg (by decide +kernel),
    parseClientHello_sampleCapture]
  rfl

/-- A Firefox in its own header order, with a ClientHello, from a datacenter: the rules see no
fingerprint and no category, and the order counts as an anomaly. -/
theorem proxy_inputs_lost :
    ¬ InputsFaithful sampleMD5 sampleSHA256 (fun _ => some "") Policy.samplePipeline sampleWire
      (some sampleCapture) false ∧
    derivedJA3 sampleMD5 sampleSHA256 sampleContext = "771,4865,0-43,," ∧
    (Policy.samplePipeline.rulesContext sampleContext false).ja3 = "" ∧
    derivedJA4 sampleMD5 sampleSHA256 sampleContext = utf8 "t13d010200_67e912e3e2b5_44cb730c4204" ∧
    (Policy.samplePipeline.rulesContext sampleContext false).ja4 = "" ∧
    derivedCategory sampleContext = "datacenter" ∧
    (Policy.samplePipeline.rulesContext sampleContext false).ip.category = "" ∧
    sampleWire.headerNames.map toLower = HeaderChecks.firefoxOrder ∧
    HeaderChecks.orderSignal sampleContext ≠ [] := by
  have hja3 : TlsFingerprint.ja3String sampleHello = "771,4865,0-43,," := by decide +kernel
  have hja4 : TlsFingerprint.ja4String sampleSHA256 sampleHello =
      utf8 "t13d010200_67e912e3e2b5_44cb730c4204" := by decide +kernel
  have hderived : derivedJA3 sampleMD5 sampleSHA256 sampleContext = "771,4865,0-43,," := by
    rw [derivedJA3,fingerprints_sampleContext,← hja3]
    rfl
  have hseen : (Policy.samplePipeline.rulesContext sampleContext false).ja3 = "" := rfl
  refine ⟨fun h => ?_,hderived,hseen,?_,rfl,by decide +kernel,rfl,by decide +kernel,?_⟩
  · exact absurd (hderived.symm.trans (h.ja3.symm.trans hseen)) (by decide)
  · rw [derivedJA4,fingerprints_sampleContext,← hja4]
    rfl
  · rw [sampleContext,orderSignal_proxy]
    exact List.cons_ne_nil _ _

end Fidelity

end ProxyHandler
end AntiScrapling
