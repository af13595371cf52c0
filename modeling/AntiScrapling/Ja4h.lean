import AntiScrapling.Request
import AntiScrapling.SortedLists
import AntiScrapling.TlsFingerprint

/-! The JA4H fingerprint of a request (`internal/signal/http2/ja4h.go`).  It is a byte string,
because the codes of the method and the language are cut after a number of bytes.  Of the
cookies only the names count, whatever their order and their values. -/
namespace AntiScrapling
namespace Ja4h

open UnicodeText GoText ByteCodec TlsFingerprint SortedLists

structure JA4HShape where
  method : String
  protoMajor : ℤ
  protoMinor : ℤ
  header : Header
  headerOrder : List String
  host : String

def zeroHash : String := "000000000000"

section Codes

def hasPrefix (s pre : String) : Bool := pre.toList.isPrefixOf s.toList

/-- The header names in the order on the wire, or sorted if it is not known. -/
def normalizeHeaderOrder (shape : JA4HShape) : List String :=
  if shape.headerOrder.length > 0 then (shape.headerOrder.map trimSpace).filter (· ≠ "")
  else ((if shape.host ≠ "" then ["Host"] else [])++shape.header.entries.map Prod.fst).insertionSort (· ≤ ·)

def ignoredJA4HHeader (name : String) : Bool :=
  let trimmed := trimSpace name
  if trimmed == "" || hasPrefix trimmed ":" then true
  else
    let lower := toLower trimmed
    hasPrefix lower "cookie" || lower == "referer"

def hasHeader (headerOrder : List String) (target : String) : Bool :=
  headerOrder.any fun name => toLower (trimSpace name) == toLower target

def methodCode (method : String) : Bytes :=
  let code := utf8 (toLower (trimSpace method))
  if code.length ≥ 2 then code.take 2
  else if code.length = 1 then code++utf8 "x"
  else utf8 "xx"

def versionCode (major minor : ℤ) : String :=
  if major = 1 then if minor = 0 then "10" else "11"
  else if major = 2 then "20"
  else if major = 3 then "30"
  else "00"

def languageCode (value : String) : Bytes :=
  let value := replaceAll (replaceAll (toLower value) "-" "") ";" ","
  let value := trimSpace (String.ofList (value.toList.takeWhile (· ≠ ',')))
  let code := (utf8 value).take 4
  code++List.replicate (4-code.length) (UInt8.ofNat 0x30)

end Codes

section Cookies

structure CookiePair where
  name : String
  pair : String
  deriving DecidableEq

/-- What stands before the first equals sign, or the whole cookie. -/
def cookieName (part : String) : String :=
  if '=' ∈ part.toList then trimSpace (String.ofList (part.toList.takeWhile (· ≠ '='))) else part

def parseCookie (part : String) : Option CookiePair :=
  let part := trimSpace part
  if part = "" then none
  else
    let name := cookieName part
    if name = "" then none else some ⟨name,part⟩

/-- The cookies as they come, over all `Cookie` lines. -/
def cookies (header : Header) : List CookiePair :=
  ((header.lookup "Cookie").getD []).flatMap fun value =>
    (value.toList.splitOn ';').filterMap fun part => parseCookie (String.ofList part)

def cookieLess (a b : CookiePair) : Bool :=
  if a.name == b.name then !decide (b.pair ≤ a.pair) else !decide (b.name ≤ a.name)

def sortedCookies (header : Header) : List String × List String :=
  let sorted := (cookies header).insertionSort fun a b => cookieLess b a = false
  (sorted.map CookiePair.name,sorted.map CookiePair.pair)

end Cookies

section Fingerprint
variable (sha256 : Bytes → Bytes)

def shortSHA256 (values : List String) : String :=
  String.ofList ((hexOfBytes (sha256 (utf8 (",".intercalate values)))).toList.take 12)

def computeJA4HFromShape (shape : JA4HShape) : Bytes :=
  let headerOrder := normalizeHeaderOrder shape
  let filteredHeaders := headerOrder.filter fun name => !ignoredJA4HHeader name
  let cookieNames := (sortedCookies shape.header).1
  let cookieFlag := if cookieNames.length > 0 then "c" else "n"
  let refererFlag := if hasHeader headerOrder "referer" || shape.header.get "Referer" != "" then "r" else "n"
  let sectionA := methodCode shape.method++utf8 (versionCode shape.protoMajor shape.protoMinor ++
    cookieFlag ++ refererFlag ++ twoDigits (min filteredHeaders.length 99))++
    languageCode (shape.header.get "Accept-Language")
  let cookieHash := if cookieNames.length > 0 then shortSHA256 sha256 cookieNames else zeroHash
  sectionA++utf8 ("_" ++ shortSHA256 sha256 filteredHeaders ++ "_" ++ cookieHash)

def computeJA4HFullFromShape (shape : JA4HShape) : Bytes :=
  let cookiePairs := (sortedCookies shape.header).2
  computeJA4HFromShape sha256 shape++
    utf8 ("_" ++ if cookiePairs.length = 0 then zeroHash else shortSHA256 sha256 cookiePairs)

end Fingerprint

section Sorting

instance stringTotal : Std.Total fun a b : String => a ≤ b := ⟨String.le_total⟩

instance stringTrans : IsTrans String fun a b => a ≤ b := ⟨fun _ _ _ => String.le_trans⟩

instance stringAntisymm : Std.Antisymm fun a b : String => a ≤ b := ⟨fun _ _ => String.le_antisymm⟩

theorem cookieLess_eq_false {a b : CookiePair} :
    cookieLess b a = false ↔ a.name ≤ b.name ∧ (a.name = b.name → a.pair ≤ b.pair) := by
  unfold cookieLess
  by_cases hname : b.name = a.name
  · simp [hname]
  · have hne : ¬ a.name = b.name := fun h => hname h.symm
    simp [hname,hne]

instance : Std.Total fun a b : CookiePair => cookieLess b a = false where
  total a b := by
    rw [cookieLess_eq_false,cookieLess_eq_false]
    by_cases hname : a.name = b.name
    · rcases String.le_total a.pair b.pair with hpair | hpair
      · exact .inl ⟨hname ▸ String.le_refl _,fun _ => hpair⟩
      · exact .inr ⟨hname ▸ String.le_refl _,fun _ => hpair⟩
    · rcases String.le_total a.name b.name with hle | hle
      · exact .inl ⟨hle,fun h => absurd h hname⟩
      · exact .inr ⟨hle,fun h => absurd h.symm hname⟩

instance : IsTrans CookiePair fun a b => cookieLess b a = false where
  trans a b c := by
    rw [cookieLess_eq_false,cookieLess_eq_false,cookieLess_eq_false]
    rintro ⟨hab,hab'⟩ ⟨hbc,hbc'⟩
    refine ⟨String.le_trans hab hbc,fun hac => ?_⟩
    have hname : a.name = b.name := String.le_antisymm hab (hac ▸ hbc)
    exact String.le_trans (hab' hname) (hbc' (hname ▸ hac))

instance : Std.Antisymm fun a b : CookiePair => cookieLess b a = false where
  antisymm := by
    rintro ⟨name,pair⟩ ⟨name',pair'⟩ hab hba
    obtain ⟨hab,hab'⟩ := cookieLess_eq_false.mp hab
    obtain ⟨hba,hba'⟩ := cookieLess_eq_false.mp hba
    obtain rfl : name = name' := String.le_antisymm hab hba
    obtain rfl : pair = pair' := String.le_antisymm (hab' rfl) (hba' rfl)
    rfl

theorem sortedCookies_eq {header : Header} {sorted : List CookiePair} (hperm : sorted.Perm (cookies header))
    (hsorted : sorted.Pairwise fun a b => cookieLess b a = false) :
    sortedCookies header = (sorted.map CookiePair.name,sorted.map CookiePair.pair) := by
  rw [eq_insertionSort hperm hsorted]
  rfl

theorem sortedCookies_names (header : Header) :
    (sortedCookies header).1 = ((cookies header).map CookiePair.name).insertionSort (· ≤ ·) := by
  have hmono : ∀ a b : CookiePair, cookieLess b a = false → a.name ≤ b.name :=
    fun _ _ h => (cookieLess_eq_false.mp h).1
  exact map_insertionSort_of_mono hmono (cookies header)

theorem name_of_mem_cookies {header : Header} {c : CookiePair} (h : c ∈ cookies header) :
    c = ⟨cookieName c.pair,c.pair⟩ := by
  simp only [cookies,List.mem_flatMap,List.mem_filterMap] at h
  obtain ⟨value,_,part,_,hparse⟩ := h
  unfold parseCookie at hparse
  simp only at hparse
  split_ifs at hparse
  rw [← Option.some.inj hparse]

theorem cookies_eq_map (header : Header) :
    cookies header = ((cookies header).map CookiePair.pair).map fun pair => ⟨cookieName pair,pair⟩ := by
  rw [List.map_map]
  exact (List.map_id'' (fun _ => rfl) _).symm.trans (List.map_congr_left fun c hc => name_of_mem_cookies hc)

theorem sortedCookies_eq_of_pairs {a b : Header}
    (h : ((cookies a).map CookiePair.pair).Perm ((cookies b).map CookiePair.pair)) :
    sortedCookies a = sortedCookies b := by
  have hcookies : (cookies a).Perm (cookies b) := by
    rw [cookies_eq_map a,cookies_eq_map b]
    exact h.map _
  unfold sortedCookies
  rw [insertionSort_congr hcookies]

end Sorting

section Independence

def isCookie (name : String) : Bool := toLower (trimSpace name) == "cookie"

/-- Two requests that differ only in their cookie lines.  An empty header order stands for
an unknown one. -/
structure SameButCookies (a b : JA4HShape) : Prop where
  method : a.method = b.method
  protoMajor : a.protoMajor = b.protoMajor
  protoMinor : a.protoMinor = b.protoMinor
  host : a.host = b.host
  header : ∀ name, name ≠ "Cookie" → a.header.lookup name = b.header.lookup name
  headerOrder : a.headerOrder.filter (!isCookie ·) = b.headerOrder.filter (!isCookie ·)
  known : a.headerOrder = [] ↔ b.headerOrder = []

theorem filter_known (order : List String) :
    ((order.map trimSpace).filter (· ≠ "")).filter (!isCookie ·) =
      ((order.filter (!isCookie ·)).map trimSpace).filter (· ≠ "") := by
  have htrim : (fun name => !isCookie name) ∘ trimSpace = fun name => !isCookie name := by
    funext name
    simp only [Function.comp,isCookie,trimSpace_trimSpace]
  rw [List.filter_comm,List.filter_map,htrim]

theorem keys_perm {a b : JA4HShape} (h : SameButCookies a b) :
    ((a.header.entries.map Prod.fst).filter (!isCookie ·)).Perm
      ((b.header.entries.map Prod.fst).filter (!isCookie ·)) := by
  rw [List.perm_ext_iff_of_nodup (a.header.distinct.filter _) (b.header.distinct.filter _)]
  intro name
  rw [List.mem_filter,List.mem_filter]
  refine and_congr_left fun hname => ?_
  have hne : name ≠ "Cookie" := by
    rintro rfl
    revert hname
    decide
  rw [StringMap.mem_keys,StringMap.mem_keys,h.header name hne]

theorem normalizeHeaderOrder_filter {a b : JA4HShape} (h : SameButCookies a b) :
    (normalizeHeaderOrder a).filter (!isCookie ·) = (normalizeHeaderOrder b).filter (!isCookie ·) := by
  unfold normalizeHeaderOrder
  by_cases hempty : a.headerOrder = []
  · rw [hempty,h.known.mp hempty,h.host]
    simp only [List.length_nil,gt_iff_lt,lt_self_iff_false,if_false]
    rw [filter_insertionSort,filter_insertionSort,List.filter_append,List.filter_append]
    exact insertionSort_congr ((keys_perm h).append_left _)
  · have hb : b.headerOrder ≠ [] := fun hb => hempty (h.known.mpr hb)
    rw [if_pos (List.length_pos_iff.mpr hempty),if_pos (List.length_pos_iff.mpr hb),filter_known,
      filter_known,h.headerOrder]

theorem ignored_of_isCookie {name : String} (h : isCookie name = true) : ignoredJA4HHeader name = true := by
  have hlower : toLower (trimSpace name) = "cookie" := by simpa [isCookie] using h
  unfold ignoredJA4HHeader
  simp only [hlower]
  split_ifs
  · rfl
  · decide

theorem filter_ignored (order : List String) :
    order.filter (!ignoredJA4HHeader ·) = (order.filter (!isCookie ·)).filter (!ignoredJA4HHeader ·) := by
  rw [List.filter_filter]
  refine List.filter_congr fun name _ => ?_
  cases hcookie : isCookie name with
  | false => simp
  | true => simp [ignored_of_isCookie hcookie]

theorem hasHeader_referer_filter (order : List String) :
    hasHeader order "referer" = hasHeader (order.filter (!isCookie ·)) "referer" := by
  unfold hasHeader
  rw [List.any_filter]
  refine congrArg order.any (funext fun name => ?_)
  cases hcookie : isCookie name with
  | false => simp
  | true =>
    have hlower : toLower (trimSpace name) = "cookie" := by simpa [isCookie] using hcookie
    rw [hlower]
    decide

theorem get_eq {a b : JA4HShape} (h : SameButCookies a b) {name : String} (hname : name ≠ "Cookie") :
    a.header.get name = b.header.get name := by
  unfold Header.get
  rw [h.header name hname]

variable (sha256 : Bytes → Bytes)

theorem computeJA4HFromShape_congr {a b : JA4HShape} (h : SameButCookies a b)
    (hnames : (sortedCookies a.header).1 = (sortedCookies b.header).1) :
    computeJA4HFromShape sha256 a = computeJA4HFromShape sha256 b := by
  have horder := normalizeHeaderOrder_filter h
  have hfiltered : (normalizeHeaderOrder a).filter (!ignoredJA4HHeader ·) =
      (normalizeHeaderOrder b).filter (!ignoredJA4HHeader ·) := by
    rw [filter_ignored,horder,← filter_ignored]
  have hreferer : hasHeader (normalizeHeaderOrder a) "referer" = hasHeader (normalizeHeaderOrder b) "referer" := by
    rw [hasHeader_referer_filter,horder,← hasHeader_referer_filter]
  have hvalue := get_eq h (by decide : "Referer" ≠ "Cookie")
  have hlanguage := get_eq h (by decide : "Accept-Language" ≠ "Cookie")
  unfold computeJA4HFromShape
  simp only [hfiltered,hreferer,hnames,hvalue,hlanguage,h.method,h.protoMajor,h.protoMinor]

/-- The fingerprint does not depend on the values of the cookies, nor on how they are ordered,
spaced and split over lines; the full one depends on their texts, and on nothing else of
the cookie lines. -/
theorem ja4h_cookie_names_only {a b : JA4HShape} (h : SameButCookies a b)
    (hnames : ((cookies a.header).map CookiePair.name).Perm ((cookies b.header).map CookiePair.name)) :
    computeJA4HFromShape sha256 a = computeJA4HFromShape sha256 b ∧
    (((cookies a.header).map CookiePair.pair).Perm ((cookies b.header).map CookiePair.pair) →
      computeJA4HFullFromShape sha256 a = computeJA4HFullFromShape sha256 b) := by
  have hsorted : (sortedCookies a.header).1 = (sortedCookies b.header).1 := by
    rw [sortedCookies_names,sortedCookies_names,insertionSort_congr hnames]
  have hja4h := computeJA4HFromShape_congr sha256 h hsorted
  refine ⟨hja4h,fun hpairs => ?_⟩
  unfold computeJA4HFullFromShape
  rw [hja4h,sortedCookies_eq_of_pairs hpairs]

def sampleShape (cookieLines order : List String) : JA4HShape where
  method := "POST"
  protoMajor := 1
  protoMinor := 1
  header := ((StringMap.empty.insert "Accept-Language" ["en-US,en;q=0.9"]).insert "Referer"
    ["https://example.com/"]).insert "Cookie" cookieLines
  headerOrder := order
  host := "example.com"

theorem sampleShape_same (lines lines' : List String) {order order' : List String}
    (horder : order.filter (!isCookie ·) = order'.filter (!isCookie ·)) (hknown : order = [] ↔ order' = []) :
    SameButCookies (sampleShape lines order) (sampleShape lines' order') := by
  refine ⟨rfl,rfl,rfl,rfl,fun name hname => ?_,horder,hknown⟩
  simp only [sampleShape,StringMap.lookup_insert,hname,if_false]

/-- Other values on two lines, and the same cookies in the other order. -/
theorem ja4h_cookie_names_only_sample :
    computeJA4HFromShape id (sampleShape ["zeta=last; alpha=first"] ["Host","User-Agent","Cookie","Referer"]) =
      computeJA4HFromShape id (sampleShape [" alpha = 1;","zeta=2"]
        ["Host","cookie","User-Agent","Referer","Cookie"]) ∧
    computeJA4HFullFromShape id (sampleShape ["zeta=last; alpha=first"] []) =
      computeJA4HFullFromShape id (sampleShape ["alpha=first;zeta=last"] []) :=
  ⟨(ja4h_cookie_names_only id (sampleShape_same _ _ (by decide +kernel) (by decide)) (by decide +kernel)).1,
    (ja4h_cookie_names_only id (sampleShape_same _ _ rfl Iff.rfl) (by decide +kernel)).2 (by decide +kernel)⟩

end Independence

end Ja4h
end AntiScrapling
