import AntiScrapling.ProxyHandler
import AntiScrapling.UrlPath

/-! Forwarding to the upstream (`internal/proxy`): what the director makes of the URL and the
headers of a request. -/
namespace AntiScrapling
namespace ProxyForward

open ByteCodec UnicodeText UrlPath
open ProxyHandler (canonicalKey)

section JoinPath

def joinPath (a b : Bytes) : Bytes :=
  let aslash := decide (utf8 "/" <:+ a)
  let bslash := decide (utf8 "/" <+: b)
  if aslash && bslash then a++b.drop 1
  else if !aslash && !bslash then if a = [] then b else a++utf8 "/"++b
  else a++b

/-- A path without a slash at its end. -/
def stem (a : Bytes) : Bytes := if [47] <:+ a then a.dropLast else a

def rooted (b : Bytes) : Bytes := if [47] <+: b then b else 47::b

variable {a b : Bytes}

theorem rooted_slash (b : Bytes) : rooted (47::b) = 47::b := if_pos ⟨b,rfl⟩

theorem stem_slash (a : Bytes) : stem (a++[47]) = a := by
  rw [stem,if_pos (List.suffix_append _ _),List.dropLast_concat]

theorem joinPath_nil (b : Bytes) : joinPath [] b = b := by
  have hslash : utf8 "/" = [47] := rfl
  simp [joinPath,hslash]

theorem joinPath_eq (ha : a ≠ []) (b : Bytes) : joinPath a b = stem a++rooted b := by
  have hslash : utf8 "/" = [47] := rfl
  by_cases haslash : [47] <:+ a <;> by_cases hbslash : [47] <+: b
  · obtain ⟨a',rfl⟩ := haslash
    obtain ⟨b',rfl⟩ := hbslash
    rw [stem_slash]
    simp [joinPath,hslash,rooted_slash]
  · obtain ⟨a',rfl⟩ := haslash
    rw [stem_slash]
    simp [joinPath,hslash,rooted,hbslash]
  · simp [joinPath,hslash,stem,rooted,haslash,hbslash]
  · simp [joinPath,hslash,stem,rooted,haslash,hbslash,ha]

theorem rooted_cons (b : Bytes) : ∃ b', rooted b = 47::b' := by
  unfold rooted
  split_ifs with h
  · obtain ⟨b',rfl⟩ := h
    exact ⟨b',rfl⟩
  · exact ⟨b,rfl⟩

theorem stem_cases (a : Bytes) : a = stem a ∨ a = stem a++[47] := by
  by_cases h : [47] <:+ a
  · obtain ⟨a',rfl⟩ := h
    rw [stem_slash]
    exact .inr rfl
  · exact .inl (if_neg h).symm

theorem joinPath_front (a b : Bytes) : ∃ z, joinPath a b = a++z := by
  by_cases ha : a = []
  · subst ha
    exact ⟨b,joinPath_nil b⟩
  obtain ⟨b',hb⟩ := rooted_cons b
  rw [joinPath_eq ha,hb]
  rcases stem_cases a with hstem | hstem
  · exact ⟨47::b',by rw [← hstem]⟩
  · refine ⟨b',?_⟩
    nth_rewrite 2 [hstem]
    rw [List.append_assoc,List.singleton_append]

theorem joinPath_eq_right : joinPath a b = b ↔ a = [] ∨ a = [47] ∧ [47] <+: b := by
  constructor
  · intro h
    by_cases ha : a = []
    · exact .inl ha
    rw [joinPath_eq ha] at h
    have hlength := congrArg List.length h
    rw [List.length_append] at hlength
    unfold rooted at h hlength
    split_ifs at h hlength with hb
    · have hstem : stem a = [] := List.eq_nil_of_length_eq_zero (by omega)
      rcases stem_cases a with ha' | ha'
      · exact absurd (ha'.trans hstem) ha
      · rw [hstem] at ha'
        exact .inr ⟨ha',hb⟩
    · rw [List.length_cons] at hlength
      omega
  · rintro (rfl | ⟨rfl,b',rfl⟩)
    · exact joinPath_nil b
    · rw [joinPath_eq (List.cons_ne_nil _ _)]
      rfl

end JoinPath

section Escaping
variable {a b x y y' p q : Bytes}

theorem rooted_escape (b : Bytes) : rooted (escape b) = escape (rooted b) := by
  have hslash : [47] <+: escape b ↔ [47] <+: b := slashes_prefix_escape 1 b
  unfold rooted
  rw [apply_ite escape,escape_slash]
  simp only [hslash]

theorem slash_suffix_escape : [47] <:+ escape a ↔ [47] <:+ a := by
  constructor
  · intro h
    rcases List.eq_nil_or_concat a with rfl | ⟨a',c,rfl⟩
    · exact h
    have hbytes : escape [c] = escapeByte c := List.flatMap_singleton ..
    obtain ⟨z,hz⟩ := h
    rw [List.concat_eq_append] at hz ⊢
    rw [escape_append,hbytes] at hz
    have hlast := congrArg List.getLast? hz
    rw [List.getLast?_concat,List.getLast?_append_of_ne_nil _ (escapeByte_ne_nil c)] at hlast
    by_cases hc : c = 47
    · exact hc ▸ List.suffix_append a' [47]
    · exact absurd (List.mem_of_getLast? hlast.symm) (slash_notMem_escapeByte hc)
  · rintro ⟨a',rfl⟩
    rw [escape_append]
    exact List.suffix_append _ _

theorem stem_escape (a : Bytes) : stem (escape a) = escape (stem a) := by
  by_cases h : [47] <:+ a
  · obtain ⟨a',rfl⟩ := h
    rw [escape_append,stem_slash]
    exact stem_slash (escape a')
  · rw [stem,if_neg (mt slash_suffix_escape.mp h),stem,if_neg h]

theorem joinPath_escape (a b : Bytes) : joinPath (escape a) (escape b) = escape (joinPath a b) := by
  by_cases ha : a = []
  · subst ha
    rw [joinPath_nil]
    exact joinPath_nil (escape b)
  · have ha' : escape a ≠ [] := fun h => ha (escape_injective h)
    rw [joinPath_eq ha,joinPath_eq ha',escape_append,stem_escape,rooted_escape]

theorem unescape_slash_ne (hy : unescape (47::y) = some q) : unescape y ≠ some q := by
  intro h
  rw [unescape_cons (by decide),h] at hy
  have hlength := congrArg List.length (Option.some.inj hy)
  rw [List.length_cons] at hlength
  omega

theorem rooted_inj (h : rooted y = rooted y') (hy : unescape y = some q) (hy' : unescape y' = some q) :
    y = y' := by
  unfold rooted at h
  split_ifs at h
  · exact h
  · subst h
    exact absurd hy' (unescape_slash_ne hy)
  · subst h
    exact absurd hy (unescape_slash_ne hy')
  · exact (List.cons.inj h).2

theorem eq_escape_of_joinPath (h : joinPath x y = escape (joinPath p q)) (hx : unescape x = some p)
    (hy : unescape y = some q) : x = escape p ∧ y = escape q := by
  obtain ⟨z,hz⟩ := joinPath_front x y
  obtain ⟨hxp,-⟩ := escape_split (hz ▸ h) hx
  refine ⟨hxp,?_⟩
  subst hxp
  rw [← joinPath_escape] at h
  by_cases hp : escape p = []
  · rwa [hp,joinPath_nil,joinPath_nil] at h
  · rw [joinPath_eq hp,joinPath_eq hp] at h
    exact rooted_inj (List.append_cancel_left h) hy (unescape_escape q)

end Escaping

section Director

/-- `HopByHopHeaders`. -/
def hopByHopHeaders : List String := [
  "Connection",
  "Keep-Alive",
  "Proxy-Authenticate",
  "Proxy-Authorization",
  "TE",
  "Trailers",
  "Transfer-Encoding",
  "Upgrade"]

/-- `Header.Set`. -/
def setHeader (h : Header) (name value : String) : Header := h.insert (canonicalKey name) [value]

/-- `Header.Del`. -/
def delHeader (h : Header) (name : String) : Header := h.erase (canonicalKey name)

def stripHopByHop (h : Header) : Header :=
  let h := ((h.lookup "Connection").getD []).foldl
    (fun h v => (v.toList.splitOn ',').foldl
      (fun h field =>
        let f := trimSpace (String.ofList field)
        if f ≠ "" then delHeader h f else h) h) h
  hopByHopHeaders.foldl delHeader h

structure ForwardRequest where
  url : Url
  host : String
  header : Header
  tls : Bool

/-- The function that `newDirector` returns. -/
def newDirector (target : Url) (req : ForwardRequest) : ForwardRequest where
  url := { req.url with
    scheme := target.scheme
    host := target.host
    path := joinPath target.path req.url.path
    rawQuery :=
      if target.rawQuery = "" ∨ req.url.rawQuery = "" then target.rawQuery ++ req.url.rawQuery
      else target.rawQuery ++ "&" ++ req.url.rawQuery }
  host := target.host
  header :=
    let header :=
      if req.header.lookup "User-Agent" = none then setHeader req.header "User-Agent" "" else req.header
    let header := stripHopByHop header
    let header := setHeader header "X-Forwarded-Proto" (if req.tls then "https" else "http")
    setHeader header "X-Forwarded-Host" req.host
  tls := req.tls

end Director

section Paths
variable {target : Url} {req : ForwardRequest}

/-- The hint of the request is no encoding of its path but one of the joined path. -/
def StaleHint (target : Url) (req : ForwardRequest) : Prop :=
  req.url.rawPath ≠ [] ∧ validEncoded req.url.rawPath = true ∧
    unescape req.url.rawPath = some (joinPath target.path req.url.path) ∧
    joinPath target.path req.url.path ≠ req.url.path

theorem not_stale_of_parsed {u : Url} {s : Bytes} (h : u.setPath s = some req.url) :
    ¬ StaleHint target req := by
  rintro ⟨hraw,-,hjoined,hne⟩
  exact hne (Option.some.inj (hjoined.symm.trans (Url.setPath_hint h hraw)))

theorem escapedPath_of_path_eq (h : joinPath target.path req.url.path = req.url.path) :
    (newDirector target req).url.escapedPath = req.url.escapedPath := Url.escapedPath_congr h rfl

theorem path_eq_of_hint (hstale : ¬ StaleHint target req) (h : (newDirector target req).url.HintHolds) :
    joinPath target.path req.url.path = req.url.path := by
  by_contra hne
  exact hstale ⟨h.1,h.2.1,h.2.2,hne⟩

theorem escapedPath_of_path_ne (hstale : ¬ StaleHint target req)
    (hpath : joinPath target.path req.url.path ≠ req.url.path) :
    (newDirector target req).url.escapedPath = escape (joinPath target.path req.url.path) := by
  have hstar : joinPath target.path req.url.path ≠ utf8 "*" := by
    intro hstar
    have htarget : target.path ≠ [] := fun hnil => hpath (joinPath_eq_right.mpr (.inl hnil))
    obtain ⟨b,hb⟩ := rooted_cons req.url.path
    rw [joinPath_eq htarget,hb] at hstar
    have hmem : (47 : UInt8) ∈ utf8 "*" := hstar ▸ List.mem_append_right _ List.mem_cons_self
    exact absurd hmem (by decide)
  unfold Url.escapedPath
  rw [if_neg fun hhint => hpath (path_eq_of_hint hstale hhint)]
  exact if_neg hstar

theorem forwarded_iff_of_path_eq (h : joinPath target.path req.url.path = req.url.path) :
    (newDirector target req).url.escapedPath = joinPath target.escapedPath req.url.escapedPath ↔
      target.escapedPath = [] ∨ target.escapedPath = [47] ∧ [47] <+: req.url.escapedPath ∨
      target.escapedPath = escape target.path ∧ req.url.escapedPath = escape req.url.path := by
  rw [escapedPath_of_path_eq h,eq_comm,joinPath_eq_right]
  constructor
  · rintro (hnil | hslash)
    · exact .inl hnil
    · exact .inr (.inl hslash)
  · rintro (hnil | hslash | ⟨htarget,hreq⟩)
    · exact .inl hnil
    · exact .inr hslash
    · rw [htarget,hreq]
      rcases joinPath_eq_right.mp h with hnil | ⟨hslash,hrooted⟩
      · exact .inl (by rw [hnil]; rfl)
      · exact .inr ⟨by rw [hslash]; rfl,(slashes_prefix_escape 1 req.url.path).mpr hrooted⟩

theorem forwarded_iff_of_path_ne (hstale : ¬ StaleHint target req)
    (h : joinPath target.path req.url.path ≠ req.url.path) :
    (newDirector target req).url.escapedPath = joinPath target.escapedPath req.url.escapedPath ↔
      target.escapedPath = [] ∨ target.escapedPath = [47] ∧ [47] <+: req.url.escapedPath ∨
      target.escapedPath = escape target.path ∧ req.url.escapedPath = escape req.url.path := by
  rw [escapedPath_of_path_ne hstale h]
  have htarget := target.unescape_escapedPath
  have hreq := req.url.unescape_escapedPath
  constructor
  · intro hjoin
    exact .inr (.inr (eq_escape_of_joinPath hjoin.symm htarget hreq))
  · rintro (hnil | ⟨hslash,b,hb⟩ | ⟨htarget',hreq'⟩)
    · rw [hnil] at htarget
      exact absurd (joinPath_eq_right.mpr (.inl (Option.some.inj htarget).symm)) h
    · rw [hslash] at htarget
      rw [← hb,List.singleton_append,unescape_cons (by decide),Option.map_eq_some_iff] at hreq
      obtain ⟨tail,-,htail⟩ := hreq
      exact absurd (joinPath_eq_right.mpr (.inr ⟨(Option.some.inj htarget).symm,tail,htail⟩)) h
    · rw [htarget',hreq',joinPath_escape]

/-- The encoding of the path is forwarded exactly if the target has no path, or only a slash
in front of a rooted path, or if the target and the client both use the default encoding. -/
theorem escapedPath_newDirector_iff (target : Url) (req : ForwardRequest) :
    (¬ StaleHint target req →
      ((newDirector target req).url.escapedPath = joinPath target.escapedPath req.url.escapedPath ↔
        target.escapedPath = [] ∨ target.escapedPath = [47] ∧ [47] <+: req.url.escapedPath ∨
        target.escapedPath = escape target.path ∧ req.url.escapedPath = escape req.url.path)) ∧
    (StaleHint target req →
      ((newDirector target req).url.escapedPath = joinPath target.escapedPath req.url.escapedPath ↔
        req.url.rawPath = joinPath target.escapedPath req.url.escapedPath)) := by
  constructor
  · intro hstale
    by_cases hpath : joinPath target.path req.url.path = req.url.path
    · exact forwarded_iff_of_path_eq hpath
    · exact forwarded_iff_of_path_ne hstale hpath
  · rintro ⟨hraw,hvalid,hjoined,-⟩
    have hhint : (newDirector target req).url.HintHolds := ⟨hraw,hvalid,hjoined⟩
    rw [Url.escapedPath.eq_def,if_pos hhint]
    rfl

/-- The target `/base` and the request for `/a%2Fb`, as they are parsed. -/
def baseTarget : Url := ⟨"http","upstream",utf8 "/base",[],""⟩

def slashRequest : ForwardRequest := ⟨⟨"","",utf8 "/a/b",utf8 "/a%2Fb",""⟩,"example.com",.empty,false⟩

/-- The upstream is asked for `/base/a/b` where the client named `/base/a%2Fb`. -/
theorem encoded_slash_decoded :
    (baseTarget.setPath (utf8 "/base") = some baseTarget ∧
      slashRequest.url.setPath (utf8 "/a%2Fb") = some slashRequest.url) ∧
    joinPath baseTarget.escapedPath slashRequest.url.escapedPath = utf8 "/base/a%2Fb" ∧
    (newDirector baseTarget slashRequest).url.escapedPath = utf8 "/base/a/b" := by
  decide +kernel

end Paths

section Headers
variable (h : Header)

/-- The names that the values of `Connection` list. -/
def connectionTokens : List String :=
  ((h.lookup "Connection").getD []).flatMap fun v =>
    ((v.toList.splitOn ',').map fun field => trimSpace (String.ofList field)).filter (· ≠ "")

theorem lookup_setHeader (name value k : String) :
    (setHeader h name value).lookup k = if k = canonicalKey name then some [value] else h.lookup k :=
  StringMap.lookup_insert ..

theorem lookup_delHeaders (names : List String) (k : String) :
    (names.foldl delHeader h).lookup k = if k ∈ names.map canonicalKey then none else h.lookup k := by
  induction names generalizing h with
  | nil => rfl
  | cons name names ih =>
    rw [List.foldl_cons,ih,delHeader,StringMap.lookup_erase,List.map_cons]
    simp only [List.mem_cons,or_comm (a:=k = canonicalKey name),ite_or]

/-- The headers are deleted while the values of one of them are read, but the values were
read off the map before. -/
theorem stripHopByHop_eq :
    stripHopByHop h = hopByHopHeaders.foldl delHeader ((connectionTokens h).foldl delHeader h) := by
  have hfields (h : Header) (v : String) :
      (v.toList.splitOn ',').foldl
        (fun h field => if trimSpace (String.ofList field) ≠ "" then
          delHeader h (trimSpace (String.ofList field)) else h) h =
      (((v.toList.splitOn ',').map fun field => trimSpace (String.ofList field)).filter (· ≠ "")).foldl
        delHeader h := by
    rw [List.foldl_filter,List.foldl_map]
    simp only [decide_eq_true_eq]
  unfold stripHopByHop connectionTokens
  simp only [List.foldl_flatMap,hfields]

theorem lookup_stripHopByHop (k : String) :
    (stripHopByHop h).lookup k =
      if k ∈ hopByHopHeaders.map canonicalKey ∨ k ∈ (connectionTokens h).map canonicalKey then none
      else h.lookup k := by
  rw [stripHopByHop_eq,lookup_delHeaders,lookup_delHeaders]
  simp only [ite_or]

/-- The header map behind the director: the names of the hop-by-hop headers and of the tokens
of `Connection` are gone, the two forwarding headers have one value each, whatever the
client sent or listed, and a missing `User-Agent` is an empty one unless it is listed. -/
theorem newDirector_header (target : Url) (req : ForwardRequest) (name : String) :
    (newDirector target req).header.lookup name =
      if name = "X-Forwarded-Host" then some [req.host]
      else if name = "X-Forwarded-Proto" then some [if req.tls then "https" else "http"]
      else if name ∈ hopByHopHeaders.map canonicalKey ∨
          name ∈ (connectionTokens req.header).map canonicalKey then none
      else if name = "User-Agent" ∧ req.header.lookup "User-Agent" = none then some [""]
      else req.header.lookup name := by
  have hagent : canonicalKey "User-Agent" = "User-Agent" := by decide
  have hproto : canonicalKey "X-Forwarded-Proto" = "X-Forwarded-Proto" := by decide
  have hhost : canonicalKey "X-Forwarded-Host" = "X-Forwarded-Host" := by decide
  have hadded (k : String) :
      (if req.header.lookup "User-Agent" = none then setHeader req.header "User-Agent" ""
        else req.header).lookup k =
      if k = "User-Agent" ∧ req.header.lookup "User-Agent" = none then some [""] else req.header.lookup k := by
    split_ifs <;> simp_all [lookup_setHeader]
  have htokens : connectionTokens (if req.header.lookup "User-Agent" = none then
      setHeader req.header "User-Agent" "" else req.header) = connectionTokens req.header := by
    unfold connectionTokens
    rw [hadded,if_neg (by simp)]
  unfold newDirector
  simp only [lookup_setHeader,hproto,hhost,lookup_stripHopByHop,htokens,hadded]

end Headers

end ProxyForward
end AntiScrapling
