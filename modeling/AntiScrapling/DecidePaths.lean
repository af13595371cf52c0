import AntiScrapling.DecideHandler

/-! The way of a path through the decision API (`internal/api/decide.go`): it is printed
as a URL and parsed again, and what comes out is what the collectors, the cache key and
the rules read. -/
namespace AntiScrapling
namespace DecideHandler

open ByteCodec UnicodeText ProxyHandler

variable (L : Libraries)

def methodOf (req : DecisionRequest) : String := if req.method = "" then "GET" else req.method

def urlPath (req : DecisionRequest) : Except String Bytes :=
  if !validMethod (methodOf req) then .error ("net/http: invalid method " ++ L.quote (methodOf req))
  else UrlPath.parsePath L.url (UrlPath.urlString (if req.path = [] then utf8 "/" else req.path))

theorem syntheticRequest_eq (req : DecisionRequest) :
    syntheticRequest L req = (urlPath L req).map fun path =>
      { method := methodOf req, host := req.host, path := some (runes path),
        header := setHeaders req.headers, remoteAddr := "" } := by
  unfold syntheticRequest urlPath methodOf
  simp only
  split_ifs <;> rfl

/-- The path that was sent is the path of the URL, and with it what the collectors, the
cache key and the rules read. -/
structure PathKept (req : DecisionRequest) : Prop where
  parsed : urlPath L req = .ok req.path
  read : ∃ r, syntheticRequest L req = .ok r ∧ r.path = some (runes req.path) ∧
    Pipeline.pathOf (requestContext req r) = runes req.path ∧
    (Pipeline.buildRequestInfo (requestContext req r)).path = runes req.path

theorem pathKept_of_urlPath {req : DecisionRequest} (h : urlPath L req = .ok req.path) :
    PathKept L req := by
  have hr := syntheticRequest_eq L req
  rw [h] at hr
  exact ⟨h,_,hr,rfl,rfl,rfl⟩

theorem urlPath_root {req : DecisionRequest} {rest : Bytes} (hpath : req.path = 47::rest)
    (hmethod : validMethod (methodOf req) = true) :
    urlPath L req = UrlPath.parsePath L.url (UrlPath.urlString (47::rest)) := by
  unfold urlPath
  rw [hmethod,hpath,if_neg (List.cons_ne_nil 47 rest)]
  rfl

theorem authority_path_ne {errors : UrlPath.ParseErrors} {rest : Bytes}
    (htwo : utf8 "//" <+: 47::rest) (hthree : ¬ utf8 "///" <+: 47::rest) :
    UrlPath.parsePath errors (UrlPath.urlString (47::rest)) ≠ .ok (47::rest) := by
  rw [UrlPath.parsePath_root,if_pos ⟨htwo,hthree⟩]
  cases errors.authority (UrlPath.firstSegment (UrlPath.escape rest.tail)) with
  | some e => exact nofun
  | none =>
    intro h
    have hlen := congrArg List.length (Except.ok.inj h)
    have hle := (rest.tail.dropWhile_sublist (· ≠ 47)).length_le
    simp only [List.length_cons,List.length_tail] at hlen hle
    omega

/-- A path from the root is kept exactly if the method is a token and the path does not
start with two slashes and no third. -/
theorem pathKept_iff {req : DecisionRequest} (hroot : req.path.head? = some 47) :
    PathKept L req ↔ validMethod (methodOf req) = true ∧
      ¬ (utf8 "//" <+: req.path ∧ ¬ utf8 "///" <+: req.path) := by
  obtain ⟨rest,hpath⟩ := List.head?_eq_some_iff.mp hroot
  constructor
  · intro h
    have hparsed := h.parsed
    have hmethod : validMethod (methodOf req) = true := by
      by_contra hinvalid
      rw [urlPath,if_pos (by simp [hinvalid])] at hparsed
      cases hparsed
    refine ⟨hmethod,fun hslashes => ?_⟩
    rw [urlPath_root L hpath hmethod,hpath] at hparsed
    rw [hpath] at hslashes
    exact authority_path_ne hslashes.1 hslashes.2 hparsed
  · rintro ⟨hmethod,hslashes⟩
    apply pathKept_of_urlPath
    rw [urlPath_root L hpath hmethod,hpath,UrlPath.parsePath_root,if_neg (hpath ▸ hslashes)]

/-- A library that finds no fault with any authority. -/
def openLibraries : Libraries := ⟨fun _ => .error "",id,⟨fun _ => none,fun _ => ""⟩⟩

def pathRequest (path : String) : DecisionRequest where
  method := "GET"
  path := utf8 path
  host := "shop.example"
  remoteIP := "203.0.113.9"
  headers := .empty

theorem pathKept_admin : PathKept openLibraries (pathRequest "/admin/") :=
  (pathKept_iff openLibraries (by decide)).mpr (by decide)

/-- The rules see `/admin` where the client asked for `//x/admin`. -/
theorem path_read_as_authority :
    (pathRequest "//x/admin").remoteIP ≠ "" ∧ (pathRequest "//x/admin").path = utf8 "//x/admin" ∧
    urlPath openLibraries (pathRequest "//x/admin") = .ok (utf8 "/admin") ∧
    ¬ PathKept openLibraries (pathRequest "//x/admin") := by
  have hread : urlPath openLibraries (pathRequest "//x/admin") = .ok (utf8 "/admin") := by decide +kernel
  refine ⟨by decide,rfl,hread,fun h => ?_⟩
  have hparsed := h.parsed
  rw [hread] at hparsed
  exact absurd (Except.ok.inj hparsed) (by decide)

/-- A path from the root with no second slash reaches the collectors, the rules and the
cache key as it was sent. -/
theorem syntheticRequest_path {req : DecisionRequest} {rest : Bytes}
    (hmethod : validMethod req.method = true) (hpath : req.path = 47::rest)
    (hrest : rest.head? ≠ some 47) :
    ∃ r, syntheticRequest L req = .ok r ∧ r.path = some (runes req.path) := by
  have hgiven : methodOf req = req.method := by
    refine if_neg fun h => ?_
    rw [h] at hmethod
    exact absurd hmethod (by decide)
  have hkept : PathKept L req := by
    apply pathKept_of_urlPath
    rw [urlPath_root L hpath (hgiven ▸ hmethod),hpath]
    exact UrlPath.parsePath_urlString L.url hrest
  obtain ⟨r,hr,hread,-⟩ := hkept.read
  exact ⟨r,hr,hread⟩

end DecideHandler
end AntiScrapling
