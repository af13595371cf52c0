import AntiScrapling.DecidePaths

/-! The SDK adapters (`sdk/node/src/express.ts`, `sdk/python/anti_scrapling/asgi.py` and
`wsgi.py`), and what the rules see of a request's path in each way of deployment. -/
namespace AntiScrapling
namespace AdapterPaths

open ByteCodec UnicodeText UrlPath ProxyHandler DecideHandler

section Targets

/-- Bytes that RFC 3986 allows in a path, and those it allows in a query. -/
def isPathByte (b : UInt8) : Bool := isAlphanum b || (utf8 "-._~!$&'()*+,;=:@/%").contains b

def isQueryByte (b : UInt8) : Bool := isPathByte b || b == 63

/-- A path that the multiplexer of `net/http` does not redirect; it looks at the path as it is on
the line. -/
def Clean (p : Bytes) : Prop :=
  p.head? = some 47 ∧ ¬ utf8 "//" <:+: p ∧ ¬ utf8 "/./" <:+: p ∧ ¬ utf8 "/../" <:+: p ∧
    ¬ utf8 "/." <:+ p ∧ ¬ utf8 "/.." <:+ p

/-- The target of a request: its path as it is on the line, what it stands for, and its
query. -/
structure Target where
  path : Bytes
  query : Bytes
  decoded : Bytes
  path_bytes : ∀ b ∈ path, isPathByte b = true
  query_bytes : ∀ b ∈ query, isQueryByte b = true
  decodes : unescape path = some decoded
  clean : Clean path

/-- A request as it reaches the process that serves it; `host` is what the framework
takes for the host. -/
structure Incoming where
  method : String
  target : Target
  lines : List (String × String)
  host : String
  remoteAddr : String
  valid : validMethod method = true

end Targets

section Adapters

/-- White space as JavaScript's `\s` has it. -/
def isScriptSpace (c : Char) : Bool := (isSpace c && c.toNat ≠ 0x85) || c.toNat == 0xFEFF

/-- The first match of `(?:^|;\s*)__as_pass=([^;]*)`. -/
def matchToken (cookie : List Char) : List Char :=
  let parts := match cookie.splitOn ';' with
    | [] => []
    | first::rest => first::rest.map (List.dropWhile isScriptSpace)
  let name := "__as_pass=".toList
  ((parts.find? name.isPrefixOf).map (List.drop name.length)).getD []

/-- Node joins the cookie lines of a request. -/
def cookieHeader (lines : List (String × String)) : String :=
  "; ".intercalate ((lines.filter fun l => SameName l.1 "Cookie").map Prod.snd)

/-- The request that `antiScrapling` of the Express adapter sends: later lines win. -/
def express (r : Incoming) : DecisionRequest where
  method := r.method
  path := r.target.path
  host := r.host
  remoteIP := HostPort.hostOf r.remoteAddr
  headers := r.lines.foldl (fun h l => h.insert (lowerName l.1) l.2) .empty
  headerOrder := r.lines.map Prod.fst
  token := String.ofList (matchToken (cookieHeader r.lines).toList)

/-- One line of the loop in `_build_request`: the first line of a name wins. -/
def asgiLine (acc : StringMap String × List String) (line : String × String) :
    StringMap String × List String :=
  let name := lowerName line.1
  if acc.1.lookup name = none then (acc.1.insert name line.2,acc.2++[name]) else acc

variable (text : Bytes → Bytes)

/-- The request that the ASGI middleware sends.  The server has decoded the path, as text in
which `text` has replaced what is not UTF-8. -/
def asgi (r : Incoming) : DecisionRequest :=
  let (headers,headerOrder) := r.lines.foldl asgiLine (.empty,[])
  { method := r.method
    path := if r.target.query = [] then text r.target.decoded
      else text r.target.decoded++(63::r.target.query)
    host := (headers.lookup "host").getD ""
    remoteIP := HostPort.hostOf r.remoteAddr
    headers
    headerOrder }

def flaskPath (p : Bytes) : Bytes := 47::p.dropWhile (· = 47)

/-- `full_path` always has a question mark behind the path. -/
def fullPath (r : Incoming) : Bytes := flaskPath (text r.target.decoded)++(63::r.target.query)

def rstrip (b : UInt8) (p : Bytes) : Bytes := (p.reverse.dropWhile (· = b)).reverse

/-- The request that `flask_middleware` sends. -/
def flask (r : Incoming) : DecisionRequest where
  method := r.method
  path := rstrip 63 (fullPath text r)
  host := r.host
  remoteIP := HostPort.hostOf r.remoteAddr
  headers := r.lines.foldl (fun h l => h.insert (lowerName l.1) l.2) .empty
  headerOrder := r.lines.map fun l => lowerName l.1

inductive Adapter
  | express | asgi | flask
  deriving DecidableEq, Repr

def Adapter.request : Adapter → Incoming → DecisionRequest
  | .express => AdapterPaths.express
  | .asgi => AdapterPaths.asgi text
  | .flask => AdapterPaths.flask text

def proxied (r : Incoming) : WireRequest :=
  ⟨r.method,runes r.target.decoded,r.lines,r.remoteAddr⟩

end Adapters

section Agreement
variable (L : DecideHandler.Libraries) (text : Bytes → Bytes)

/-- Through every adapter, the rules and the cache key see the path that they see in the
proxy. -/
def PathsAgree (r : Incoming) : Prop :=
  ∀ a : Adapter, ∃ synthetic, syntheticRequest L (a.request text r) = .ok synthetic ∧
    (Pipeline.buildRequestInfo (requestContext (a.request text r) synthetic)).path =
      (Pipeline.buildRequestInfo (buildRequestContext (proxied r).received none)).path ∧
    Pipeline.pathOf (requestContext (a.request text r) synthetic) =
      Pipeline.pathOf (buildRequestContext (proxied r).received none)

theorem isPathByte_lt {b : UInt8} (h : isPathByte b = true) : b.toNat < 128 := by
  have hmarks : (utf8 "-._~!$&'()*+,;=:@/%").all (fun m => m.toNat < 128) = true := by decide
  rcases Bool.or_eq_true_iff.mp h with halphanum | hmark
  · have hranges := of_decide_eq_true halphanum
    omega
  · simpa using List.all_eq_true.mp hmarks b (List.contains_iff_mem.mp hmark)

theorem isQueryByte_lt {b : UInt8} (h : isQueryByte b = true) : b.toNat < 128 := by
  rcases Bool.or_eq_true_iff.mp h with hpath | hmark
  · exact isPathByte_lt hpath
  · rw [beq_iff_eq.mp hmark]
    decide

theorem Clean.second {rest : Bytes} (h : Clean (47::rest)) : rest.head? ≠ some 47 := by
  intro hhead
  obtain ⟨b,rest,rfl⟩ : ∃ b rest', rest = b::rest' := List.exists_cons_of_ne_nil (by rintro rfl; simp at hhead)
  obtain rfl : b = 47 := Option.some.inj hhead
  exact h.2.1 ⟨[],rest,rfl⟩

theorem Target.path_cons (t : Target) : ∃ rest, t.path = 47::rest ∧ rest.head? ≠ some 47 := by
  obtain ⟨rest,hrest⟩ := List.head?_eq_some_iff.mp t.clean.1
  exact ⟨rest,hrest,Clean.second (hrest ▸ t.clean)⟩

theorem seen_iff (req : DecisionRequest) {rest : Bytes} (hmethod : validMethod req.method = true)
    (hpath : req.path = 47::rest) (hrest : rest.head? ≠ some 47) (r : Incoming) :
    (∃ synthetic, syntheticRequest L req = .ok synthetic ∧
      (Pipeline.buildRequestInfo (requestContext req synthetic)).path =
        (Pipeline.buildRequestInfo (buildRequestContext (proxied r).received none)).path ∧
      Pipeline.pathOf (requestContext req synthetic) =
        Pipeline.pathOf (buildRequestContext (proxied r).received none)) ↔
    runes req.path = runes r.target.decoded := by
  obtain ⟨synthetic,hok,hseen⟩ := syntheticRequest_path L hmethod hpath hrest
  have hinfo (s : HttpRequest) :
      (Pipeline.buildRequestInfo (requestContext req s)).path = s.path.getD "" := rfl
  have hkey (s : HttpRequest) : Pipeline.pathOf (requestContext req s) = s.path.getD "" := rfl
  have hinfo' : (Pipeline.buildRequestInfo (buildRequestContext (proxied r).received none)).path =
      runes r.target.decoded := rfl
  have hkey' : Pipeline.pathOf (buildRequestContext (proxied r).received none) =
      runes r.target.decoded := rfl
  simp only [hok,Except.ok.injEq,hinfo,hkey,hinfo',hkey',and_self]
  constructor
  · rintro ⟨s,rfl,h⟩
    rwa [hseen] at h
  · intro h
    exact ⟨synthetic,rfl,by rw [hseen]; exact h⟩

theorem rstrip_append {b : UInt8} {p : Bytes} (h : b ∉ p) : rstrip b (p++[b]) = p := by
  unfold rstrip
  rw [List.reverse_append,List.reverse_singleton,List.singleton_append,List.dropWhile_cons_of_pos (by simp)]
  cases hp : p.reverse with
  | nil => simpa using hp.symm
  | cons c cs =>
    have hc : c ≠ b := by
      rintro rfl
      exact h (List.mem_reverse.mp (by rw [hp]; simp))
    rw [List.dropWhile_cons_of_neg (by simpa using hc),← hp,List.reverse_reverse]

theorem flaskPath_cons {rest : Bytes} (h : rest.head? ≠ some 47) : flaskPath (47::rest) = 47::rest := by
  unfold flaskPath
  rw [List.dropWhile_cons_of_pos (by simp)]
  cases rest with
  | nil => rfl
  | cons b rest =>
    have hb : b ≠ 47 := fun hb => h (by rw [hb]; rfl)
    rw [List.dropWhile_cons_of_neg (by simpa using hb)]

/-- The ways of deployment agree on the path exactly for requests whose path has no coded
byte and that have no query. -/
theorem pathsAgree_iff (htext : ∀ bs, (∀ b ∈ bs, b.toNat < 128) → text bs = bs) (r : Incoming) :
    PathsAgree L text r ↔ 37 ∉ r.target.path ∧ r.target.query = [] := by
  obtain ⟨rest,hpath,hrest⟩ := r.target.path_cons
  have hascii : ∀ b ∈ r.target.path, b.toNat < 128 :=
    fun b hb => isPathByte_lt (r.target.path_bytes b hb)
  have hplain (h : 37 ∉ r.target.path) : r.target.decoded = r.target.path :=
    Option.some.inj (r.target.decodes.symm.trans (unescape_plain h))
  have hexpress := seen_iff L (express r) r.valid hpath hrest r
  constructor
  · intro h
    have hpercent : 37 ∉ r.target.path := by
      intro hmem
      have hsame := congrArg (fun s => s.toList.length) (hexpress.mp (h .express))
      simp only [express,runes_length_ascii hascii] at hsame
      have hshort := (unescape_length r.target.decodes).2 hmem
      have hle := runes_length_le r.target.decoded
      omega
    refine ⟨hpercent,?_⟩
    by_contra hquery
    have hsent : (asgi text r).path = r.target.path++(63::r.target.query) := by
      show (if r.target.query = [] then _ else _) = _
      rw [if_neg hquery,hplain hpercent,htext _ hascii]
    have hsecond : (rest++(63::r.target.query)).head? ≠ some 47 := by
      cases rest with
      | nil => simp
      | cons b rest => exact hrest
    have hseen := (seen_iff L (asgi text r) r.valid (by rw [hsent,hpath]; rfl) hsecond r).mp
      (h .asgi)
    rw [hsent,hplain hpercent] at hseen
    have hsame := congrArg (fun s => s.toList.length) hseen
    have hall : ∀ b ∈ r.target.path++(63::r.target.query), b.toNat < 128 := by
      intro b hb
      rcases List.mem_append.mp hb with hb | hb
      · exact hascii b hb
      · rcases List.mem_cons.mp hb with rfl | hb
        · decide
        · exact isQueryByte_lt (r.target.query_bytes b hb)
    simp only [runes_length_ascii hall,runes_length_ascii hascii,List.length_append,
      List.length_cons] at hsame
    omega
  · rintro ⟨hpercent,hquery⟩ a
    have hmark : 63 ∉ r.target.path := fun hmem => absurd (r.target.path_bytes 63 hmem) (by decide)
    have hsent : (a.request text r).path = r.target.path := by
      cases a with
      | express => rfl
      | asgi =>
        show (if r.target.query = [] then _ else _) = _
        rw [if_pos hquery,hplain hpercent,htext _ hascii]
      | flask =>
        show rstrip 63 (flaskPath (text r.target.decoded)++(63::r.target.query)) = _
        rw [hquery,hplain hpercent,htext _ hascii,hpath,flaskPath_cons hrest,← hpath,
          rstrip_append hmark]
    have hmethod : validMethod (a.request text r).method = true := by cases a <;> exact r.valid
    apply (seen_iff L _ hmethod (hsent.trans hpath) hrest r).mpr
    rw [hsent,hplain hpercent]

section Sample

def sampleTarget : Target where
  path := utf8 "/api/users"
  query := []
  decoded := utf8 "/api/users"
  path_bytes := by decide +kernel
  query_bytes := by decide +kernel
  decodes := by decide
  clean := by unfold Clean; decide

def codedTarget : Target where
  path := utf8 "/caf%C3%A9"
  query := utf8 "page=2"
  decoded := utf8 "/café"
  path_bytes := by decide +kernel
  query_bytes := by decide +kernel
  decodes := by decide
  clean := by unfold Clean; decide

def sampleIncoming (t : Target) : Incoming where
  method := "GET"
  target := t
  lines := [("Host","example.com")]
  host := "example.com"
  remoteAddr := "192.0.2.1:40000"
  valid := by decide

def sampleLibraries : DecideHandler.Libraries where
  decode _ := .error "EOF"
  quote s := s
  url := ⟨fun _ => none,fun _ => ""⟩

theorem pathsAgree_sample : PathsAgree sampleLibraries id (sampleIncoming sampleTarget) := by
  rw [pathsAgree_iff sampleLibraries id fun _ _ => rfl]
  decide

/-- One request, four paths. -/
theorem paths_differ :
    ¬ PathsAgree sampleLibraries id (sampleIncoming codedTarget) ∧
    Pipeline.pathOf (buildRequestContext (proxied (sampleIncoming codedTarget)).received none) =
      "/café" ∧
    (express (sampleIncoming codedTarget)).path = utf8 "/caf%C3%A9" ∧
    (asgi id (sampleIncoming codedTarget)).path = utf8 "/café?page=2" ∧
    (flask id (sampleIncoming codedTarget)).path = utf8 "/café?page=2" := by
  refine ⟨fun h => ?_,by decide +kernel,rfl,by decide +kernel,by decide +kernel⟩
  obtain ⟨rest,hpath,hrest⟩ := codedTarget.path_cons
  have hseen := (seen_iff sampleLibraries (express (sampleIncoming codedTarget))
    (sampleIncoming codedTarget).valid hpath hrest (sampleIncoming codedTarget)).mp (h .express)
  exact absurd hseen (by decide +kernel)

end Sample

end Agreement

end AdapterPaths
end AntiScrapling
