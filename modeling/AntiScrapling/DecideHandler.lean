import AntiScrapling.ProxyHandler
import AntiScrapling.UrlPath
import Mathlib

/-! The decision API for the SDK adapters (`internal/api/decide.go`), and its view of the
pass token against the one of the proxy. -/
namespace AntiScrapling
namespace DecideHandler

open ByteCodec UnicodeText ProxyHandler

section Handler

/-- The body of a call.  The path is kept as bytes, as it is escaped byte by byte. -/
structure DecisionRequest where
  method : String
  path : Bytes
  host : String
  remoteIP : String
  headers : StringMap String
  headerOrder : List String := []
  ja3 : String := ""
  ja4 : String := ""
  token : String := ""

structure ApiRequest where
  method : String
  body : Option Bytes

inductive Response
  | error (text : String) (status : ℕ)
  | decision (d : Decision)

/-- What the handler uses of the standard library: JSON decoding, the quoting of an
invalid method and the complaints about a URL. -/
structure Libraries where
  decode : Bytes → Except String DecisionRequest
  quote : String → String
  url : UrlPath.ParseErrors

structure Handler where
  pipeline : Pipeline
  verifier : Option Token.Verifier

def validMethod (method : String) : Bool := method ≠ "" && method.toList.all isTokenChar

/-- `http.Header.Set` for every entry of the map. -/
def setHeaders (headers : StringMap String) : Header :=
  headers.entries.foldl (fun h e => h.insert (canonicalKey e.1) [e.2]) .empty

def syntheticRequest (L : Libraries) (req : DecisionRequest) : Except String HttpRequest := do
  let method := if req.method = "" then "GET" else req.method
  let rawPath := if req.path = [] then utf8 "/" else req.path
  if !validMethod method then .error ("net/http: invalid method " ++ L.quote method)
  else
    let path ← UrlPath.parsePath L.url (UrlPath.urlString rawPath)
    .ok { method
          host := req.host
          path := some (runes path)
          header := setHeaders req.headers
          remoteAddr := "" }

def requestContext (req : DecisionRequest) (r : HttpRequest) : RequestContext where
  request := some r
  remoteIP := req.remoteIP
  ja3 := req.ja3
  ja4 := req.ja4
  headers := r.header
  headerOrder := req.headerOrder

/-- The user agent is looked up in the map as it was sent. -/
def verifyContext (req : DecisionRequest) : Token.VerifyContext where
  ip := req.remoteIP
  ua := (req.headers.lookup "User-Agent").getD ""
  ja3 := req.ja3
  ja4 := req.ja4

def hasValidToken (J : Token.Jwt) (verifier : Option Token.Verifier) (now : Token.Time)
    (req : DecisionRequest) : Bool :=
  match verifier with
  | none => false
  | some v =>
    if req.token ≠ "" then
      match v.verify J now req.token (verifyContext req) with
      | .ok _ => true
      | .error _ => false
    else false

/-- What the clock and the source of identifiers give to one call. -/
structure Moment where
  verified : Token.Time
  times : Pipeline.Times
  answered : ℤ
  requestID : String

def complete (m : Moment) (d : Decision) : Decision :=
  let d := if d.requestID = "" then {d with requestID := m.requestID} else d
  if d.timestamp = 0 then {d with timestamp := m.answered} else d

theorem complete_kept (m : Moment) (d : Decision) :
    (complete m d).verdict = d.verdict ∧ (complete m d).reasons = d.reasons := by
  by_cases hid : d.requestID = "" <;> by_cases ht : d.timestamp = 0 <;> simp [complete,hid,ht]

variable {σ : Type} (L : Libraries) (J : Token.Jwt) (sha256 : Bytes → Bytes)
  (libraries : Policy.Libraries) (cache : KeyedStore σ String Json Instant)

/-- `ServeHTTP`, with the state of the decision cache. -/
def serveHTTP (h : Handler) (s : σ) (r : ApiRequest) (m : Moment) : σ × Response :=
  if r.method ≠ "POST" then (s,.error "method not allowed" 405)
  else
    match r.body with
    | none => (s,.error "bad request: empty body" 400)
    | some body =>
      match L.decode body with
      | .error e => (s,.error ("bad request: " ++ e) 400)
      | .ok req =>
        if req.remoteIP = "" then (s,.error "bad request: remote_ip required" 400)
        else
          match syntheticRequest L req with
          | .error e => (s,.error ("internal error: " ++ e) 500)
          | .ok synthetic =>
            let (s,d) := h.pipeline.decide sha256 libraries cache s
              ⟨requestContext req synthetic,hasValidToken J h.verifier m.verified req,m.times⟩
            (s,.decision (complete m d))

theorem serveHTTP_error {h : Handler} {s s' : σ} {r : ApiRequest} {m : Moment} {text : String}
    {status : ℕ} (hr : serveHTTP L J sha256 libraries cache h s r m = (s',.error text status)) :
    s' = s := by
  unfold serveHTTP at hr
  split_ifs at hr
  · exact (Prod.mk.inj hr).1.symm
  · split at hr
    · exact (Prod.mk.inj hr).1.symm
    · split at hr
      · exact (Prod.mk.inj hr).1.symm
      · split_ifs at hr
        · exact (Prod.mk.inj hr).1.symm
        · split at hr
          · exact (Prod.mk.inj hr).1.symm
          · cases (Prod.mk.inj hr).2

end Handler

section Names

/-- Names that differ in the case of their letters only. -/
def SameName (a b : String) : Prop := a.toList.map Char.toLower = b.toList.map Char.toLower

instance (a b : String) : Decidable (SameName a b) :=
  inferInstanceAs (Decidable (a.toList.map Char.toLower = b.toList.map Char.toLower))

theorem isTokenChar_toLower (c : Char) : isTokenChar c.toLower = isTokenChar c := by
  by_cases h : c.isUpper
  · have hlower : c.toLower.isAlpha = c.isAlpha := Char.isAlpha_toLower_eq_isAlpha c
    have halpha : c.isAlpha = true := by simp [Char.isAlpha,h]
    simp [isTokenChar,Char.isAlphanum,hlower,halpha]
  · rw [Char.toLower_eq_of_not_isUpper h]

theorem toLower_eq_hyphen {c : Char} : c.toLower = '-' ↔ c = '-' := by
  by_cases h : c.isUpper
  · have halpha : c.isAlpha = true := by simp [Char.isAlpha,h]
    constructor
    · intro hc
      have hlower := Char.isAlpha_toLower_eq_isAlpha c
      rw [hc,halpha] at hlower
      exact absurd hlower (by decide)
    · rintro rfl
      exact absurd h (by decide)
  · rw [Char.toLower_eq_of_not_isUpper h]

theorem canonicalChars_toLower (upper : Bool) (cs : List Char) :
    canonicalChars upper (cs.map Char.toLower) = canonicalChars upper cs := by
  induction cs generalizing upper with
  | nil => rfl
  | cons c cs ih =>
    have hhyphen : (c.toLower == '-') = (c == '-') := by
      rw [Bool.eq_iff_iff,beq_iff_eq,beq_iff_eq,toLower_eq_hyphen]
    rw [List.map_cons]
    unfold canonicalChars
    rw [ih,hhyphen,Char.toUpper_toLower_eq_toUpper,Char.toLower_toLower_eq_toLower]

theorem toLower_canonicalChars (upper : Bool) (cs : List Char) :
    (canonicalChars upper cs).map Char.toLower = cs.map Char.toLower := by
  induction cs generalizing upper with
  | nil => rfl
  | cons c cs ih =>
    unfold canonicalChars
    rw [List.map_cons,List.map_cons,ih]
    cases upper
    · simp
    · simp

theorem canonicalKey_sameName {a b : String} (h : SameName a b) (hb : b.toList.all isTokenChar = true) :
    canonicalKey a = canonicalKey b := by
  have hall (s : String) : s.toList.all isTokenChar = (s.toList.map Char.toLower).all isTokenChar := by
    rw [List.all_map]
    exact congrArg (s.toList.all ·) (funext fun c => (isTokenChar_toLower c).symm)
  have ha : a.toList.all isTokenChar = true := by rw [hall,h,← hall,hb]
  unfold canonicalKey
  rw [if_pos ha,if_pos hb,← canonicalChars_toLower,h,canonicalChars_toLower]

theorem sameName_canonicalKey (a : String) : SameName a (canonicalKey a) := by
  unfold canonicalKey SameName
  split_ifs
  · rw [String.toList_ofList,toLower_canonicalChars]
  · rfl

theorem canonicalKey_userAgent {a : String} : canonicalKey a = "User-Agent" ↔ SameName a "User-Agent" := by
  constructor
  · intro h
    rw [← h]
    exact sameName_canonicalKey a
  · intro h
    rw [canonicalKey_sameName h (by decide)]
    decide

end Names

section Agents

def Recased : List (String × String) → List (String × String) → Prop :=
  List.Forall₂ fun e e' => SameName e.1 e'.1 ∧ e.2 = e'.2

def DistinctNames (entries : List (String × String)) : Prop :=
  (entries.map fun e => e.1.toList.map Char.toLower).Nodup

/-- The value of the user agent line, in whatever case its name is. -/
def agentOf (entries : List (String × String)) : Option String :=
  (entries.find? fun e => SameName e.1 "User-Agent").map Prod.snd

theorem Recased.agentOf_eq {es es' : List (String × String)} (h : Recased es es') :
    agentOf es = agentOf es' := by
  induction h with
  | nil => rfl
  | @cons e e' es es' he _ ih =>
    have hname : SameName e.1 "User-Agent" ↔ SameName e'.1 "User-Agent" := by
      unfold SameName
      rw [he.1]
    unfold agentOf at *
    by_cases hua : SameName e.1 "User-Agent"
    · rw [List.find?_cons_of_pos (by simpa using hua),
        List.find?_cons_of_pos (by simpa using hname.mp hua),Option.map_some,Option.map_some,he.2]
    · rw [List.find?_cons_of_neg (by simpa using hua),
        List.find?_cons_of_neg (by simpa using mt hname.mpr hua),ih]

theorem Recased.distinct {es es' : List (String × String)} (h : Recased es es')
    (hd : DistinctNames es) : DistinctNames es' := by
  have hmap : (es.map fun e => e.1.toList.map Char.toLower) =
      es'.map fun e => e.1.toList.map Char.toLower := by
    induction h with
    | nil => rfl
    | cons he _ ih => rw [List.map_cons,List.map_cons,he.1,ih (List.nodup_cons.mp hd).2]
  unfold DistinctNames
  rwa [← hmap]

theorem agentOf_eq_none {es : List (String × String)} :
    agentOf es = none ↔ ∀ e ∈ es, ¬ SameName e.1 "User-Agent" := by
  simp [agentOf]

theorem lookup_cases {es : List (String × String)} (hd : DistinctNames es) :
    es.lookup "User-Agent" = none ∨ es.lookup "User-Agent" = agentOf es := by
  induction es with
  | nil => exact .inl rfl
  | cons e es ih =>
    obtain ⟨name,value⟩ := e
    have hd' : DistinctNames es := (List.nodup_cons.mp hd).2
    rw [List.lookup_cons]
    by_cases hname : "User-Agent" = name
    · subst hname
      right
      simp [agentOf,SameName]
    · have hbeq : ("User-Agent" == name) = false := by simpa using hname
      simp only [hbeq]
      by_cases hua : SameName name "User-Agent"
      · left
        -- another line under the exact name would be a second one up to case
        rw [List.lookup_eq_none_iff]
        intro p hp
        have hmem : p.1.toList.map Char.toLower ∈ es.map fun e => e.1.toList.map Char.toLower :=
          List.mem_map_of_mem hp
        have hne : "User-Agent" ≠ p.1 := by
          intro heq
          apply (List.nodup_cons.mp hd).1
          show name.toList.map Char.toLower ∈ _
          rw [hua,heq]
          exact hmem
        simpa using hne
      · have hskip : agentOf ((name,value)::es) = agentOf es := by
          unfold agentOf
          rw [List.find?_cons_of_neg (by simpa using hua)]
        rw [hskip]
        exact ih hd'

def recase (f : String → String) (hf : ∀ name, SameName name (f name)) (headers : StringMap String)
    (hd : DistinctNames headers.entries) : StringMap String where
  entries := headers.entries.map fun e => (f e.1,e.2)
  distinct := by
    have hlower : ((headers.entries.map fun e => (f e.1,e.2)).map Prod.fst).map
        (fun name => name.toList.map Char.toLower) =
        headers.entries.map fun e => e.1.toList.map Char.toLower := by
      rw [List.map_map,List.map_map]
      exact List.map_congr_left fun e _ => (hf e.1).symm
    apply List.Nodup.of_map (fun name : String => name.toList.map Char.toLower)
    rw [hlower]
    exact hd

theorem recase_recased (f : String → String) (hf : ∀ name, SameName name (f name))
    (headers : StringMap String) (hd : DistinctNames headers.entries) :
    Recased headers.entries (recase f hf headers hd).entries := by
  unfold recase Recased
  rw [List.forall₂_map_right_iff]
  exact List.forall₂_same.mpr fun e _ => ⟨hf e.1,rfl⟩

def lowerName (name : String) : String := String.ofList (name.toList.map Char.toLower)

theorem sameName_lowerName (name : String) : SameName name (lowerName name) := by
  unfold SameName lowerName
  rw [String.toList_ofList,List.map_map]
  exact List.map_congr_left fun c _ => (Char.toLower_toLower_eq_toLower c).symm

theorem lookup_lower (headers : StringMap String) (hd : DistinctNames headers.entries) :
    (recase lowerName sameName_lowerName headers hd).lookup "User-Agent" = none := by
  unfold StringMap.lookup recase
  rw [List.lookup_eq_none_iff]
  intro p hp
  obtain ⟨e,-,rfl⟩ := List.mem_map.mp hp
  have hne : "User-Agent" ≠ lowerName e.1 := by
    intro heq
    have hU : 'U' ∈ (lowerName e.1).toList := by rw [← heq]; decide
    rw [lowerName,String.toList_ofList] at hU
    obtain ⟨c,-,hc⟩ := List.mem_map.mp hU
    have hupper := Char.isUpper_toLower_eq_false c
    rw [hc] at hupper
    exact absurd hupper (by decide)
  simpa using hne

theorem lookup_canonical (headers : StringMap String) (hd : DistinctNames headers.entries) :
    (recase canonicalKey sameName_canonicalKey headers hd).lookup "User-Agent" =
      agentOf headers.entries := by
  have hrecased := recase_recased canonicalKey sameName_canonicalKey headers hd
  rw [hrecased.agentOf_eq]
  rcases lookup_cases (hrecased.distinct hd) with hnone | hfound
  · have hnone' : (recase canonicalKey sameName_canonicalKey headers hd).lookup "User-Agent" = none := hnone
    rw [hnone',eq_comm,agentOf_eq_none]
    intro e he hua
    obtain ⟨e₀,-,rfl⟩ := List.mem_map.mp he
    have hkey : canonicalKey e₀.1 = "User-Agent" := by
      rw [canonicalKey_userAgent]
      exact (sameName_canonicalKey e₀.1).trans hua
    have := List.lookup_eq_none_iff.mp hnone _ he
    simp [hkey] at this
  · exact hfound

theorem lookup_addLines (lines : List (String × String)) (h : Header) :
    ((lines.foldl addLine h).lookup "User-Agent").getD [] =
      (h.lookup "User-Agent").getD []++
        (lines.filter fun e => SameName e.1 "User-Agent").map Prod.snd := by
  induction lines generalizing h with
  | nil => simp
  | cons e lines ih =>
    rw [List.foldl_cons,ih]
    unfold addLine
    rw [StringMap.lookup_insert]
    by_cases hua : SameName e.1 "User-Agent"
    · have hkey := canonicalKey_userAgent.mpr hua
      rw [if_pos hkey.symm,hkey,List.filter_cons_of_pos (by simpa using hua)]
      simp
    · have hkey : ¬ "User-Agent" = canonicalKey e.1 := fun heq => hua (canonicalKey_userAgent.mp heq.symm)
      rw [if_neg hkey,List.filter_cons_of_neg (by simpa using hua)]

theorem userAgent_received (w : WireRequest) :
    Header.get w.received.header "User-Agent" = (agentOf w.lines).getD "" := by
  have hlookup : w.received.header.lookup "User-Agent" =
      (w.lines.foldl addLine .empty).lookup "User-Agent" := by
    show (StringMap.erase _ "Host").lookup "User-Agent" = _
    rw [StringMap.lookup,StringMap.erase,StringMap.lookup_filter_ne (by decide)]
    show (fixPragmaCacheControl _).lookup "User-Agent" = _
    unfold fixPragmaCacheControl
    split_ifs
    · rw [StringMap.lookup_insert,if_neg (by decide)]
    · rfl
  have hvalues := lookup_addLines w.lines .empty
  unfold Header.get agentOf
  rw [hlookup]
  generalize (w.lines.foldl addLine .empty).lookup "User-Agent" = found at hvalues
  have hhead : found.bind List.head? = (found.getD []).head? := by cases found <;> rfl
  rw [hhead,hvalues]
  simp [StringMap.lookup,StringMap.empty,List.head?_filter]

end Agents

section Agreement
variable (J : Token.Jwt) (v : Token.Verifier) (now : Token.Time)

def Accepted (token : String) (ctx : Token.VerifyContext) : Prop :=
  token ≠ "" ∧ ∃ claims, v.verify J now token ctx = .ok claims

theorem hasValidToken_iff (req : DecisionRequest) :
    hasValidToken J (some v) now req = true ↔ Accepted J v now req.token (verifyContext req) := by
  unfold hasValidToken Accepted
  by_cases h : req.token = ""
  · simp [h]
  · cases hv : v.verify J now req.token (verifyContext req) <;> simp [h,hv]

theorem proxy_hasValidToken_iff (w : WireRequest) (capture : Option Bytes) :
    ProxyHandler.hasValidToken J v now w.received capture = true ↔
      Accepted J v now (getCookie w.received defaultCookieName)
        ⟨HostPort.hostOf w.remoteAddr,(agentOf w.lines).getD "","",""⟩ := by
  rw [← userAgent_received]
  unfold ProxyHandler.hasValidToken Accepted
  generalize getCookie w.received defaultCookieName = cookie
  by_cases h : cookie = ""
  · simp [h]
  · simp only [ne_eq,h,not_false_eq_true,if_true,true_and]
    show (match v.verify J now cookie ⟨HostPort.hostOf w.remoteAddr,_,"",""⟩ with
      | .ok _ => true
      | .error _ => false) = true ↔ _
    cases v.verify J now cookie ⟨HostPort.hostOf w.remoteAddr,_,"",""⟩ <;> simp

/-- The API and the proxy agree on the token of a request: in whatever case the header
names are sent, the answer is the same, and it is the answer for the live request. -/
structure TokenAgrees (req : DecisionRequest) : Prop where
  recased : ∀ headers, Recased req.headers.entries headers.entries →
    hasValidToken J (some v) now {req with headers} = hasValidToken J (some v) now req
  proxy : req.ja3 = "" → req.ja4 = "" → ∀ (w : WireRequest) capture,
    Recased req.headers.entries w.lines → HostPort.hostOf w.remoteAddr = req.remoteIP →
    getCookie w.received defaultCookieName = req.token →
    hasValidToken J (some v) now req = ProxyHandler.hasValidToken J v now w.received capture

/-- The verdict on the token hangs on the user agent: everything else about it is in
order, and it is bound to this user agent or to an empty one. -/
def UserAgentDecides (req : DecisionRequest) : Prop :=
  ∃ claims agent, agentOf req.headers.entries = some agent ∧ agent ≠ "" ∧ req.token ≠ "" ∧
    J.parseWithClaims v.key now req.token = .ok ⟨claims,true⟩ ∧ "ua" ∈ v.bindTo ∧
    (∀ f : Token.Field, f ≠ .ua → f.name ∈ v.bindTo → claims.get f = (verifyContext req).get f) ∧
    (claims.ua = "" ∨ equalFold claims.ua agent = true)

theorem equalFold_empty_right {s : String} : equalFold s "" = true ↔ s = "" := by
  simp [equalFold]

theorem equalFold_empty_left {s : String} : equalFold "" s = true ↔ s = "" := by
  have hcomm : equalFold "" s = equalFold s "" := by
    unfold equalFold
    rw [Bool.eq_iff_iff,beq_iff_eq,beq_iff_eq]
    exact eq_comm
  rw [hcomm,equalFold_empty_right]

theorem accepted_iff {token : String} {ctx : Token.VerifyContext} :
    Accepted J v now token ctx ↔ token ≠ "" ∧ ∃ claims,
      J.parseWithClaims v.key now token = .ok ⟨claims,true⟩ ∧
      (∀ f : Token.Field, f ≠ .ua → f.name ∈ v.bindTo → claims.get f = ctx.get f) ∧
      ("ua" ∈ v.bindTo → equalFold claims.ua ctx.ua = true) := by
  unfold Accepted
  simp only [Token.verify_eq_ok,Token.boundFields_eq_ok]
  constructor
  · rintro ⟨htoken,claims,hparse,hbound⟩
    exact ⟨htoken,claims,hparse,(Token.forall_agrees claims.get ctx v.bindTo).mp hbound⟩
  · rintro ⟨htoken,claims,hparse,hbound⟩
    exact ⟨htoken,claims,hparse,(Token.forall_agrees claims.get ctx v.bindTo).mpr hbound⟩

theorem accepted_ua_iff {token ua : String} {ctx : Token.VerifyContext} :
    Accepted J v now token {ctx with ua} ↔ token ≠ "" ∧ ∃ claims,
      J.parseWithClaims v.key now token = .ok ⟨claims,true⟩ ∧
      (∀ f : Token.Field, f ≠ .ua → f.name ∈ v.bindTo → claims.get f = ctx.get f) ∧
      ("ua" ∈ v.bindTo → equalFold claims.ua ua = true) := by
  have hget (f : Token.Field) (hf : f ≠ .ua) : ({ctx with ua} : Token.VerifyContext).get f = ctx.get f := by
    cases f with
    | ua => exact absurd rfl hf
    | _ => rfl
  have hrest (claims : Token.TokenClaims) :
      (∀ f : Token.Field, f ≠ .ua → f.name ∈ v.bindTo →
        claims.get f = ({ctx with ua} : Token.VerifyContext).get f) ↔
      ∀ f : Token.Field, f ≠ .ua → f.name ∈ v.bindTo → claims.get f = ctx.get f :=
    forall_congr' fun f => forall_congr' fun hf => by rw [hget f hf]
  rw [accepted_iff]
  simp only [hrest]

/-- Reading no user agent instead of the real one makes a difference exactly where the
user agent decides. -/
theorem accepted_without_agent_iff (req : DecisionRequest) :
    (Accepted J v now req.token {verifyContext req with ua := (agentOf req.headers.entries).getD ""} ↔
      Accepted J v now req.token {verifyContext req with ua := ""}) ↔
    ¬ UserAgentDecides J v now req := by
  rw [accepted_ua_iff,accepted_ua_iff]
  constructor
  · rintro hiff ⟨claims,agent,hagent,hne,htoken,hparse,hua,hrest,hcase⟩
    have same {claims' : Token.TokenClaims}
        (hparse' : J.parseWithClaims v.key now req.token = .ok ⟨claims',true⟩) : claims' = claims := by
      rw [hparse] at hparse'
      exact (congrArg Token.ParsedToken.claims (Except.ok.inj hparse')).symm
    rw [hagent,Option.getD_some] at hiff
    rcases hcase with hempty | hfold
    · obtain ⟨-,claims',hparse',-,hua'⟩ := hiff.mpr
        ⟨htoken,claims,hparse,hrest,fun _ => equalFold_empty_right.mpr hempty⟩
      have hagree := hua' hua
      rw [same hparse',hempty] at hagree
      exact hne (equalFold_empty_left.mp hagree)
    · obtain ⟨-,claims',hparse',-,hua'⟩ := hiff.mp ⟨htoken,claims,hparse,hrest,fun _ => hfold⟩
      have hempty := equalFold_empty_right.mp (hua' hua)
      rw [same hparse'] at hempty
      rw [hempty] at hfold
      exact hne (equalFold_empty_left.mp hfold)
  · intro hno
    cases hagent : agentOf req.headers.entries with
    | none => rfl
    | some agent =>
      rw [Option.getD_some]
      by_cases hne : agent = ""
      · rw [hne]
      · constructor
        · rintro ⟨htoken,claims,hparse,hrest,hua⟩
          refine ⟨htoken,claims,hparse,hrest,fun hmem => absurd ?_ hno⟩
          exact ⟨claims,agent,hagent,hne,htoken,hparse,hmem,hrest,.inr (hua hmem)⟩
        · rintro ⟨htoken,claims,hparse,hrest,hua⟩
          refine ⟨htoken,claims,hparse,hrest,fun hmem => absurd ?_ hno⟩
          exact ⟨claims,agent,hagent,hne,htoken,hparse,hmem,hrest,
            .inl (equalFold_empty_right.mp (hua hmem))⟩

/-- The API and the proxy agree on a token exactly where the user agent does not decide. -/
theorem tokenAgrees_iff (req : DecisionRequest) (hd : DistinctNames req.headers.entries) :
    TokenAgrees J v now req ↔ ¬ UserAgentDecides J v now req := by
  rw [← accepted_without_agent_iff]
  -- with the headers in some case, the API reads the real user agent or none
  have hread (headers : StringMap String) (h : Recased req.headers.entries headers.entries) :
      (headers.lookup "User-Agent").getD "" = "" ∨
      (headers.lookup "User-Agent").getD "" = (agentOf req.headers.entries).getD "" := by
    rcases lookup_cases (h.distinct hd) with hnone | hfound
    · exact .inl (by rw [StringMap.lookup,hnone]; rfl)
    · exact .inr (by rw [StringMap.lookup,hfound,h.agentOf_eq])
  have hanswer (headers : StringMap String) :
      hasValidToken J (some v) now {req with headers} = true ↔
        Accepted J v now req.token
          {verifyContext req with ua := (headers.lookup "User-Agent").getD ""} :=
    hasValidToken_iff J v now {req with headers}
  constructor
  · intro h
    have hlower := h.recased _ (recase_recased lowerName sameName_lowerName req.headers hd)
    have hcanonical := h.recased _ (recase_recased canonicalKey sameName_canonicalKey req.headers hd)
    have hsame := hcanonical.trans hlower.symm
    rw [Bool.eq_iff_iff,hanswer,hanswer,lookup_canonical,lookup_lower] at hsame
    exact hsame
  · intro hiff
    have hvalue (headers : StringMap String) (h : Recased req.headers.entries headers.entries) :
        hasValidToken J (some v) now {req with headers} = true ↔
          Accepted J v now req.token {verifyContext req with ua := ""} := by
      rw [hanswer]
      rcases hread headers h with hnone | hfound
      · rw [hnone]
      · rw [hfound,hiff]
    have hself : Recased req.headers.entries req.headers.entries :=
      List.forall₂_same.mpr fun _ _ => ⟨rfl,rfl⟩
    refine ⟨?_,?_⟩
    · intro headers h
      rw [Bool.eq_iff_iff,hvalue headers h]
      exact (hvalue req.headers hself).symm
    · intro hja3 hja4 w capture h hip htoken
      rw [Bool.eq_iff_iff,proxy_hasValidToken_iff,htoken,hip,← h.agentOf_eq]
      have hctx : (⟨req.remoteIP,(agentOf req.headers.entries).getD "","",""⟩ : Token.VerifyContext) =
          {verifyContext req with ua := (agentOf req.headers.entries).getD ""} := by
        simp [verifyContext,hja3,hja4]
      rw [hctx,hiff]
      exact hvalue req.headers hself

section Sample

def sampleRequest : DecisionRequest where
  method := "GET"
  path := utf8 "/"
  host := "example.com"
  remoteIP := "192.0.2.1"
  headers := ⟨[("host","example.com"),("user-agent","Mozilla/5.0"),
    ("cookie","__as_pass=" ++ Token.sampleToken)],by decide⟩
  token := Token.sampleToken

def sampleLive : WireRequest where
  method := "GET"
  path := "/"
  lines := [("Host","example.com"),("User-Agent","Mozilla/5.0"),
    ("Cookie","__as_pass=" ++ Token.sampleToken)]
  remoteAddr := "192.0.2.1:40000"

def sampleTime : Token.Time := Token.sampleNow+60*Token.second

theorem sampleRequest_distinct : DistinctNames sampleRequest.headers.entries := by
  unfold DistinctNames
  decide +kernel

theorem getCookie_sampleLive :
    getCookie sampleLive.received defaultCookieName = Token.sampleToken := by
  have hline : sampleLive.received.header.lookup "Cookie" =
      some [defaultCookieName ++ "=" ++ Token.sampleToken] := by
    rfl
  refine getCookie_pair hline (by decide) (by decide) ?_
  -- The characters of the parts, as `toList` of a long text decodes its bytes.
  change (String.ofList _ ++ String.ofList _ ++ String.ofList _ ++ String.ofList _).toList.all _ = true
  simp only [String.toList_append,String.toList_ofList]
  decide +kernel

theorem accepted_sampleLive : Accepted Token.sampleJwt ⟨Token.sampleKey,["ip","ua"]⟩ sampleTime
    Token.sampleToken ⟨"192.0.2.1","Mozilla/5.0","",""⟩ := by
  have hparse : Token.sampleJwt.parseWithClaims Token.sampleKey sampleTime Token.sampleToken =
      .ok ⟨Token.sampleIssuer.claims Token.sampleNow Token.sampleContext,true⟩ := by
    simp only [Token.sampleJwt,ne_eq,not_true_eq_false,or_self,if_false]
    exact if_pos (by decide)
  rw [accepted_iff]
  refine ⟨by decide,_,hparse,?_,?_⟩
  · intro f hf hmem
    cases f <;> revert hf hmem <;> decide
  · decide

/-- A verifier that does not look at the user agent. -/
theorem tokenAgrees_sample :
    DistinctNames sampleRequest.headers.entries ∧
      TokenAgrees Token.sampleJwt ⟨Token.sampleKey,["ip"]⟩ sampleTime sampleRequest := by
  refine ⟨sampleRequest_distinct,(tokenAgrees_iff _ _ _ _ sampleRequest_distinct).mpr ?_⟩
  rintro ⟨claims,agent,-,-,-,-,hua,-⟩
  exact absurd hua (by decide)

/-- The proxy accepts a token that is bound to address and user agent, and the API refuses
it, as it came with the header names in lower case. -/
theorem lower_case_token_refused :
    Recased sampleRequest.headers.entries sampleLive.lines ∧
    HostPort.hostOf sampleLive.remoteAddr = sampleRequest.remoteIP ∧
    getCookie sampleLive.received defaultCookieName = sampleRequest.token ∧
    ProxyHandler.hasValidToken Token.sampleJwt ⟨Token.sampleKey,["ip","ua"]⟩ sampleTime
      sampleLive.received none = true ∧
    hasValidToken Token.sampleJwt (some ⟨Token.sampleKey,["ip","ua"]⟩) sampleTime sampleRequest =
      false := by
  refine ⟨?_,by decide +kernel,getCookie_sampleLive,?_,by decide +kernel⟩
  · exact .cons ⟨by decide,rfl⟩ (.cons ⟨by decide,rfl⟩ (.cons ⟨by decide,rfl⟩ .nil))
  · rw [proxy_hasValidToken_iff,getCookie_sampleLive]
    exact accepted_sampleLive

end Sample

end Agreement

end DecideHandler
end AntiScrapling
