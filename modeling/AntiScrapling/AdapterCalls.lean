import AntiScrapling.DecidePaths
import AntiScrapling.DecisionCache

/-! The SDK adapters with the daemon behind them: the clients (`sdk/node/src/client.ts`,
`sdk/python/anti_scrapling/client.py`) and what the Express and Nest adapters and the ASGI
and Flask middlewares do with an answer. -/
namespace AntiScrapling
namespace AdapterCalls

open ByteCodec UnicodeText JsonDecode DecideHandler

section Requests

/-- What an adapter asks; an empty text stands for a member that TypeScript leaves undefined. -/
structure Question where
  method : String
  path : String
  host : String
  remoteIP : String
  headers : StringMap String
  headerOrder : List String
  ja3 : String := ""
  ja4 : String := ""
  token : String := ""

def Question.headersJson (q : Question) : Json := .obj (q.headers.entries.reverse.map fun e => (e.1,.str e.2))

def Question.common (q : Question) : List (String × Json) := [
  ("method",.str q.method),
  ("path",.str q.path),
  ("host",.str q.host),
  ("remote_ip",.str q.remoteIP),
  ("headers",q.headersJson),
  ("header_order",.arr (q.headerOrder.map .str))]

def optional (name value : String) : List (String × Json) := if value = "" then [] else [(name,.str value)]

/-- `JSON.stringify` leaves out what is undefined. -/
def Question.nodePayload (q : Question) : Json :=
  .obj (q.common++optional "ja3" q.ja3++optional "ja4" q.ja4++optional "token" q.token)

/-- `_payload`. -/
def Question.pythonPayload (q : Question) : Json :=
  .obj (q.common++[("ja3",.str q.ja3),("ja4",.str q.ja4),("token",.str q.token)])

def Question.request (q : Question) : DecisionRequest :=
  ⟨q.method,utf8 q.path,q.host,q.remoteIP,q.headers,q.headerOrder,q.ja3,q.ja4,q.token⟩

def text : Decoder Bytes
  | .str s,_ => some (utf8 s)
  | .null,old => some old
  | _,_ => none

def headerMap : Decoder (StringMap String)
  | .obj members,old => members.foldlM (fun m kv => (string kv.2 "").map (m.insert kv.1)) old
  | .null,_ => some .empty
  | _,_ => none

/-- `types.DecisionRequest`. -/
def requestFields : List (String × Decoder DecisionRequest) := [
  ("method",field (·.method) (fun r v => {r with method := v}) string),
  ("path",field (·.path) (fun r v => {r with path := v}) text),
  ("host",field (·.host) (fun r v => {r with host := v}) string),
  ("remote_ip",field (·.remoteIP) (fun r v => {r with remoteIP := v}) string),
  ("headers",field (·.headers) (fun r v => {r with headers := v}) headerMap),
  ("header_order",field (·.headerOrder) (fun r v => {r with headerOrder := v}) strings),
  ("ja3",field (·.ja3) (fun r v => {r with ja3 := v}) string),
  ("ja4",field (·.ja4) (fun r v => {r with ja4 := v}) string),
  ("token",field (·.token) (fun r v => {r with token := v}) string)]

def decodeRequest (body : Json) : Option DecisionRequest := object requestFields body ⟨"",[],"","",.empty,[],"","",""⟩

theorem foldl_insert_reverse (m : StringMap String) :
    m.entries.reverse.foldl (fun m e => m.insert e.1 e.2) .empty = m := by
  obtain ⟨es,hdistinct⟩ := m
  induction es with
  | nil => rfl
  | cons e es ih =>
    rw [List.map_cons,List.nodup_cons] at hdistinct
    rw [List.reverse_cons,List.foldl_concat,ih hdistinct.2]
    have hentries := StringMap.insert_entries (m := ⟨es,hdistinct.2⟩) hdistinct.1 e.2
    cases hinsert : StringMap.insert ⟨es,hdistinct.2⟩ e.1 e.2 with
    | mk entries _ =>
      rw [hinsert] at hentries
      subst hentries
      rfl

theorem headerMap_foldlM (es : List (String × String)) (old : StringMap String) :
    (es.map fun e => (e.1,Json.str e.2)).foldlM (fun m kv => (string kv.2 "").map (m.insert kv.1)) old =
      some (es.foldl (fun m e => m.insert e.1 e.2) old) := by
  induction es generalizing old with
  | nil => rfl
  | cons e es ih => exact ih _

theorem headerMap_headersJson (q : Question) : headerMap q.headersJson .empty = some q.headers := by
  rw [Question.headersJson,headerMap,headerMap_foldlM,foldl_insert_reverse]

theorem strings_str (l old : List String) : strings (.arr (l.map .str)) old = some l := by
  rw [strings]
  induction l with
  | nil => rfl
  | cons s l ih =>
    rw [List.map_cons,List.mapM_cons,ih]
    rfl

theorem object_common (q : Question) {rest : List (String × Json)} {r : DecisionRequest}
    (h : object requestFields (.obj rest) {q.request with ja3 := "", ja4 := "", token := ""} = some r) :
    object requestFields (.obj (q.common++rest)) ⟨"",[],"","",.empty,[],"","",""⟩ = some r := by
  refine object_field rfl rfl (object_field rfl rfl (object_field rfl rfl (object_field rfl rfl ?_)))
  exact object_field rfl (headerMap_headersJson q) (object_field rfl (strings_str q.headerOrder []) h)

/-- A text that is left out is read as the empty text that it was. -/
theorem object_optional {name value : String} {rest : List (String × Json)} {a b : DecisionRequest}
    {get : DecisionRequest → String} {set : DecisionRequest → String → DecisionRequest}
    (hname : memberDecoder requestFields name = some (field get set string)) (hempty : value = "" → set a value = a)
    (hrest : object requestFields (.obj rest) (set a value) = some b) :
    object requestFields (.obj (optional name value++rest)) a = some b := by
  by_cases h : value = ""
  · rw [hempty h] at hrest
    rwa [optional,if_pos h,List.nil_append]
  · rw [optional,if_neg h]
    exact object_field hname rfl hrest

theorem decodeRequest_nodePayload (q : Question) : decodeRequest q.nodePayload = some q.request := by
  rw [decodeRequest,Question.nodePayload,List.append_assoc,List.append_assoc]
  refine object_common q (object_optional rfl (fun h => by rw [h]) (object_optional rfl (fun h => by rw [h]) ?_))
  rw [← List.append_nil (optional "token" q.token)]
  exact object_optional rfl (fun h => by rw [h]) rfl

theorem decodeRequest_pythonPayload (q : Question) : decodeRequest q.pythonPayload = some q.request :=
  object_common q (object_field rfl rfl (object_field rfl rfl (object_field rfl rfl rfl)))

end Requests

section Clients

/-- What comes of a call: nothing in time, or an answer whose body may be JSON. -/
inductive Exchange
  | failed
  | answered (status : ℕ) (body : Option Json)

/-- `res.ok`, and what `raise_for_status` lets pass. -/
def succeeded (status : ℕ) : Bool := 200 ≤ status && status ≤ 299

/-- The call brought no decision: it failed or took too long, or the answer has another status
or is no JSON. -/
def Exchange.Lost : Exchange → Prop
  | .failed => True
  | .answered status body => succeeded status = false ∨ body = none

def member (members : List (String × Json)) (name : String) : Option Json := members.reverse.lookup name

/-- `fallback` of the Node client. -/
def fallback (failOpen : Bool) : Json := .obj [
  ("verdict",.str (if failOpen then "ALLOW" else "DENY")),
  ("score",.num (if failOpen then "0" else "100")),
  ("signals",.arr []),
  ("reasons",.arr [.str "daemon_unavailable"]),
  ("policy_name",.str ""),
  ("timestamp",.num "0"),
  ("request_id",.str "")]

/-- `decide` of the Node client takes any JSON for a decision. -/
def nodeDecide (failOpen : Bool) : Exchange → Json
  | .answered status (some body) => if succeeded status then body else fallback failOpen
  | _ => fallback failOpen

/-- What Python takes for false. -/
def falsy : Json → Bool
  | .null => true
  | .bool b => !b
  | .num literal => (decimalOfLiteral literal).all fun d => d.1 = 0
  | .str s => s = ""
  | .arr items => items.isEmpty
  | .obj members => members.isEmpty

def isObject : Json → Bool
  | .obj _ => true
  | _ => false

def signalsReadable : Option Json → Bool
  | none => true
  | some (.arr items) => items.all isObject
  | some j => falsy j

/-- `Verdict(data.get("verdict", "ALLOW"))`. -/
def verdictOf : Option Json → Option Verdict
  | none => some .allow
  | some (.str "ALLOW") => some .allow
  | some (.str "CHALLENGE") => some .challenge
  | some (.str "DENY") => some .deny
  | _ => none

/-- `_parse`; of the decision only the verdict is used. -/
def parse : Json → Option Verdict
  | .obj members => if signalsReadable (member members "signals") then verdictOf (member members "verdict") else none
  | _ => none

/-- `decide` and `decide_async` of the Python client; an exception leads to `_fallback`. -/
def pythonDecide (failOpen : Bool) : Exchange → Verdict
  | .answered status (some body) =>
    ((if succeeded status then parse body else none)).getD (if failOpen then .allow else .deny)
  | _ => if failOpen then .allow else .deny

end Clients

section Adapters

/-- What an adapter does with a request: the application handles it, or it is answered, or the
framework gets an error to handle.  A text may be the framework's own. -/
inductive Action
  | app
  | redirect (status : ℕ) (location : String)
  | respond (status : ℕ) (text : Option String)
  | raise
  deriving DecidableEq, Repr

structure Options where
  failOpen : Bool := true
  challengeUrl : Option String := none

/-- A property of a value; `null` has none, and asking for one is an error. -/
def property : Json → String → Option (Option Json)
  | .null,_ => none
  | .obj members,name => some (member members name)
  | _,_ => some none

variable (itemText : Json → String)

/-- An item of `join`. -/
def joined : Json → String
  | .null => ""
  | .str s => s
  | j => itemText j

/-- `decision.reasons.join(', ') || 'Denied'`. -/
def denial (d : Json) : Action :=
  match property d "reasons" with
  | some (some (.arr items)) =>
    let text := ", ".intercalate (items.map (joined itemText))
    .respond 403 (some (if text = "" then "Denied" else text))
  | _ => .raise

/-- The switch of both Node adapters; the redirect of Nest has the same status. -/
def nodeAct (o : Options) (origin : String) (d : Json) : Action :=
  match property d "verdict" with
  | none => .raise
  | some (some (.str "ALLOW")) => .app
  | some (some (.str "CHALLENGE")) => .redirect 302 (o.challengeUrl.getD ("/__as/challenge?origin=" ++ origin))
  | some (some (.str "DENY")) => denial itemText d
  | _ => .app

def pythonAct (o : Options) (forbidden : Option String) : Verdict → Action
  | .allow => .app
  | .challenge => .redirect 302 (o.challengeUrl.getD "/__as/challenge")
  | .deny => .respond 403 forbidden

inductive Adapter
  | express | nest
  | asgi (scopeType : String)
  | flask

def Adapter.payload : Adapter → Question → Json
  | .express | .nest => Question.nodePayload
  | .asgi _ | .flask => Question.pythonPayload

/-- The ASGI middleware leaves alone what is no HTTP request. -/
def Adapter.asks : Adapter → Bool
  | .asgi scopeType => scopeType = "http"
  | _ => true

/-- What the adapter does; `origin` is the coded address of the request. -/
def Adapter.act (o : Options) (origin : String) (e : Exchange) : Adapter → Action
  | .express | .nest => nodeAct itemText o origin (nodeDecide o.failOpen e)
  | .asgi scopeType =>
    if scopeType ≠ "http" then .app else pythonAct o (some "Forbidden") (pythonDecide o.failOpen e)
  | .flask => pythonAct o none (pythonDecide o.failOpen e)

end Adapters

section Daemon
variable (L : DecideHandler.Libraries) (J : Token.Jwt) (sha256 : Bytes → Bytes) (libraries : Policy.Libraries) {σ : Type}
  (cache : KeyedStore σ String Json Instant) (itemText : Json → String) (stringify : Json → Bytes)

def exchange : Response → Exchange
  | .error _ status => .answered status none
  | .decision d => .answered 200 (some (Pipeline.encodeDecision d))

/-- The calls that the daemon does not decide: there is no address, or the path looks like an
authority that is none. -/
def Refused (req : DecisionRequest) : Prop :=
  req.remoteIP = "" ∨ (utf8 "//" <+: req.path ∧ ¬ utf8 "///" <+: req.path) ∧
    (L.url.authority (UrlPath.firstSegment (UrlPath.escape req.path.tail.tail))).isSome = true

/-- What is to happen without a decision. -/
def Adapter.refusal (o : Options) : Adapter → Action
  | .express | .nest => if o.failOpen then .app else .respond 403 (some "daemon_unavailable")
  | .asgi _ => if o.failOpen then .app else .respond 403 (some "Forbidden")
  | .flask => if o.failOpen then .app else .respond 403 none

/-- How a request is turned away.  The Node adapters need a reason: without one they fail. -/
def Adapter.deny (reasons : List String) : Adapter → Action
  | .express | .nest =>
    if reasons = [] then .raise
    else .respond 403 (some (if ", ".intercalate reasons = "" then "Denied" else ", ".intercalate reasons))
  | .asgi _ => .respond 403 (some "Forbidden")
  | .flask => .respond 403 none

def Adapter.challenge (origin : String) : Adapter → String
  | .express | .nest => "/__as/challenge?origin=" ++ origin
  | .asgi _ | .flask => "/__as/challenge"

def Adapter.obey (o : Options) (origin : String) (d : Decision) (a : Adapter) : Action :=
  match d.verdict with
  | .allow => .app
  | .challenge => .redirect 302 (o.challengeUrl.getD (a.challenge origin))
  | .deny => a.deny d.reasons

theorem parse_encodeDecision (d : Decision) : parse (Pipeline.encodeDecision d) = some d.verdict := by
  have hsignals : signalsReadable (some (.arr (d.signals.map Pipeline.encodeSignal))) = true := by
    rw [signalsReadable,List.all_map,List.all_eq_true]
    exact fun _ _ => rfl
  change (if signalsReadable (some (.arr (d.signals.map Pipeline.encodeSignal))) then
    verdictOf (some (.str (Pipeline.verdictText d.verdict))) else none) = _
  rw [if_pos hsignals]
  cases d.verdict <;> rfl

theorem denial_encodeDecision (d : Decision) :
    denial itemText (Pipeline.encodeDecision d) = Adapter.express.deny d.reasons := by
  have hproperty : property (Pipeline.encodeDecision d) "reasons" =
      some (some (if d.reasons.isEmpty then .null else .arr (d.reasons.map .str))) := rfl
  have hjoined : (d.reasons.map Json.str).map (joined itemText) = d.reasons := by
    rw [List.map_map]
    exact List.map_id _
  rw [denial,hproperty]
  by_cases hreasons : d.reasons = []
  · simp [hreasons,Adapter.deny]
  · simp [hreasons,Adapter.deny,hjoined]

theorem nodeAct_encodeDecision (o : Options) (origin : String) (d : Decision) :
    nodeAct itemText o origin (Pipeline.encodeDecision d) = Adapter.express.obey o origin d := by
  have hproperty : property (Pipeline.encodeDecision d) "verdict" =
    some (some (.str (Pipeline.verdictText d.verdict))) := rfl
  rw [nodeAct,hproperty,Adapter.obey]
  cases d.verdict with
  | allow => rfl
  | challenge => rfl
  | deny => exact denial_encodeDecision itemText d

theorem act_decision {a : Adapter} (hasks : a.asks = true) (o : Options) (origin : String) (d : Decision) :
    a.act itemText o origin (exchange (.decision d)) = a.obey o origin d := by
  have hok : succeeded 200 = true := rfl
  have hpython : pythonDecide o.failOpen (exchange (.decision d)) = d.verdict := by
    rw [exchange,pythonDecide,if_pos hok,parse_encodeDecision]
    rfl
  cases a with
  | express => exact nodeAct_encodeDecision itemText o origin d
  | nest => exact nodeAct_encodeDecision itemText o origin d
  | asgi scopeType =>
    have htype : ¬ scopeType ≠ "http" := not_not.mpr (of_decide_eq_true hasks)
    rw [Adapter.act,if_neg htype,hpython,Adapter.obey]
    cases d.verdict <;> rfl
  | flask =>
    rw [Adapter.act,hpython,Adapter.obey]
    cases d.verdict <;> rfl

theorem nodeDecide_lost {e : Exchange} (h : e.Lost) (failOpen : Bool) : nodeDecide failOpen e = fallback failOpen := by
  match e with
  | .failed | .answered _ none => rfl
  | .answered status (some body) => exact if_neg (by simpa [Exchange.Lost] using h)

theorem pythonDecide_lost {e : Exchange} (h : e.Lost) (failOpen : Bool) :
    pythonDecide failOpen e = if failOpen then .allow else .deny := by
  match e with
  | .failed | .answered _ none => rfl
  | .answered status (some body) =>
    rw [pythonDecide,if_neg (by simpa [Exchange.Lost] using h)]
    rfl

theorem act_lost {a : Adapter} (hasks : a.asks = true) (o : Options) (origin : String) {e : Exchange} (h : e.Lost) :
    a.act itemText o origin e = a.refusal o := by
  cases a with
  | express | nest =>
    rw [Adapter.act,nodeDecide_lost h,Adapter.refusal]
    cases o.failOpen <;> rfl
  | asgi scopeType =>
    have htype : ¬ scopeType ≠ "http" := not_not.mpr (of_decide_eq_true hasks)
    rw [Adapter.act,if_neg htype,pythonDecide_lost h,Adapter.refusal]
    cases o.failOpen <;> rfl
  | flask =>
    rw [Adapter.act,pythonDecide_lost h,Adapter.refusal]
    cases o.failOpen <;> rfl

theorem exchange_error_lost (text : String) (status : ℕ) : (exchange (.error text status)).Lost := .inr rfl

theorem urlPath_error_iff {req : DecisionRequest} (hroot : req.path.head? = some 47)
    (hmethod : validMethod (methodOf req) = true) :
    (∃ text, urlPath L req = .error text) ↔ (utf8 "//" <+: req.path ∧ ¬ utf8 "///" <+: req.path) ∧
      (L.url.authority (UrlPath.firstSegment (UrlPath.escape req.path.tail.tail))).isSome = true := by
  obtain ⟨rest,hpath⟩ := List.head?_eq_some_iff.mp hroot
  rw [urlPath_root L hpath hmethod,UrlPath.parsePath_root,hpath,List.tail_cons]
  by_cases hslashes : utf8 "//" <+: 47::rest ∧ ¬ utf8 "///" <+: 47::rest
  · rw [if_pos hslashes]
    cases L.url.authority (UrlPath.firstSegment (UrlPath.escape rest.tail)) <;> simp [hslashes]
  · simp [hslashes]

variable {h : Handler} {s : σ} {m : Moment} {body : Bytes} {req : DecisionRequest}

theorem serveHTTP_refused (hbody : L.decode body = .ok req) (hroot : req.path.head? = some 47)
    (hmethod : validMethod (methodOf req) = true) (hrefused : Refused L req) :
    ∃ text status, (serveHTTP L J sha256 libraries cache h s ⟨"POST",some body⟩ m).2 = .error text status := by
  by_cases hip : req.remoteIP = ""
  · exact ⟨"bad request: remote_ip required",400,by simp [serveHTTP,hbody,hip]⟩
  · obtain ⟨text,htext⟩ := (urlPath_error_iff L hroot hmethod).mpr (hrefused.resolve_left hip)
    have hsynthetic := syntheticRequest_eq L req
    rw [htext] at hsynthetic
    exact ⟨"internal error: " ++ text,500,by simp [serveHTTP,hbody,hip,hsynthetic,Except.map]⟩

theorem serveHTTP_decided (hbody : L.decode body = .ok req) (hroot : req.path.head? = some 47)
    (hmethod : validMethod (methodOf req) = true) (hrefused : ¬ Refused L req) :
    ∃ r, syntheticRequest L req = .ok r ∧
      (serveHTTP L J sha256 libraries cache h s ⟨"POST",some body⟩ m).2 =
        .decision (complete m (h.pipeline.decide sha256 libraries cache s
          ⟨requestContext req r,hasValidToken J h.verifier m.verified req,m.times⟩).2) := by
  have hip : req.remoteIP ≠ "" := fun hip => hrefused (.inl hip)
  have hnone : ¬ ∃ text, urlPath L req = .error text :=
    fun herror => hrefused (.inr ((urlPath_error_iff L hroot hmethod).mp herror))
  cases hpath : urlPath L req with
  | error text => exact absurd ⟨text,hpath⟩ hnone
  | ok path =>
    have hsynthetic := syntheticRequest_eq L req
    rw [hpath] at hsynthetic
    exact ⟨_,hsynthetic,by simp [serveHTTP,hbody,hip,hsynthetic,Except.map]⟩

theorem obey_complete (o : Options) (origin : String) (d : Decision) (a : Adapter) :
    a.obey o origin (complete m d) = a.obey o origin d := by
  rw [Adapter.obey,Adapter.obey,(complete_kept m d).1,(complete_kept m d).2]

theorem decodeRequest_payload (a : Adapter) (q : Question) : decodeRequest (a.payload q) = some q.request := by
  cases a with
  | express | nest => exact decodeRequest_nodePayload q
  | asgi scopeType => exact decodeRequest_pythonPayload q
  | flask => exact decodeRequest_pythonPayload q

theorem validMethod_request {q : Question} (h : validMethod q.method = true) :
    validMethod (methodOf q.request) = true := by
  have hne : q.method ≠ "" := by
    intro hempty
    rw [hempty] at h
    exact absurd h (by decide)
  change validMethod (if q.method = "" then "GET" else q.method) = true
  rwa [if_neg hne]

/-- With an answer of the daemon, a request passes an adapter, is redirected or turned away as the
pipeline decides for what the adapter asked.  The daemon does not decide a call without an
address, or with a path that looks like an authority and is none.  Then, and whenever a call
fails, the adapter's own option decides. -/
theorem adapter_obeys {a : Adapter} (hasks : a.asks = true) (o : Options) (origin : String) (q : Question)
    (hroot : (utf8 q.path).head? = some 47) (hmethod : validMethod q.method = true)
    (hread : ∀ req, decodeRequest (a.payload q) = some req → L.decode (stringify (a.payload q)) = .ok req)
    (h : Handler) (s : σ) (m : Moment) :
    let answer := (serveHTTP L J sha256 libraries cache h s ⟨"POST",some (stringify (a.payload q))⟩ m).2
    (∀ e : Exchange, e.Lost → a.act itemText o origin e = a.refusal o) ∧
    (Refused L q.request → a.act itemText o origin (exchange answer) = a.refusal o) ∧
    (¬ Refused L q.request → ∃ r, syntheticRequest L q.request = .ok r ∧
      a.act itemText o origin (exchange answer) = a.obey o origin (h.pipeline.decide sha256 libraries cache s
        ⟨requestContext q.request r,hasValidToken J h.verifier m.verified q.request,m.times⟩).2) := by
  have hbody := hread _ (decodeRequest_payload a q)
  have hmethod' := validMethod_request hmethod
  refine ⟨fun e he => act_lost itemText hasks o origin he,fun hrefused => ?_,fun hdecided => ?_⟩
  · obtain ⟨text,status,hanswer⟩ := serveHTTP_refused L J sha256 libraries cache hbody hroot hmethod' hrefused
    rw [hanswer]
    exact act_lost itemText hasks o origin (exchange_error_lost text status)
  · obtain ⟨r,hr,hanswer⟩ := serveHTTP_decided L J sha256 libraries cache hbody hroot hmethod' hdecided
    refine ⟨r,hr,?_⟩
    rw [hanswer,act_decision itemText hasks,obey_complete]

end Daemon

section Sample

def quoted (s : String) : String :=
  "\"" ++ s.toList.foldl (fun text c => if c = '"' ∨ c = '\\' then text ++ "\\" ++ c.toString else text ++ c.toString) "" ++ "\""

mutual

/-- The text of a JSON value whose strings have no control characters. -/
def jsonText : Json → String
  | .null => "null"
  | .bool b => if b then "true" else "false"
  | .num literal => literal
  | .str s => quoted s
  | .arr items => "[" ++ ",".intercalate (jsonTexts items) ++ "]"
  | .obj members => "\x7b" ++ ",".intercalate (memberTexts members) ++ "\x7d"

def jsonTexts : List Json → List String
  | [] => []
  | item::items => jsonText item::jsonTexts items

def memberTexts : List (String × Json) → List String
  | [] => []
  | (name,value)::members => (quoted name ++ ":" ++ jsonText value)::memberTexts members

end

def stringifySample (j : Json) : Bytes := utf8 (jsonText j)

def questionFor (method path : String) : Question where
  method
  path
  host := "shop.example"
  remoteIP := "203.0.113.9"
  headers := StringMap.empty.insert "User-Agent" "Mozilla/5.0"
  headerOrder := ["User-Agent"]

/-- A path whose second segment is no authority, and one for the rules. -/
def sampleQuestions : List Question := [questionFor "GET" "//x:y/admin",questionFor "POST" "/admin"]

/-- The libraries on the bodies of the sample. -/
def callLibraries : DecideHandler.Libraries where
  decode body :=
    match sampleQuestions.find? fun q => stringifySample q.nodePayload = body with
    | some q => .ok q.request
    | none => .error "unexpected EOF"
  quote s := "\"" ++ s ++ "\""
  url := ⟨fun authority => if authority = utf8 "x:y" then some "invalid port \":y\" after host" else none,fun _ => ""⟩

theorem decode_sample {q : Question} (hq : q ∈ sampleQuestions) :
    callLibraries.decode (stringifySample q.nodePayload) = .ok q.request := by
  have hne : stringifySample (questionFor "GET" "//x:y/admin").nodePayload ≠
      stringifySample (questionFor "POST" "/admin").nodePayload := by decide +kernel
  simp only [sampleQuestions,List.mem_cons,List.not_mem_nil,or_false] at hq
  rcases hq with rfl | rfl
  · simp [callLibraries,sampleQuestions]
  · simp [callLibraries,sampleQuestions,hne]

def sampleAct : Exchange → Action := Adapter.express.act (fun _ => "[object Object]") {} "%2Fadmin"

def sampleExchange (q : Question) : Exchange :=
  exchange (serveHTTP callLibraries Token.sampleJwt Pipeline.keySHA256 Policy.sampleLibraries (MemoryCache.store Json)
    ⟨Pipeline.methodPipeline,none⟩ (MemoryCache.newMemory 4) ⟨"POST",some (stringifySample q.nodePayload)⟩
    ⟨0,⟨0,0,0⟩,0,"u"⟩).2

theorem adapter_obeys_sample : sampleQuestions.map (fun q => sampleAct (sampleExchange q)) =
    [.app,.respond 403 (some "deny-writes")] ∧ sampleAct .failed = .app := by
  have hread (q : Question) (hq : q ∈ sampleQuestions) (req : DecisionRequest)
      (hreq : decodeRequest (Adapter.express.payload q) = some req) :
      callLibraries.decode (stringifySample (Adapter.express.payload q)) = .ok req := by
    have hsame : some q.request = some req := (decodeRequest_nodePayload q).symm.trans hreq
    rw [← Option.some.inj hsame]
    exact decode_sample hq
  have hobeys (q : Question) (hq : q ∈ sampleQuestions) (hroot : (utf8 q.path).head? = some 47)
      (hmethod : validMethod q.method = true) :=
    adapter_obeys callLibraries Token.sampleJwt Pipeline.keySHA256 Policy.sampleLibraries (MemoryCache.store Json)
      (fun _ => "[object Object]") stringifySample (a := .express) rfl {} "%2Fadmin" q hroot hmethod (hread q hq)
      ⟨Pipeline.methodPipeline,none⟩ (MemoryCache.newMemory 4) ⟨0,⟨0,0,0⟩,0,"u"⟩
  obtain ⟨hlost,hrefused,-⟩ := hobeys (questionFor "GET" "//x:y/admin") List.mem_cons_self (by decide +kernel)
    (by decide +kernel)
  obtain ⟨-,-,hdecided⟩ := hobeys (questionFor "POST" "/admin") (List.mem_cons_of_mem _ List.mem_cons_self)
    (by decide +kernel) (by decide +kernel)
  obtain ⟨r,hr,hobey⟩ := hdecided fun h => h.elim (by decide +kernel) (by decide +kernel)
  obtain rfl := Except.ok.inj (hr.symm.trans rfl)
  refine ⟨congrArg₂ (fun x y => [x,y]) (hrefused (.inr (by decide +kernel))) (hobey.trans ?_),hlost .failed trivial⟩
  decide +kernel

end Sample

end AdapterCalls
end AntiScrapling
