import AntiScrapling.ChallengeRuns
import AntiScrapling.HtmlTags
import Mathlib.Data.Rat.Floor

/-! The client side of the challenge (`web/challenge/src`): what the page's script
reads from the served page, its proof of work, and the request it posts. -/
namespace AntiScrapling
namespace Challenge

open ByteCodec Token HtmlTags
open UnicodeText (utf8)

inductive JsNumber
  | nan
  | infinite
  | finite (q : ℚ)
  deriving DecidableEq

/-- What the script uses of its platform: `Number` on strings and on JSON values,
`String` on JSON values, `JSON.parse`, and character references in attributes. -/
structure Platform where
  numberOfString : String → JsNumber
  numberOfJson : Json → JsNumber
  stringOfJson : Json → String
  jsonParse : String → Option Json
  charRefs : String → String

structure ChallengeParams where
  challengeID : String
  difficulty : JsNumber
  beaconIntervalMs : JsNumber

/-- `document.querySelector('meta[name="__as_challenge"]')`. -/
def challengeMeta (page : String) : Option Tag :=
  (tags page).find? fun tag =>
    !tag.closing && tag.name == "meta".toList && tag.attribute "name" == some "__as_challenge".toList

/-- A member of a JSON object; the last one of a name counts. -/
def memberOf : Json → String → Option Json
  | .obj members,key => members.reverse.lookup key
  | _,_ => none

/-- `value ?? fallback`, where `null` counts as missing. -/
def presentMember (parsed : Json) (key : String) : Option Json :=
  match memberOf parsed key with
  | some .null => none
  | v => v

def normalizeDifficulty : JsNumber → JsNumber
  | .finite q => if 0 ≤ q then .finite ⌊q⌋ else .finite 0
  | _ => .finite 0

def normalizeInterval : JsNumber → JsNumber
  | .finite q => if 0 < q then .finite ⌊q⌋ else .finite 5000
  | _ => .finite 5000

section Client
variable (P : Platform)

def attributeOf (tag : Option Tag) (name : String) : String :=
  match tag.bind fun t => t.attribute name with
  | some cs => P.charRefs (String.ofList cs)
  | none => ""

/-- `Number(s || zero)`. -/
def numberOr (s : String) (zero : ℚ) : JsNumber := if s = "" then .finite zero else P.numberOfString s

/-- `dataset.challengeId` is the attribute `data-challenge-id`, and so on. -/
def readChallengeParams (page : String) : ChallengeParams :=
  let tag := challengeMeta page
  let fallback : ChallengeParams := {
    challengeID := attributeOf P tag "data-challenge-id"
    difficulty := numberOr P (attributeOf P tag "data-difficulty") 0
    beaconIntervalMs := numberOr P (attributeOf P tag "data-beacon-interval-ms") 5000 }
  let content := attributeOf P tag "content"
  if content = "" then fallback
  else
    match P.jsonParse content with
    | none => fallback
    | some .null => fallback
    | some parsed => {
        challengeID := ((presentMember parsed "challenge_id").map P.stringOfJson).getD fallback.challengeID
        difficulty := normalizeDifficulty
          (((presentMember parsed "difficulty").map P.numberOfJson).getD fallback.difficulty)
        beaconIntervalMs := normalizeInterval
          (((presentMember parsed "beacon_interval_ms").map P.numberOfJson).getD fallback.beaconIntervalMs) }

end Client

section ProofOfWork

/-- `leadingZeroBits` of the client. -/
def clientLeadingZeroBits : Bytes → ℕ
  | [] => 0
  | b::bs => if b = 0 then 8+clientLeadingZeroBits bs else 32-b.toNat.size-24

def hexDigits : List Char := "0123456789abcdef".toList

def bytesToHex (bs : Bytes) : String :=
  String.ofList (bs.flatMap fun b => [hexDigits.getD (b.toNat/16) '0',hexDigits.getD (b.toNat%16) '0'])

structure PowSolution where
  nonce : ℕ
  hash : String
  difficulty : ℕ
  durationMs : ℕ

def defaultMaxNonce : ℕ := 20000000

/-- `Number.isInteger(difficulty)` and `0 <= difficulty <= 256`. -/
def powDifficultyOf : JsNumber → Option ℕ
  | .finite q => if q.den = 1 ∧ 0 ≤ q ∧ q ≤ 256 then some q.num.toNat else none
  | _ => none

/-- The first solution among `fuel` nonces from `nonce` on. -/
def searchNonce (solves : ℕ → Bool) : ℕ → ℕ → Option ℕ
  | 0,_ => none
  | fuel+1,nonce => if solves nonce then some nonce else searchNonce solves fuel (nonce+1)

/-- The first nonce whose hash has enough leading zero bits. -/
def solvePow (sha256 : Bytes → Bytes) (challengeID : String) (difficulty : JsNumber)
    (maxNonce durationMs : ℕ) : Except String PowSolution :=
  match powDifficultyOf difficulty with
  | none => .error "invalid_pow_difficulty"
  | some d =>
    let digest := fun nonce : ℕ => sha256 (utf8 (challengeID ++ toString nonce))
    match searchNonce (fun nonce => clientLeadingZeroBits (digest nonce) ≥ d) (maxNonce+1) 0 with
    | some nonce => .ok ⟨nonce,bytesToHex (digest nonce),d,durationMs⟩
    | none => .error "pow_nonce_exhausted"

end ProofOfWork

section Page

def headTags : List Tag := [
  {name := "html".toList, attributes := [("lang".toList,"en".toList)]},
  {name := "head".toList},
  {name := "meta".toList, attributes := [("charset".toList,"utf-8".toList)]},
  {name := "meta".toList, attributes := [("name".toList,"viewport".toList),
    ("content".toList,"width=device-width, initial-scale=1".toList)]}]

theorem lex_head : lex {} (challengeHTMLHead.flatMap String.toList) = ⟨.data,headTags⟩ := by
  change lex {} ([String.ofList _,String.ofList _,String.ofList _,String.ofList _,String.ofList _,
    String.ofList _].flatMap String.toList) = _
  simp only [List.flatMap_cons,List.flatMap_nil,String.toList_ofList]
  decide +kernel

theorem metaPlaceholder_chars : ∃ cs, metaPlaceholder.toList = '<'::cs := by
  change ∃ cs, (String.ofList _ ++ String.ofList _).toList = '<'::cs
  rw [String.toList_append,String.toList_ofList]
  exact ⟨_,rfl⟩

theorem metaPlaceholder_once :
    UnicodeText.absentBefore metaPlaceholder.toList (challengeHTMLHead.flatMap String.toList)
      (metaPlaceholder.toList++challengeHTMLTail.flatMap String.toList) = true ∧
    UnicodeText.absentBefore metaPlaceholder.toList (challengeHTMLTail.flatMap String.toList) [] = true := by
  change UnicodeText.absentBefore (String.ofList _ ++ String.ofList _).toList
      ([String.ofList _,String.ofList _,String.ofList _,String.ofList _,String.ofList _,
        String.ofList _].flatMap String.toList)
      ((String.ofList _ ++ String.ofList _).toList++[String.ofList _,String.ofList _,String.ofList _,
        String.ofList _,String.ofList _,String.ofList _,String.ofList _,
        String.ofList _].flatMap String.toList) = true ∧
    UnicodeText.absentBefore (String.ofList _ ++ String.ofList _).toList
      ([String.ofList _,String.ofList _,String.ofList _,String.ofList _,String.ofList _,
        String.ofList _,String.ofList _,String.ofList _].flatMap String.toList) [] = true
  simp only [List.flatMap_cons,List.flatMap_nil,String.toList_append,String.toList_ofList]
  constructor <;> decide +kernel

theorem page_chars (st : State) (id origin : String) (now : Time) :
    (handleChallenge st id origin now).2.toList = challengeHTMLHead.flatMap String.toList ++
      (metaTag id st.issuer.powDifficulty (if origin = "" then "/" else origin)).toList ++
      challengeHTMLTail.flatMap String.toList := by
  obtain ⟨cs,hcs⟩ := metaPlaceholder_chars
  simp only [handleChallenge,ChallengeIssuer.newChallengeID,UnicodeText.replaceAll,challengeHTML,
    UnicodeText.textOf,String.toList_ofList,List.flatMap_append,List.flatMap_singleton]
  apply UnicodeText.replaceAllChars_once
  · simp [hcs]
  · exact metaPlaceholder_once.1
  · exact metaPlaceholder_once.2
  · simp only [List.length_append,hcs,List.length_cons]
    omega

/-- The challenge tag with the given attributes after its name. -/
def challengeTag (attributes : List (List Char × List Char)) : Tag where
  name := "meta".toList
  attributes := ("name".toList,"__as_challenge".toList)::attributes

def readTag (id difficulty origin : List Char) : Tag :=
  challengeTag [("data-id".toList,id),("data-difficulty".toList,difficulty),("data-origin".toList,origin)]

theorem quote_notMem_decimal (d : ℤ) : '"' ∉ (toString d).toList := by
  have hdigits : ∀ n : ℕ, '"' ∉ (toString n).toList := by
    intro n hn
    rw [Nat.toString_eq_repr,Nat.toList_repr] at hn
    simpa using Nat.isDigit_of_mem_toDigits (by decide) (by decide) hn
  cases d with
  | ofNat n => exact hdigits n
  | negSucc n =>
    change '"' ∉ ("-" ++ toString (n+1)).toList
    simpa using hdigits (n+1)

/-- The tag up to the origin, which stands in a quoted value. -/
theorem lex_metaTag_origin {id : String} (d : ℤ) (origin : String) (hid : '"' ∉ id.toList) :
    lex ⟨.data,headTags⟩ (metaTag id d origin).toList =
      lex ⟨.quotedValue '"' (challengeTag [("data-id".toList,id.toList),
        ("data-difficulty".toList,(toString d).toList)]) "data-origin".toList [],headTags⟩
        (origin.toList++['"','>']) := by
  change lex _ (String.ofList _ ++ id ++ String.ofList _ ++ toString d ++ String.ofList _ ++ origin ++
    String.ofList _).toList = _
  simp only [String.toList_append,String.toList_ofList,lex_append]
  calc
    _ = lex (lex (lex (lex (lex (lex ⟨.quotedValue '"' (challengeTag []) "data-id".toList [],headTags⟩
          id.toList) _) (toString d).toList) _) origin.toList) _ := rfl
    _ = lex (lex (lex (lex ⟨.quotedValue '"' (challengeTag [("data-id".toList,id.toList)])
          "data-difficulty".toList [],headTags⟩ (toString d).toList) _) origin.toList) _ := by
      rw [lex_quotedValue _ _ _ _ _ hid]
      rfl
    _ = _ := by
      rw [lex_quotedValue _ _ _ _ _ (quote_notMem_decimal d)]
      rfl

theorem lex_metaTag {id origin : String} (d : ℤ) (hid : '"' ∉ id.toList)
    (horigin : '"' ∉ origin.toList) :
    lex ⟨.data,headTags⟩ (metaTag id d origin).toList =
      ⟨.data,headTags++[readTag id.toList (toString d).toList origin.toList]⟩ := by
  rw [lex_metaTag_origin d origin hid,lex_append,lex_quotedValue _ _ _ _ _ horigin]
  rfl

/-- The tags of the page around the one with the origin. -/
theorem tags_page {st : State} {id origin : String} (now : Time) (hid : '"' ∉ id.toList)
    (horigin : '"' ∉ origin.toList) :
    tags (handleChallenge st id origin now).2 =
      (headTags++[readTag id.toList (toString st.issuer.powDifficulty).toList
        (if origin = "" then "/" else origin).toList])++
      (lex {} (challengeHTMLTail.flatMap String.toList)).tags := by
  have hquote : '"' ∉ (if origin = "" then "/" else origin).toList := by
    split_ifs
    · decide
    · exact horigin
  rw [tags,page_chars,lex_append,lex_append,lex_head,lex_metaTag st.issuer.powDifficulty hid hquote,
    lex_data_tags]

/-- The tag that the script finds. -/
theorem challengeMeta_page {st : State} {id origin : String} (now : Time) (hid : '"' ∉ id.toList)
    (horigin : '"' ∉ origin.toList) :
    challengeMeta (handleChallenge st id origin now).2 =
      some (readTag id.toList (toString st.issuer.powDifficulty).toList
        (if origin = "" then "/" else origin).toList) := by
  rw [challengeMeta,tags_page now hid horigin,List.append_assoc,List.find?_append]
  rfl

end Page

section Exchange

def PowSolution.toJson (s : PowSolution) : Json := .obj [
  ("nonce",.num (toString s.nonce)),
  ("hash",.str s.hash),
  ("difficulty",.num (toString s.difficulty)),
  ("duration_ms",.num (toString s.durationMs))]

/-- The `VerifyPayload` that is posted. -/
def verifyPayload (solution : PowSolution) (report : Json) (challengeID : String) : Json := .obj [
  ("pow_solution",solution.toJson),
  ("fingerprint_report",report),
  ("challenge_id",.str challengeID)]

/-- A client that solves the challenge it reads from the page: the solution takes
`durationMs`, the fingerprint is `report`. -/
structure Client where
  platform : Platform
  durationMs : ℕ
  report : Json
  remoteAddr : String
  userAgent : String

variable (sha256 : Bytes → Bytes) (J : Jwt)

/-- `runChallenge` up to the body that it posts. -/
def Client.runChallenge (c : Client) (page : String) : Except String Json :=
  let params := readChallengeParams c.platform page
  match solvePow sha256 params.challengeID params.difficulty defaultMaxNonce c.durationMs with
  | .error e => .error e
  | .ok solution => .ok (verifyPayload solution c.report params.challengeID)

def Client.post (c : Client) (payload : Json) : VerifyHTTP where
  method := "POST"
  body := some payload
  remoteAddr := c.remoteAddr
  userAgent := c.userAgent

/-- The times of one visit: the page is served, the answer checked, the token signed. -/
structure Visit where
  served : Time
  verified : Time
  signed : Time

/-- The client reads back what was issued, and its answer is redirected with the pass cookie. -/
def Completes (svc : Service) (st : State) (c : Client) (id origin : String) (v : Visit) : Prop :=
  let st' := (handleChallenge st id origin v.served).1
  let page := (handleChallenge st id origin v.served).2
  let params := readChallengeParams c.platform page
  params.challengeID = id ∧ params.difficulty = .finite st.issuer.powDifficulty ∧
    ∃ payload, c.runChallenge sha256 page = .ok payload ∧
      ∃ cookie target,
        (handleVerify sha256 J svc st' (c.post payload) v.verified v.signed).2 = .pass cookie target

theorem runChallenge_ok {c : Client} {page : String} {params : ChallengeParams} {solution : PowSolution}
    (hread : readChallengeParams c.platform page = params)
    (hsolve : solvePow sha256 params.challengeID params.difficulty defaultMaxNonce c.durationMs =
      .ok solution) :
    c.runChallenge sha256 page = .ok (verifyPayload solution c.report params.challengeID) := by
  simp only [Client.runChallenge,hread,hsolve]

/-- The server cannot decode what the client posts: the solution is an object there
and a string here. -/
theorem decodeBody_verifyPayload (solution : PowSolution) (report : Json) (challengeID : String) :
    decodeBody (some (verifyPayload solution report challengeID)) = none := rfl

theorem handleVerify_post (svc : Service) {c : Client} {page : String} {payload : Json}
    (h : c.runChallenge sha256 page = .ok payload) (st : State) (now signedAt : Time) :
    handleVerify sha256 J svc st (c.post payload) now signedAt = (st,.error 400 "bad request") := by
  simp only [Client.runChallenge] at h
  split at h
  · cases h
  next solution _ =>
    injection h with h
    rw [← h]
    simp [handleVerify,Client.post,decodeBody_verifyPayload]

theorem readTag_attribute (id d origin : List Char) :
    (readTag id d origin).attribute "content" = none ∧
    (readTag id d origin).attribute "data-challenge-id" = none ∧
    (readTag id d origin).attribute "data-difficulty" = some d ∧
    (readTag id d origin).attribute "data-beacon-interval-ms" = none :=
  ⟨rfl,rfl,rfl,rfl⟩

theorem readChallengeParams_readTag (P : Platform) {page : String} {id d origin : List Char}
    (h : challengeMeta page = some (readTag id d origin)) :
    readChallengeParams P page = ⟨"",numberOr P (P.charRefs (String.ofList d)) 0,.finite 5000⟩ := by
  obtain ⟨hcontent,hchallenge,hdifficulty,hinterval⟩ := readTag_attribute id d origin
  simp [readChallengeParams,attributeOf,h,hcontent,hchallenge,hdifficulty,hinterval,numberOr]

theorem readChallengeParams_page (P : Platform) {st : State} {id origin : String} (now : Time)
    (hid : '"' ∉ id.toList) (horigin : '"' ∉ origin.toList) :
    readChallengeParams P (handleChallenge st id origin now).2 =
      ⟨"",numberOr P (P.charRefs (toString st.issuer.powDifficulty)) 0,.finite 5000⟩ := by
  rw [readChallengeParams_readTag P (challengeMeta_page now hid horigin),String.ofList_toList]

/-- No client completes a challenge: it reads an empty ID, and every body it posts is
answered with 400. -/
theorem honest_client_never_passes (svc : Service) (st : State) (c : Client) (id origin : String)
    (v : Visit) :
    ¬ Completes sha256 J svc st c id origin v ∧
    (∀ payload, c.runChallenge sha256 (handleChallenge st id origin v.served).2 = .ok payload →
      (handleVerify sha256 J svc (handleChallenge st id origin v.served).1 (c.post payload)
        v.verified v.signed).2 = .error 400 "bad request") ∧
    ('"' ∉ id.toList → '"' ∉ origin.toList →
      (readChallengeParams c.platform (handleChallenge st id origin v.served).2).challengeID = "") := by
  have hpost (payload : Json) (h : c.runChallenge sha256 (handleChallenge st id origin v.served).2 =
      .ok payload) := handleVerify_post sha256 J svc h (handleChallenge st id origin v.served).1
        v.verified v.signed
  refine ⟨?_,fun payload h => by rw [hpost payload h],
    fun hid horigin => by rw [readChallengeParams_page _ _ hid horigin]⟩
  rintro ⟨-,-,payload,hrun,cookie,target,hpass⟩
  rw [hpost payload hrun] at hpass
  cases hpass

/-- SHA-256 on the two inputs of the sample visit. -/
def visitSHA256 (b : Bytes) : Bytes :=
  if b = utf8 "0" then
    [95,236,235,102,255,200,111,56,217,82,120,108,109,105,108,121,
      194,219,194,57,221,78,145,180,103,41,215,58,39,251,87,233]
  else if b = utf8 (sampleID ++ "2") then
    [60,5,20,235,102,210,238,253,144,149,197,2,138,169,12,172,
      101,83,235,226,190,240,31,138,28,19,214,29,178,35,223,61]
  else []

/-- A browser on inputs without character references and on decimal numbers. -/
def samplePlatform : Platform where
  numberOfString s :=
    if s.toList.all Char.isDigit then .finite (s.toList.foldl (fun n c => 10*n+(c.toNat-48)) 0 : ℕ)
    else .nan
  numberOfJson _ := .nan
  stringOfJson _ := ""
  jsonParse _ := none
  charRefs s := s

def sampleReport : Json := .obj [("runtime",.obj [("function_to_string_native",.bool true),
  ("console_debug_arity",.num "1")])]

def sampleClient : Client := ⟨samplePlatform,3,sampleReport,"192.0.2.1:52311","Mozilla/5.0"⟩

def sampleVisit : Visit := ⟨sampleStart,sampleStart+second,sampleStart+second⟩

/-- The client posts a solution for the empty ID and gets 400, where the nonce 2 for the
ID of the page, posted as a string, passes. -/
theorem honest_client_fails_sample :
    ¬ Completes visitSHA256 passJwt sampleService (Ledger.start 1 sampleStart).state sampleClient
      sampleID "/" sampleVisit ∧
    (∃ solution, sampleClient.runChallenge visitSHA256
        (handleChallenge (Ledger.start 1 sampleStart).state sampleID "/" sampleStart).2 =
        .ok (verifyPayload solution sampleReport "") ∧ solution.nonce = 0) ∧
    (handleVerify visitSHA256 passJwt sampleService
      (handleChallenge (Ledger.start 1 sampleStart).state sampleID "/" sampleStart).1
      (sampleClient.post (.obj [("pow_solution",.str "2"),("fingerprint_report",sampleReport),
        ("challenge_id",.str sampleID)])) sampleVisit.verified sampleVisit.signed).2 =
      .pass ⟨"__as_pass",passToken⟩ "/" := by
  refine ⟨?_,?_,by decide +kernel⟩
  · rintro ⟨-,-,payload,hrun,cookie,target,hpass⟩
    rw [handleVerify_post visitSHA256 passJwt _ hrun] at hpass
    cases hpass
  · refine ⟨⟨0,bytesToHex (visitSHA256 (utf8 "0")),1,3⟩,?_,rfl⟩
    have hd : numberOr samplePlatform (samplePlatform.charRefs
        (toString (Ledger.start 1 sampleStart).state.issuer.powDifficulty)) 0 = .finite 1 := by
      decide +kernel
    have hsolve : solvePow visitSHA256 "" (.finite 1) defaultMaxNonce 3 =
        .ok ⟨0,bytesToHex (visitSHA256 (utf8 "0")),1,3⟩ := by
      have hpow : powDifficultyOf (.finite 1) = some 1 := by norm_num [powDifficultyOf]
      simp only [solvePow,hpow]
      rfl
    have hread : readChallengeParams sampleClient.platform
        (handleChallenge (Ledger.start 1 sampleStart).state sampleID "/" sampleStart).2 =
        ⟨"",.finite 1,.finite 5000⟩ := by
      rw [← hd]
      exact readChallengeParams_page samplePlatform _ (by decide +kernel) (by decide)
    exact runChallenge_ok visitSHA256 hread hsolve

end Exchange

end Challenge
end AntiScrapling
