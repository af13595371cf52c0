import AntiScrapling.ChallengeIssuer
import AntiScrapling.Fingerprint
import AntiScrapling.HostPort
import Mathlib.Data.Nat.Size

/-! The challenge page and its verification (`internal/challenge/service.go`).
SHA-256 and golang-jwt are parameters.  The body of a request is the first JSON
value in it, if there is one. -/
namespace AntiScrapling
namespace Challenge

open ByteCodec Token UnicodeText JsonDecode

structure Service where
  tokenIssuer : Issuer
  denyThreshold : ℤ

/-- The ID store, and the pass tokens that were signed so far. -/
structure State where
  issuer : ListIssuer
  tokens : List String

section Page

def metaPlaceholder : String :=
  "<meta name=\"__as_challenge\" content='\x7b\"challenge_id\":\"\",\"difficulty\":0," ++
  "\"beacon_interval_ms\":5000\x7d'>"

/-- The lines of `assets/index.html` in front of the placeholder. -/
def challengeHTMLHead : List String := [
  "<!doctype html>\n",
  "<html lang=\"en\">\n",
  "  <head>\n",
  "    <meta charset=\"utf-8\">\n",
  "    <meta name=\"viewport\" content=\"width=device-width, initial-scale=1\">\n",
  "    "]

def challengeHTMLTail : List String := [
  "\n",
  "    <title>Verifying you're human</title>\n",
  "  </head>\n",
  "  <body>\n",
  "    <noscript>JavaScript is required to complete this verification.</noscript>\n",
  "    <script type=\"module\" src=\"/__as/challenge.bundle.js\"></script>\n",
  "  </body>\n",
  "</html>\n"]

/-- `assets/index.html`. -/
def challengeHTML : String := textOf (challengeHTMLHead++[metaPlaceholder]++challengeHTMLTail)

def metaTag (id : String) (powDifficulty : ℤ) (origin : String) : String :=
  "<meta name=\"__as_challenge\" data-id=\"" ++ id ++ "\" data-difficulty=\"" ++
    toString powDifficulty ++ "\" data-origin=\"" ++ origin ++ "\">"

/-- `HandleChallenge` with the `origin` parameter of the query. -/
def handleChallenge (st : State) (id origin : String) (now : Time) : State × String :=
  let st := {st with issuer := st.issuer.newChallengeID id now}
  let origin := if origin = "" then "/" else origin
  (st,replaceAll challengeHTML metaPlaceholder (metaTag id st.issuer.powDifficulty origin))

end Page

section ProofOfWork

/-- `bits.LeadingZeros8`. -/
def leadingZeros8 (b : UInt8) : ℕ := 8-b.toNat.size

def leadingZeroBits : Bytes → ℕ
  | [] => 0
  | b::bs => if leadingZeros8 b < 8 then leadingZeros8 b else leadingZeros8 b+leadingZeroBits bs

def verifyPoW (sha256 : Bytes → Bytes) (challengeID solution : String) (difficulty : ℤ) : Bool :=
  leadingZeroBits (sha256 (utf8 (challengeID ++ solution))) ≥ difficulty

end ProofOfWork

section Verify

structure VerifyRequest where
  powSolution : String := ""
  fingerprintReport : Fingerprint.FingerprintReport := {}
  challengeID : String := ""
  originURL : String := ""

def verifyRequest : Decoder VerifyRequest := object [
  ("pow_solution",field (·.powSolution) (fun r v => {r with powSolution := v}) string),
  ("fingerprint_report",field (·.fingerprintReport) (fun r v => {r with fingerprintReport := v})
    Fingerprint.fingerprintReport),
  ("challenge_id",field (·.challengeID) (fun r v => {r with challengeID := v}) string),
  ("origin_url",field (·.originURL) (fun r v => {r with originURL := v}) string)]

/-- What `HandleVerify` reads of a request. -/
structure VerifyHTTP where
  method : String
  body : Option Json
  remoteAddr : String
  userAgent : String

def decodeBody (body : Option Json) : Option VerifyRequest := body.bind fun j => verifyRequest j {}

structure Cookie where
  name : String
  value : String
  deriving DecidableEq, Repr

def defaultCookieName : String := "__as_pass"

inductive Answer
  | error (status : ℕ) (text : String)
  | tooHigh (score : ℤ) (reasons : List String)
  | pass (cookie : Cookie) (target : String)
  deriving DecidableEq, Repr

def Answer.status : Answer → ℕ
  | .error status _ => status
  | .tooHigh _ _ => 403
  | .pass _ _ => 302

def Answer.cookies : Answer → List Cookie
  | .pass cookie _ => [cookie]
  | _ => []

def clientIP (remoteAddr : String) : String := HostPort.hostOf remoteAddr

/-- The URL that `http.Redirect` gets for a passed client.  What it writes as `Location` (a relative
path is resolved against `/__as/`, cleaned and escaped) is not modelled. -/
def redirectTarget (originURL : String) : String := if originURL = "" then "/" else originURL

variable (sha256 : Bytes → Bytes) (J : Jwt)

/-- `HandleVerify` after the ID was accepted: the answer, and the token it signed. -/
def afterValidation (svc : Service) (powDifficulty : ℤ) (r : VerifyHTTP) (req : VerifyRequest)
    (now : Time) : Answer × List String :=
  if !verifyPoW sha256 req.challengeID req.powSolution powDifficulty then
    (.error 400 "invalid proof of work",[])
  else
    match Fingerprint.score req.fingerprintReport with
    | .error _ => (.error 500 "fingerprint scoring error",[])
    | .ok signals =>
      let total := (signals.map Signal.score).sum
      let reasons := (signals.filter fun sig => sig.score > 0).map Signal.reason
      if total ≥ svc.denyThreshold then (.tooHigh total reasons,[])
      else
        match svc.tokenIssuer.issue J now
          { fingerprintHash := req.challengeID
            score := total
            ip := clientIP r.remoteAddr
            ua := r.userAgent
            ja3 := ""
            ja4 := "" } with
        | .error _ => (.error 500 "token issuance failed",[])
        | .ok tok => (.pass ⟨defaultCookieName,tok⟩ (redirectTarget req.originURL),[tok])

/-- `HandleVerify`.  The clock is read at `now` for the ID and at `signedAt` for the token. -/
def handleVerify (svc : Service) (st : State) (r : VerifyHTTP) (now signedAt : Time) :
    State × Answer :=
  if r.method ≠ "POST" then (st,.error 405 "method not allowed")
  else
    match decodeBody r.body with
    | none => (st,.error 400 "bad request")
    | some req =>
      match st.issuer.validateChallengeID req.challengeID now with
      | (false,issuer) => ({st with issuer},.error 400 "invalid or expired challenge_id")
      | (true,issuer) =>
        let (answer,tokens) := afterValidation sha256 J svc issuer.powDifficulty r req signedAt
        ({issuer,tokens := st.tokens++tokens},answer)

/-- The ID with which a request gets past `ValidateChallengeID`. -/
def validatedID (st : State) (r : VerifyHTTP) (now : Time) : Option String :=
  if r.method ≠ "POST" then none
  else (decodeBody r.body).bind fun req =>
    if (st.issuer.validateChallengeID req.challengeID now).1 then some req.challengeID else none

end Verify

end Challenge
end AntiScrapling
