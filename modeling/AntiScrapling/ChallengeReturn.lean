import AntiScrapling.ChallengeClient
import AntiScrapling.UrlPath

/-! The way of a challenged request: the redirect of the main handler
(`cmd/antiscrapling/wire.go`), the page and the URLs that it and its script use
(`internal/challenge`, `web/challenge/src`), and the way back.  The routes are spelled in
the mux, in the page and in the script. -/
namespace AntiScrapling
namespace Challenge

open ByteCodec Token HtmlTags
open UnicodeText (utf8)

section Routes

/-- The handlers of the main mux; `main` is the one that decides. -/
inductive Handler
  | challenge | verify | bundle | beacon | sw | main
  deriving DecidableEq, Repr

/-- The segments of an escaped path as the mux compares them: each is unescaped by itself. -/
def muxSegments (escapedPath : String) : List Bytes :=
  (((utf8 escapedPath).drop 1).splitOn 47).map fun segment => (UrlPath.unescape segment).getD segment

def muxPatterns : List (List String × Handler) := [
  (["__as","challenge"],.challenge),(["__as","verify"],.verify),(["__as","bundle.js"],.bundle),
  (["__as","beacon"],.beacon),(["__as","sw.js"],.sw)]

/-- The handler that `buildMainHandler` registers for an escaped path that the mux has cleaned. -/
def muxHandler (escapedPath : String) : Handler :=
  ((muxPatterns.find? fun p => p.1.map utf8 = muxSegments escapedPath).map Prod.snd).getD .main

/-- An escaped slash does not part segments. -/
example : muxHandler "/__as/verif%79" = .verify ∧ muxHandler "/__as%2Fverify" = .main := by decide +kernel

/-- The endpoints in the client code: `main.ts`, `behavior.ts` and `serviceworker.ts`. -/
def verifyEndpoint : String := "/__as/verify"
def beaconEndpoint : String := "/__as/beacon"
def serviceWorkerURL : String := "/__as/sw.js"

def scriptSources (page : String) : List String :=
  (tags page).filterMap fun tag =>
    if !tag.closing && tag.name == "script".toList then (tag.attribute "src").map String.ofList else none

def pageURLs (page : String) : List String :=
  scriptSources page++[verifyEndpoint,beaconEndpoint,serviceWorkerURL]

end Routes

section Return

structure NetUrl where
  queryEscape : String → String
  queryGet : String → String → String
  inverts : ∀ u, queryGet ("origin=" ++ queryEscape u) "origin" = u

variable (N : NetUrl) (P : Platform)

def challengePath : String := "/__as/challenge"

/-- The query of the redirect for the request URI `u`. -/
def challengeQuery (u : String) : String := "origin=" ++ N.queryEscape u

/-- The `Location` of the answer to a challenged request. -/
def challengeLocation (u : String) : String := challengePath ++ "?" ++ challengeQuery N u

def splitQuery (location : String) : String × String :=
  (String.ofList (location.toList.takeWhile (· ≠ '?')),
    String.ofList ((location.toList.dropWhile (· ≠ '?')).drop 1))

theorem splitQuery_location (u : String) :
    splitQuery (challengeLocation N u) = (challengePath,challengeQuery N u) := by
  have hchars : (challengeLocation N u).toList = challengePath.toList++ '?'::(challengeQuery N u).toList := by
    simp [challengeLocation]
  have hpath : ∀ c ∈ challengePath.toList, decide (c ≠ '?') = true :=
    List.all_eq_true.mp (by decide)
  rw [splitQuery,hchars,List.takeWhile_append_of_pos hpath,List.dropWhile_append_of_pos hpath]
  simp

def challengePage (st : State) (id u : String) (now : Time) : String :=
  (handleChallenge st id (N.queryGet (splitQuery (challengeLocation N u)).2 "origin") now).2

/-- What the client code posts, once it has a solution and a fingerprint. -/
def clientPayload (page : String) (solution : PowSolution) (report : Json) : Json :=
  verifyPayload solution report (readChallengeParams P page).challengeID

/-- The challenge leads back to `u`: no URL on the way is decided about, and the answer
carries `u`, so that a pass redirects to it. -/
structure LeadsBack (st : State) (id u : String) (now : Time) : Prop where
  redirect : muxHandler (splitQuery (challengeLocation N u)).1 = .challenge
  served : ∀ url ∈ pageURLs (challengePage N st id u now), muxHandler url ≠ .main
  carries : ∀ solution report,
    memberOf (clientPayload P (challengePage N st id u now) solution report) "origin_url" = some (.str u)
  returns : ∀ sha256 J svc st' remoteAddr userAgent solution report verified signed cookie target,
    (handleVerify sha256 J svc st' ⟨"POST",
      some (clientPayload P (challengePage N st id u now) solution report),remoteAddr,userAgent⟩
        verified signed).2 = .pass cookie target → target = u

theorem origin_not_posted (page : String) (solution : PowSolution) (report : Json) :
    memberOf (clientPayload P page solution report) "origin_url" = none := rfl

/-- No challenge leads back. -/
theorem never_leads_back (st : State) (id u : String) (now : Time) : ¬ LeadsBack N P st id u now := by
  intro h
  have hposted := h.carries ⟨0,"",0,0⟩ .null
  rw [origin_not_posted] at hposted
  cases hposted

theorem lex_tail : lex {} (challengeHTMLTail.flatMap String.toList) = ⟨.data,[
    {name := "title".toList},{closing := true, name := "title".toList},
    {closing := true, name := "head".toList},{name := "body".toList},
    {name := "noscript".toList},{closing := true, name := "noscript".toList},
    {name := "script".toList, attributes := [("type".toList,"module".toList),
      ("src".toList,"/__as/challenge.bundle.js".toList)]},{closing := true, name := "script".toList},
    {closing := true, name := "body".toList},{closing := true, name := "html".toList}]⟩ := by
  change lex {} ([String.ofList _,String.ofList _,String.ofList _,String.ofList _,String.ofList _,
    String.ofList _,String.ofList _,String.ofList _].flatMap String.toList) = _
  simp only [List.flatMap_cons,List.flatMap_nil,String.toList_ofList]
  decide +kernel

theorem scriptSources_page {st : State} {id u : String} (now : Time) (hid : '"' ∉ id.toList)
    (hu : '"' ∉ u.toList) :
    scriptSources (challengePage N st id u now) = ["/__as/challenge.bundle.js"] := by
  have hpage : challengePage N st id u now = (handleChallenge st id u now).2 := by
    rw [challengePage,splitQuery_location,challengeQuery,N.inverts]
  rw [scriptSources,hpage,tags_page now hid hu,lex_tail,List.filterMap_append,List.filterMap_append]
  rfl

/-- A query that escapes nothing. -/
def sampleNetUrl : NetUrl where
  queryEscape u := u
  queryGet query _ := String.ofList (query.toList.drop 7)
  inverts u := by
    rw [String.toList_append,List.drop_left' (by decide),String.ofList_toList]

/-- The script of the challenge page is under a path that the mux does not know, so that it
goes the way of the challenged request itself. -/
theorem challenge_script_decided :
    pageURLs (challengePage sampleNetUrl (Ledger.start 4 sampleStart).state sampleID "/shop?page=2" sampleStart) =
      ["/__as/challenge.bundle.js","/__as/verify","/__as/beacon","/__as/sw.js"] ∧
    muxHandler "/__as/challenge.bundle.js" = .main ∧
    ∀ P solution report, memberOf (clientPayload P (challengePage sampleNetUrl
      (Ledger.start 4 sampleStart).state sampleID "/shop?page=2" sampleStart) solution report)
        "origin_url" = none := by
  refine ⟨?_,by decide +kernel,fun _ _ _ => rfl⟩
  rw [pageURLs,scriptSources_page sampleNetUrl sampleStart (by decide) (by decide)]
  rfl

end Return

end Challenge
end AntiScrapling
