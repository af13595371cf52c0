import AntiScrapling.ProxyServer

/-! Where accepted pass tokens come from.  A token that this server signed and that is accepted
was set as the answer to a solved challenge, and comes from the client that solved it.  Tokens
from elsewhere (the command `token issue`, an earlier process with the same key) are accepted
as well. -/
namespace AntiScrapling
namespace ProxyServer

open ByteCodec Token Challenge
open UnicodeText (utf8 equalFold)

section Tokens
variable (S : Server)

theorem hasValidToken_task (now : Time) (t : Task) : S.hasValidToken now t = true ↔
    t.presented ≠ "" ∧ ∃ claims, S.verifier.verify S.J now t.presented t.verifyContext = .ok claims := by
  cases t with
  | main q => exact PassFlow.hasValidToken_iff
  | api req synthetic => exact DecideHandler.hasValidToken_iff S.J S.verifier now req

theorem boundFields_client {i : Issuer} {signedAt : Time} {ctx : IssueContext} {current : VerifyContext}
    (h : boundFields (i.claims signedAt ctx) current i.bindTo = .ok ()) :
    ("ip" ∈ i.bindTo → current.ip = ctx.ip) ∧ ("ua" ∈ i.bindTo → equalFold ctx.ua current.ua = true) := by
  rw [boundFields_eq_ok] at h
  refine ⟨fun hmem => ?_,fun hmem => ?_⟩
  · have hip := h .ip hmem
    rw [claims_get,issuedValue,if_pos (show Field.ip.name ∈ i.bindTo from hmem)] at hip
    exact (of_decide_eq_true hip).symm
  · have hua := h .ua hmem
    rwa [claims_get,issuedValue,if_pos (show Field.ua.name ∈ i.bindTo from hmem)] at hua

theorem accepted_issued {J : Jwt} {i : Issuer} {v : Verifier} (hkey : v.key = i.key) (hbind : v.bindTo = i.bindTo)
    (hJ : ∀ c s, J.signedString i.key c = .ok s → J.RoundTrips i.key c) {signedAt now : Time} {ctx : IssueContext}
    {current : VerifyContext} {s : String} {claims : TokenClaims} (hissue : i.issue J signedAt ctx = .ok s)
    (hverify : v.verify J now s current = .ok claims) :
    now < newNumericDate (signedAt+i.ttl)*second ∧ ("ip" ∈ i.bindTo → current.ip = ctx.ip) ∧
      ("ua" ∈ i.bindTo → equalFold ctx.ua current.ua = true) := by
  have hsigned := PassFlow.issue_signed hissue
  obtain ⟨s',hs',hread,hexpired⟩ := hJ _ _ hsigned
  obtain rfl : s = s' := Except.ok.inj (hsigned.symm.trans hs')
  obtain ⟨hparse,hbound⟩ := verify_eq_ok.mp hverify
  rw [hkey] at hparse
  rw [hbind] at hbound
  have hexpires : (i.claims signedAt ctx).expiresAt = newNumericDate (signedAt+i.ttl) := by
    rw [Issuer.claims,(foldl_bindField_rest _ _ _).2.2.2]
  rw [hexpires] at hread hexpired
  by_cases hnow : now < newNumericDate (signedAt+i.ttl)*second
  · cases (hread now hnow).symm.trans hparse
    exact ⟨hnow,boundFields_client hbound⟩
  · obtain ⟨e,he⟩ := hexpired now (not_lt.mp hnow)
    cases he.symm.trans hparse

end Tokens

section Origin
variable (S : Server)

def Server.signed (q : Incoming) (req : VerifyRequest) (signedAt : Time) : List String :=
  (afterValidation S.sha256 S.J S.service S.powDifficulty q.verifyHTTP req signedAt).2

/-- This server has signed the token since it was started. -/
def SignedHere (A : Set Fact) (token : String) : Prop :=
  ∃ q req issued now signedAt, Fact.verified q req issued now signedAt ∈ A ∧ token ∈ S.signed q req signedAt

/-- A challenge ID that was drawn, its solution at most ten minutes later, and the answer that
sets the token as a cookie. -/
structure EarnedBy (A : Set Fact) (token : String) (q : Incoming) (req : VerifyRequest) (issued now signedAt : Time) :
    Prop where
  verified : Fact.verified q req issued now signedAt ∈ A
  drawn : Fact.drew req.challengeID issued ∈ A
  young : now-issued ≤ challengeTTL
  body : decodeBody q.body = some req
  work : S.powDifficulty ≤ leadingZeroBits (S.sha256 (utf8 (req.challengeID ++ req.powSolution)))
  score : ∃ signals, Fingerprint.score req.fingerprintReport = .ok signals ∧
    (signals.map Signal.score).sum < S.service.denyThreshold
  pass : ∃ target, S.verifyAnswer q req signedAt = .pass ⟨Challenge.defaultCookieName,token⟩ target

namespace Phase

def solution : Phase → Option (Incoming × VerifyRequest)
  | .finding q req => some (q,req)
  | .found q req _ => some (q,req)
  | .aged q req _ _ => some (q,req)
  | .valid q req _ _ => some (q,req)
  | .verified q req _ _ _ => some (q,req)
  | _ => none

/-- The ID that a verify request found, with its issue time. -/
def foundID : Phase → Option (String × Time)
  | .found _ req issued => some (req.challengeID,issued)
  | .aged _ req issued _ => some (req.challengeID,issued)
  | .valid _ req issued _ => some (req.challengeID,issued)
  | .verified _ req issued _ _ => some (req.challengeID,issued)
  | _ => none

/-- The issue time of an accepted ID, and the time at which it was accepted. -/
def acceptedAt : Phase → Option (Time × Time)
  | .valid _ _ issued now => some (issued,now)
  | .verified _ _ issued now _ => some (issued,now)
  | _ => none

end Phase

def IdsSound (A : Set Fact) (s : Shared) : Prop := ∀ id issued, (id,issued) ∈ s.ids.entries → Fact.drew id issued ∈ A

structure PassSound (A : Set Fact) (l : Phase) : Prop where
  drawn : ∀ q id issued, l = .storing q id issued → Fact.drew id issued ∈ A
  decoded : ∀ q req, l.solution = some (q,req) → decodeBody q.body = some req
  found : ∀ id issued, l.foundID = some (id,issued) → Fact.drew id issued ∈ A
  young : ∀ issued now, l.acceptedAt = some (issued,now) → now-issued ≤ challengeTTL
  checked : ∀ c, l.asked = some c → c.token = S.hasValidToken c.checkedAt c.task

variable {S} {A B : Set Fact}

theorem PassSound.mono (hAB : A ⊆ B) {l : Phase} (h : PassSound S A l) : PassSound S B l where
  drawn q id issued hl := hAB (h.drawn q id issued hl)
  decoded := h.decoded
  found id issued hl := hAB (h.found id issued hl)
  young := h.young
  checked := h.checked

/-- A phase that belongs neither to the challenge endpoints nor to a decision. -/
theorem PassSound.of_outside {l : Phase} (hstoring : ∀ q id issued, l ≠ .storing q id issued)
    (hsolution : l.solution = none) (hfound : l.foundID = none) (haccepted : l.acceptedAt = none)
    (hasked : l.asked = none) : PassSound S A l where
  drawn q id issued hl := absurd hl (hstoring q id issued)
  decoded q req h := by simp [hsolution] at h
  found id issued h := by simp [hfound] at h
  young issued now h := by simp [haccepted] at h
  checked c h := by simp [hasked] at h

theorem PassSound.of_asked {l l' : Phase} (h : PassSound S A l) (hstoring : ∀ q id issued, l' ≠ .storing q id issued)
    (hsolution : l'.solution = none) (hfound : l'.foundID = none) (haccepted : l'.acceptedAt = none)
    (hasked : l'.asked = l.asked) : PassSound S A l' where
  drawn q id issued hl := absurd hl (hstoring q id issued)
  decoded q req h := by simp [hsolution] at h
  found id issued h := by simp [hfound] at h
  young issued now h := by simp [haccepted] at h
  checked c hc := h.checked c (hasked ▸ hc)

theorem passSound_looking (t : Task) (now : Time) : PassSound S A (.looking ⟨t,now,S.hasValidToken now t⟩) where
  drawn _ _ _ hl := by cases hl
  decoded _ _ h := by cases h
  found _ _ h := by cases h
  young _ _ h := by cases h
  checked c hc := by
    obtain rfl := Option.some.inj hc
    rfl

theorem IdsSound.of_subset {s s' : Shared} (h : IdsSound A s) (hids : s'.ids.entries ⊆ s.ids.entries) :
    IdsSound A s' := fun id issued hmem => h id issued (hids hmem)

theorem IdsSound.get {s s' : Shared} (h : IdsSound A s) {id : String} {issued : Option Time}
    (hget : s.ids.get id = (issued,s'.ids)) : IdsSound A s' := by
  refine h.of_subset fun e he => LruCache.mem_of_mem_get (k := id) ?_
  rwa [hget]

theorem IdsSound.remove {s s' : Shared} (h : IdsSound A s) {id : String} (hids : s'.ids = s.ids.remove id) :
    IdsSound A s' := by
  refine h.of_subset fun e he => ?_
  rw [hids] at he
  exact (LruCache.mem_remove.mp he).1

theorem pass_evidence : Pool.Evidence S.step Phase.shows (fun _ _ _ => True) IdsSound (PassSound S) where
  stable := step_shows
  mono_shared hAB h id issued hmem := hAB (h id issued hmem)
  mono_thread hAB h := h.mono hAB
  next {A s s' l l' e} hs hl _ hstep := by
    have hA : A ⊆ A ∪ l'.shows := Set.subset_union_left
    have hs' : IdsSound (A ∪ l'.shows) s := fun id issued hmem => hA (hs id issued hmem)
    have hl' : PassSound S (A ∪ l'.shows) l := hl.mono hA
    cases step_cases S hstep with
    | arrive q =>
      refine ⟨hs',?_⟩
      rcases dispatch_cases q with h | ⟨_,h⟩ | ⟨req,hreq,h⟩ | h | h <;> rw [h]
      case inr.inr.inl =>
        refine ⟨by simp,fun q' req' h => ?_,by simp [Phase.foundID],by simp [Phase.acceptedAt],
          by simp [Phase.asked,Phase.outcome]⟩
        cases h
        exact hreq
      all_goals exact .of_outside (by simp) rfl rfl rfl rfl
    | call r =>
      refine ⟨hs',?_⟩
      rcases dispatchCall_cases S r with ⟨_,h⟩ | ⟨_,_,h⟩ <;> rw [h] <;>
        exact .of_outside (by simp) rfl rfl rfl rfl
    | draw q id now =>
      refine ⟨hs',fun q' id' issued h => ?_,by simp [Phase.solution],by simp [Phase.foundID],
        by simp [Phase.acceptedAt],by simp [Phase.asked,Phase.outcome]⟩
      cases h
      exact .inr rfl
    | store q id issued =>
      refine ⟨fun id' issued' hmem => ?_,.of_outside (by simp) rfl rfl rfl rfl⟩
      rcases LruCache.mem_of_mem_add hmem with hnew | ⟨hold,-⟩
      · cases hnew
        exact hl'.drawn q id issued rfl
      · exact hs' id' issued' hold
    | missing q req ids h =>
      exact ⟨hs'.get h,.of_outside (by simp) rfl rfl rfl rfl⟩
    | find q req issued ids h =>
      have hmem : (req.challengeID,issued) ∈ s.ids.entries :=
        LruCache.mem_of_lookup (by rw [← LruCache.get_fst,h])
      refine ⟨hs'.get h,by simp,hl'.decoded,fun id' issued' h => ?_,by simp [Phase.acceptedAt],
        by simp [Phase.asked,Phase.outcome]⟩
      cases h
      exact hs' _ _ hmem
    | age q req issued now =>
      exact ⟨hs',by simp,hl'.decoded,hl'.found,by simp [Phase.acceptedAt],by simp [Phase.asked,Phase.outcome]⟩
    | expire q req issued now h =>
      exact ⟨hs'.remove rfl,.of_outside (by simp) rfl rfl rfl rfl⟩
    | retire q req issued now h =>
      refine ⟨hs'.remove rfl,by simp,hl'.decoded,hl'.found,fun issued' now' heq => ?_,
        by simp [Phase.asked,Phase.outcome]⟩
      cases heq
      simpa [expired] using h
    | sign q req issued now signedAt =>
      exact ⟨hs',by simp,hl'.decoded,hl'.found,hl'.young,by simp [Phase.asked,Phase.outcome]⟩
    | verify t now => exact ⟨hs',passSound_looking t now⟩
    | check c e now =>
      refine ⟨hs',?_⟩
      rcases afterCheck_cases c e now with h | h | ⟨d,-,-,h⟩ <;> rw [h] <;>
        exact (h ▸ hl').of_asked (by simp) rfl rfl rfl rfl
    | _ => exact ⟨hs',hl'.of_asked (by simp) rfl rfl rfl rfl⟩

theorem shows_verified {l : Phase} {q : Incoming} {req : VerifyRequest} {issued now signedAt : Time}
    (h : Fact.verified q req issued now signedAt ∈ l.shows) : l = .verified q req issued now signedAt := by
  cases l with
  | storing | page | adding => cases h
  | verified =>
    cases h
    rfl
  | _ =>
    obtain ⟨o,-,hf⟩ := h
    unfold Outcome.facts at hf
    split at hf <;> cases hf

theorem run_passSound {cacheSize : ℤ} {es : List (ℕ × Event)} {p : Pool ℕ Shared Phase}
    (hrun : Steps (Pool.Moves S.step) (start cacheSize) es p) (i : ℕ) :
    PassSound S (p.Shown Phase.shows) (p.threads i) :=
  (pass_evidence.run (hrun.mono fun _ _ _ hmove => ⟨hmove,trivial⟩) (fun _ _ hmem => absurd hmem List.not_mem_nil)
    fun _ => .of_outside (by simp [start]) rfl rfl rfl rfl).2 i

/-- The server signs a token only for a solved challenge. -/
theorem SignedHere.earned {cacheSize : ℤ} {es : List (ℕ × Event)} {p : Pool ℕ Shared Phase}
    (hrun : Steps (Pool.Moves S.step) (start cacheSize) es p) {token : String}
    (h : SignedHere S (p.Shown Phase.shows) token) :
    ∃ q req issued now signedAt, EarnedBy S (p.Shown Phase.shows) token q req issued now signedAt := by
  obtain ⟨q,req,issued,now,signedAt,⟨j,hj⟩,htoken⟩ := h
  have hsound := run_passSound hrun j
  rw [shows_verified hj] at hsound
  obtain ⟨target,hpass⟩ := afterValidation_signed S.sha256 S.J htoken
  obtain ⟨hpow,hscore⟩ := afterValidation_pass S.sha256 S.J hpass
  exact ⟨q,req,issued,now,signedAt,⟨j,hj⟩,hsound.found req.challengeID issued rfl,hsound.young issued now rfl,
    hsound.decoded q req rfl,hpow,hscore,target,hpass⟩

/-- In every run: a token that this server has signed, and with which it lets a request through,
was set as the answer to a solved challenge.  It has not expired, and as far as tokens are bound
to address and user agent, the request has those of the client that solved the challenge. -/
theorem token_earned (S : Server) (parseDuration : String → Option ℤ) (key : Bytes) (cfg : PassFlow.TokenConfig)
    (hissuer : S.service.tokenIssuer = PassFlow.tokenIssuer parseDuration key cfg)
    (hverifier : S.verifier = PassFlow.tokenVerifier key cfg)
    (hJ : ∀ c s, S.J.signedString key c = .ok s → S.J.RoundTrips key c)
    {cacheSize : ℤ} {es : List (ℕ × Event)} {p : Pool ℕ Shared Phase}
    (hrun : Steps (Pool.Moves S.step) (start cacheSize) es p)
    {i : ℕ} {c : Asked} (hc : (p.threads i).asked = some c) (htoken : c.token = true)
    (hsigned : SignedHere S (p.Shown Phase.shows) c.task.presented) :
    ∃ q req issued now signedAt, EarnedBy S (p.Shown Phase.shows) c.task.presented q req issued now signedAt ∧
      c.checkedAt < PassFlow.expiry parseDuration cfg signedAt ∧
      ("ip" ∈ cfg.bindTo → c.task.verifyContext.ip = clientIP q.request.remoteAddr) ∧
      ("ua" ∈ cfg.bindTo → equalFold q.request.userAgent c.task.verifyContext.ua = true) := by
  obtain ⟨q,req,issued,now,signedAt,hearned⟩ := hsigned.earned hrun
  obtain ⟨target,hpass⟩ := hearned.pass
  obtain ⟨-,total,hissue⟩ := PassFlow.afterValidation_token hpass
  have hvalid := (run_passSound hrun i).checked c hc
  rw [htoken] at hvalid
  obtain ⟨-,claims,hverify⟩ := (hasValidToken_task S c.checkedAt c.task).mp hvalid.symm
  rw [hissuer] at hissue
  rw [hverifier] at hverify
  exact ⟨q,req,issued,now,signedAt,hearned,accepted_issued (v := PassFlow.tokenVerifier key cfg)
    (i := PassFlow.tokenIssuer parseDuration key cfg) rfl rfl hJ hissue hverify⟩

end Origin

section Sample

/-- SHA-256 on the sample solution. -/
def challengeServer : Server := {sampleServer with sha256 := Challenge.sampleSHA256}

def challengeIncoming : Incoming :=
  { sampleIncoming with
    request := ⟨"GET","example.com",some "/__as/challenge",.empty,"192.0.2.1:52310"⟩
    escapedPath := "/__as/challenge" }

def verifyIncoming : Incoming where
  request := ⟨"POST","example.com",some "/__as/verify",StringMap.empty.insert "User-Agent" ["Mozilla/5.0"],
    "192.0.2.1:52311"⟩
  escapedPath := "/__as/verify"
  capture := none
  body := sampleVerify.body
  url := "/__as/verify"
  requestURI := "/__as/verify"

def returnIncoming : Incoming := {sampleIncoming with request := PassFlow.sampleReturn}

def drawEvents : List Event := [.arrive challengeIncoming,.draw sampleID sampleStart,.store]

def solveEvents : List Event :=
  [.arrive verifyIncoming,.find,.age (sampleStart+second),.retire,.sign (sampleStart+second)]

theorem passJwt_roundTrips (c : TokenClaims) (s : String) (h : passJwt.signedString sampleKey c = .ok s) :
    passJwt.RoundTrips sampleKey c := by
  refine ⟨s,h,(PassFlow.passJwt_readsBack c s h).2,fun now hnow => ?_⟩
  simp only [passJwt,true_and] at h ⊢
  split_ifs at h with hc
  subst hc
  rw [if_neg fun hparse => absurd hparse.2 (not_lt.mpr hnow)]
  exact ⟨_,rfl⟩

/-- A challenge, its solution a second later, and a request with the cookie a minute later. -/
def passSchedule : List (ℕ × Event) :=
  drawEvents.map (fun e => (0,e))++solveEvents.map (fun e => (1,e))++
    [(2,.arrive returnIncoming),(2,.verify (sampleStart+60*second))]

def signedBy (S : Server) : Phase → List String
  | .verified q req _ _ signedAt => S.signed q req signedAt
  | _ => []

theorem signedHere_of_mem {S : Server} {p : Pool ℕ Shared Phase} {i : ℕ} {token : String}
    (h : token ∈ signedBy S (p.threads i)) : SignedHere S (p.Shown Phase.shows) token := by
  cases hphase : p.threads i with
  | verified q req issued now signedAt =>
    rw [hphase] at h
    exact ⟨q,req,issued,now,signedAt,⟨i,by rw [hphase]; rfl⟩,h⟩
  | _ =>
    rw [hphase] at h
    cases h

theorem passSchedule_played :
    ((Pool.play challengeServer.step (start 100) passSchedule).map fun p =>
      (signedBy challengeServer (p.threads 1),(p.threads 2).asked.map fun c => (c.task.presented,c.token))) =
      some ([passToken],some (passToken,true)) := by
  decide +kernel

theorem token_earned_minute : ∃ (p : Pool ℕ Shared Phase) (c : Asked), (p.threads 2).asked = some c ∧
    c.token = true ∧ ∃ q req issued now signedAt,
      EarnedBy challengeServer (p.Shown Phase.shows) c.task.presented q req issued now signedAt ∧
      c.checkedAt < PassFlow.expiry (fun _ => some (3600*second)) PassFlow.sampleConfig signedAt := by
  obtain ⟨p,hp,hseen⟩ := Option.map_eq_some_iff.mp passSchedule_played
  obtain ⟨hsigned,hasked⟩ := Prod.mk.inj hseen
  obtain ⟨c,hc,hpair⟩ := Option.map_eq_some_iff.mp hasked
  obtain ⟨hpresented,htoken⟩ := Prod.mk.inj hpair
  have hrun := Pool.steps_play (.refl : Steps (Pool.Moves challengeServer.step) (start 100) [] _) hp
  have hhere : SignedHere challengeServer (p.Shown Phase.shows) c.task.presented :=
    signedHere_of_mem (i := 1) (by rw [hsigned,hpresented]; exact List.mem_singleton_self _)
  obtain ⟨q,req,issued,now,signedAt,hearned,hexpiry,-⟩ := token_earned challengeServer
    (fun _ => some (3600*second)) sampleKey PassFlow.sampleConfig rfl rfl passJwt_roundTrips hrun hc htoken hhere
  exact ⟨p,c,hc,htoken,q,req,issued,now,signedAt,hearned,hexpiry⟩

end Sample

end ProxyServer
end AntiScrapling
