import AntiScrapling.ChallengeRuns
import AntiScrapling.ProxyHandler

/-! From the challenge to the pass: the token that `HandleVerify` sets as a cookie
(`internal/challenge/service.go`) and what the main handler makes of it later
(`cmd/antiscrapling/wire.go`).  The two derive address, user agent and fingerprints of a
request on their own.  Header values are Unicode: a user agent whose bytes are not UTF-8 is
outside of the model. -/
namespace AntiScrapling
namespace PassFlow

open ByteCodec Token Challenge ProxyHandler
open UnicodeText (equalFold)

section Wiring

structure TokenConfig where
  ttl : String
  bindTo : List String

variable (parseDuration : String → Option ℤ) (key : Bytes) (cfg : TokenConfig)

def defaultTTL : ℤ := 24*3600*second

/-- A text that is no duration counts as none. -/
def tokenTTL : ℤ := if cfg.ttl ≠ "" then (parseDuration cfg.ttl).getD defaultTTL else defaultTTL

/-- The issuer and the verifier of `buildDeps`. -/
def tokenIssuer : Issuer := ⟨key,tokenTTL parseDuration cfg,cfg.bindTo⟩

def tokenVerifier : Verifier := ⟨key,cfg.bindTo⟩

/-- The date from which on a token signed at `signedAt` is refused. -/
def expiry (signedAt : Time) : Time := newNumericDate (signedAt+tokenTTL parseDuration cfg)*second

end Wiring

section Tokens

/-- What golang-jwt signs it reads back until its expiry date. -/
def ReadsBack (J : Jwt) (key : Bytes) : Prop :=
  ∀ c s, J.signedString key c = .ok s → s ≠ "" ∧
    ∀ now, now < c.expiresAt*second → J.parseWithClaims key now s = .ok ⟨c,true⟩

theorem issue_signed {J : Jwt} {i : Issuer} {now : Time} {ctx : IssueContext} {s : String}
    (h : i.issue J now ctx = .ok s) : J.signedString i.key (i.claims now ctx) = .ok s := by
  unfold Issuer.issue at h
  cases hsign : J.signedString i.key (i.claims now ctx) with
  | error e => simp [hsign] at h
  | ok signed => simpa [hsign] using h

/-- What `HandleVerify` puts into a token. -/
theorem afterValidation_token {sha256 : Bytes → Bytes} {J : Jwt} {svc : Service} {d : ℤ} {r : VerifyHTTP}
    {req : VerifyRequest} {now : Time} {cookie : Cookie} {target : String}
    (h : (afterValidation sha256 J svc d r req now).1 = .pass cookie target) :
    cookie.name = ProxyHandler.defaultCookieName ∧ ∃ total, svc.tokenIssuer.issue J now
      ⟨req.challengeID,clientIP r.remoteAddr,r.userAgent,"","",total⟩ = .ok cookie.value := by
  unfold afterValidation at h
  split_ifs at h
  cases hs : Fingerprint.score req.fingerprintReport with
  | error e => simp [hs] at h
  | ok signals =>
    simp only [hs] at h
    split_ifs at h
    cases hi : Issuer.issue J svc.tokenIssuer now
        ⟨req.challengeID,clientIP r.remoteAddr,r.userAgent,"","",(signals.map Signal.score).sum⟩ with
    | error e => simp [hi] at h
    | ok tok =>
      simp only [hi,Answer.pass.injEq] at h
      rw [← h.1]
      exact ⟨rfl,_,hi⟩

theorem handleVerify_token {sha256 : Bytes → Bytes} {J : Jwt} {svc : Service} {st : State} {r : VerifyHTTP}
    {now signedAt : Time} {cookie : Cookie} {target : String}
    (h : (handleVerify sha256 J svc st r now signedAt).2 = .pass cookie target) :
    cookie.name = ProxyHandler.defaultCookieName ∧ ∃ id total, svc.tokenIssuer.issue J signedAt
      ⟨id,clientIP r.remoteAddr,r.userAgent,"","",total⟩ = .ok cookie.value := by
  rcases handleVerify_cases sha256 J svc st r now signedAt with ⟨-,hnone,-⟩ | ⟨req,_,-,-,-,-,heq,-⟩
  · rw [h] at hnone
    cases hnone
  · rw [heq] at h
    obtain ⟨hname,total,hissue⟩ := afterValidation_token h
    exact ⟨hname,req.challengeID,total,hissue⟩

end Tokens

section Acceptance

theorem hasValidToken_iff {J : Jwt} {v : Verifier} {t : Time} {r : HttpRequest} {capture : Option Bytes} :
    hasValidToken J v t r capture = true ↔ getCookie r ProxyHandler.defaultCookieName ≠ "" ∧
      ∃ c, v.verify J t (getCookie r ProxyHandler.defaultCookieName)
        ⟨clientIP r.remoteAddr,r.userAgent,"",""⟩ = .ok c := by
  unfold hasValidToken
  by_cases hcookie : getCookie r ProxyHandler.defaultCookieName = ""
  · simp [hcookie]
  · have hctx : (VerifyContext.mk (buildRequestContext r capture).remoteIP
        (Header.get r.header "User-Agent") (buildRequestContext r capture).ja3
        (buildRequestContext r capture).ja4) = ⟨clientIP r.remoteAddr,r.userAgent,"",""⟩ := rfl
    simp only [ne_eq,hcookie,not_false_eq_true,if_true,true_and,hctx]
    cases v.verify J t (getCookie r ProxyHandler.defaultCookieName)
        ⟨clientIP r.remoteAddr,r.userAgent,"",""⟩ <;> simp

theorem boundFields_issued {i : Issuer} {signedAt : Time} {id ip ua : String} {total : ℤ} {ip₁ ua₁ : String} :
    boundFields (i.claims signedAt ⟨id,ip,ua,"","",total⟩) ⟨ip₁,ua₁,"",""⟩ i.bindTo = .ok () ↔
      ("ip" ∈ i.bindTo → ip₁ = ip) ∧ ("ua" ∈ i.bindTo → equalFold ua ua₁ = true) := by
  have hissued (f : Field) (hmem : f.name ∈ i.bindTo) :
      (i.claims signedAt ⟨id,ip,ua,"","",total⟩).get f = (IssueContext.mk id ip ua "" "" total).get f := by
    rw [claims_get,issuedValue,if_pos hmem]
  rw [boundFields_eq_ok]
  constructor
  · intro h
    constructor
    · intro hmem
      have hip := h .ip hmem
      rw [hissued .ip hmem] at hip
      exact (of_decide_eq_true hip).symm
    · intro hmem
      have hua := h .ua hmem
      rwa [hissued .ua hmem] at hua
  · rintro ⟨hip,hua⟩ f hmem
    rw [hissued f hmem]
    cases f with
    | ip => exact decide_eq_true (hip hmem).symm
    | ua => exact hua hmem
    | ja3 => rfl
    | ja4 => rfl

theorem clientIP_join {host port : String} (hhost : HostPort.Plain host) (hport : HostPort.PlainPort port) :
    clientIP (HostPort.joinHostPort host port) = host := HostPort.hostOf_join hhost hport

/-- Until it expires, the cookie of a pass is accepted from the same address and the same
user agent up to case, as far as the policy binds tokens to them.  Another port of the
address makes no difference. -/
theorem pass_accepted_iff (sha256 : Bytes → Bytes) (J : Jwt) (parseDuration : String → Option ℤ)
    (key : Bytes) (cfg : TokenConfig) (denyThreshold : ℤ) (st : State) (r : VerifyHTTP)
    (now signedAt : Time) (cookie : Cookie) (target : String) (hJ : ReadsBack J key)
    (hpass : (handleVerify sha256 J ⟨tokenIssuer parseDuration key cfg,denyThreshold⟩ st r now signedAt).2 =
      .pass cookie target)
    (r' : HttpRequest) (capture : Option Bytes) (t : Time) (ht : t < expiry parseDuration cfg signedAt)
    (hcookie : getCookie r' cookie.name = cookie.value) :
    (hasValidToken J (tokenVerifier key cfg) t r' capture = true ↔
      ("ip" ∈ cfg.bindTo → clientIP r'.remoteAddr = clientIP r.remoteAddr) ∧
        ("ua" ∈ cfg.bindTo → equalFold r.userAgent r'.userAgent = true)) ∧
    ∀ a p p', HostPort.Plain a → HostPort.PlainPort p → HostPort.PlainPort p' →
      r.remoteAddr = HostPort.joinHostPort a p → r'.remoteAddr = HostPort.joinHostPort a p' →
      equalFold r.userAgent r'.userAgent = true →
      hasValidToken J (tokenVerifier key cfg) t r' capture = true := by
  obtain ⟨hname,id,total,hissue⟩ := handleVerify_token hpass
  obtain ⟨hne,hback⟩ := hJ _ _ (issue_signed hissue)
  have hexpires : ((tokenIssuer parseDuration key cfg).claims signedAt
      ⟨id,clientIP r.remoteAddr,r.userAgent,"","",total⟩).expiresAt*second =
        expiry parseDuration cfg signedAt := by
    rw [Issuer.claims,(foldl_bindField_rest _ _ _).2.2.2]
    rfl
  have hparse := hback t (by rw [hexpires]; exact ht)
  rw [hname] at hcookie
  have hiff : hasValidToken J (tokenVerifier key cfg) t r' capture = true ↔
      ("ip" ∈ cfg.bindTo → clientIP r'.remoteAddr = clientIP r.remoteAddr) ∧
        ("ua" ∈ cfg.bindTo → equalFold r.userAgent r'.userAgent = true) := by
    rw [hasValidToken_iff,hcookie]
    constructor
    · rintro ⟨-,c,hverify⟩
      obtain ⟨hparse',hbound⟩ := verify_eq_ok.mp hverify
      have hc := hparse.symm.trans hparse'
      cases hc
      exact boundFields_issued.mp hbound
    · intro h
      exact ⟨hne,_,verify_eq_ok.mpr ⟨hparse,boundFields_issued.mpr h⟩⟩
  refine ⟨hiff,fun a p p' ha hp hp' hr hr' hua => hiff.mpr ⟨fun _ => ?_,fun _ => hua⟩⟩
  rw [hr,hr',clientIP_join ha hp,clientIP_join ha hp']

theorem passJwt_readsBack : ReadsBack passJwt sampleKey := by
  intro c s h
  simp only [passJwt,true_and] at h ⊢
  split_ifs at h with hc
  cases h
  subst hc
  refine ⟨by decide,fun now hnow => ?_⟩
  rw [if_pos ⟨rfl,hnow⟩]

def sampleConfig : TokenConfig := ⟨"1h",["ip","ua"]⟩

def sampleReturn : HttpRequest where
  method := "GET"
  host := "example.com"
  path := some "/"
  header := (StringMap.empty.insert "User-Agent" ["MOZILLA/5.0"]).insert "Cookie" ["__as_pass=" ++ passToken]
  remoteAddr := "192.0.2.1:60000"

theorem sampleReturn_cookie : getCookie sampleReturn "__as_pass" = passToken := by
  have hvalues : passToken.toList.all (fun c => validCookieValueChar c && c ≠ ' ') = true := by
    -- The characters of a literal: `toList` would decode its bytes.
    change (String.ofList _ ++ String.ofList _ ++ String.ofList _ ++ String.ofList _).toList.all _ = true
    simp only [String.toList_append,String.toList_ofList]
    decide +kernel
  exact getCookie_pair rfl (by decide) (by decide) hvalues

theorem pass_accepted_sample :
    hasValidToken passJwt (tokenVerifier sampleKey sampleConfig) (sampleStart+60*second) sampleReturn none =
      true := by
  have hpass : (handleVerify Challenge.sampleSHA256 passJwt
      ⟨tokenIssuer (fun _ => some (3600*second)) sampleKey sampleConfig,80⟩ sampleLedger.state sampleVerify
      (sampleStart+second) (sampleStart+second)).2 = .pass ⟨"__as_pass",passToken⟩ "/" :=
    sampleVerify_pass
  refine (pass_accepted_iff Challenge.sampleSHA256 passJwt (fun _ => some (3600*second)) sampleKey sampleConfig 80
    sampleLedger.state sampleVerify _ _ _ _ passJwt_readsBack hpass sampleReturn none _ (by decide)
    sampleReturn_cookie).1.mpr ⟨fun _ => ?_,fun _ => by decide⟩
  decide

end Acceptance

end PassFlow
end AntiScrapling
