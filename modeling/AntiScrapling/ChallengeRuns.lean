import AntiScrapling.ChallengeService
import AntiScrapling.Runs
import Mathlib.Data.List.Perm.Subperm

/-! Whole runs of the challenge endpoints, one request after the other.
A ledger records, beside the state of the service, what happened so far. -/
namespace AntiScrapling
namespace Challenge

open ByteCodec Token
open UnicodeText (utf8)

section Answers
variable (sha256 : Bytes → Bytes) (J : Jwt)

/-- A pass needs the proof of work and a low score. -/
theorem afterValidation_pass {svc : Service} {d : ℤ} {r : VerifyHTTP} {req : VerifyRequest} {now : Time}
    {cookie : Cookie} {target : String}
    (h : (afterValidation sha256 J svc d r req now).1 = .pass cookie target) :
    d ≤ leadingZeroBits (sha256 (utf8 (req.challengeID ++ req.powSolution))) ∧
      ∃ signals, Fingerprint.score req.fingerprintReport = .ok signals ∧
        (signals.map Signal.score).sum < svc.denyThreshold := by
  unfold afterValidation at h
  split_ifs at h with hpow
  have hbits : d ≤ leadingZeroBits (sha256 (utf8 (req.challengeID ++ req.powSolution))) := by
    simpa [verifyPoW] using hpow
  refine ⟨hbits,?_⟩
  cases hs : Fingerprint.score req.fingerprintReport with
  | error e => simp [hs] at h
  | ok signals =>
    refine ⟨signals,rfl,?_⟩
    simp only [hs] at h
    split_ifs at h with htotal
    exact not_le.mp htotal

theorem afterValidation_tokens (svc : Service) (d : ℤ) (r : VerifyHTTP) (req : VerifyRequest)
    (now : Time) :
    (afterValidation sha256 J svc d r req now).2.length =
      (afterValidation sha256 J svc d r req now).1.cookies.length := by
  unfold afterValidation
  split_ifs
  · rfl
  · cases Fingerprint.score req.fingerprintReport with
    | error e => rfl
    | ok signals =>
      simp only
      split_ifs
      · rfl
      · cases Issuer.issue J svc.tokenIssuer now _ <;> rfl

theorem afterValidation_signed {svc : Service} {d : ℤ} {r : VerifyHTTP} {req : VerifyRequest} {now : Time} {tok : String}
    (h : tok ∈ (afterValidation sha256 J svc d r req now).2) :
    ∃ target, (afterValidation sha256 J svc d r req now).1 = .pass ⟨defaultCookieName,tok⟩ target := by
  unfold afterValidation at h ⊢
  split_ifs at h ⊢
  · cases h
  · cases hs : Fingerprint.score req.fingerprintReport with
    | error e => simp [hs] at h
    | ok signals =>
      simp only [hs] at h ⊢
      split_ifs at h ⊢
      · cases h
      · cases hi : Issuer.issue J svc.tokenIssuer now
            ⟨req.challengeID,clientIP r.remoteAddr,r.userAgent,"","",(signals.map Signal.score).sum⟩ with
        | error e => simp [hi] at h
        | ok tok' =>
          simp only [hi,List.mem_singleton] at h ⊢
          exact ⟨_,by rw [h]⟩

theorem validateChallengeID_powDifficulty (ci : ListIssuer) (id : String) (now : Time) :
    (ci.validateChallengeID id now).2.powDifficulty = ci.powDifficulty := by
  unfold ChallengeIssuer.validateChallengeID
  split
  · rfl
  · split_ifs <;> rfl

/-- Everything that a verify request can do: it fails before an ID is accepted,
or it uses up an ID of the store and gives the answer of the later checks. -/
theorem handleVerify_cases (svc : Service) (st : State) (r : VerifyHTTP) (now signedAt : Time) :
    (validatedID st r now = none ∧ (handleVerify sha256 J svc st r now signedAt).2.cookies = [] ∧
      (handleVerify sha256 J svc st r now signedAt).1.tokens = st.tokens ∧
      (handleVerify sha256 J svc st r now signedAt).1.issuer.powDifficulty =
        st.issuer.powDifficulty ∧
      ∀ e ∈ (handleVerify sha256 J svc st r now signedAt).1.issuer.ids.entries,
        e ∈ st.issuer.ids.entries) ∨
    ∃ req issued, decodeBody r.body = some req ∧ validatedID st r now = some req.challengeID ∧
      (req.challengeID,issued) ∈ st.issuer.ids.entries ∧ now-issued ≤ challengeTTL ∧
      handleVerify sha256 J svc st r now signedAt =
        (⟨(st.issuer.validateChallengeID req.challengeID now).2,
            st.tokens++(afterValidation sha256 J svc st.issuer.powDifficulty r req signedAt).2⟩,
          (afterValidation sha256 J svc st.issuer.powDifficulty r req signedAt).1) ∧
      ∀ t, (req.challengeID,t) ∉ (st.issuer.validateChallengeID req.challengeID now).2.ids.entries := by
  unfold validatedID
  by_cases hmethod : r.method ≠ "POST"
  · left
    simp [handleVerify,hmethod,Answer.cookies]
  cases hbody : decodeBody r.body with
  | none =>
    left
    simp [handleVerify,hmethod,hbody,Answer.cookies]
  | some req =>
    have hd := validateChallengeID_powDifficulty st.issuer req.challengeID now
    have hsub : ∀ e ∈ (st.issuer.validateChallengeID req.challengeID now).2.ids.entries,
      e ∈ st.issuer.ids.entries := fun _ he => mem_of_mem_validate he
    cases hv : st.issuer.validateChallengeID req.challengeID now with
    | mk ok issuer =>
      rw [hv] at hd hsub
      cases ok with
      | false =>
        left
        simp only [handleVerify,hmethod,if_false,hbody,hv,Answer.cookies,Option.bind_some,
          Bool.false_eq_true,true_and]
        exact ⟨hd,hsub⟩
      | true =>
        right
        have htrue : (st.issuer.validateChallengeID req.challengeID now).1 = true := by rw [hv]
        obtain ⟨issued,hmem,hage⟩ := validateChallengeID_true htrue
        refine ⟨req,issued,rfl,by simp [hmethod,hv],hmem,hage,?_,not_mem_of_validated htrue⟩
        simp only [handleVerify,hmethod,if_false,hbody,hv,← hd]

end Answers

/-- The requests of a run, with the UUID that was drawn and the times at which the
clock was read. -/
inductive Event
  | challenge (id origin : String) (now : Time)
  | verify (r : VerifyHTTP) (now signedAt : Time)

structure Ledger where
  state : State
  /-- The IDs that `NewChallengeID` returned, with their issue times. -/
  issued : List (String × Time) := []
  /-- The IDs that passed `ValidateChallengeID`. -/
  validated : List String := []
  /-- The pass cookies that were set. -/
  cookies : List Cookie := []
  clock : Time

def Ledger.start (powDifficulty : ℤ) (clock : Time) : Ledger where
  state := ⟨newChallengeIssuer powDifficulty,[]⟩
  clock := clock

section Runs
variable (sha256 : Bytes → Bytes) (J : Jwt) (svc : Service)

/-- One request: the clock does not go back, and no UUID is drawn twice. -/
inductive Step : Ledger → Event → Ledger → Prop
  | challenge {l : Ledger} {id origin : String} {now : Time} (hclock : l.clock ≤ now)
      (hfresh : id ∉ l.issued.map Prod.fst) :
      Step l (.challenge id origin now)
        { l with
          state := (handleChallenge l.state id origin now).1
          issued := l.issued++[(id,now)]
          clock := now }
  | verify {l : Ledger} {r : VerifyHTTP} {now signedAt : Time} (hclock : l.clock ≤ now)
      (hsigned : now ≤ signedAt) :
      Step l (.verify r now signedAt)
        { l with
          state := (handleVerify sha256 J svc l.state r now signedAt).1
          validated := l.validated++(validatedID l.state r now).toList
          cookies := l.cookies++(handleVerify sha256 J svc l.state r now signedAt).2.cookies
          clock := signedAt }

structure Ledger.Sound (d : ℤ) (l : Ledger) : Prop where
  difficulty : l.state.issuer.powDifficulty = d
  stored_issued : ∀ e ∈ l.state.issuer.ids.entries, e ∈ l.issued
  validated_issued : ∀ id ∈ l.validated, id ∈ l.issued.map Prod.fst
  validated_gone : ∀ id ∈ l.validated, ∀ t, (id,t) ∉ l.state.issuer.ids.entries
  validated_once : l.validated.Nodup
  cookies_validated : l.cookies.length ≤ l.validated.length
  issued_before : ∀ e ∈ l.issued, e.2 ≤ l.clock

theorem sound_start (d : ℤ) (clock : Time) : (Ledger.start d clock).Sound d where
  difficulty := rfl
  stored_issued _ he := absurd he List.not_mem_nil
  validated_issued _ hid := absurd hid List.not_mem_nil
  validated_gone _ hid := absurd hid List.not_mem_nil
  validated_once := List.nodup_nil
  cookies_validated := le_refl _
  issued_before _ he := absurd he List.not_mem_nil

theorem sound_challenge {d : ℤ} {l : Ledger} {id origin : String} {now : Time} (h : l.Sound d)
    (hclock : l.clock ≤ now) (hfresh : id ∉ l.issued.map Prod.fst) :
    Ledger.Sound d
      { l with
        state := (handleChallenge l.state id origin now).1
        issued := l.issued++[(id,now)]
        clock := now } where
  difficulty := h.difficulty
  stored_issued e he := by
    rcases LruCache.mem_of_mem_add he with rfl | ⟨hmem,-⟩
    · simp
    · exact List.mem_append_left _ (h.stored_issued e hmem)
  validated_issued id' hid := by
    rw [List.map_append]
    exact List.mem_append_left _ (h.validated_issued id' hid)
  validated_gone id' hid t hmem := by
    rcases LruCache.mem_of_mem_add hmem with he | ⟨hold,-⟩
    · obtain ⟨rfl,-⟩ := Prod.mk.inj he
      exact hfresh (h.validated_issued _ hid)
    · exact h.validated_gone id' hid t hold
  validated_once := h.validated_once
  cookies_validated := h.cookies_validated
  issued_before e he := by
    rcases List.mem_append.mp he with he | he
    · exact le_trans (h.issued_before e he) hclock
    · rw [List.mem_singleton.mp he]

theorem cookies_length (a : Answer) : a.cookies.length ≤ 1 := by
  cases a <;> simp [Answer.cookies]

theorem sound_verify {d : ℤ} {l : Ledger} {r : VerifyHTTP} {now signedAt : Time} (h : l.Sound d)
    (hclock : l.clock ≤ now) (hsigned : now ≤ signedAt) :
    Ledger.Sound d
      { l with
        state := (handleVerify sha256 J svc l.state r now signedAt).1
        validated := l.validated++(validatedID l.state r now).toList
        cookies := l.cookies++(handleVerify sha256 J svc l.state r now signedAt).2.cookies
        clock := signedAt } := by
  have hbefore : ∀ e ∈ l.issued, e.2 ≤ signedAt := fun e he =>
    le_trans (h.issued_before e he) (le_trans hclock hsigned)
  rcases handleVerify_cases sha256 J svc l.state r now signedAt with
    ⟨hnone,hcookies,-,hd,hsub⟩ | ⟨req,issued,-,hsome,hmem,-,heq,hgone⟩
  · rw [hnone,hcookies]
    simp only [Option.toList_none,List.append_nil]
    exact ⟨hd.trans h.difficulty,fun e he => h.stored_issued e (hsub e he),h.validated_issued,
      fun id hid t hm => h.validated_gone id hid t (hsub _ hm),h.validated_once,
      h.cookies_validated,hbefore⟩
  · rw [hsome,heq]
    have hnew : req.challengeID ∉ l.validated := fun hold => h.validated_gone _ hold issued hmem
    have hissued : req.challengeID ∈ l.issued.map Prod.fst :=
      List.mem_map.mpr ⟨_,h.stored_issued _ hmem,rfl⟩
    have hsub : ∀ e ∈ (l.state.issuer.validateChallengeID req.challengeID now).2.ids.entries,
      e ∈ l.state.issuer.ids.entries := fun _ he => mem_of_mem_validate he
    refine ⟨?_,fun e he => h.stored_issued e (hsub e he),?_,?_,?_,?_,hbefore⟩
    · exact (validateChallengeID_powDifficulty _ _ _).trans h.difficulty
    · intro id hid
      rcases List.mem_append.mp hid with hid | hid
      · exact h.validated_issued id hid
      · rwa [List.mem_singleton.mp hid]
    · intro id hid t hm
      rcases List.mem_append.mp hid with hid | hid
      · exact h.validated_gone id hid t (hsub _ hm)
      · rw [List.mem_singleton.mp hid] at hm
        exact hgone t hm
    · rw [Option.toList_some,List.nodup_append]
      refine ⟨h.validated_once,List.nodup_singleton _,?_⟩
      intro a ha b hb
      rw [List.mem_singleton.mp hb]
      exact fun he => hnew (he ▸ ha)
    · have hone := cookies_length (afterValidation sha256 J svc l.state.issuer.powDifficulty r req signedAt).1
      have hold := h.cookies_validated
      simp only [List.length_append,Option.toList_some,List.length_singleton]
      omega

theorem sound_step {d : ℤ} {l l' : Ledger} {e : Event} (h : l.Sound d)
    (hstep : Step sha256 J svc l e l') : l'.Sound d := by
  cases hstep with
  | challenge hclock hfresh => exact sound_challenge h hclock hfresh
  | verify hclock hsigned => exact sound_verify sha256 J svc h hclock hsigned

/-- In every run: a pass cookie is set for an ID that was issued at most ten minutes
before and not accepted before, with its proof of work and a low score; an answer
without a cookie signs no token; and there are no more cookies than challenges. -/
theorem pass_cookies_sound {d : ℤ} {clock : Time} {es : List Event} {l : Ledger}
    (hrun : Steps (Step sha256 J svc) (Ledger.start d clock) es l) :
    (∀ r now signedAt l', Step sha256 J svc l (.verify r now signedAt) l' →
      (∀ cookie target, (handleVerify sha256 J svc l.state r now signedAt).2 = .pass cookie target →
        ∃ req, decodeBody r.body = some req ∧
          (∃ t, (req.challengeID,t) ∈ l.issued ∧ t ≤ now ∧ now-t ≤ challengeTTL) ∧
          req.challengeID ∉ l.validated ∧
          d ≤ leadingZeroBits (sha256 (utf8 (req.challengeID ++ req.powSolution))) ∧
          ∃ signals, Fingerprint.score req.fingerprintReport = .ok signals ∧
            (signals.map Signal.score).sum < svc.denyThreshold) ∧
      ((handleVerify sha256 J svc l.state r now signedAt).2.cookies = [] →
        l'.state.tokens = l.state.tokens)) ∧
    l.cookies.length ≤ l.issued.length := by
  have h : l.Sound d := hrun.invariant (sound_start d clock) fun _ _ _ hs hstep =>
    sound_step sha256 J svc hs hstep
  refine ⟨?_,?_⟩
  · rintro r now signedAt l' (_ | ⟨hclock,hsigned⟩)
    rcases handleVerify_cases sha256 J svc l.state r now signedAt with
      ⟨-,hcookies,htokens,-⟩ | ⟨req,issued,hreq,-,hmem,hage,heq,-⟩
    · refine ⟨fun cookie target hpass => ?_,fun _ => htokens⟩
      rw [hpass] at hcookies
      simp [Answer.cookies] at hcookies
    · rw [heq,h.difficulty]
      refine ⟨fun cookie target hpass => ?_,fun hnone => ?_⟩
      · obtain ⟨hpow,hscore⟩ := afterValidation_pass sha256 J hpass
        have hissued := h.stored_issued _ hmem
        exact ⟨req,hreq,⟨issued,hissued,le_trans (h.issued_before _ hissued) hclock,hage⟩,
          fun hold => h.validated_gone _ hold issued hmem,hpow,hscore⟩
      · have hlen := afterValidation_tokens sha256 J svc d r req signedAt
        rw [hnone] at hlen
        simp [List.length_eq_zero_iff.mp hlen]
  · have hsub := List.subperm_of_subset h.validated_once h.validated_issued
    calc l.cookies.length ≤ l.validated.length := h.cookies_validated
      _ ≤ (l.issued.map Prod.fst).length := hsub.length_le
      _ = l.issued.length := List.length_map _

end Runs

section Sample

def sampleID : String := "3f2b1c9e-7a64-4c1d-9b1e-2d5f8a6c0e47"

/-- SHA-256 on the one input of the sample run. -/
def sampleSHA256 (b : Bytes) : Bytes :=
  if b = utf8 (sampleID ++ "6") then
    [6,65,79,51,162,40,110,2,125,102,195,216,228,145,221,28,
      9,176,201,114,160,106,61,5,149,19,76,159,15,255,233,177]
  else []

def passToken : String :=
  "eyJhbGciOiJIUzI1NiIsInR5cCI6IkpXVCJ9." ++
  "eyJzdWIiOiIzZjJiMWM5ZS03YTY0LTRjMWQtOWIxZS0yZDVmOGE2YzBlNDciLCJpcCI6IjE5Mi4wLjIuMSIsInVh" ++
  "IjoiTW96aWxsYS81LjAiLCJzY29yZSI6NTAsInZlciI6MSwiZXhwIjoxNzAwMDAzNjAxLCJpYXQiOjE3MDAwMDAwMDF9." ++
  "SAj_zXg884Iymf-q6gD5l1B-Q2FfmGwAeCqtWR8el88"

def passClaims : TokenClaims where
  sub := sampleID
  ip := "192.0.2.1"
  ua := "Mozilla/5.0"
  score := 50
  ver := 1
  issuedAt := 1700000001
  expiresAt := 1700003601

def passJwt : Jwt where
  signedString key c :=
    if key = sampleKey ∧ c = passClaims then .ok passToken else .error "key is of invalid type"
  parseWithClaims key now s :=
    if key = sampleKey ∧ s = passToken ∧ now < passClaims.expiresAt*second then .ok ⟨passClaims,true⟩
    else .error "token signature is invalid"

def sampleService : Service := ⟨⟨sampleKey,3600*second,["ip","ua"]⟩,80⟩

def sampleStart : Time := 1700000000*second

def sampleVerify : VerifyHTTP where
  method := "POST"
  body := some (.obj [("pow_solution",.str "6"),("challenge_id",.str sampleID),
    ("fingerprint_report",.obj [("runtime",.obj [("function_to_string_native",.bool true),
      ("console_debug_arity",.num "1")])])])
  remoteAddr := "192.0.2.1:52311"
  userAgent := "Mozilla/5.0"

def sampleLedger : Ledger where
  state := (handleChallenge (Ledger.start 4 sampleStart).state sampleID "/" sampleStart).1
  issued := [(sampleID,sampleStart)]
  clock := sampleStart

theorem sampleVerify_pass :
    (handleVerify sampleSHA256 passJwt sampleService sampleLedger.state sampleVerify
      (sampleStart+second) (sampleStart+second)).2 = .pass ⟨"__as_pass",passToken⟩ "/" := by
  decide +kernel

/-- A second after the challenge its solution passes. -/
theorem pass_cookies_sound_sample :
    (handleVerify sampleSHA256 passJwt sampleService sampleLedger.state sampleVerify
      (sampleStart+second) (sampleStart+second)).2 = .pass ⟨"__as_pass",passToken⟩ "/" ∧
    ∃ req, decodeBody sampleVerify.body = some req ∧
      4 ≤ leadingZeroBits (sampleSHA256 (utf8 (req.challengeID ++ req.powSolution))) := by
  have hrun : Steps (Step sampleSHA256 passJwt sampleService) (Ledger.start 4 sampleStart)
      [.challenge sampleID "/" sampleStart] sampleLedger :=
    .snoc .refl (.challenge (le_refl _) List.not_mem_nil)
  obtain ⟨hstep,-⟩ := pass_cookies_sound sampleSHA256 passJwt sampleService hrun
  obtain ⟨req,hreq,-,-,hpow,-⟩ := (hstep sampleVerify _ _ _ (.verify (by decide) (le_refl _))).1 _ _
    sampleVerify_pass
  exact ⟨sampleVerify_pass,req,hreq,by exact_mod_cast hpow⟩

end Sample

end Challenge
end AntiScrapling
