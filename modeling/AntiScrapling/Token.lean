import AntiScrapling.ByteCodec
import AntiScrapling.UnicodeText

/-! Pass tokens: issuing, verifying and binding (`internal/token`).
Times are nanoseconds since the epoch; the dates inside a token are seconds.
Signing and parsing are golang-jwt's, taken as a parameter.  Texts are Unicode: a user agent
whose bytes are not UTF-8 is outside of the model. -/
namespace AntiScrapling
namespace Token

open ByteCodec UnicodeText

abbrev Time := ℤ

def second : ℤ := 1000000000

/-- `jwt.NewNumericDate`: a time cut to whole seconds. -/
def newNumericDate (t : Time) : ℤ := t/second

inductive Field
  | ip | ua | ja3 | ja4
  deriving DecidableEq, Repr

def Field.name : Field → String
  | .ip => "ip"
  | .ua => "ua"
  | .ja3 => "ja3"
  | .ja4 => "ja4"

/-- The cases of the switch over `bindTo`; every other name is skipped. -/
def Field.ofName (name : String) : Option Field :=
  match name with
  | "ip" => some .ip
  | "ua" => some .ua
  | "ja3" => some .ja3
  | "ja4" => some .ja4
  | _ => none

structure TokenClaims where
  sub : String
  ip : String := ""
  ua : String := ""
  ja3 : String := ""
  ja4 : String := ""
  score : ℤ
  ver : ℤ
  issuedAt : ℤ
  expiresAt : ℤ
  deriving DecidableEq, Repr

structure IssueContext where
  fingerprintHash : String
  ip : String
  ua : String
  ja3 : String
  ja4 : String
  score : ℤ

structure VerifyContext where
  ip : String
  ua : String
  ja3 : String
  ja4 : String

def TokenClaims.get (c : TokenClaims) : Field → String
  | .ip => c.ip
  | .ua => c.ua
  | .ja3 => c.ja3
  | .ja4 => c.ja4

def TokenClaims.set (c : TokenClaims) (v : String) : Field → TokenClaims
  | .ip => {c with ip := v}
  | .ua => {c with ua := v}
  | .ja3 => {c with ja3 := v}
  | .ja4 => {c with ja4 := v}

def IssueContext.get (ctx : IssueContext) : Field → String
  | .ip => ctx.ip
  | .ua => ctx.ua
  | .ja3 => ctx.ja3
  | .ja4 => ctx.ja4

def VerifyContext.get (ctx : VerifyContext) : Field → String
  | .ip => ctx.ip
  | .ua => ctx.ua
  | .ja3 => ctx.ja3
  | .ja4 => ctx.ja4

/-- A parsed token, with the flag that `Verify` looks at again. -/
structure ParsedToken where
  claims : TokenClaims
  valid : Bool

/-- HS256 signing, and parsing at a given time, as golang-jwt offers them. -/
structure Jwt where
  signedString : Bytes → TokenClaims → Except String String
  parseWithClaims : Bytes → Time → String → Except String ParsedToken

/-- The signed string of `c` parses back to `c` strictly before its expiry date. -/
def Jwt.RoundTrips (J : Jwt) (key : Bytes) (c : TokenClaims) : Prop :=
  ∃ s, J.signedString key c = .ok s ∧
    (∀ now, now < c.expiresAt*second → J.parseWithClaims key now s = .ok ⟨c,true⟩) ∧
    ∀ now, c.expiresAt*second ≤ now → ∃ e, J.parseWithClaims key now s = .error e

structure Issuer where
  key : Bytes
  ttl : ℤ
  bindTo : List String

/-- Copy the field named by one entry of `bindTo` into the claims. -/
def bindField (ctx : IssueContext) (claims : TokenClaims) (name : String) : TokenClaims :=
  match Field.ofName name with
  | some f => claims.set (ctx.get f) f
  | none => claims

def Issuer.claims (i : Issuer) (now : Time) (ctx : IssueContext) : TokenClaims :=
  i.bindTo.foldl (bindField ctx)
    { sub := ctx.fingerprintHash
      score := ctx.score
      ver := 1
      issuedAt := newNumericDate now
      expiresAt := newNumericDate (now+i.ttl) }

def Issuer.issue (J : Jwt) (i : Issuer) (now : Time) (ctx : IssueContext) : Except String String :=
  match J.signedString i.key (i.claims now ctx) with
  | .ok signed => .ok signed
  | .error e => .error ("token: sign: " ++ e)

structure Mismatch where
  field : Field
  claim : String
  current : String
  deriving DecidableEq, Repr

/-- User agents are compared without case, all other fields exactly. -/
def Field.agrees (f : Field) (claim current : String) : Bool :=
  match f with
  | .ua => equalFold claim current
  | _ => claim == current

def mismatchOf (claims : TokenClaims) (current : VerifyContext) (name : String) : Option Mismatch :=
  match Field.ofName name with
  | some f =>
    if f.agrees (claims.get f) (current.get f) then none
    else some ⟨f,claims.get f,current.get f⟩
  | none => none

inductive VerifyError
  | parse (cause : String) | invalid | bindingMismatch (mismatches : List Mismatch)
  deriving DecidableEq, Repr

/-- The text of an error; `quote` is the `%q` verb. -/
def VerifyError.text (quote : String → String) : VerifyError → String
  | .parse cause => "token: parse: " ++ cause
  | .invalid => "token: invalid"
  | .bindingMismatch ms => "token: binding mismatch: " ++ String.intercalate "; " (ms.map fun m =>
      m.field.name ++ ": claim=" ++ quote m.claim ++ " current=" ++ quote m.current)

/-- Every listed field that does not match the current request. -/
def boundFields (claims : TokenClaims) (current : VerifyContext) (bindTo : List String) :
    Except VerifyError Unit :=
  let mismatches := bindTo.filterMap (mismatchOf claims current)
  if mismatches.length > 0 then .error (.bindingMismatch mismatches) else .ok ()

structure Verifier where
  key : Bytes
  bindTo : List String

def Verifier.verify (J : Jwt) (v : Verifier) (now : Time) (tokenStr : String)
    (current : VerifyContext) : Except VerifyError TokenClaims :=
  match J.parseWithClaims v.key now tokenStr with
  | .error e => .error (.parse e)
  | .ok tok =>
    if tok.valid then do
      boundFields tok.claims current v.bindTo
      .ok tok.claims
    else .error .invalid

section Binding

theorem ofName_eq_some {name : String} {f : Field} : Field.ofName name = some f ↔ name = f.name := by
  constructor
  · unfold Field.ofName
    split <;> rintro ⟨⟩ <;> rfl
  · rintro rfl
    cases f <;> rfl

theorem get_set (c : TokenClaims) (v : String) (f g : Field) :
    (c.set v f).get g = if g = f then v else c.get g := by
  cases f <;> cases g <;> rfl

theorem bindField_get (ctx : IssueContext) (c : TokenClaims) (name : String) (f : Field) :
    (bindField ctx c name).get f = if name = f.name then ctx.get f else c.get f := by
  unfold bindField
  cases h : Field.ofName name with
  | none =>
    have hne : name ≠ f.name := fun he => by simp [ofName_eq_some.mpr he] at h
    simp [hne]
  | some g =>
    have hg := ofName_eq_some.mp h
    subst hg
    have hname : g.name = f.name ↔ f = g := by cases f <;> cases g <;> decide
    simp only [get_set,hname]
    split_ifs with he
    · rw [he]
    · rfl

theorem foldl_bindField_get (ctx : IssueContext) (bindTo : List String) (c : TokenClaims) (f : Field) :
    (bindTo.foldl (bindField ctx) c).get f = if f.name ∈ bindTo then ctx.get f else c.get f := by
  induction bindTo generalizing c with
  | nil => simp
  | cons name bindTo ih =>
    rw [List.foldl_cons,ih,bindField_get]
    by_cases hmem : f.name ∈ bindTo
    · simp [hmem]
    · by_cases hname : name = f.name
      · simp [hname]
      · simp [hmem,hname,Ne.symm hname]

/-- Binding leaves the rest of the claims alone. -/
theorem foldl_bindField_rest (ctx : IssueContext) (bindTo : List String) (c : TokenClaims) :
    (bindTo.foldl (bindField ctx) c).sub = c.sub ∧
    (bindTo.foldl (bindField ctx) c).score = c.score ∧
    (bindTo.foldl (bindField ctx) c).ver = c.ver ∧
    (bindTo.foldl (bindField ctx) c).expiresAt = c.expiresAt := by
  induction bindTo generalizing c with
  | nil => exact ⟨rfl,rfl,rfl,rfl⟩
  | cons name bindTo ih =>
    obtain ⟨h₁,h₂,h₃,h₄⟩ := ih (bindField ctx c name)
    rw [List.foldl_cons,h₁,h₂,h₃,h₄]
    unfold bindField
    cases Field.ofName name with
    | none => exact ⟨rfl,rfl,rfl,rfl⟩
    | some f => cases f <;> exact ⟨rfl,rfl,rfl,rfl⟩

theorem mismatchOf_eq_none {claims : TokenClaims} {current : VerifyContext} {name : String} :
    mismatchOf claims current name = none ↔
      ∀ f : Field, name = f.name → f.agrees (claims.get f) (current.get f) = true := by
  unfold mismatchOf
  cases h : Field.ofName name with
  | none =>
    simp only [true_iff]
    intro f hf
    simp [ofName_eq_some.mpr hf] at h
  | some g =>
    have hg := ofName_eq_some.mp h
    constructor
    · intro hif f hf
      have hfg : f = g := by simpa [ofName_eq_some.mpr hf] using h
      subst hfg
      by_contra hbad
      simp [hbad] at hif
    · intro hall
      simp [hall g hg]

/-- The check passes exactly when every listed field agrees. -/
theorem boundFields_eq_ok {claims : TokenClaims} {current : VerifyContext} {bindTo : List String} :
    boundFields claims current bindTo = .ok () ↔
      ∀ f : Field, f.name ∈ bindTo → f.agrees (claims.get f) (current.get f) = true := by
  have hnil : boundFields claims current bindTo = .ok () ↔
      bindTo.filterMap (mismatchOf claims current) = [] := by
    simp only [boundFields]
    split_ifs with h
    · simp [List.ne_nil_of_length_pos h]
    · simp [List.length_eq_zero_iff.mp (Nat.eq_zero_of_not_pos h)]
  rw [hnil,List.filterMap_eq_nil_iff]
  constructor
  · intro h f hf
    exact mismatchOf_eq_none.mp (h f.name hf) f rfl
  · intro h name hname
    exact mismatchOf_eq_none.mpr fun f hf => h f (hf ▸ hname)

end Binding

section Verification

/-- The value of a field in an issued token: bound, or empty. -/
def issuedValue (bindTo : List String) (ctx : IssueContext) (f : Field) : String :=
  if f.name ∈ bindTo then ctx.get f else ""

/-- The user agents agree up to case, the other fields exactly. -/
theorem forall_agrees (issued : Field → String) (vc : VerifyContext) (fields : List String) :
    (∀ f : Field, f.name ∈ fields → f.agrees (issued f) (vc.get f) = true) ↔
      (∀ f : Field, f ≠ .ua → f.name ∈ fields → issued f = vc.get f) ∧
      ("ua" ∈ fields → equalFold (issued .ua) vc.ua = true) := by
  have hexact : ∀ f : Field, f ≠ .ua → ∀ a b, f.agrees a b = true ↔ a = b := by
    intro f hf a b
    cases f <;> simp_all [Field.agrees]
  constructor
  · intro h
    exact ⟨fun f hf hmem => (hexact f hf _ _).mp (h f hmem),fun hmem => h .ua hmem⟩
  · rintro ⟨hrest,hua⟩ f hmem
    by_cases hf : f = .ua
    · subst hf
      exact hua hmem
    · exact (hexact f hf _ _).mpr (hrest f hf hmem)

theorem claims_get (i : Issuer) (now : Time) (ctx : IssueContext) (f : Field) :
    (i.claims now ctx).get f = issuedValue i.bindTo ctx f := by
  rw [Issuer.claims,foldl_bindField_get,issuedValue]
  cases f <;> rfl

theorem verify_eq_ok {J : Jwt} {v : Verifier} {now : Time} {s : String} {current : VerifyContext}
    {c : TokenClaims} :
    v.verify J now s current = .ok c ↔
      J.parseWithClaims v.key now s = .ok ⟨c,true⟩ ∧ boundFields c current v.bindTo = .ok () := by
  unfold Verifier.verify
  cases h : J.parseWithClaims v.key now s with
  | error e => simp
  | ok tok =>
    obtain ⟨claims,valid⟩ := tok
    cases valid with
    | false => simp
    | true =>
      cases hb : boundFields claims current v.bindTo with
      | error e =>
        simp only [if_true,bind,Except.bind,hb,reduceCtorEq,false_iff,Except.ok.injEq,
          ParsedToken.mk.injEq,and_true]
        rintro ⟨rfl,hc⟩
        simp [hb] at hc
      | ok u =>
        simp only [if_true,bind,Except.bind,hb,Except.ok.injEq,ParsedToken.mk.injEq,and_true]
        constructor
        · rintro rfl
          exact ⟨rfl,hb⟩
        · exact And.left

/-- An issued token is accepted exactly before its expiry date and where every
field that the verifier checks matches what the issuer bound. -/
theorem verify_issue_iff (J : Jwt) (key : Bytes) (ttl : ℤ) (issuerFields verifierFields : List String)
    (ic : IssueContext) (vc : VerifyContext) (now t : Time)
    (hJ : J.RoundTrips key ((Issuer.mk key ttl issuerFields).claims now ic)) :
    ∃ s, (Issuer.mk key ttl issuerFields).issue J now ic = .ok s ∧
      ((∃ c, (Verifier.mk key verifierFields).verify J t s vc = .ok c) ↔
        t < newNumericDate (now+ttl)*second ∧
        (∀ f : Field, f ≠ .ua → f.name ∈ verifierFields → issuedValue issuerFields ic f = vc.get f) ∧
        ("ua" ∈ verifierFields → equalFold (issuedValue issuerFields ic .ua) vc.ua = true)) ∧
      ∀ c, (Verifier.mk key verifierFields).verify J t s vc = .ok c →
        c.sub = ic.fingerprintHash ∧ c.score = ic.score ∧ c.ver = 1 ∧
        ∀ f : Field, c.get f = issuedValue issuerFields ic f := by
  obtain ⟨s,hsign,hbefore,hafter⟩ := hJ
  obtain ⟨hsub,hscore,hver,hexp⟩ := foldl_bindField_rest ic issuerFields
    { sub := ic.fingerprintHash
      score := ic.score
      ver := 1
      issuedAt := newNumericDate now
      expiresAt := newNumericDate (now+ttl) }
  have hget := claims_get (Issuer.mk key ttl issuerFields) now ic
  have hexp' : ((Issuer.mk key ttl issuerFields).claims now ic).expiresAt = newNumericDate (now+ttl) :=
    hexp
  rw [hexp'] at hbefore hafter
  refine ⟨s,by simp only [Issuer.issue,hsign],?_,?_⟩
  · simp only [verify_eq_ok,boundFields_eq_ok]
    by_cases ht : t < newNumericDate (now+ttl)*second
    · simp only [hbefore t ht,Except.ok.injEq,ParsedToken.mk.injEq,and_true,exists_eq_left',hget,ht,
        true_and]
      exact forall_agrees (issuedValue issuerFields ic) vc verifierFields
    · obtain ⟨e,he⟩ := hafter t (not_lt.mp ht)
      simp [he,ht]
  · intro c hc
    obtain ⟨hparse,-⟩ := verify_eq_ok.mp hc
    have ht : t < newNumericDate (now+ttl)*second := by
      by_contra hlate
      obtain ⟨e,he⟩ := hafter t (not_lt.mp hlate)
      simp [he] at hparse
    have hceq : (Issuer.mk key ttl issuerFields).claims now ic = c := by
      simpa [hbefore t ht] using hparse
    subst hceq
    exact ⟨hsub,hscore,hver,hget⟩

def sampleKey : Bytes := [115,101,99,114,101,116]

def sampleContext : IssueContext where
  fingerprintHash := "f00d"
  ip := "192.0.2.1"
  ua := "Mozilla/5.0"
  ja3 := "771,4865,0,29,0"
  ja4 := ""
  score := 10

def sampleIssuer : Issuer := ⟨sampleKey,3600*second,["ip","ua","ip","color"]⟩

def sampleNow : Time := 1700000000500000000

def sampleToken : String :=
  "eyJhbGciOiJIUzI1NiIsInR5cCI6IkpXVCJ9." ++
  "eyJzdWIiOiJmMDBkIiwiaXAiOiIxOTIuMC4yLjEiLCJ1YSI6Ik1vemlsbGEvNS4wIiwic2NvcmUiOjEwLCJ2ZXIi" ++
  "OjEsImV4cCI6MTcwMDAwMzYwMCwiaWF0IjoxNzAwMDAwMDAwfQ." ++
  "_g6lqqjnyBIUGjyTNdz551B1xyi2pzWLIG3S4OPITXI"

def sampleJwt : Jwt where
  signedString key c :=
    if key = sampleKey ∧ c = sampleIssuer.claims sampleNow sampleContext then .ok sampleToken
    else .error "key is of invalid type"
  parseWithClaims key now s :=
    let c := sampleIssuer.claims sampleNow sampleContext
    if key ≠ sampleKey ∨ s ≠ sampleToken then .error "token signature is invalid"
    else if now < c.expiresAt*second then .ok ⟨c,true⟩
    else .error "token has invalid claims: token is expired"

theorem sampleJwt_roundTrips :
    sampleJwt.RoundTrips sampleKey (sampleIssuer.claims sampleNow sampleContext) := by
  refine ⟨sampleToken,by simp [sampleJwt],?_,?_⟩
  · intro now h
    simp [sampleJwt,h]
  · intro now h
    exact ⟨_,by simp only [sampleJwt,ne_eq,not_true_eq_false,or_self,if_false,not_lt.mpr h]; rfl⟩

/-- A verifier that checks `ua` and the unbound `ja3`, one minute later. -/
theorem verify_issue_sample :
    ∃ s c, sampleIssuer.issue sampleJwt sampleNow sampleContext = .ok s ∧
      (Verifier.mk sampleKey ["ua","ja3"]).verify sampleJwt (sampleNow+60*second) s
        ⟨"198.51.100.7","MOZILLA/5.0","",""⟩ = .ok c ∧ c.ip = "192.0.2.1" := by
  obtain ⟨s,hs,hiff,hclaims⟩ := verify_issue_iff sampleJwt sampleKey (3600*second)
    ["ip","ua","ip","color"] ["ua","ja3"] sampleContext ⟨"198.51.100.7","MOZILLA/5.0","",""⟩
    sampleNow (sampleNow+60*second) sampleJwt_roundTrips
  obtain ⟨c,hc⟩ := hiff.mpr ⟨by decide,fun f hf hmem => by
    cases f <;> revert hf hmem <;> decide,by decide⟩
  exact ⟨s,c,hs,hc,(hclaims c hc).2.2.2 .ip⟩

end Verification

end Token
end AntiScrapling
