import AntiScrapling.ChallengeRuns

/-! Concurrent verify requests.  `ValidateChallengeID` reads the store and later
takes the ID out of it; every access to the store is one atomic step, and the
steps of different requests interleave. -/
namespace AntiScrapling
namespace Challenge

open ByteCodec Token

inductive Phase
  | ready
  /-- The ID was found and is not removed yet. -/
  | found (req : VerifyRequest) (issued : Time)
  /-- The answer, with the ID that was validated. -/
  | answered (validated : Option String) (answer : Answer)

def Phase.validated : Phase → Option String
  | .answered validated _ => validated
  | _ => none

def Phase.cookies : Phase → List Cookie
  | .answered _ answer => answer.cookies
  | _ => []

structure Config where
  ids : LruCache String Time
  /-- The UUIDs that were drawn so far. -/
  issued : List String
  phase : ℕ → Phase

def Config.start : Config := ⟨LruCache.new 4096,[],fun _ => .ready⟩

inductive Action
  | issue (id : String) (now : Time)
  | get (r : ℕ)
  | finish (r : ℕ) (now signedAt : Time)

section Steps
variable (sha256 : Bytes → Bytes) (J : Jwt) (svc : Service) (powDifficulty : ℤ)
  (requests : ℕ → VerifyHTTP)

def Config.setPhase (c : Config) (r : ℕ) (p : Phase) : Config :=
  {c with phase := Function.update c.phase r p}

/-- A request up to the `Get` of its ID. -/
def Config.beginVerify (c : Config) (r : ℕ) : Config :=
  if (requests r).method ≠ "POST" then c.setPhase r (.answered none (.error 405 "method not allowed"))
  else
    match decodeBody (requests r).body with
    | none => c.setPhase r (.answered none (.error 400 "bad request"))
    | some req =>
      match c.ids.get req.challengeID with
      | (none,ids) =>
        {c with ids}.setPhase r (.answered none (.error 400 "invalid or expired challenge_id"))
      | (some issued,ids) => {c with ids}.setPhase r (.found req issued)

/-- The `Remove` of the ID and the rest of the request. -/
def Config.endVerify (c : Config) (r : ℕ) (req : VerifyRequest) (issued now signedAt : Time) : Config :=
  {c with ids := c.ids.remove req.challengeID}.setPhase r
    (if expired issued now then .answered none (.error 400 "invalid or expired challenge_id")
    else .answered (some req.challengeID)
      (afterValidation sha256 J svc powDifficulty (requests r) req signedAt).1)

/-- One atomic step; `none` if it cannot be taken. -/
def raceStep (c : Config) : Action → Option Config
  | .issue id now =>
    if id ∈ c.issued then none else some {c with ids := c.ids.add id now, issued := id::c.issued}
  | .get r =>
    match c.phase r with
    | .ready => some (c.beginVerify requests r)
    | _ => none
  | .finish r now signedAt =>
    match c.phase r with
    | .found req issued => some (c.endVerify sha256 J svc powDifficulty requests r req issued now signedAt)
    | _ => none

/-- A request that looks an ID up does so while no other one is between finding the same ID
and removing it. -/
def NoOverlap (c : Config) : Action → Prop
  | .get r => (requests r).method = "POST" → ∀ r' req issued, c.phase r' = .found req issued →
      ∀ req', decodeBody (requests r).body = some req' → req.challengeID ≠ req'.challengeID
  | _ => True

/-- A step without overlap. -/
def CarefulStep (c : Config) (a : Action) (c' : Config) : Prop :=
  raceStep sha256 J svc powDifficulty requests c a = some c' ∧ NoOverlap requests c a

theorem alone_handleVerify (c : Config) (r : ℕ) (tokens : List String) (now signedAt : Time)
    (hready : c.phase r = .ready) :
    ∃ c₁ validated answer, raceStep sha256 J svc powDifficulty requests c (.get r) = some c₁ ∧
      (c₁.phase r = .answered validated answer ∨
        ∃ c₂, raceStep sha256 J svc powDifficulty requests c₁ (.finish r now signedAt) = some c₂ ∧
          c₂.phase r = .answered validated answer) ∧
      (handleVerify sha256 J svc ⟨⟨powDifficulty,c.ids⟩,tokens⟩ (requests r) now signedAt).2 = answer ∧
      validatedID ⟨⟨powDifficulty,c.ids⟩,tokens⟩ (requests r) now = validated := by
  refine ⟨c.beginVerify requests r,_,_,by simp only [raceStep,hready],?_,rfl,rfl⟩
  unfold Config.beginVerify handleVerify validatedID
  by_cases hmethod : (requests r).method ≠ "POST"
  · left
    simp [hmethod,Config.setPhase]
  cases hbody : decodeBody (requests r).body with
  | none =>
    left
    simp [hmethod,Config.setPhase]
  | some req =>
    cases hget : c.ids.get req.challengeID with
    | mk found ids =>
      cases found with
      | none =>
        left
        simp [hmethod,hget,ChallengeIssuer.validateChallengeID,Config.setPhase]
      | some issued =>
        right
        refine ⟨Config.endVerify sha256 J svc powDifficulty requests ({c with ids}.setPhase r
          (.found req issued)) r req issued now signedAt,?_,?_⟩
        · simp only [hmethod,if_false,hget,raceStep,Config.setPhase,Function.update_self]
        cases hexp : expired issued now <;>
          simp [hmethod,hget,ChallengeIssuer.validateChallengeID,hexp,Config.endVerify,Config.setPhase]

/-- The request has found the ID, or was told that it is valid. -/
def Config.Claims (c : Config) (r : ℕ) (id : String) : Prop :=
  (∃ req issued, c.phase r = .found req issued ∧ req.challengeID = id) ∨
    ∃ answer, c.phase r = .answered (some id) answer

/-- What holds after every step without overlap. -/
structure Config.Sound (c : Config) : Prop where
  claimed_once : ∀ id r r', c.Claims r id → c.Claims r' id → r = r'
  validated_gone : ∀ id r answer, c.phase r = .answered (some id) answer → ∀ t, (id,t) ∉ c.ids.entries
  claimed_issued : ∀ id r, c.Claims r id → id ∈ c.issued
  stored_issued : ∀ e ∈ c.ids.entries, e.1 ∈ c.issued
  claimed_carried : ∀ id r, c.Claims r id → (decodeBody (requests r).body).map (·.challengeID) = some id
  pass_validated : ∀ r validated cookie target, c.phase r = .answered validated (.pass cookie target) →
    validated ≠ none

variable {sha256 J svc powDifficulty requests} {c c' : Config}

theorem claims_setPhase {r r' : ℕ} {p : Phase} {id : String} (h : r' ≠ r) :
    (c.setPhase r p).Claims r' id ↔ c.Claims r' id := by
  simp [Config.Claims,Config.setPhase,Function.update_of_ne h]

theorem claims_self {r : ℕ} {p : Phase} {id : String} :
    (c.setPhase r p).Claims r id ↔
      (∃ req issued, p = .found req issued ∧ req.challengeID = id) ∨
        ∃ answer, p = .answered (some id) answer := by
  simp [Config.Claims,Config.setPhase]

theorem get_phase_of_ne {r r' : ℕ} (h : raceStep sha256 J svc powDifficulty requests c (.get r) = some c')
    (hr : r' ≠ r) : c'.phase r' = c.phase r' := by
  simp only [raceStep] at h
  split at h
  · obtain rfl := Option.some.inj h
    unfold Config.beginVerify
    split_ifs
    · exact Function.update_of_ne hr _ _
    · split
      · exact Function.update_of_ne hr _ _
      · split <;> exact Function.update_of_ne hr _ _
  · cases h

theorem finish_phase_of_ne {r r' : ℕ} {now signedAt : Time}
    (h : raceStep sha256 J svc powDifficulty requests c (.finish r now signedAt) = some c') (hr : r' ≠ r) :
    c'.phase r' = c.phase r' := by
  simp only [raceStep] at h
  split at h
  · obtain rfl := Option.some.inj h
    exact Function.update_of_ne hr _ _
  · cases h

theorem sound_start_race : Config.start.Sound requests where
  claimed_once id r r' h := by simp [Config.Claims,Config.start] at h
  validated_gone id r answer h := by simp [Config.start] at h
  claimed_issued id r h := by simp [Config.Claims,Config.start] at h
  stored_issued e he := absurd he List.not_mem_nil
  claimed_carried id r h := by simp [Config.Claims,Config.start] at h
  pass_validated r validated cookie target h := by simp [Config.start] at h

theorem sound_issue {id : String} {now : Time} (h : c.Sound requests) (hfresh : id ∉ c.issued) :
    Config.Sound requests {c with ids := c.ids.add id now, issued := id::c.issued} where
  claimed_once := h.claimed_once
  validated_gone id' r answer hr t hmem := by
    rcases LruCache.mem_of_mem_add hmem with he | ⟨hold,-⟩
    · obtain ⟨rfl,-⟩ := Prod.mk.inj he
      exact hfresh (h.claimed_issued _ r (.inr ⟨answer,hr⟩))
    · exact h.validated_gone id' r answer hr t hold
  claimed_issued id' r hr := List.mem_cons_of_mem _ (h.claimed_issued id' r hr)
  stored_issued e he := by
    rcases LruCache.mem_of_mem_add he with rfl | ⟨hold,-⟩
    · exact List.mem_cons_self
    · exact List.mem_cons_of_mem _ (h.stored_issued e hold)
  claimed_carried := h.claimed_carried
  pass_validated := h.pass_validated

theorem phase_setPhase {r r' : ℕ} {p q : Phase} (h : (c.setPhase r p).phase r' = q) :
    r' = r ∧ p = q ∨ r' ≠ r ∧ c.phase r' = q := by
  by_cases hr : r' = r
  · subst hr
    simp only [Config.setPhase,Function.update_self] at h
    exact .inl ⟨rfl,h⟩
  · simp only [Config.setPhase,Function.update_of_ne hr] at h
    exact .inr ⟨hr,h⟩

/-- One request goes on while no ID is added to the store: what it claims then, it claimed
before, or nobody did. -/
theorem sound_setPhase {ids : LruCache String Time} {r : ℕ} {p : Phase} (h : c.Sound requests)
    (hsub : ∀ e ∈ ids.entries, e ∈ c.ids.entries)
    (hclaim : ∀ id, ({c with ids}.setPhase r p).Claims r id → c.Claims r id ∨
      (∀ r', ¬ c.Claims r' id) ∧ id ∈ c.issued ∧
        (decodeBody (requests r).body).map (·.challengeID) = some id)
    (hgone : ∀ id answer, p = .answered (some id) answer → ∀ t, (id,t) ∉ ids.entries)
    (hpass : ∀ validated cookie target, p = .answered validated (.pass cookie target) →
      validated ≠ none) :
    ({c with ids}.setPhase r p).Sound requests := by
  have hclaims : ∀ r' id, ({c with ids}.setPhase r p).Claims r' id → c.Claims r' id ∨
      r' = r ∧ (∀ r', ¬ c.Claims r' id) ∧ id ∈ c.issued ∧
        (decodeBody (requests r).body).map (·.challengeID) = some id := by
    intro r' id hc
    by_cases hr : r' = r
    · subst hr
      exact (hclaim id hc).imp_right fun hnew => ⟨rfl,hnew⟩
    · exact .inl ((claims_setPhase (c:={c with ids}) hr).mp hc)
  refine ⟨?_,?_,?_,fun e he => h.stored_issued e (hsub e he),?_,?_⟩
  · intro id r₁ r₂ h₁ h₂
    rcases hclaims r₁ id h₁ with hc₁ | ⟨hr₁,hnew₁,-⟩ <;>
      rcases hclaims r₂ id h₂ with hc₂ | ⟨hr₂,hnew₂,-⟩
    · exact h.claimed_once id r₁ r₂ hc₁ hc₂
    · exact absurd hc₁ (hnew₂ r₁)
    · exact absurd hc₂ (hnew₁ r₂)
    · exact hr₁.trans hr₂.symm
  · intro id r₁ answer h₁ t hmem
    rcases phase_setPhase h₁ with ⟨-,hp⟩ | ⟨-,hold⟩
    · exact hgone id answer hp t hmem
    · exact h.validated_gone id r₁ answer hold t (hsub _ hmem)
  · intro id r₁ h₁
    rcases hclaims r₁ id h₁ with hc | ⟨-,-,hissued,-⟩
    · exact h.claimed_issued id r₁ hc
    · exact hissued
  · intro id r₁ h₁
    rcases hclaims r₁ id h₁ with hc | ⟨rfl,-,-,hcarried⟩
    · exact h.claimed_carried id r₁ hc
    · exact hcarried
  · intro r₁ validated cookie target h₁
    rcases phase_setPhase h₁ with ⟨-,hp⟩ | ⟨-,hold⟩
    · exact hpass validated cookie target hp
    · exact h.pass_validated r₁ validated cookie target hold

theorem sound_refuse {ids : LruCache String Time} {r status : ℕ} {text : String} (h : c.Sound requests)
    (hsub : ∀ e ∈ ids.entries, e ∈ c.ids.entries) :
    ({c with ids}.setPhase r (.answered none (.error status text))).Sound requests := by
  refine sound_setPhase h hsub (fun id hc => ?_) (fun id answer hp => ?_)
    fun validated cookie target hp => ?_
  · simp [claims_self] at hc
  · simp at hp
  · simp at hp

theorem sound_found {r : ℕ} {req : VerifyRequest} {issued : Time} (h : c.Sound requests)
    (hfree : NoOverlap requests c (.get r)) (hpost : (requests r).method = "POST")
    (hbody : decodeBody (requests r).body = some req) (hmem : (req.challengeID,issued) ∈ c.ids.entries) :
    ({c with ids := (c.ids.get req.challengeID).2}.setPhase r (.found req issued)).Sound requests := by
  have hother : ∀ r', ¬ c.Claims r' req.challengeID := by
    rintro r' (⟨req',issued',hr',he⟩ | ⟨answer,hr'⟩)
    · exact hfree hpost r' req' issued' hr' req hbody he
    · exact h.validated_gone _ r' answer hr' issued hmem
  refine sound_setPhase h (fun _ he => LruCache.mem_of_mem_get he) (fun id hc => .inr ?_)
    (fun id answer hp => ?_) fun validated cookie target hp => ?_
  · rcases claims_self.mp hc with ⟨req',issued',he,rfl⟩ | ⟨answer,he⟩
    · obtain ⟨rfl,rfl⟩ := Phase.found.inj he
      exact ⟨hother,h.stored_issued _ hmem,by simp [hbody]⟩
    · cases he
  · cases hp
  · cases hp

theorem sound_beginVerify {r : ℕ} (h : c.Sound requests) (hfree : NoOverlap requests c (.get r)) :
    (c.beginVerify requests r).Sound requests := by
  unfold Config.beginVerify
  by_cases hmethod : (requests r).method ≠ "POST"
  · rw [if_pos hmethod]
    exact sound_refuse h fun _ he => he
  rw [if_neg hmethod]
  cases hbody : decodeBody (requests r).body with
  | none => exact sound_refuse h fun _ he => he
  | some req =>
    have hfst := LruCache.get_fst c.ids req.challengeID
    have hfound := fun (issued : Time) (hm : (req.challengeID,issued) ∈ c.ids.entries) =>
      sound_found h hfree (not_not.mp hmethod) hbody hm
    have hsub : ∀ e ∈ (c.ids.get req.challengeID).2.entries, e ∈ c.ids.entries :=
      fun _ he => LruCache.mem_of_mem_get he
    cases hget : c.ids.get req.challengeID with
    | mk found ids =>
      rw [hget] at hfst hfound hsub
      simp only [hget]
      cases found with
      | none => exact sound_refuse h hsub
      | some issued => exact hfound issued (LruCache.mem_of_lookup hfst.symm)

theorem sound_endVerify {r : ℕ} {req : VerifyRequest} {issued now signedAt : Time} (h : c.Sound requests)
    (hr : c.phase r = .found req issued) :
    (c.endVerify sha256 J svc powDifficulty requests r req issued now signedAt).Sound requests := by
  have hsub : ∀ e ∈ (c.ids.remove req.challengeID).entries, e ∈ c.ids.entries :=
    fun _ he => (LruCache.mem_remove.mp he).1
  unfold Config.endVerify
  by_cases hexp : expired issued now = true
  · rw [if_pos hexp]
    exact sound_refuse h hsub
  rw [if_neg hexp]
  refine sound_setPhase h hsub (fun id hc => .inl ?_) (fun id answer hp t hmem => ?_)
    fun validated cookie target hp => ?_
  · rcases claims_self.mp hc with ⟨req',issued',he,-⟩ | ⟨answer,he⟩
    · cases he
    · obtain ⟨he,-⟩ := Phase.answered.inj he
      exact .inl ⟨req,issued,hr,Option.some.inj he⟩
  · obtain ⟨he,-⟩ := Phase.answered.inj hp
    exact (LruCache.mem_remove.mp hmem).2 (Option.some.inj he).symm
  · obtain ⟨he,-⟩ := Phase.answered.inj hp
    exact he ▸ Option.some_ne_none _

theorem sound_raceStep {a : Action} (h : c.Sound requests)
    (hstep : raceStep sha256 J svc powDifficulty requests c a = some c')
    (hfree : NoOverlap requests c a) : c'.Sound requests := by
  cases a with
  | issue id now =>
    simp only [raceStep] at hstep
    split_ifs at hstep with hid
    obtain rfl := Option.some.inj hstep
    exact sound_issue h hid
  | get r =>
    simp only [raceStep] at hstep
    split at hstep
    · obtain rfl := Option.some.inj hstep
      exact sound_beginVerify h hfree
    · simp at hstep
  | finish r now signedAt =>
    simp only [raceStep] at hstep
    split at hstep
    · next req issued hr =>
      obtain rfl := Option.some.inj hstep
      exact sound_endVerify h hr
    · simp at hstep

/-- In every run in which no request looks up an ID between another request's
finding and removing it, one request at most is told that the ID is valid, and one
at most gets a pass token for it. -/
theorem validated_once_without_overlap {as : List Action}
    (hrun : Steps (CarefulStep sha256 J svc powDifficulty requests) Config.start as c) :
    (∀ id r₁ r₂, (c.phase r₁).validated = some id → (c.phase r₂).validated = some id → r₁ = r₂) ∧
    ∀ r₁ r₂ v₁ v₂ cookie₁ cookie₂ target₁ target₂,
      c.phase r₁ = .answered v₁ (.pass cookie₁ target₁) →
      c.phase r₂ = .answered v₂ (.pass cookie₂ target₂) →
      (decodeBody (requests r₁).body).map (·.challengeID) =
        (decodeBody (requests r₂).body).map (·.challengeID) → r₁ = r₂ := by
  have h : c.Sound requests := hrun.invariant sound_start_race fun _ _ _ hs hstep =>
    sound_raceStep hs hstep.1 hstep.2
  refine ⟨?_,?_⟩
  · intro id r₁ r₂ h₁ h₂
    have hclaims : ∀ r, (c.phase r).validated = some id → c.Claims r id := by
      intro r hr
      cases hp : c.phase r with
      | ready => simp [hp,Phase.validated] at hr
      | found req issued => simp [hp,Phase.validated] at hr
      | answered validated answer =>
        obtain rfl : validated = some id := by simpa [hp,Phase.validated] using hr
        exact .inr ⟨answer,hp⟩
    exact h.claimed_once id r₁ r₂ (hclaims r₁ h₁) (hclaims r₂ h₂)
  · intro r₁ r₂ v₁ v₂ cookie₁ cookie₂ target₁ target₂ h₁ h₂ hsame
    obtain ⟨id₁,rfl⟩ := Option.ne_none_iff_exists'.mp (h.pass_validated _ _ _ _ h₁)
    obtain ⟨id₂,rfl⟩ := Option.ne_none_iff_exists'.mp (h.pass_validated _ _ _ _ h₂)
    have hc₁ : c.Claims r₁ id₁ := .inr ⟨_,h₁⟩
    have hc₂ : c.Claims r₂ id₂ := .inr ⟨_,h₂⟩
    have hid : id₁ = id₂ := by
      rw [h.claimed_carried _ _ hc₁,h.claimed_carried _ _ hc₂] at hsame
      exact Option.some.inj hsame
    exact h.claimed_once id₂ r₁ r₂ (hid ▸ hc₁) hc₂

end Steps

section Sample

def sampleRequests (_ : ℕ) : VerifyHTTP := sampleVerify

def sampleRaceStep : Config → Action → Option Config :=
  raceStep sampleSHA256 passJwt sampleService 4 sampleRequests

def sampleCarefulStep : Config → Action → Config → Prop :=
  CarefulStep sampleSHA256 passJwt sampleService 4 sampleRequests

def afterIssue : Config :=
  {Config.start with ids := Config.start.ids.add sampleID sampleStart, issued := [sampleID]}

/-- Two requests with one ID: the second one comes after the first has removed it. -/
theorem second_refused :
    ∃ as c, Steps sampleCarefulStep Config.start as c ∧ (c.phase 0).validated = some sampleID ∧
      c.phase 1 = .answered none (.error 400 "invalid or expired challenge_id") := by
  obtain ⟨c₁,h₁⟩ : ∃ c, sampleRaceStep afterIssue (.get 0) = some c := ⟨_,rfl⟩
  obtain ⟨c₂,h₂⟩ : ∃ c, sampleRaceStep c₁ (.finish 0 sampleStart sampleStart) = some c := by
    obtain rfl := Option.some.inj h₁
    exact ⟨_,rfl⟩
  obtain ⟨c₃,h₃⟩ : ∃ c, sampleRaceStep c₂ (.get 1) = some c := by
    obtain rfl := Option.some.inj h₁
    obtain rfl := Option.some.inj h₂
    exact ⟨_,rfl⟩
  have s₀ : Steps sampleCarefulStep Config.start [.issue sampleID sampleStart] afterIssue :=
    .snoc .refl ⟨rfl,trivial⟩
  have s₁ : Steps sampleCarefulStep Config.start _ c₁ :=
    s₀.snoc ⟨h₁,fun _ r req issued hr => by simp [afterIssue,Config.start] at hr⟩
  have s₂ : Steps sampleCarefulStep Config.start _ c₂ := s₁.snoc ⟨h₂,trivial⟩
  have hfree (r : ℕ) (req : VerifyRequest) (issued : Time) : c₂.phase r ≠ .found req issued := by
    by_cases hr : r = 0
    · obtain rfl := Option.some.inj h₁
      obtain rfl := Option.some.inj h₂
      subst hr
      exact nofun
    · have hready : c₂.phase r = .ready := (finish_phase_of_ne h₂ hr).trans (get_phase_of_ne h₁ hr)
      rw [hready]
      exact nofun
  have s₃ : Steps sampleCarefulStep Config.start _ c₃ :=
    s₂.snoc ⟨h₃,fun _ r req issued hr => absurd hr (hfree r req issued)⟩
  refine ⟨_,c₃,s₃,?_⟩
  obtain rfl := Option.some.inj h₁
  obtain rfl := Option.some.inj h₂
  obtain rfl := Option.some.inj h₃
  exact ⟨by decide +kernel,rfl⟩

theorem validated_once_sample :
    ∃ c : Config, (c.phase 0).validated = some sampleID ∧
      c.phase 1 = .answered none (.error 400 "invalid or expired challenge_id") ∧
      ∀ r, (c.phase r).validated = some sampleID → 0 = r := by
  obtain ⟨as,c,hrun,hfirst,hsecond⟩ := second_refused
  exact ⟨c,hfirst,hsecond,fun r hr => (validated_once_without_overlap hrun).1 sampleID 0 r hfirst hr⟩

/-- Two requests that both look the ID up before either removes it both pass. -/
theorem validated_twice :
    ([.issue sampleID sampleStart,.get 0,.get 1,.finish 0 (sampleStart+second) (sampleStart+second),
      .finish 1 (sampleStart+second) (sampleStart+second)].foldlM sampleRaceStep Config.start).map
        (fun c => [((c.phase 0).validated,(c.phase 0).cookies),((c.phase 1).validated,(c.phase 1).cookies)]) =
      some [(some sampleID,[⟨"__as_pass",passToken⟩]),(some sampleID,[⟨"__as_pass",passToken⟩])] := by
  decide +kernel

end Sample

end Challenge
end AntiScrapling
