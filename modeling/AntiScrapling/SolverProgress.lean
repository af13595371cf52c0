import AntiScrapling.PassOrigin

/-! The other side of pass tokens: a client that solves its challenge in time gets its pass,
whatever the requests of other clients do in between.  Only a flood of them can push an ID
out of the store, and it does. -/
namespace AntiScrapling
namespace ProxyServer

open ByteCodec Challenge Token

section Store
variable {S : Server} {s s' : Shared} {l l' : Phase} {e : Event} {id : String} {issued : Time} {K : Finset String}

/-- The ID that a step puts into the store, looks for or takes out. -/
def Phase.touched : Phase → Event → Option String
  | .storing _ id _,.store => some id
  | .finding _ req,.find => some req.challengeID
  | .aged _ req _ _,.retire => some req.challengeID
  | _,_ => none

def Event.uses : Event → ℕ
  | .store | .find => 1
  | _ => 0

theorem move_size (h : Move S s l e s' l') : s'.ids.size = s.ids.size := by
  cases h with
  | missing q req ids h | find q req issued ids h =>
    have hsize := s.ids.get_size req.challengeID
    rwa [h] at hsize
  | _ => rfl

theorem move_within (h : Move S s l e s' l') (hwithin : s.ids.Within id issued K) (htouched : l.touched e ≠ some id)
    (hcard : K.card+e.uses < s.ids.size) : ∃ K', s'.ids.Within id issued K' ∧ K'.card ≤ K.card+e.uses := by
  have hinsert (id' : String) : (insert id' K).card ≤ K.card+1 := Finset.card_insert_le id' K
  cases h with
  | store q id' issued' =>
    have hne : id ≠ id' := fun heq => htouched (congrArg some heq.symm)
    exact ⟨_,hwithin.add hne (Nat.lt_of_le_of_lt (hinsert id') hcard) issued',hinsert id'⟩
  | missing q req ids h | find q req issued' ids h =>
    have hne : id ≠ req.challengeID := fun heq => htouched (congrArg some heq.symm)
    have hget := hwithin.get hne
    rw [h] at hget
    exact ⟨_,hget,hinsert _⟩
  | expire q req issued' now h | retire q req issued' now h =>
    have hne : id ≠ req.challengeID := fun heq => htouched (congrArg some heq.symm)
    exact ⟨_,hwithin.remove hne,Finset.card_le_card (Finset.erase_subset _ _)⟩
  | _ => exact ⟨K,hwithin,le_rfl⟩

end Store

section Solver
variable {S : Server} {q : Incoming} {req : VerifyRequest} {issued : Time} {j : ℕ}

/-- The phases of a request whose ID was found and is not too old. -/
inductive Accepted (q : Incoming) (req : VerifyRequest) (issued : Time) : Phase → Prop
  | found : Accepted q req issued (.found q req issued)
  | aged (now : Time) (h : expired issued now = false) : Accepted q req issued (.aged q req issued now)
  | valid (now : Time) : Accepted q req issued (.valid q req issued now)
  | verified (now signedAt : Time) : Accepted q req issued (.verified q req issued now signedAt)

theorem not_expired {now : Time} (h : now-issued ≤ challengeTTL) : expired issued now = false := by
  simpa [expired] using h

/-- Nobody else can take an accepted ID away. -/
theorem Accepted.move {s s' : Shared} {l l' : Phase} {e : Event} (h : Accepted q req issued l)
    (hmove : Move S s l e s' l') (hyoung : ∀ now, e = .age now → now-issued ≤ challengeTTL) :
    Accepted q req issued l' := by
  cases h with
  | found =>
    cases hmove with
    | age _ _ _ now => exact .aged now (not_expired (hyoung now rfl))
  | aged now h =>
    cases hmove with
    | expire _ _ _ _ hexpired => rw [h] at hexpired; cases hexpired
    | retire => exact .valid now
  | valid now =>
    cases hmove with
    | sign _ _ _ _ signedAt => exact .verified now signedAt
  | verified now signedAt => cases hmove

theorem Accepted.answered {l : Phase} {answer : Answer} (h : Accepted q req issued l)
    (hanswered : S.answered l = some answer) : ∃ signedAt, answer = S.verifyAnswer q req signedAt := by
  cases h with
  | verified now signedAt => exact ⟨signedAt,(Option.some.inj hanswered).symm⟩
  | _ => cases hanswered

/-- Steps in which no other thread has to do with an ID. -/
def Undisturbed (S : Server) (j : ℕ) (id : String) (p : Pool ℕ Shared Phase) (e : ℕ × Event)
    (p' : Pool ℕ Shared Phase) : Prop :=
  Pool.Moves S.step p e p' ∧ (e.1 ≠ j → (p.threads e.1).touched e.2 ≠ some id)

/-- What the thread of the solver does: it handles one request, in time. -/
structure Solves (j : ℕ) (q : Incoming) (issued : Time) (e : ℕ × Event) : Prop where
  arrives {q' : Incoming} : e = (j,.arrive q') → q' = q
  calls {r : DecideHandler.ApiRequest} : e ≠ (j,.call r)
  young {now : Time} : e = (j,.age now) → now-issued ≤ challengeTTL

/-- The ID is in the store with at most `n` later ones, or the solver has found it. -/
inductive Holds (q : Incoming) (req : VerifyRequest) (issued : Time) (j n : ℕ) (p : Pool ℕ Shared Phase) : Prop
  | waiting (K : Finset String) (size : p.shared.ids.size = 4096)
      (within : p.shared.ids.Within req.challengeID issued K) (card : K.card ≤ n)
      (phase : p.threads j = .idle ∨ p.threads j = .finding q req)
  | accepted (h : Accepted q req issued (p.threads j))

theorem Holds.other {p : Pool ℕ Shared Phase} {n i : ℕ} {e : Event} {s : Shared} {l : Phase}
    (h : Holds q req issued j n p) (hi : i ≠ j) (hmove : Move S p.shared (p.threads i) e s l)
    (htouched : (p.threads i).touched e ≠ some req.challengeID) (hroom : n+e.uses < 4096) :
    Holds q req issued j (n+e.uses) ⟨s,Function.update p.threads i l⟩ := by
  have hthread : Function.update p.threads i l j = p.threads j := Function.update_of_ne hi.symm _ _
  cases h with
  | waiting K size within card phase =>
    obtain ⟨K',hK',hcard⟩ := move_within hmove within htouched (by omega)
    exact .waiting K' ((move_size hmove).trans size) hK' (by omega) (by simpa only [hthread] using phase)
  | accepted h => exact .accepted (by simpa only [hthread] using h)

theorem Holds.own {p : Pool ℕ Shared Phase} {n : ℕ} {e : Event} {s : Shared} {l : Phase}
    (h : Holds q req issued j n p) (hq : Server.dispatch q = .finding q req)
    (hmove : Move S p.shared (p.threads j) e s l) (hsolves : Solves j q issued (j,e)) :
    Holds q req issued j (n+e.uses) ⟨s,Function.update p.threads j l⟩ := by
  have hthread : Function.update p.threads j l j = l := Function.update_self ..
  cases h with
  | waiting K size within card phase =>
    rcases phase with hidle | hfinding
    · rw [hidle] at hmove
      cases hmove with
      | arrive q' =>
        obtain rfl := hsolves.arrives rfl
        exact .waiting K size within (Nat.le_add_right_of_le card) (.inr (hthread.trans hq))
      | call r => exact absurd rfl hsolves.calls
    · rw [hfinding] at hmove
      have hget : (p.shared.ids.get req.challengeID).1 = some issued := by
        rw [LruCache.get_fst,LruCache.lookup_of_mem within.mem]
      cases hmove with
      | missing _ _ ids h => rw [h] at hget; cases hget
      | find _ _ issued' ids h =>
        rw [h] at hget
        cases hget
        exact .accepted (by simpa only [hthread] using Accepted.found)
  | accepted h =>
    exact .accepted (by simpa only [hthread] using h.move hmove fun now hnow => hsolves.young (by rw [hnow]))

theorem Holds.move {p p' : Pool ℕ Shared Phase} {n : ℕ} {e : ℕ × Event} (h : Holds q req issued j n p)
    (hq : Server.dispatch q = .finding q req) (hmove : Undisturbed S j req.challengeID p e p')
    (hsolves : Solves j q issued e) (hroom : n+e.2.uses < 4096) : Holds q req issued j (n+e.2.uses) p' := by
  obtain ⟨⟨s,l,hstep,rfl⟩,htouched⟩ := hmove
  obtain ⟨i,e⟩ := e
  by_cases hi : i = j
  · subst hi
    exact h.own hq (step_cases S hstep) hsolves
  · exact h.other hi (step_cases S hstep) (htouched hi) hroom

theorem Holds.run {p p' : Pool ℕ Shared Phase} {es : List (ℕ × Event)} (h : Holds q req issued j 0 p)
    (hq : Server.dispatch q = .finding q req) (hrun : Steps (Undisturbed S j req.challengeID) p es p')
    (hsolves : ∀ e ∈ es, Solves j q issued e) (hroom : (es.map fun e => e.2.uses).sum < 4096) :
    Holds q req issued j (es.map fun e => e.2.uses).sum p' := by
  induction hrun with
  | refl => exact h
  | snoc _ hmove ih =>
    simp only [List.map_append,List.map_cons,List.map_nil,List.sum_append,List.sum_singleton,List.forall_mem_append,
      List.forall_mem_singleton] at hsolves hroom ⊢
    exact (ih hsolves.1 (by omega)).move hq hmove hsolves.2 hroom

/-- The request carries a solution: enough work for its ID, and a report with a low score. -/
structure Solved (S : Server) (req : VerifyRequest) : Prop where
  pow : verifyPoW S.sha256 req.challengeID req.powSolution S.powDifficulty = true
  scored : ∃ signals, Fingerprint.score req.fingerprintReport = .ok signals ∧
    (signals.map Signal.score).sum < S.service.denyThreshold
  signs (c : TokenClaims) : ∃ tok, S.J.signedString S.service.tokenIssuer.key c = .ok tok

def Passed (answer : Answer) : Prop := ∃ tok target, answer = .pass ⟨defaultCookieName,tok⟩ target

theorem Solved.passed (h : Solved S req) (q : Incoming) (signedAt : Time) :
    Passed (S.verifyAnswer q req signedAt) := by
  obtain ⟨signals,hscored,hlow⟩ := h.scored
  have hissue (ctx : IssueContext) : ∃ tok, S.service.tokenIssuer.issue S.J signedAt ctx = .ok tok := by
    obtain ⟨tok,htok⟩ := h.signs (S.service.tokenIssuer.claims signedAt ctx)
    exact ⟨tok,by rw [Issuer.issue,htok]⟩
  obtain ⟨tok,htok⟩ := hissue
    { fingerprintHash := req.challengeID
      score := (signals.map Signal.score).sum
      ip := clientIP q.verifyHTTP.remoteAddr
      ua := q.verifyHTTP.userAgent
      ja3 := ""
      ja4 := "" }
  refine ⟨tok,redirectTarget req.originURL,?_⟩
  simp only [Server.verifyAnswer,afterValidation,h.pow,hscored,Bool.not_true,Bool.false_eq_true,if_false]
  rw [if_neg (not_le.mpr hlow),htok]

def verifySteps (q : Incoming) (now signedAt : Time) : List Event :=
  [.arrive q,.find,.age now,.retire,.sign signedAt]

theorem alone_retire {now : Time} (h : expired issued now = false) (s : Shared) (signedAt : Time) :
    Pool.alone S.step s (.aged q req issued now) [.retire,.sign signedAt] =
      some ({s with ids := s.ids.remove req.challengeID},.verified q req issued now signedAt) := by
  have hretire : S.step s (.aged q req issued now) .retire =
      some ({s with ids := s.ids.remove req.challengeID},.valid q req issued now) := by
    rw [Server.step,h]
    rfl
  exact Pool.alone_cons.mpr ⟨_,_,hretire,rfl⟩

theorem Accepted.finishes {s : Shared} {l : Phase} {now : Time} (h : Accepted q req issued l)
    (hyoung : now-issued ≤ challengeTTL) (signedAt : Time) :
    ∃ k s' l', Pool.alone S.step s l ((verifySteps q now signedAt).drop k) = some (s',l') ∧
      ∃ t, S.answered l' = some (S.verifyAnswer q req t) := by
  cases h with
  | found =>
    exact ⟨2,_,_,Pool.alone_cons.mpr ⟨_,_,rfl,alone_retire (not_expired hyoung) s signedAt⟩,signedAt,rfl⟩
  | aged now' h => exact ⟨3,_,_,alone_retire h s signedAt,signedAt,rfl⟩
  | valid now' => exact ⟨4,_,_,rfl,signedAt,rfl⟩
  | verified now' signedAt' => exact ⟨5,_,_,rfl,signedAt',rfl⟩

theorem Holds.finishes {p : Pool ℕ Shared Phase} {n : ℕ} {now : Time} (h : Holds q req issued j n p)
    (hq : Server.dispatch q = .finding q req) (hyoung : now-issued ≤ challengeTTL) (signedAt : Time) :
    ∃ k s' l', Pool.alone S.step p.shared (p.threads j) ((verifySteps q now signedAt).drop k) = some (s',l') ∧
      ∃ t, S.answered l' = some (S.verifyAnswer q req t) := by
  cases h with
  | waiting K size within card phase =>
    obtain ⟨ids,hget⟩ : ∃ ids, p.shared.ids.get req.challengeID = (some issued,ids) :=
      ⟨_,Prod.ext (by rw [LruCache.get_fst,LruCache.lookup_of_mem within.mem]) rfl⟩
    have hfind : S.step p.shared (.finding q req) .find = some ({p.shared with ids},.found q req issued) := by
      rw [Server.step,hget]
    have hrest : Pool.alone S.step p.shared (.finding q req) [.find,.age now,.retire,.sign signedAt] =
        some ({p.shared with ids := ids.remove req.challengeID},.verified q req issued now signedAt) :=
      Pool.alone_cons.mpr ⟨_,_,hfind,Pool.alone_cons.mpr ⟨_,_,rfl,alone_retire (not_expired hyoung) _ signedAt⟩⟩
    rcases phase with hidle | hfinding
    · rw [hidle]
      exact ⟨0,_,_,Pool.alone_cons.mpr ⟨_,_,rfl,by rw [hq]; exact hrest⟩,signedAt,rfl⟩
    · rw [hfinding]
      exact ⟨1,_,_,hrest,signedAt,rfl⟩
  | accepted h => exact h.finishes hyoung signedAt

theorem steps_size {es : List (ℕ × Event)} {p p' : Pool ℕ Shared Phase} (h : Steps (Pool.Moves S.step) p es p') :
    p'.shared.ids.size = p.shared.ids.size := by
  refine h.invariant (P := fun p' => p'.shared.ids.size = p.shared.ids.size) rfl ?_
  rintro p₁ e _ hsize ⟨s,l,hstep,rfl⟩
  exact (move_size (step_cases S hstep)).trans hsize

/-- The ID that a page was just drawn for is the most recent one of the store. -/
theorem Holds.stored {p p' : Pool ℕ Shared Phase} {i : ℕ} {q₀ : Incoming} (hsize : p.shared.ids.size = 4096)
    (hstoring : p.threads i = .storing q₀ req.challengeID issued) (hstore : Pool.Moves S.step p (i,.store) p')
    (hidle : p'.threads j = .idle) : Holds q req issued j 0 p' := by
  obtain ⟨s,l,hstep,rfl⟩ := hstore
  have hmove := step_cases S hstep
  have hsize' := (move_size hmove).trans hsize
  rw [hstoring] at hmove
  cases hmove with
  | store =>
    exact .waiting ∅ hsize' (LruCache.within_add_self (by rw [hsize]; decide) issued) le_rfl (.inl hidle)

/-- A client with a solution passes.  Its challenge was drawn after any run of the daemon, and
other requests run in between in any order; they do not name its ID, and put or look up fewer
than 4096 IDs.  Then no answer but a pass is given, and at any moment the steps that are left
lead to one. -/
theorem solver_passes (S : Server) {cacheSize : ℤ} {before es : List (ℕ × Event)} {p₀ p₁ p : Pool ℕ Shared Phase}
    {i j : ℕ} {q₀ q : Incoming} {req : VerifyRequest} {issued : Time}
    (hbefore : Steps (Pool.Moves S.step) (start cacheSize) before p₀)
    (hstoring : p₀.threads i = .storing q₀ req.challengeID issued) (hstore : Pool.Moves S.step p₀ (i,.store) p₁)
    (hidle : p₁.threads j = .idle) (hq : Server.dispatch q = .finding q req) (hsolved : Solved S req)
    (hrun : Steps (Undisturbed S j req.challengeID) p₁ es p) (hsolves : ∀ e ∈ es, Solves j q issued e)
    (hroom : (es.map fun e => e.2.uses).sum < 4096) :
    (∀ answer, S.answered (p.threads j) = some answer → Passed answer) ∧
      ∀ now signedAt, now-issued ≤ challengeTTL →
        ∃ k p' answer, Steps (Pool.Moves S.step) p (((verifySteps q now signedAt).drop k).map fun e => (j,e)) p' ∧
          S.answered (p'.threads j) = some answer ∧ Passed answer := by
  have hholds := (Holds.stored (q := q) (steps_size hbefore) hstoring hstore hidle).run hq hrun hsolves hroom
  constructor
  · intro answer hanswered
    cases hholds with
    | waiting K size within card phase => rcases phase with h | h <;> rw [h] at hanswered <;> cases hanswered
    | accepted h =>
      obtain ⟨signedAt,rfl⟩ := h.answered hanswered
      exact hsolved.passed q signedAt
  · intro now signedAt hyoung
    obtain ⟨k,s',l',halone,t,hanswered⟩ := hholds.finishes (S := S) hq hyoung signedAt
    have hsteps := Pool.steps_alone (.refl : Steps (Pool.Moves S.step) p [] p) j halone
    exact ⟨k,_,_,hsteps,by simpa using hanswered,hsolved.passed q t⟩

end Solver

section Sample

def signingServer : Server := {challengeServer with J := {passJwt with signedString := fun _ _ => .ok passToken}}

theorem sampleVerify_scored :
    ((decodeBody sampleVerify.body).map fun req => (req.challengeID,
      verifyPoW sampleSHA256 req.challengeID req.powSolution 4,
      (Fingerprint.score req.fingerprintReport).toOption.map fun signals =>
        decide ((signals.map Signal.score).sum < 80))) =
      some (sampleID,true,some true) := by
  decide +kernel

theorem sampleVerify_solved : ∃ req, Server.dispatch verifyIncoming = .finding verifyIncoming req ∧
    req.challengeID = sampleID ∧ Solved signingServer req := by
  obtain ⟨req,hreq,hseen⟩ := Option.map_eq_some_iff.mp sampleVerify_scored
  obtain ⟨hid,hrest⟩ := Prod.mk.inj hseen
  obtain ⟨hpow,hlow⟩ := Prod.mk.inj hrest
  obtain ⟨signals,hsignals,hlow⟩ := Option.map_eq_some_iff.mp hlow
  have hscored : Fingerprint.score req.fingerprintReport = .ok signals := by
    cases h : Fingerprint.score req.fingerprintReport with
    | error e => rw [h] at hsignals; cases hsignals
    | ok signals' => rw [h] at hsignals; exact congrArg _ (Option.some.inj hsignals)
  have hbody : decodeBody verifyIncoming.body = some req := hreq
  refine ⟨req,?_,hid,hpow,⟨signals,hscored,of_decide_eq_true hlow⟩,fun _ => ⟨_,rfl⟩⟩
  have hmux : muxHandler verifyIncoming.escapedPath = .verify := by decide +kernel
  rw [Server.dispatch,hmux,hbody]
  rfl

/-- The daemon before the ID of its first challenge is stored. -/
def drawnPool : Pool ℕ Shared Phase where
  shared := (start 100).shared
  threads := Function.update (fun _ => .idle) 0 (.storing challengeIncoming sampleID sampleStart)

def storedPool : Pool ℕ Shared Phase where
  shared := {drawnPool.shared with ids := drawnPool.shared.ids.add sampleID sampleStart}
  threads := Function.update drawnPool.threads 0 (.page challengeIncoming sampleID sampleStart)

theorem drawnPool_reached : Steps (Pool.Moves signingServer.step) (start 100)
    [(0,.arrive challengeIncoming),(0,.draw sampleID sampleStart)] drawnPool := by
  have hdraws : Pool.alone signingServer.step (start 100).shared .idle
      [.arrive challengeIncoming,.draw sampleID sampleStart] =
      some ((start 100).shared,.storing challengeIncoming sampleID sampleStart) := rfl
  exact Pool.steps_alone .refl 0 hdraws

theorem storedPool_moves : Pool.Moves signingServer.step drawnPool (0,.store) storedPool := ⟨_,_,rfl,rfl⟩

/-- Another challenge is on its way when the solution arrives. -/
theorem solver_passes_between : ∃ (p : Pool ℕ Shared Phase) (answer : Answer),
    signingServer.answered (p.threads 1) = some answer ∧ Passed answer := by
  obtain ⟨req,hdispatch,hid,hsolved⟩ := sampleVerify_solved
  have hrun := ((Steps.refl : Steps (Undisturbed signingServer 1 req.challengeID) storedPool [] _).snoc
    (e := (2,.arrive challengeIncoming)) ⟨⟨_,_,rfl,rfl⟩,fun _ h => by cases h⟩).snoc
    (e := (1,.arrive verifyIncoming)) ⟨⟨_,_,rfl,rfl⟩,fun h => absurd rfl h⟩
  obtain ⟨-,hfinishes⟩ := solver_passes signingServer drawnPool_reached (by rw [hid]; rfl) storedPool_moves rfl
    hdispatch hsolved hrun (fun e he => by
      simp only [List.nil_append,List.cons_append,List.mem_cons,List.not_mem_nil,or_false] at he
      rcases he with rfl | rfl
      · exact ⟨nofun,nofun,nofun⟩
      · exact ⟨fun | rfl => rfl,nofun,nofun⟩) (by decide)
  obtain ⟨k,p,answer,-,hanswered,hpassed⟩ := hfinishes (sampleStart+second) (sampleStart+second) (by decide)
  exact ⟨p,answer,hanswered,hpassed⟩

end Sample

section Flood
variable {S : Server} {s s' : Shared} {l l' : Phase} {e : Event} {id : String} {K : Set String}

theorem storing_of_page (h : Move S s l e s' l') {q : Incoming} {id' : String} {issued : Time}
    (hpage : l' = .page q id' issued) : l = .storing q id' issued ∧ e = .store := by
  cases h with
  | store => cases hpage; exact ⟨rfl,rfl⟩
  | arrive q' =>
    rcases dispatch_cases q' with h | ⟨_,h⟩ | ⟨_,-,h⟩ | h | h <;> rw [h] at hpage <;> cases hpage
  | call r =>
    rcases dispatchCall_cases S r with ⟨_,h⟩ | ⟨_,_,h⟩ <;> rw [h] at hpage <;> cases hpage
  | check c entry now =>
    rcases afterCheck_cases c entry now with h | h | ⟨_,-,-,h⟩ <;> rw [h] at hpage <;> cases hpage
  | _ => cases hpage

theorem move_older (h : Move S s l e s' l') (holder : LruCache.Older id K s.ids.entries)
    (htouched : l.touched e ≠ some id) (hkept : ∀ id' ∈ K, l.touched e = some id' → e ≠ .retire) :
    LruCache.Older id (K ∪ {id' | ∃ q issued, l' = .page q id' issued}) s'.ids.entries := by
  have hother (hstore : e ≠ .store) : K ∪ {id' | ∃ q issued, l' = .page q id' issued} ⊆ K := by
    rintro id' (hid' | ⟨q,issued,hpage⟩)
    · exact hid'
    · exact absurd (storing_of_page h hpage).2 hstore
  cases h with
  | store q id' issued =>
    have hne : id ≠ id' := fun heq => htouched (congrArg some heq.symm)
    refine (holder.add hne issued).mono ?_
    rintro _ (hid' | ⟨_,_,hpage⟩)
    · exact .inr hid'
    · cases hpage
      exact .inl rfl
  | missing q req ids h | find q req issued ids h =>
    have hne : id ≠ req.challengeID := fun heq => htouched (congrArg some heq.symm)
    have hget := holder.get hne
    rw [h] at hget
    exact hget.mono (hother nofun)
  | expire q req issued now h | retire q req issued now h =>
    have hne : id ≠ req.challengeID := fun heq => htouched (congrArg some heq.symm)
    exact (holder.without hne fun hmem => hkept _ hmem rfl rfl).mono (hother nofun)
  | _ => exact holder.mono (hother nofun)

/-- Steps that have nothing to do with an ID, and leave the IDs of a flood alone. -/
def Flooding (S : Server) (id : String) (F : Finset String) (p : Pool ℕ Shared Phase) (e : ℕ × Event)
    (p' : Pool ℕ Shared Phase) : Prop :=
  Pool.Moves S.step p e p' ∧ (p.threads e.1).touched e.2 ≠ some id ∧
    ∀ id' ∈ F, (p.threads e.1).touched e.2 = some id' → e.2 ≠ .retire

/-- The IDs of a flood that were served since `p₀`. -/
def served (F : Finset String) (p₀ p : Pool ℕ Shared Phase) : Set String :=
  {id | id ∈ F ∧ ∃ i q issued, p₀.threads i = .idle ∧ p.threads i = .page q id issued}

theorem served_older {F : Finset String} {es : List (ℕ × Event)} {p₀ p : Pool ℕ Shared Phase}
    (h : Steps (Flooding S id F) p₀ es p) : LruCache.Older id (served F p₀ p) p.shared.ids.entries := by
  refine h.invariant (P := fun p => LruCache.Older id (served F p₀ p) p.shared.ids.entries) ?_ ?_
  · rintro - id' ⟨-,i,q,issued,hidle,hpage⟩
    rw [hidle] at hpage
    cases hpage
  · rintro p ⟨i,e⟩ _ holder ⟨⟨s,l,hstep,rfl⟩,htouched,hkept⟩
    have hmove := step_cases S hstep
    refine (move_older hmove holder htouched fun id' hid' => hkept id' hid'.1).mono ?_
    rintro id' ⟨hF,j,q,issued,hidle,hpage⟩
    by_cases hj : j = i
    · subst hj
      exact .inr ⟨q,issued,by simpa using hpage⟩
    · exact .inl ⟨hF,j,q,issued,hidle,by simpa [Function.update_of_ne hj] using hpage⟩

/-- Whoever draws 4096 challenges voids all others: an ID that is named after that many later
pages were served is refused, however young it is. -/
theorem flood_refuses (S : Server) {cacheSize : ℤ} {before es : List (ℕ × Event)}
    {p₀ p p' : Pool ℕ Shared Phase} {F : Finset String} {j : ℕ} {q : Incoming} {req : VerifyRequest}
    (hbefore : Steps (Pool.Moves S.step) (start cacheSize) before p₀)
    (hflood : Steps (Flooding S req.challengeID F) p₀ es p)
    (hserved : ∀ id ∈ F, ∃ i q issued, p₀.threads i = .idle ∧ p.threads i = .page q id issued)
    (hcard : 4096 ≤ F.card) (hfinding : p.threads j = .finding q req) (hfind : Pool.Moves S.step p (j,.find) p') :
    S.answered (p'.threads j) = some (.error 400 "invalid or expired challenge_id") := by
  have hsize : p.shared.ids.size = 4096 := (steps_size (hflood.mono fun _ _ _ h => h.1)).trans (steps_size hbefore)
  have holder : LruCache.Older req.challengeID F p.shared.ids.entries :=
    (served_older hflood).mono fun id hid => ⟨hid,hserved id hid⟩
  have hnone := holder.evicted (hsize.le.trans hcard)
  obtain ⟨s,l,hstep,rfl⟩ := hfind
  have hmove := step_cases S hstep
  simp only [hfinding] at hmove
  have hthread : Function.update p.threads j l j = l := Function.update_self ..
  cases hmove with
  | missing _ _ ids h => exact congrArg S.answered hthread
  | find _ _ issued ids h =>
    have hget := LruCache.get_fst p.shared.ids req.challengeID
    rw [h,hnone] at hget
    cases hget

end Flood

section FloodSample

def floodID (n : ℕ) : String := String.ofList ('#'::List.replicate n '0')

theorem floodID_injective : Function.Injective floodID := by
  intro m n h
  have hlength := congrArg List.length (String.ofList_injective h)
  simpa using hlength

theorem floodID_ne_sampleID (n : ℕ) : floodID n ≠ sampleID := by
  intro h
  have hhead := congrArg (fun s => s.toList.head?) h
  simp only [floodID,String.toList_ofList,List.head?_cons] at hhead
  exact absurd hhead (by decide)

def floodIDs : Finset String := (Finset.range 4096).image floodID

theorem flooding_step {p : Pool ℕ Shared Phase} {i : ℕ} {e : Event} {s : Shared} {l l' : Phase} (hl : p.threads i = l)
    (hstep : signingServer.step p.shared l e = some (s,l')) (htouched : l.touched e ≠ some sampleID)
    (hretire : e ≠ .retire) :
    Flooding signingServer sampleID floodIDs p (i,e) ⟨s,Function.update p.threads i l'⟩ := by
  subst hl
  exact ⟨⟨s,l',hstep,rfl⟩,htouched,fun _ _ _ => hretire⟩

theorem flood_run {p₀ : Pool ℕ Shared Phase} (hidle : ∀ i, 2 ≤ i → p₀.threads i = .idle) (n : ℕ) :
    ∃ es p, Steps (Flooding signingServer sampleID floodIDs) p₀ es p ∧ p.threads 1 = p₀.threads 1 ∧
      (∀ i < n, p.threads (i+2) = .page challengeIncoming (floodID i) sampleStart) ∧
      ∀ i, n+2 ≤ i → p.threads i = .idle := by
  induction n with
  | zero => exact ⟨[],p₀,.refl,rfl,fun i hi => absurd hi (Nat.not_lt_zero i),hidle⟩
  | succ n ih =>
    obtain ⟨es,p,hrun,hone,hpages,hrest⟩ := ih
    have harrive := hrun.snoc (flooding_step (hrest (n+2) le_rfl) (e := .arrive challengeIncoming) rfl nofun nofun)
    have hdraw := harrive.snoc (flooding_step (i := n+2) (Function.update_self ..)
      (e := .draw (floodID n) sampleStart) rfl nofun nofun)
    have hstore := hdraw.snoc (flooding_step (i := n+2) (Function.update_self ..) (e := .store) rfl
      (fun h => floodID_ne_sampleID n (Option.some.inj h)) nofun)
    refine ⟨_,_,hstore,?_,fun i hi => ?_,fun i hi => ?_⟩
    · simpa using hone
    · by_cases hin : i = n
      · simp [hin]
      · simpa [hin] using hpages i (by omega)
    · have hne : i ≠ n+2 := by omega
      simpa [hne] using hrest i (by omega)

/-- The challenge of the first client is lost in the flood. -/
theorem flood_refuses_first : ∃ p : Pool ℕ Shared Phase,
    signingServer.answered (p.threads 1) = some (.error 400 "invalid or expired challenge_id") := by
  obtain ⟨req,hdispatch,hid,-⟩ := sampleVerify_solved
  have hbefore := (drawnPool_reached.snoc storedPool_moves).snoc (e := (1,.arrive verifyIncoming)) ⟨_,_,rfl,rfl⟩
  have hidle : ∀ i, 2 ≤ i → (Pool.mk storedPool.shared
      (Function.update storedPool.threads 1 (Server.dispatch verifyIncoming))).threads i = .idle := by
    intro i hi
    have hzero : i ≠ 0 := by omega
    have hone : i ≠ 1 := by omega
    simp [storedPool,drawnPool,hzero,hone]
  obtain ⟨es,p,hflood,hthread,hpages,-⟩ := flood_run hidle 4096
  have hfinding : p.threads 1 = .finding verifyIncoming req := by simp [hthread,hdispatch]
  have hserved : ∀ id ∈ floodIDs, ∃ i q issued,
      Function.update storedPool.threads 1 (Server.dispatch verifyIncoming) i = .idle ∧
        p.threads i = .page q id issued := by
    intro id hid
    obtain ⟨i,hi,rfl⟩ := Finset.mem_image.mp hid
    exact ⟨i+2,_,_,hidle (i+2) (by omega),hpages i (Finset.mem_range.mp hi)⟩
  have hcard : floodIDs.card = 4096 := by
    rw [floodIDs,Finset.card_image_of_injective _ floodID_injective,Finset.card_range]
  obtain ⟨p',hfind⟩ : ∃ p', Pool.Moves signingServer.step p (1,.find) p' := by
    cases hget : p.shared.ids.get req.challengeID with
    | mk issued ids =>
      cases issued with
      | none => exact ⟨_,_,_,by rw [hfinding,Server.step,hget],rfl⟩
      | some issued => exact ⟨_,_,_,by rw [hfinding,Server.step,hget],rfl⟩
  rw [← hid] at hflood
  exact ⟨p',flood_refuses signingServer hbefore hflood hserved hcard.ge hfinding hfind⟩

end FloodSample

end ProxyServer
end AntiScrapling
