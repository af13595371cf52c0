import AntiScrapling.ProxyServer

/-! The counters and the audit ring under concurrent requests: whatever way the requests
interleave, each of them is in the books exactly once. -/
namespace AntiScrapling
namespace ProxyServer

open Token

section Books

/-- What the main handler counts about the token of a request. -/
def Asked.tokenOutcome (c : Asked) : Option String :=
  match c.task with
  | .main q =>
    if (Task.main q).presented ≠ "" then some (if c.token then "verified" else "rejected") else none
  | .api _ _ => none

structure Books where
  token : Option String := none
  decision : Option Decision := none
  entry : Option Audit.AuditEntry := none
  challenge : Option String := none

def Phase.books : Phase → Books
  | .counted _ o => {token := o.call.tokenOutcome, decision := some o.decision}
  | .entering _ o _ => {token := o.call.tokenOutcome, decision := some o.decision}
  | .audited _ o entry => {token := o.call.tokenOutcome, decision := some o.decision, entry := some entry}
  | .served _ o entry =>
    { token := o.call.tokenOutcome
      decision := some o.decision
      entry := some entry
      challenge := if o.decision.verdict = .challenge then some "issued" else none }
  | l => {token := l.asked.bind Asked.tokenOutcome}

theorem books_token (l : Phase) : l.books.token = l.asked.bind Asked.tokenOutcome := by
  cases l <;> rfl

theorem tokenOutcome_ne_issued (c : Asked) : c.tokenOutcome ≠ some "issued" := by
  unfold Asked.tokenOutcome
  split
  · split_ifs <;> decide
  · simp

def labels (d : Decision) : Verdict × String := (d.verdict,d.reasons.head?.getD "")

/-- A step leaves the books alone, or makes one kind of entry for its request. -/
inductive Booked (s s' : Shared) (b b' : Books) : Prop
  | nothing (hbooks : b' = b) (hmetrics : s'.metrics = s.metrics) (haudit : s'.audit = s.audit)
  | token (outcome : String) (hold : b.token = none) (hbooks : b' = {b with token := some outcome})
      (hmetrics : s'.metrics = s.metrics.recordPassToken outcome) (haudit : s'.audit = s.audit)
  | decision (d : Decision) (hold : b.decision = none) (hbooks : b' = {b with decision := some d})
      (hmetrics : s'.metrics = s.metrics.recordDecision d) (haudit : s'.audit = s.audit)
  | entry (entry : Audit.AuditEntry) (hold : b.entry = none) (hbooks : b' = {b with entry := some entry})
      (hmetrics : s'.metrics = s.metrics) (haudit : s'.audit = s.audit.record entry)
  | challenge (outcome : String) (hold : b.challenge = none) (hbooks : b' = {b with challenge := some outcome})
      (hmetrics : s'.metrics = s.metrics.recordChallenge outcome) (haudit : s'.audit = s.audit)

theorem step_booked {S : Server} {s s' : Shared} {l l' : Phase} {e : Event}
    (h : S.step s l e = some (s',l')) : Booked s s' l.books l'.books := by
  cases step_cases S h with
  | arrive q =>
    rcases dispatch_cases q with h | ⟨_,h⟩ | ⟨_,-,h⟩ | h | h <;> rw [h] <;> exact .nothing rfl rfl rfl
  | call r =>
    rcases dispatchCall_cases S r with ⟨_,h⟩ | ⟨_,_,h⟩ <;> rw [h] <;> exact .nothing rfl rfl rfl
  | verify t now =>
    cases t with
    | main q =>
      by_cases hcookie : (Task.main q).presented = ""
      · refine .nothing ?_ ?_ rfl
        · simp [Phase.books,Phase.asked,Phase.outcome,Asked.tokenOutcome,hcookie]
        · simp [Server.countToken,hcookie]
      · refine .token (if S.hasValidToken now (.main q) then "verified" else "rejected") rfl ?_ ?_ rfl
        · simp [Phase.books,Phase.asked,Phase.outcome,Asked.tokenOutcome,hcookie]
        · simp [Server.countToken,hcookie]
    | api req synthetic => exact .nothing rfl rfl rfl
  | check c e now =>
    rcases afterCheck_cases c e now with h | h | ⟨d,-,-,h⟩ <;> rw [h] <;> exact .nothing rfl rfl rfl
  | count q o h => exact .decision o.decision rfl rfl rfl rfl
  | enter q o entry => exact .entry entry rfl rfl rfl rfl
  | answer q o entry =>
    by_cases hverdict : o.decision.verdict = .challenge
    · exact .challenge "issued" rfl (by simp [Phase.books,hverdict]) (if_pos hverdict) rfl
    · exact .nothing (by simp [Phase.books,hverdict]) (if_neg hverdict) rfl
  | _ => exact .nothing rfl rfl rfl

end Books

section Balance

def tick {κ : Type} [DecidableEq κ] (k : κ) (label : Option κ) : ℕ := if label = some k then 1 else 0

theorem increment_apply {κ : Type} [DecidableEq κ] (counter : κ → ℕ) (k k' : κ) :
    increment counter k k' = counter k'+tick k' (some k) := by
  unfold increment tick
  by_cases h : k' = k
  · simp [h]
  · simp [h,Ne.symm h]

theorem foldl_increment (names : List String) (counter : String → ℕ) (name : String) :
    names.foldl increment counter name = counter name+names.count name := by
  induction names generalizing counter with
  | nil => rfl
  | cons n names ih =>
    rw [List.foldl_cons,ih,increment_apply,List.count_cons]
    by_cases h : n = name
    · simp [tick,h]
      omega
    · simp [tick,h]

variable {S : Server} {cacheSize : ℤ} {es : List (ℕ × Event)} {p : Pool ℕ Shared Phase}

theorem counter_balance (f : Metrics → ℕ) (w : Books → ℕ) (hzero : f {} = 0) (hidle : w {} = 0)
    (htoken : ∀ m b outcome, b.token = none →
      f (m.recordPassToken outcome)+w b = f m+w {b with token := some outcome})
    (hdecision : ∀ m b d, b.decision = none → f (m.recordDecision d)+w b = f m+w {b with decision := some d})
    (hchallenge : ∀ m b outcome, b.challenge = none →
      f (m.recordChallenge outcome)+w b = f m+w {b with challenge := some outcome})
    (hentry : ∀ b entry, w {b with entry := some entry} = w b)
    (hrun : Steps (Pool.Moves S.step) (start cacheSize) es p) :
    f p.shared.metrics = ∑ i ∈ Pool.moved es, w (p.threads i).books := by
  refine Pool.tally (fun s m => f s.metrics = m) (fun l => w l.books) ?_ hrun hzero fun _ => hidle
  rintro s s' l l' e m hstep rfl
  refine ⟨_,rfl,?_⟩
  cases step_booked hstep with
  | nothing hbooks hmetrics _ => rw [hbooks,hmetrics]
  | token outcome hold hbooks hmetrics _ => rw [hbooks,hmetrics,htoken _ _ _ hold]
  | decision d hold hbooks hmetrics _ => rw [hbooks,hmetrics,hdecision _ _ _ hold]
  | entry entry _ hbooks hmetrics _ => rw [hbooks,hmetrics,hentry]
  | challenge outcome hold hbooks hmetrics _ => rw [hbooks,hmetrics,hchallenge _ _ _ hold]

theorem sum_tick {κ : Type} [DecidableEq κ] (I : Finset ℕ) (k : κ) (label : ℕ → Option κ) :
    ∑ i ∈ I, tick k (label i) = (I.filter fun i => label i = some k).card :=
  (Finset.card_filter (fun i => label i = some k) I).symm

theorem passTokens_balance (hrun : Steps (Pool.Moves S.step) (start cacheSize) es p) (outcome : String) :
    p.shared.metrics.passTokens outcome =
      ((Pool.moved es).filter fun i => (p.threads i).books.token = some outcome).card := by
  rw [← sum_tick]
  refine counter_balance (fun m => m.passTokens outcome) (fun b => tick outcome b.token) rfl rfl
    (fun m b o hold => ?_) (fun _ _ _ _ => rfl) (fun _ _ _ _ => rfl) (fun _ _ => rfl) hrun
  rw [hold]
  exact increment_apply _ _ _

theorem decisions_balance (hrun : Steps (Pool.Moves S.step) (start cacheSize) es p) (k : Verdict × String) :
    p.shared.metrics.decisions k =
      ((Pool.moved es).filter fun i => (p.threads i).books.decision.map labels = some k).card := by
  rw [← sum_tick]
  refine counter_balance (fun m => m.decisions k) (fun b => tick k (b.decision.map labels)) rfl rfl
    (fun _ _ _ _ => rfl) (fun m b d hold => ?_) (fun _ _ _ _ => rfl) (fun _ _ => rfl) hrun
  rw [hold]
  exact increment_apply _ _ _

def Books.signalNames (b : Books) : List String := (b.decision.map fun d => d.signals.map Signal.name).getD []

theorem signals_balance (hrun : Steps (Pool.Moves S.step) (start cacheSize) es p) (name : String) :
    p.shared.metrics.signals name = ∑ i ∈ Pool.moved es, (p.threads i).books.signalNames.count name := by
  refine counter_balance (fun m => m.signals name) (fun b => b.signalNames.count name) rfl rfl
    (fun _ _ _ _ => rfl) (fun m b d hold => ?_) (fun _ _ _ _ => rfl) (fun _ _ => rfl) hrun
  have hnone : b.signalNames.count name = 0 := by rw [Books.signalNames,hold]; rfl
  rw [hnone]
  exact foldl_increment _ _ _

theorem challenges_balance (hrun : Steps (Pool.Moves S.step) (start cacheSize) es p) (outcome : String) :
    p.shared.metrics.challenges outcome =
      ((Pool.moved es).filter fun i => (p.threads i).books.challenge = some outcome).card := by
  rw [← sum_tick]
  refine counter_balance (fun m => m.challenges outcome) (fun b => tick outcome b.challenge) rfl rfl
    (fun _ _ _ _ => rfl) (fun _ _ _ _ => rfl) (fun m b o hold => ?_) (fun _ _ => rfl) hrun
  rw [hold]
  exact increment_apply _ _ _

theorem audit_balance (hrun : Steps (Pool.Moves S.step) (start cacheSize) es p) :
    ∃ entries : List Audit.AuditEntry, p.shared.audit = Audit.run 0 entries ∧
      (entries : Multiset Audit.AuditEntry) =
        ∑ i ∈ Pool.moved es, ((p.threads i).books.entry.toList : Multiset Audit.AuditEntry) := by
  refine Pool.tally (fun s (m : Multiset Audit.AuditEntry) => ∃ entries : List Audit.AuditEntry,
      s.audit = Audit.run 0 entries ∧ (entries : Multiset Audit.AuditEntry) = m)
    (fun l => (l.books.entry.toList : Multiset Audit.AuditEntry)) ?_ hrun ⟨[],rfl,rfl⟩ fun _ => rfl
  rintro s s' l l' e m hstep ⟨entries,haudit,rfl⟩
  have hsame (h : s'.audit = s.audit) (hbooks : l'.books.entry = l.books.entry) : ∃ m' : Multiset Audit.AuditEntry,
      (∃ entries : List Audit.AuditEntry, s'.audit = Audit.run 0 entries ∧ (entries : Multiset Audit.AuditEntry) = m') ∧
        m'+(l.books.entry.toList : Multiset Audit.AuditEntry) =
          (entries : Multiset Audit.AuditEntry)+(l'.books.entry.toList : Multiset Audit.AuditEntry) :=
    ⟨_,⟨entries,h.trans haudit,rfl⟩,by rw [hbooks]⟩
  cases step_booked hstep with
  | nothing hbooks _ h => exact hsame h (by rw [hbooks])
  | token _ _ hbooks _ h => exact hsame h (by rw [hbooks])
  | decision _ _ hbooks _ h => exact hsame h (by rw [hbooks])
  | entry entry hold hbooks _ h =>
    refine ⟨_,⟨entries++[entry],?_,rfl⟩,?_⟩
    · rw [h,haudit]
      simp [Audit.run]
    · rw [hold,hbooks,← Multiset.coe_add]
      simp
  | challenge _ _ hbooks _ h => exact hsame h (by rw [hbooks])

end Balance

section Entries

namespace Phase

def handled : Phase → Option (Incoming × Outcome)
  | .counted q o => some (q,o)
  | .entering q o _ => some (q,o)
  | .audited q o _ => some (q,o)
  | .served q o _ => some (q,o)
  | _ => none

def ownEntry : Phase → Option (Incoming × Decision × Audit.AuditEntry)
  | .entering q o entry => some (q,o.decision,entry)
  | .audited q o entry => some (q,o.decision,entry)
  | .served q o entry => some (q,o.decision,entry)
  | _ => none

end Phase

structure EntrySound (l : Phase) : Prop where
  main : ∀ q o, l.handled = some (q,o) → o.call.task = .main q
  entry : ∀ q d entry, l.ownEntry = some (q,d,entry) → ∃ now uuid, entry = Server.auditEntry q d now uuid

theorem EntrySound.of_outside {l : Phase} (hhandled : l.handled = none) (hentry : l.ownEntry = none) : EntrySound l where
  main q o h := by simp [hhandled] at h
  entry q d entry h := by simp [hentry] at h

theorem entry_evidence (S : Server) : Pool.Evidence S.step Phase.shows (fun _ _ _ => True) (fun _ _ => True)
    (fun _ => EntrySound) where
  stable := step_shows
  mono_shared _ _ := trivial
  mono_thread _ h := h
  next {A s s' l l' e} _ hl _ hstep := by
    refine ⟨trivial,?_⟩
    cases step_cases S hstep with
    | arrive q =>
      rcases dispatch_cases q with h | ⟨_,h⟩ | ⟨_,-,h⟩ | h | h <;> rw [h] <;> exact .of_outside rfl rfl
    | call r =>
      rcases dispatchCall_cases S r with ⟨_,h⟩ | ⟨_,_,h⟩ <;> rw [h] <;> exact .of_outside rfl rfl
    | check c e now =>
      rcases afterCheck_cases c e now with h | h | ⟨d,-,-,h⟩ <;> rw [h] <;> exact .of_outside rfl rfl
    | count q o h =>
      refine ⟨fun q' o' heq => ?_,by simp [Phase.ownEntry]⟩
      cases heq
      exact h
    | prepare q o now uuid =>
      refine ⟨hl.main,fun q' d entry heq => ?_⟩
      cases heq
      exact ⟨now,uuid,rfl⟩
    | enter q o entry => exact ⟨hl.main,hl.entry⟩
    | answer q o entry => exact ⟨hl.main,hl.entry⟩
    | _ => exact .of_outside rfl rfl

variable {S : Server} {cacheSize : ℤ} {es : List (ℕ × Event)} {p : Pool ℕ Shared Phase}

theorem run_entrySound (hrun : Steps (Pool.Moves S.step) (start cacheSize) es p) (i : ℕ) : EntrySound (p.threads i) :=
  ((entry_evidence S).run (hrun.mono fun _ _ _ hmove => ⟨hmove,trivial⟩) trivial fun _ => .of_outside rfl rfl).2 i

theorem EntrySound.own {l : Phase} (h : EntrySound l) {entry : Audit.AuditEntry} (hentry : l.books.entry = some entry) :
    ∃ q o now uuid, l.outcome = some o ∧ o.call.task = .main q ∧ l.books.decision = some o.decision ∧
      entry = Server.auditEntry q o.decision now uuid := by
  cases l with
  | audited q o entry' | served q o entry' =>
    cases hentry
    obtain ⟨now,uuid,hentry⟩ := h.entry q o.decision entry rfl
    exact ⟨q,o,now,uuid,rfl,h.main q o rfl,rfl,hentry⟩
  | _ => cases hentry

theorem books_challenge {l : Phase} {outcome : String} (h : l.books.challenge = some outcome) : outcome = "issued" := by
  cases l with
  | served q o entry =>
    simp only [Phase.books] at h
    split_ifs at h
    exact (Option.some.inj h).symm
  | _ => cases h

theorem challenges_eq_zero (hrun : Steps (Pool.Moves S.step) (start cacheSize) es p) {outcome : String}
    (hne : outcome ≠ "issued") : p.shared.metrics.challenges outcome = 0 := by
  rw [challenges_balance hrun,Finset.card_eq_zero,Finset.filter_eq_empty_iff]
  exact fun i _ h => hne (books_challenge h)

theorem passTokens_issued (hrun : Steps (Pool.Moves S.step) (start cacheSize) es p) :
    p.shared.metrics.passTokens "issued" = 0 := by
  rw [passTokens_balance hrun,Finset.card_eq_zero,Finset.filter_eq_empty_iff]
  intro i _ h
  rw [books_token] at h
  obtain ⟨c,-,hc⟩ := Option.bind_eq_some_iff.mp h
  exact tokenOutcome_ne_issued c hc

def postIncoming : Incoming :=
  {sampleIncoming with request := ⟨"POST","example.com",some "/",.empty,"192.0.2.1:52311"⟩}

/-- A read and a write, each waiting for the other now and then. -/
def interleaved : List (ℕ × Event) := [
  (0,.arrive sampleIncoming),(1,.arrive postIncoming),(1,.verify 1),(0,.verify 1),(0,.look),(1,.look),
  (1,.collect [⟨"tor_exit",50,"IP is a known Tor exit node"⟩] 2),(0,.collect [] 2),(0,.stamp 3),(1,.stamp 3),
  (1,.add),(0,.add),(0,.count),(1,.count),(1,.prepare 4 "u"),(0,.prepare 5 "v"),(0,.enter),(1,.enter),(1,.answer)]

set_option synthInstance.maxSize 400 in
theorem interleaved_played : ((Pool.play sampleServer.step (start 100) interleaved).map fun p =>
    (p.shared.metrics.decisions (.allow,""),p.shared.metrics.decisions (.deny,"deny-writes"),
      p.shared.metrics.signals "tor_exit",
      [0,1].map fun i => (p.threads i).books.entry.map fun e => (e.requestID,e.verdict))) =
    some (1,1,1,[some ("v",some .allow),some ("u",some .deny)]) := by
  decide +kernel

end Entries

end ProxyServer
end AntiScrapling
