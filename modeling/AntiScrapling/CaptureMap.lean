import AntiScrapling.ByteCodec
import AntiScrapling.HostPort
import AntiScrapling.Runs
import AntiScrapling.StringMap
import Mathlib.Logic.Function.Basic

/-! The map of ClientHello captures (`internal/server/clienthello.go`, `server.go`), which
all servers of the process share.  A handshake stores the capture of its connection under
the texts of the two addresses, a request loads it, and a connection that ends deletes it. -/
namespace AntiScrapling
namespace CaptureMap

open HostPort

section Keys

/-- A TCP address: the text of the IP, with the zone if there is one, and the port. -/
structure TcpAddr where
  host : String
  port : ℕ
  deriving DecidableEq, Repr

/-- `TCPAddr.String`. -/
def addrString (a : TcpAddr) : String := joinHostPort a.host (toString a.port)

def connectionKeyStrings (localAddr remote : String) : String :=
  if localAddr = "" || remote = "" then "" else localAddr ++ remote

structure Pair where
  localAddr : TcpAddr
  remoteAddr : TcpAddr
  deriving DecidableEq, Repr

def connectionKey (p : Pair) : String :=
  connectionKeyStrings (addrString p.localAddr) (addrString p.remoteAddr)

theorem addrString_ne_empty (a : TcpAddr) : addrString a ≠ "" := by
  intro h
  have hlen : (addrString a).toList = [] := by rw [h]; rfl
  unfold addrString joinHostPort at hlen
  split_ifs at hlen <;> simp at hlen

theorem connectionKey_toList (p : Pair) :
    (connectionKey p).toList = (addrString p.localAddr).toList++(addrString p.remoteAddr).toList := by
  unfold connectionKey connectionKeyStrings
  simp [addrString_ne_empty]

theorem connectionKey_ne_empty (p : Pair) : connectionKey p ≠ "" := by
  intro h
  have hnil : (connectionKey p).toList = [] := by rw [h]; rfl
  rw [connectionKey_toList,List.append_eq_nil_iff] at hnil
  exact addrString_ne_empty p.localAddr (String.toList_inj.mp hnil.1)

theorem addrString_inj {a b : TcpAddr} (ha : Plain a.host) (hb : Plain b.host)
    (h : addrString a = addrString b) : a = b := by
  have hcut := joinHostPort_append_inj ha hb
    (congrArg (fun s : String => s.toList++([] : List Char)) h)
  rw [List.append_nil,List.append_nil] at hcut
  obtain ⟨ahost,aport⟩ := a
  obtain ⟨bhost,bport⟩ := b
  obtain ⟨hhost,hport⟩ := hcut
  have hnum : aport = bport := by
    simpa [Nat.toString_eq_ofList_toDigits] using congrArg (fun ds => Nat.ofDigitChars 10 ds 0) hport
  simp only [TcpAddr.mk.injEq]
  exact ⟨hhost,hnum⟩

theorem connectionKey_inj_of_port {p q : Pair} (hport : p.localAddr.port = q.localAddr.port)
    (hp : Plain p.localAddr.host ∧ Plain p.remoteAddr.host)
    (hq : Plain q.localAddr.host ∧ Plain q.remoteAddr.host)
    (h : connectionKey p = connectionKey q) : p = q := by
  have hlist := congrArg String.toList h
  rw [connectionKey_toList,connectionKey_toList] at hlist
  obtain ⟨hhost,hrest⟩ := joinHostPort_append_inj hp.1 hq.1 hlist
  rw [hport] at hrest
  have hremote := addrString_inj hp.2 hq.2 (String.toList_inj.mp (List.append_cancel_left hrest))
  obtain ⟨⟨_,_⟩,_⟩ := p
  obtain ⟨⟨_,_⟩,_⟩ := q
  simp only at hport hhost hremote
  rw [hport,hhost,hremote]

def firstPair : Pair := ⟨⟨"1.1.1.1",443⟩,⟨"12.0.0.1",5⟩⟩
def secondPair : Pair := ⟨⟨"1.1.1.1",4431⟩,⟨"2.0.0.1",5⟩⟩

theorem connectionKey_collision : connectionKey firstPair = connectionKey secondPair := by
  decide +kernel

end Keys

section Steps

/-- `ClientHelloCapture`. -/
structure Capture (ι : Type) where
  raw : ByteCodec.Bytes
  info : ι
  deriving DecidableEq, Repr

variable {ι : Type}

def captureCallback (captures : StringMap (Capture ι)) (p : Pair) (capture : Capture ι) :
    StringMap (Capture ι) :=
  let key := connectionKey p
  if key = "" then captures else captures.insert key capture

def loadClientHelloCapture (captures : StringMap (Capture ι)) (key : String) : Option (Capture ι) :=
  if key = "" then none else captures.lookup key

def deleteClientHelloCapture (captures : StringMap (Capture ι)) (key : String) : StringMap (Capture ι) :=
  if key ≠ "" then captures.erase key else captures

/-- The request carries the two addresses of its connection. -/
def captureForRequest (captures : StringMap (Capture ι)) (p : Pair) : Option (Capture ι) :=
  loadClientHelloCapture captures (connectionKeyStrings (addrString p.localAddr) (addrString p.remoteAddr))

/-- A connection of one of the servers, with its capture once it has shaken hands. -/
structure Conn (ι : Type) where
  addrs : Pair
  capture : Option (Capture ι) := none

structure State (ι : Type) where
  captures : StringMap (Capture ι)
  conns : ℕ → Option (Conn ι)

def initial : State ι := ⟨.empty,fun _ => none⟩

/-- `close` stands for the states Closed and Hijacked of `connState`. -/
inductive Event (ι : Type)
  | accept (id : ℕ) (addrs : Pair)
  | handshake (id : ℕ) (capture : Capture ι)
  | request (id : ℕ) (result : Option (Capture ι))
  | close (id : ℕ)

/-- An address pair is taken again only after the connection that had it is closed, and
requests come after the handshake of their connection. -/
inductive Step : State ι → Event ι → State ι → Prop
  | accept {s : State ι} {id : ℕ} {p : Pair} (hnew : s.conns id = none)
      (hpair : ∀ id' conn, s.conns id' = some conn → conn.addrs ≠ p) :
      Step s (.accept id p) ⟨s.captures,Function.update s.conns id (some ⟨p,none⟩)⟩
  | handshake {s : State ι} {id : ℕ} {p : Pair} (capture : Capture ι)
      (hconn : s.conns id = some ⟨p,none⟩) :
      Step s (.handshake id capture)
        ⟨captureCallback s.captures p capture,Function.update s.conns id (some ⟨p,some capture⟩)⟩
  | request {s : State ι} {id : ℕ} {p : Pair} {capture : Capture ι}
      (hconn : s.conns id = some ⟨p,some capture⟩) :
      Step s (.request id (captureForRequest s.captures p)) s
  | close {s : State ι} {id : ℕ} {conn : Conn ι} (hconn : s.conns id = some conn) :
      Step s (.close id)
        ⟨deleteClientHelloCapture s.captures (connectionKey conn.addrs),Function.update s.conns id none⟩

/-- A request is given the capture of its own connection, and a close leaves those of all
other connections. -/
def Proper (s : State ι) : Event ι → State ι → Prop
  | .request id result, _ => ∃ p capture, s.conns id = some ⟨p,some capture⟩ ∧ result = some capture
  | .close id, s' => ∀ id' p capture, id' ≠ id → s.conns id' = some ⟨p,some capture⟩ →
      captureForRequest s'.captures p = some capture
  | _, _ => True

/-- A new connection does not have the key of one that is open. -/
def Unambiguous (s : State ι) : Event ι → Prop
  | .accept _ p => ∀ id conn, s.conns id = some conn → connectionKey conn.addrs ≠ connectionKey p
  | _ => True

def CarefulStep (s : State ι) (e : Event ι) (s' : State ι) : Prop := Step s e s' ∧ Unambiguous s e

end Steps

section Runs
variable {ι : Type}

theorem lookup_captureCallback (captures : StringMap (Capture ι)) (p : Pair) (capture : Capture ι)
    (key : String) : (captureCallback captures p capture).lookup key =
      if key = connectionKey p then some capture else captures.lookup key := by
  unfold captureCallback
  rw [if_neg (connectionKey_ne_empty p),StringMap.lookup_insert]

theorem lookup_delete (captures : StringMap (Capture ι)) (p : Pair) (key : String) :
    (deleteClientHelloCapture captures (connectionKey p)).lookup key =
      if key = connectionKey p then none else captures.lookup key := by
  unfold deleteClientHelloCapture
  rw [if_pos (connectionKey_ne_empty p),StringMap.lookup_erase]

theorem captureForRequest_eq (captures : StringMap (Capture ι)) (p : Pair) :
    captureForRequest captures p = captures.lookup (connectionKey p) :=
  if_neg (connectionKey_ne_empty p)

/-- Open connections have different keys, and each that has shaken hands finds its capture. -/
structure Kept (s : State ι) : Prop where
  keys : ∀ id id' conn conn', s.conns id = some conn → s.conns id' = some conn' →
    connectionKey conn.addrs = connectionKey conn'.addrs → id = id'
  own : ∀ id p capture, s.conns id = some ⟨p,some capture⟩ →
    s.captures.lookup (connectionKey p) = some capture

theorem kept_initial : Kept (initial : State ι) where
  keys id id' conn conn' h := by cases h
  own id p capture h := by cases h

theorem update_cases {conns : ℕ → Option (Conn ι)} {id i : ℕ} {c : Option (Conn ι)} {conn : Conn ι}
    (h : Function.update conns id c i = some conn) :
    i = id ∧ c = some conn ∨ i ≠ id ∧ conns i = some conn := by
  by_cases hid : i = id
  · rw [hid,Function.update_self] at h
    exact .inl ⟨hid,h⟩
  · rw [Function.update_of_ne hid] at h
    exact .inr ⟨hid,h⟩

theorem Kept.accept {s : State ι} {id : ℕ} {p : Pair} (h : Kept s)
    (hkey : ∀ id' conn, s.conns id' = some conn → connectionKey conn.addrs ≠ connectionKey p) :
    Kept ⟨s.captures,Function.update s.conns id (some ⟨p,none⟩)⟩ := by
  refine ⟨?_,?_⟩
  · intro i j conn conn' hi hj heq
    rcases update_cases hi with ⟨hiid,hnew⟩ | ⟨-,hold⟩
    · rcases update_cases hj with ⟨hjid,-⟩ | ⟨-,hold'⟩
      · rw [hiid,hjid]
      · cases hnew
        exact absurd heq.symm (hkey j conn' hold')
    · rcases update_cases hj with ⟨-,hnew'⟩ | ⟨-,hold'⟩
      · cases hnew'
        exact absurd heq (hkey i conn hold)
      · exact h.keys i j conn conn' hold hold' heq
  · intro i q capture hi
    rcases update_cases hi with ⟨-,hnew⟩ | ⟨-,hold⟩
    · cases hnew
    · exact h.own i q capture hold

theorem Kept.handshake {s : State ι} {id : ℕ} {p : Pair} (h : Kept s) (capture : Capture ι)
    (hconn : s.conns id = some ⟨p,none⟩) :
    Kept ⟨captureCallback s.captures p capture,Function.update s.conns id (some ⟨p,some capture⟩)⟩ := by
  -- the connections keep their addresses
  have haddrs : ∀ i conn, Function.update s.conns id (some ⟨p,some capture⟩) i = some conn →
      ∃ conn', s.conns i = some conn' ∧ conn'.addrs = conn.addrs := by
    intro i conn hi
    rcases update_cases hi with ⟨hiid,hnew⟩ | ⟨-,hold⟩
    · cases hnew
      exact ⟨⟨p,none⟩,hiid ▸ hconn,rfl⟩
    · exact ⟨conn,hold,rfl⟩
  refine ⟨?_,?_⟩
  · intro i j conn conn' hi hj heq
    obtain ⟨old,hold,holdaddrs⟩ := haddrs i conn hi
    obtain ⟨old',hold',holdaddrs'⟩ := haddrs j conn' hj
    exact h.keys i j old old' hold hold' (by rw [holdaddrs,holdaddrs',heq])
  · intro i q capture' hi
    rw [lookup_captureCallback]
    rcases update_cases hi with ⟨-,hnew⟩ | ⟨hne,hold⟩
    · cases hnew
      exact if_pos rfl
    · rw [if_neg fun heq => hne (h.keys i id _ _ hold hconn heq)]
      exact h.own i q capture' hold

/-- A connection that ends takes no other capture with it. -/
theorem Kept.delete {s : State ι} {id id' : ℕ} {conn : Conn ι} {p : Pair} {capture : Capture ι}
    (h : Kept s) (hconn : s.conns id = some conn) (hne : id' ≠ id)
    (hother : s.conns id' = some ⟨p,some capture⟩) :
    (deleteClientHelloCapture s.captures (connectionKey conn.addrs)).lookup (connectionKey p) =
      some capture := by
  rw [lookup_delete,if_neg fun heq => hne (h.keys id' id _ _ hother hconn heq)]
  exact h.own id' p capture hother

theorem Kept.close {s : State ι} {id : ℕ} {conn : Conn ι} (h : Kept s) (hconn : s.conns id = some conn) :
    Kept ⟨deleteClientHelloCapture s.captures (connectionKey conn.addrs),Function.update s.conns id none⟩ := by
  have hstill : ∀ i c, Function.update s.conns id none i = some c → i ≠ id ∧ s.conns i = some c := by
    intro i c hi
    rcases update_cases hi with ⟨-,hnew⟩ | hold
    · cases hnew
    · exact hold
  refine ⟨?_,?_⟩
  · intro i j c c' hi hj
    exact h.keys i j c c' (hstill i c hi).2 (hstill j c' hj).2
  · intro i p capture hi
    obtain ⟨hne,hold⟩ := hstill i _ hi
    exact h.delete hconn hne hold

theorem Kept.step {s s' : State ι} {e : Event ι} (h : Kept s) (hstep : CarefulStep s e s') : Kept s' := by
  obtain ⟨hstep,hkeys⟩ := hstep
  cases hstep with
  | accept hnew hpair => exact h.accept hkeys
  | handshake capture hconn => exact h.handshake capture hconn
  | request hconn => exact h
  | close hconn => exact h.close hconn

theorem Kept.proper {s s' : State ι} {e : Event ι} (h : Kept s) (hstep : Step s e s') : Proper s e s' := by
  cases hstep with
  | accept hnew hpair => trivial
  | handshake capture hconn => trivial
  | @request id p capture hconn =>
    exact ⟨p,capture,hconn,by rw [captureForRequest_eq,h.own id p capture hconn]⟩
  | close hconn =>
    intro id' p capture hne hother
    rw [captureForRequest_eq]
    exact h.delete hconn hne hother

theorem run_kept {es : List (Event ι)} {s : State ι} (hrun : Steps CarefulStep initial es s) : Kept s :=
  hrun.invariant kept_initial fun _ _ _ h hcareful => h.step hcareful

/-- Runs in which a new connection never has the key of an open one do not mix captures. -/
theorem careful_run_proper {es : List (Event ι)} {s s' : State ι} {e : Event ι}
    (hrun : Steps CarefulStep initial es s) (hstep : Step s e s') : Proper s e s' :=
  (run_kept hrun).proper hstep

def sampleCapture (b : UInt8) : Capture Unit := ⟨[b],()⟩

def sampleEvents : List (Event Unit) := [.accept 0 firstPair,.handshake 0 (sampleCapture 1)]

theorem sampleEvents_careful : ∃ s, Steps CarefulStep initial sampleEvents s ∧
    s.captures = captureCallback .empty firstPair (sampleCapture 1) ∧
    s.conns = Function.update (fun _ => none) 0 (some ⟨firstPair,some (sampleCapture 1)⟩) := by
  have s₁ : Steps CarefulStep (initial : State Unit) _ _ :=
    .snoc .refl ⟨@Step.accept _ _ 0 firstPair rfl (fun _ _ h => by cases h),fun _ _ h => by cases h⟩
  have s₂ := s₁.snoc ⟨@Step.handshake _ _ 0 firstPair (sampleCapture 1) rfl,trivial⟩
  exact ⟨_,s₂,rfl,by simp [initial]⟩

def thirdPair : Pair := ⟨⟨"1.1.1.1",443⟩,⟨"2.0.0.1",5⟩⟩

theorem bothOpen_careful : ∃ s, Steps CarefulStep initial
      (sampleEvents++[.accept 1 thirdPair,.handshake 1 (sampleCapture 2)]) s ∧
    s.captures = captureCallback (captureCallback .empty firstPair (sampleCapture 1)) thirdPair (sampleCapture 2) ∧
    s.conns 0 = some ⟨firstPair,some (sampleCapture 1)⟩ ∧ s.conns 1 = some ⟨thirdPair,some (sampleCapture 2)⟩ := by
  obtain ⟨s,hrun,hcaptures,hconns⟩ := sampleEvents_careful
  have hother : ∀ id conn, s.conns id = some conn → conn.addrs = firstPair := by
    intro id conn h
    rw [hconns] at h
    rcases update_cases h with ⟨-,hfirst⟩ | ⟨-,hnone⟩
    · cases hfirst
      rfl
    · cases hnone
  have haccept := hrun.snoc ⟨@Step.accept _ s 1 thirdPair (by rw [hconns]; rfl)
    (fun id conn h => by rw [hother id conn h]; decide),fun id conn h => by rw [hother id conn h]; decide⟩
  have hboth := haccept.snoc ⟨@Step.handshake _ _ 1 thirdPair (sampleCapture 2) rfl,trivial⟩
  rw [List.append_assoc] at hboth
  exact ⟨_,hboth,by rw [hcaptures],by simp [hconns],by simp⟩

/-- Two connections are open: each request gets its own capture, and one close leaves the other's. -/
theorem careful_run_proper_sample : ∃ s s', Steps CarefulStep initial
      (sampleEvents++[.accept 1 thirdPair,.handshake 1 (sampleCapture 2)]) s ∧
    Proper s (.request 0 (some (sampleCapture 1))) s ∧ Proper s (.request 1 (some (sampleCapture 2))) s ∧
    Step s (.close 1) s' ∧ Proper s (.close 1) s' := by
  obtain ⟨s,hrun,hcaptures,hzero,hone⟩ := bothOpen_careful
  have hfirst := careful_run_proper hrun (Step.request hzero)
  have hsecond := careful_run_proper hrun (Step.request hone)
  have hclose := Step.close hone
  have hkey : connectionKey firstPair ≠ connectionKey thirdPair := by decide
  rw [hcaptures,captureForRequest_eq,lookup_captureCallback,if_neg hkey,lookup_captureCallback,if_pos rfl] at hfirst
  rw [hcaptures,captureForRequest_eq,lookup_captureCallback,if_pos rfl] at hsecond
  exact ⟨s,_,hrun,hfirst,hsecond,hclose,careful_run_proper hrun hclose⟩

/-- The first connection is given the capture of the second one, which is made on another
port and overwrites it. -/
theorem capture_mixed_up : ∃ s, Steps Step initial
      (sampleEvents++[.accept 1 secondPair,.handshake 1 (sampleCapture 2)]) s ∧
    Step s (.request 0 (some (sampleCapture 2))) s ∧ ¬ Proper s (.request 0 (some (sampleCapture 2))) s := by
  obtain ⟨s,hcareful,-,hconns⟩ := sampleEvents_careful
  have s₀ : Steps Step initial sampleEvents s := hcareful.mono fun _ _ _ h => h.1
  have hpair : ∀ id' conn, s.conns id' = some conn → conn.addrs ≠ secondPair := by
    intro id' conn h
    rw [hconns] at h
    rcases update_cases h with ⟨-,hfirst⟩ | ⟨-,hnone⟩
    · cases hfirst
      decide
    · cases hnone
  have s₁ := s₀.snoc (@Step.accept _ s 1 secondPair (by rw [hconns]; rfl) hpair)
  have s₂ := s₁.snoc (@Step.handshake _ _ 1 secondPair (sampleCapture 2) rfl)
  have hfirst : s.conns 0 = some ⟨firstPair,some (sampleCapture 1)⟩ := by
    rw [hconns]
    rfl
  have hmixed : captureForRequest (captureCallback s.captures secondPair (sampleCapture 2)) firstPair =
      some (sampleCapture 2) := by
    rw [captureForRequest_eq,lookup_captureCallback,if_pos connectionKey_collision]
  refine ⟨_,s₂,?_,?_⟩
  · rw [← hmixed]
    exact .request hfirst
  · rintro ⟨p,capture,howner,heq⟩
    have hsame := hfirst.symm.trans howner
    cases heq
    simp [sampleCapture] at hsame

end Runs

section OnePort
variable {ι : Type} {port : ℕ}

/-- The address pair of a server that listens on one port. -/
def Pair.OnPort (port : ℕ) (p : Pair) : Prop :=
  p.localAddr.port = port ∧ Plain p.localAddr.host ∧ Plain p.remoteAddr.host

def OnPortStep (port : ℕ) (s : State ι) (e : Event ι) (s' : State ι) : Prop :=
  Step s e s' ∧ ∀ id p, e = .accept id p → p.OnPort port

theorem onPort_conns {es : List (Event ι)} {s : State ι} (hrun : Steps (OnPortStep port) initial es s) :
    ∀ id conn, s.conns id = some conn → conn.addrs.OnPort port := by
  refine Steps.invariant (P := fun s => ∀ id conn, s.conns id = some conn → conn.addrs.OnPort port)
    hrun (fun id conn h => by cases h) ?_
  rintro s₁ e s₂ hs₁ ⟨hstep,hport⟩ id conn hconn
  cases hstep with
  | accept hnew hpair =>
    rcases update_cases hconn with ⟨-,hc⟩ | ⟨-,hold⟩
    · cases hc
      exact hport _ _ rfl
    · exact hs₁ id conn hold
  | handshake capture hold =>
    rcases update_cases hconn with ⟨-,hc⟩ | ⟨-,hold⟩
    · cases hc
      have haddrs := hs₁ _ _ hold
      exact haddrs
    · exact hs₁ id conn hold
  | request hold => exact hs₁ id conn hconn
  | close hold =>
    rcases update_cases hconn with ⟨-,hc⟩ | ⟨-,hold⟩
    · cases hc
    · exact hs₁ id conn hold

theorem onPort_careful {es : List (Event ι)} {s : State ι}
    (hrun : Steps (OnPortStep port) initial es s) : Steps CarefulStep initial es s := by
  induction hrun with
  | refl => exact .refl
  | @snoc _ e s₁ _ hrun hstep ih =>
    refine ih.snoc ⟨hstep.1,?_⟩
    cases hstep.1 with
    | @accept id p hnew hpair =>
      intro id' conn hconn heq
      have hold := onPort_conns hrun id' conn hconn
      have hnew := hstep.2 id p rfl
      exact hpair id' conn hconn
        (connectionKey_inj_of_port (hold.1.trans hnew.1.symm) hold.2 hnew.2 heq)
    | handshake capture hconn => trivial
    | request hconn => trivial
    | close hconn => trivial

theorem onPort_run_proper {es : List (Event ι)} {s s' : State ι} {e : Event ι}
    (hrun : Steps (OnPortStep port) initial es s) (hstep : Step s e s') : Proper s e s' :=
  (run_kept (onPort_careful hrun)).proper hstep

end OnePort

end CaptureMap
end AntiScrapling
