import AntiScrapling.HeaderChecks
import AntiScrapling.RingBuffer
import AntiScrapling.Runs

/-! `RefererTracker.Observe` under concurrency (`internal/signal/headers/referer.go`).
A call looks the window of its address up under the read lock, makes one under the write
lock if there is still none, and observes under the lock of the window; each of these
sections is one step.  Windows are references into a heap. -/
namespace AntiScrapling
namespace RefererWindows

open Binary64 HeaderChecks RingBuffer

section OneWindow
variable {size : ℕ} {w : IpWindow} {xs : List Bool}

/-- A window that has observed `xs`. -/
structure Tracks (size : ℕ) (w : IpWindow) (xs : List Bool) : Prop where
  buf_length : w.buf.length = size
  pos : w.pos = xs.length%size
  filled : w.filled = decide (size ≤ xs.length)
  holds : Holds w.buf xs

theorem tracks_new (hsize : 1 ≤ size) : Tracks size (newIPWindow size) [] where
  buf_length := List.length_replicate
  pos := (Nat.zero_mod size).symm
  filled := by
    rw [eq_comm,newIPWindow,decide_eq_false_iff_not,List.length_nil]
    omega
  holds := holds_nil _

theorem next_pos (hsize : 1 ≤ size) (n : ℕ) :
    (if n%size+1 ≥ size then 0 else n%size+1) = (n+1)%size := by
  have hlt := Nat.mod_lt n hsize
  have hmod : (n+1)%size = (n%size+1)%size := (Nat.mod_add_mod n size 1).symm
  rw [hmod]
  split_ifs with hwrap
  · rw [show n%size+1 = size by omega,Nat.mod_self]
  · have hnext : n%size+1 < size := by omega
    exact (Nat.mod_eq_of_lt hnext).symm

theorem next_filled (size n : ℕ) :
    (decide (size ≤ n) || decide (n%size+1 ≥ size)) = decide (size ≤ n+1) := by
  rw [Bool.eq_iff_iff]
  simp only [Bool.or_eq_true,decide_eq_true_eq]
  constructor
  · rintro (hfull | hwrap)
    · omega
    · have := Nat.mod_le n size
      omega
  · intro h
    by_cases hfull : size ≤ n
    · exact .inl hfull
    · rw [Nat.mod_eq_of_lt (by omega)]
      exact .inr h

theorem Tracks.next (h : Tracks size w xs) (hsize : 1 ≤ size) (threshold : Double) (b : Bool) :
    Tracks size (w.observe size threshold b).1 (xs++[b]) := by
  have hlen : (xs++[b]).length = xs.length+1 := by simp
  have hwrite := h.holds.write (by rw [h.buf_length]; omega) b
  refine ⟨?_,?_,?_,?_⟩
  · show (w.buf.set w.pos b).length = size
    rw [List.length_set,h.buf_length]
  · show (if w.pos+1 ≥ size then 0 else w.pos+1) = _
    rw [h.pos,hlen,next_pos hsize]
  · show (w.filled || decide (w.pos+1 ≥ size)) = _
    rw [h.pos,h.filled,hlen,next_filled]
  · show Holds (w.buf.set w.pos b) _
    rwa [h.pos,← h.buf_length]

/-- The fraction of Google referers among the last observations. -/
def fraction (size : ℕ) (xs : List Bool) : ℚ :=
  let m := min xs.length size
  ((xs.rtake m).count true : ℚ)/m

/-- More than the allowed fraction of the last observations, and at least five of them. -/
def Exceeds (size : ℕ) (threshold : ℚ) (xs : List Bool) : Prop :=
  5 ≤ min xs.length size ∧ threshold < fraction size xs

theorem quotient_value {count n : ℕ} (hcount : count ≤ n) (hn : n ≤ 2^53) :
    (Double.ofNat count/Double.ofNat n).value = nearest ((count : ℚ)/n) := by
  rw [Double.div_value,Double.ofNat_value (hcount.trans hn),Double.ofNat_value hn]

/-- The number of places that the loop counts is the number of observations in the window. -/
theorem Tracks.places (h : Tracks size w xs) (hsize : 1 ≤ size) :
    (if w.filled then size else w.pos) = min xs.length size := by
  rw [h.filled,h.pos]
  by_cases hfull : size ≤ xs.length
  · rw [decide_eq_true hfull,if_pos rfl,Nat.min_eq_right hfull]
  · rw [decide_eq_false hfull,if_neg Bool.false_ne_true,Nat.mod_eq_of_lt (by omega),Nat.min_eq_left (by omega)]

theorem Tracks.count_take (h : Tracks size w xs) :
    (w.buf.take (min xs.length size)).count true = (xs.rtake (min xs.length size)).count true := by
  have hcount : RingBuffer.count w.buf xs = min xs.length size := by rw [RingBuffer.count,h.buf_length]
  have hperm := h.holds.perm.count_eq true
  rwa [hcount] at hperm

theorem count_rtake_le (xs : List Bool) (n : ℕ) : (xs.rtake n).count true ≤ n := by
  refine List.count_le_length.trans ?_
  rw [List.rtake,List.length_drop]
  omega

/-- Only a threshold that is the double next to the fraction is compared in another way. -/
theorem Tracks.alert (h : Tracks size w xs) (hsize : 1 ≤ size) (hmax : size ≤ 2^53) (threshold : Double) (b : Bool) :
    (w.observe size threshold b).2 = true ↔ Exceeds size threshold.value (xs++[b]) ∧
      threshold.value ≠ nearest (fraction size (xs++[b])) := by
  have hnext := h.next hsize threshold b
  have halert : (w.observe size threshold b).2 =
      (decide (5 ≤ min (xs++[b]).length size) &&
        decide (threshold < Double.ofNat
          (((w.observe size threshold b).1.buf.take (min (xs++[b]).length size)).count true)/
            Double.ofNat (min (xs++[b]).length size))) := by
    rw [← hnext.places hsize]
    rfl
  have hfraction : 0 ≤ fraction size (xs++[b]) := div_nonneg (Nat.cast_nonneg _) (Nat.cast_nonneg _)
  rw [halert,hnext.count_take,Bool.and_eq_true,decide_eq_true_eq,decide_eq_true_eq,Double.lt_iff,
    quotient_value (count_rtake_le _ _) ((min_le_right _ _).trans hmax)]
  exact (and_congr_right fun _ => lt_nearest_iff threshold.isDouble hfraction).trans and_assoc.symm

end OneWindow

section Steps

/-- Where a call is: before its first look at the map, after it found no window, or with
the window that it will observe. -/
inductive Phase
  | start
  | missed
  | holding (window : ℕ)

structure Call where
  ip : String
  referer : String
  phase : Phase

/-- The tracker, with its windows by reference, and the calls on their way. -/
structure State where
  windows : StringMap ℕ
  heap : List IpWindow
  calls : ℕ → Option Call

def initial : State := ⟨.empty,[],fun _ => none⟩

inductive Event
  | enter (id : ℕ) (ip referer : String)
  | lookup (id : ℕ)
  | insert (id : ℕ)
  | observe (id : ℕ) (ip referer : String) (alert : Bool)

def State.move (s : State) (id : ℕ) (c : Option Call) : State :=
  {s with calls := Function.update s.calls id c}

theorem State.move_calls (s : State) (id : ℕ) (c : Option Call) :
    (s.move id c).calls = Function.update s.calls id c := rfl

def State.write (s : State) (window : ℕ) (w : IpWindow) : State :=
  {s with heap := s.heap.set window w}

def State.add (s : State) (ip : String) (w : IpWindow) : State :=
  {s with windows := s.windows.insert ip s.heap.length, heap := s.heap++[w]}

variable (urlHost : String → Option String) (size : ℕ) (threshold : Double)

inductive Step : State → Event → State → Prop
  | enter {s : State} {id : ℕ} (ip referer : String) (hnew : s.calls id = none) :
      Step s (.enter id ip referer) (s.move id (some ⟨ip,referer,.start⟩))
  | found {s : State} {id window : ℕ} {ip referer : String}
      (hcall : s.calls id = some ⟨ip,referer,.start⟩) (hmap : s.windows.lookup ip = some window) :
      Step s (.lookup id) (s.move id (some ⟨ip,referer,.holding window⟩))
  | missing {s : State} {id : ℕ} {ip referer : String}
      (hcall : s.calls id = some ⟨ip,referer,.start⟩) (hmap : s.windows.lookup ip = none) :
      Step s (.lookup id) (s.move id (some ⟨ip,referer,.missed⟩))
  | present {s : State} {id window : ℕ} {ip referer : String}
      (hcall : s.calls id = some ⟨ip,referer,.missed⟩) (hmap : s.windows.lookup ip = some window) :
      Step s (.insert id) (s.move id (some ⟨ip,referer,.holding window⟩))
  | create {s : State} {id : ℕ} {ip referer : String}
      (hcall : s.calls id = some ⟨ip,referer,.missed⟩) (hmap : s.windows.lookup ip = none) :
      Step s (.insert id)
        ((s.add ip (newIPWindow size)).move id (some ⟨ip,referer,.holding s.heap.length⟩))
  | observe {s : State} {id window : ℕ} {ip referer : String} {w : IpWindow}
      (hcall : s.calls id = some ⟨ip,referer,.holding window⟩) (hheap : s.heap[window]? = some w) :
      Step s (.observe id ip referer (w.observe size threshold (isGoogleReferer urlHost referer)).2)
        ((s.write window (w.observe size threshold (isGoogleReferer urlHost referer)).1).move id none)

/-- The observations of one address, in the order of the steps that made them. -/
def observations (ip : String) (es : List Event) : List Bool :=
  es.filterMap fun
    | .observe _ ip' referer _ => if ip' = ip then some (isGoogleReferer urlHost referer) else none
    | _ => none

theorem observations_append (ip : String) (es es' : List Event) :
    observations urlHost ip (es++es') = observations urlHost ip es++observations urlHost ip es' :=
  List.filterMap_append

theorem observations_observe (ip : String) (id : ℕ) (ip' referer : String) (alert : Bool) :
    observations urlHost ip [.observe id ip' referer alert] =
      if ip' = ip then [isGoogleReferer urlHost referer] else [] := by
  by_cases h : ip' = ip <;> simp [observations,h]

end Steps

section Runs
variable {urlHost : String → Option String} {size : ℕ} {threshold : Double}

/-- Every window is in the map, under one address; a call that holds a window holds the
one of its address; and each window has observed what its address has shown. -/
structure Reached (urlHost : String → Option String) (size : ℕ) (s : State) (es : List Event) : Prop where
  inj : ∀ ip ip' window, s.windows.lookup ip = some window → s.windows.lookup ip' = some window → ip = ip'
  onto : ∀ window < s.heap.length, ∃ ip, s.windows.lookup ip = some window
  holding : ∀ id ip referer window, s.calls id = some ⟨ip,referer,.holding window⟩ →
    s.windows.lookup ip = some window
  tracks : ∀ ip window, s.windows.lookup ip = some window →
    ∃ w, s.heap[window]? = some w ∧ Tracks size w (observations urlHost ip es)
  unseen : ∀ ip, s.windows.lookup ip = none → observations urlHost ip es = []

theorem reached_initial : Reached urlHost size initial [] where
  inj ip ip' window h := by cases h
  onto window h := by simp [initial] at h
  holding id ip referer window h := by cases h
  tracks ip window h := by cases h
  unseen ip _ := rfl

/-- A step that moves a call. -/
theorem Reached.move {s : State} {es : List Event} (h : Reached urlHost size s es) (id : ℕ)
    {c : Option Call}
    (hc : ∀ ip referer window, c = some ⟨ip,referer,.holding window⟩ →
      s.windows.lookup ip = some window) :
    Reached urlHost size (s.move id c) es := by
  refine ⟨h.inj,h.onto,?_,h.tracks,h.unseen⟩
  intro id' ip referer window hcall
  by_cases hid : id' = id
  · subst hid
    rw [State.move_calls,Function.update_self] at hcall
    exact hc ip referer window hcall
  · rw [State.move_calls,Function.update_of_ne hid] at hcall
    exact h.holding id' ip referer window hcall

theorem Reached.silent {s : State} {es : List Event} {e : Event} (h : Reached urlHost size s es)
    (he : ∀ ip, observations urlHost ip [e] = []) : Reached urlHost size s (es++[e]) := by
  have hobs (ip : String) : observations urlHost ip (es++[e]) = observations urlHost ip es := by
    rw [observations_append,he,List.append_nil]
  refine ⟨h.inj,h.onto,h.holding,?_,?_⟩
  · intro ip window hmap
    rw [hobs]
    exact h.tracks ip window hmap
  · intro ip hmap
    rw [hobs]
    exact h.unseen ip hmap

/-- A window for an address that has none. -/
theorem Reached.add {s : State} {es : List Event} (h : Reached urlHost size s es) (hsize : 1 ≤ size)
    {ip : String} (hmap : s.windows.lookup ip = none) :
    Reached urlHost size (s.add ip (newIPWindow size)) es := by
  have hlookup (k : String) : (s.add ip (newIPWindow size)).windows.lookup k =
      if k = ip then some s.heap.length else s.windows.lookup k :=
    StringMap.lookup_insert s.windows ip s.heap.length k
  have hold {k : String} {window : ℕ} (hk : s.windows.lookup k = some window) :
      window < s.heap.length := by
    obtain ⟨w,hw,-⟩ := h.tracks k window hk
    exact (List.getElem?_eq_some_iff.mp hw).1
  have hkeep {k : String} {window : ℕ} (hk : s.windows.lookup k = some window) : k ≠ ip := by
    rintro rfl
    rw [hmap] at hk
    cases hk
  refine ⟨?_,?_,?_,?_,?_⟩
  · intro k k' window hk hk'
    rw [hlookup] at hk hk'
    split_ifs at hk hk' with h₁ h₂ h₂
    · rw [h₁,h₂]
    · have := hold hk'
      cases hk
      omega
    · have := hold hk
      cases hk'
      omega
    · exact h.inj k k' window hk hk'
  · intro window hwindow
    have hlen : (s.add ip (newIPWindow size)).heap.length = s.heap.length+1 := by
      simp [State.add]
    by_cases hlast : window = s.heap.length
    · exact ⟨ip,by rw [hlookup,if_pos rfl,hlast]⟩
    · obtain ⟨k,hk⟩ := h.onto window (by omega)
      exact ⟨k,by rw [hlookup,if_neg (hkeep hk),hk]⟩
  · intro id k referer window hcall
    have hk := h.holding id k referer window hcall
    rw [hlookup,if_neg (hkeep hk),hk]
  · intro k window hk
    rw [hlookup] at hk
    split_ifs at hk with hip
    · cases hk
      refine ⟨newIPWindow size,?_,?_⟩
      · simp [State.add]
      · rw [hip,h.unseen ip hmap]
        exact tracks_new hsize
    · obtain ⟨w,hw,htracks⟩ := h.tracks k window hk
      refine ⟨w,?_,htracks⟩
      show (s.heap++[newIPWindow size])[window]? = some w
      rw [List.getElem?_append_left (hold hk),hw]
  · intro k hk
    rw [hlookup] at hk
    split_ifs at hk with hip
    exact h.unseen k hk

/-- One observation. -/
theorem Reached.observe {s : State} {es : List Event} (h : Reached urlHost size s es)
    (hsize : 1 ≤ size) {id window : ℕ} {ip referer : String} {w : IpWindow} {alert : Bool}
    (hmap : s.windows.lookup ip = some window) (hheap : s.heap[window]? = some w) :
    Reached urlHost size
      (s.write window (w.observe size threshold (isGoogleReferer urlHost referer)).1)
      (es++[.observe id ip referer alert]) := by
  have hobs (k : String) : observations urlHost k (es++[.observe id ip referer alert]) =
      observations urlHost k es++if ip = k then [isGoogleReferer urlHost referer] else [] := by
    rw [observations_append,observations_observe]
  obtain ⟨hlt,-⟩ := List.getElem?_eq_some_iff.mp hheap
  refine ⟨h.inj,?_,h.holding,?_,?_⟩
  · intro window' hwindow'
    exact h.onto window' (by simpa [State.write] using hwindow')
  · intro k window' hk
    obtain ⟨w',hw',htracks⟩ := h.tracks k window' hk
    rw [hobs]
    by_cases hip : ip = k
    · subst hip
      obtain rfl : window = window' := Option.some.inj (hmap.symm.trans hk)
      obtain rfl : w = w' := Option.some.inj (hheap.symm.trans hw')
      refine ⟨_,List.getElem?_set_self hlt,?_⟩
      rw [if_pos rfl]
      exact htracks.next hsize threshold _
    · -- another address has another window
      have hne : window ≠ window' := by
        rintro rfl
        exact hip (h.inj ip k window hmap hk)
      refine ⟨w',?_,?_⟩
      · show (s.heap.set window _)[window']? = some w'
        rw [List.getElem?_set_ne hne,hw']
      · rw [if_neg hip,List.append_nil]
        exact htracks
  · intro k hk
    have hip : ip ≠ k := by
      rintro rfl
      have hnone : s.windows.lookup ip = none := hk
      rw [hmap] at hnone
      cases hnone
    rw [hobs,if_neg hip,List.append_nil]
    exact h.unseen k hk

theorem Reached.step {s s' : State} {es : List Event} {e : Event} (h : Reached urlHost size s es)
    (hsize : 1 ≤ size) (hstep : Step urlHost size threshold s e s') :
    Reached urlHost size s' (es++[e]) := by
  cases hstep with
  | enter ip referer hnew =>
    refine (h.move _ ?_).silent fun _ => rfl
    rintro _ _ _ ⟨⟩
  | found hcall hmap =>
    refine (h.move _ ?_).silent fun _ => rfl
    rintro _ _ _ ⟨⟩
    exact hmap
  | missing hcall hmap =>
    refine (h.move _ ?_).silent fun _ => rfl
    rintro _ _ _ ⟨⟩
  | present hcall hmap =>
    refine (h.move _ ?_).silent fun _ => rfl
    rintro _ _ _ ⟨⟩
    exact hmap
  | create hcall hmap =>
    refine ((h.add hsize hmap).move _ ?_).silent fun _ => rfl
    rintro _ _ _ ⟨⟩
    exact (StringMap.lookup_insert ..).trans (if_pos rfl)
  | observe hcall hheap =>
    refine (h.observe hsize (h.holding _ _ _ _ hcall) hheap).move _ ?_
    rintro _ _ _ ⟨⟩

theorem run_reached (hsize : 1 ≤ size) {es : List Event} {s : State}
    (hrun : Steps (Step urlHost size threshold) initial es s) : Reached urlHost size s es := by
  induction hrun with
  | refl => exact reached_initial
  | snoc _ hstep ih => exact ih.step hsize hstep

/-- An observation answers for the address that made it. -/
theorem Reached.alert {s s' : State} {es : List Event} (h : Reached urlHost size s es)
    (hsize : 1 ≤ size) (hmax : size ≤ 2^53) {id : ℕ} {ip referer : String} {alert : Bool}
    (hstep : Step urlHost size threshold s (.observe id ip referer alert) s') :
    alert = true ↔
      Exceeds size threshold.value (observations urlHost ip (es++[.observe id ip referer alert])) ∧
        threshold.value ≠
          nearest (fraction size (observations urlHost ip (es++[.observe id ip referer alert]))) := by
  cases hstep with
  | observe hcall hheap =>
    obtain ⟨w,hw,htracks⟩ := h.tracks ip _ (h.holding _ _ _ _ hcall)
    cases hheap.symm.trans hw
    rw [observations_append,observations_observe,if_pos rfl]
    exact htracks.alert hsize hmax threshold _

theorem Reached.enabled {s : State} {es : List Event} (h : Reached urlHost size s es)
    {id : ℕ} {c : Call} (hcall : s.calls id = some c) :
    ∃ e s', Step urlHost size threshold s e s' ∧ s'.calls id ≠ some c := by
  obtain ⟨ip,referer,phase⟩ := c
  cases phase with
  | start =>
    cases hmap : s.windows.lookup ip with
    | none => exact ⟨_,_,.missing hcall hmap,by simp [State.move_calls]⟩
    | some window => exact ⟨_,_,.found hcall hmap,by simp [State.move_calls]⟩
  | missed =>
    cases hmap : s.windows.lookup ip with
    | none => exact ⟨_,_,.create hcall hmap,by simp [State.move_calls]⟩
    | some window => exact ⟨_,_,.present hcall hmap,by simp [State.move_calls]⟩
  | holding window =>
    obtain ⟨w,hw,-⟩ := h.tracks ip window (h.holding id ip referer window hcall)
    exact ⟨_,_,.observe hcall hw,by simp [State.move_calls]⟩

/-- For every interleaving: each window belongs to one address and each call that holds a
window holds that of its address; a call never gets stuck; and an observation raises the
alert exactly if the last observations of its own address exceed the threshold and the
threshold is not the double next to their fraction. -/
theorem observe_run (hsize : 1 ≤ size) (hmax : size ≤ 2^53) {es : List Event} {s : State}
    (hrun : Steps (Step urlHost size threshold) initial es s) :
    (∀ window < s.heap.length, ∃! ip, s.windows.lookup ip = some window) ∧
      (∀ id ip referer window, s.calls id = some ⟨ip,referer,.holding window⟩ →
        s.windows.lookup ip = some window) ∧
      (∀ id c, s.calls id = some c →
        ∃ e s', Step urlHost size threshold s e s' ∧ s'.calls id ≠ some c) ∧
      ∀ es₁ id ip referer alert es₂, es = es₁++.observe id ip referer alert::es₂ →
        (alert = true ↔
          Exceeds size threshold.value (observations urlHost ip (es₁++[.observe id ip referer alert])) ∧
            threshold.value ≠
              nearest (fraction size (observations urlHost ip (es₁++[.observe id ip referer alert])))) := by
  have hreached := run_reached hsize hrun
  refine ⟨?_,hreached.holding,fun id c => hreached.enabled,?_⟩
  · intro window hwindow
    obtain ⟨ip,hip⟩ := hreached.onto window hwindow
    exact ⟨ip,hip,fun ip' hip' => hreached.inj ip' ip window hip' hip⟩
  · intro es₁ id ip referer alert es₂ hes
    obtain ⟨s₁,s₂,hrun₁,hstep⟩ := hrun.before hes
    exact (run_reached hsize hrun₁).alert hsize hmax hstep

end Runs

section Sample
variable {urlHost : String → Option String} {size : ℕ} {threshold : Double}

theorem exists_call (hsize : 1 ≤ size) {es : List Event} {s : State}
    (hrun : Steps (Step urlHost size threshold) initial es s) (hidle : s.calls = fun _ => none)
    (ip referer : String) :
    ∃ es' alert s', Steps (Step urlHost size threshold) initial (es++es'++[.observe 0 ip referer alert]) s' ∧
      (∀ k, observations urlHost k es' = []) ∧ s'.calls = fun _ => none := by
  have henter := hrun.snoc (@Step.enter _ _ _ s 0 ip referer (by rw [hidle]))
  have hend (s' : State) (c : Option Call) (h : s'.calls = (s.move 0 c).calls) :
      (s'.move 0 none).calls = fun _ => none := by
    rw [State.move_calls,h,State.move_calls,Function.update_idem,hidle]
    exact Function.update_eq_self 0 _
  cases hmap : s.windows.lookup ip with
  | some window =>
    obtain ⟨w,hw,-⟩ := (run_reached hsize hrun).tracks ip window hmap
    have hfound := henter.snoc (@Step.found _ _ _ _ 0 window ip referer (by simp [State.move_calls]) hmap)
    have hobserve := hfound.snoc (@Step.observe _ _ _ _ 0 window ip referer w (by simp [State.move_calls]) hw)
    refine ⟨[.enter 0 ip referer,.lookup 0],_,_,by simpa using hobserve,fun _ => rfl,?_⟩
    exact hend _ (some ⟨ip,referer,.holding window⟩) (by simp [State.write,State.move])
  | none =>
    have hmissing := henter.snoc (@Step.missing _ _ _ _ 0 ip referer (by simp [State.move_calls]) hmap)
    have hcreate := hmissing.snoc (@Step.create _ _ _ _ 0 ip referer (by simp [State.move_calls]) hmap)
    have hobserve := hcreate.snoc (@Step.observe _ _ _ _ 0 s.heap.length ip referer (newIPWindow size)
      (by simp [State.move]) (by simp [State.add,State.move]))
    refine ⟨[.enter 0 ip referer,.lookup 0,.insert 0],_,_,by simpa using hobserve,fun _ => rfl,?_⟩
    exact hend _ (some ⟨ip,referer,.holding s.heap.length⟩) (by simp [State.write,State.move,State.add])

theorem exists_run (hsize : 1 ≤ size) (calls : List (String × String)) :
    ∃ es s, Steps (Step urlHost size threshold) initial es s ∧ (s.calls = fun _ => none) ∧
      ∀ ip, observations urlHost ip es =
        (calls.filter fun c => c.1 = ip).map fun c => isGoogleReferer urlHost c.2 := by
  induction calls using List.reverseRecOn with
  | nil => exact ⟨[],initial,.refl,rfl,fun _ => rfl⟩
  | append_singleton calls c ih =>
    obtain ⟨es,s,hrun,hidle,hobs⟩ := ih
    obtain ⟨es',alert,s',hrun',hnone,hidle'⟩ := exists_call hsize hrun hidle c.1 c.2
    refine ⟨_,s',hrun',hidle',fun ip => ?_⟩
    rw [observations_append,observations_append,hnone,observations_observe,hobs,List.filter_append,List.map_append,
      List.append_nil]
    congr 1
    by_cases hip : c.1 = ip <;> simp [hip]

/-- `url.Parse` on the referers of the samples. -/
def sampleHost (referer : String) : Option String :=
  if referer = "https://www.google.com/" then some "www.google.com" else none

theorem ofRat_four_fifths : (Double.ofRat (4/5)).value = 7205759403792794*2^(-53 : ℤ) := by
  refine (nearest_eq (e := -1) (n := 7205759403792794) ?_ ?_ ?_ ?_).trans ?_ <;> norm_num [abs_lt]

theorem ofRat_three_fifths : (Double.ofRat (3/5)).value = 5404319552844595*2^(-53 : ℤ) := by
  refine (nearest_eq (e := -1) (n := 5404319552844595) ?_ ?_ ?_ ?_).trans ?_ <;> norm_num [abs_lt]

theorem observe_run_fifth :
    ∃ es s, Steps (Step sampleHost 20 (.ofRat (4/5))) initial
        (es++[.observe 0 "192.0.2.7" "https://www.google.com/" true]) s ∧
      observations sampleHost "192.0.2.8" es = [false,false] := by
  obtain ⟨es,s,hrun,hidle,hobs⟩ := @exists_run sampleHost 20 (.ofRat (4/5)) (by decide)
    [("192.0.2.7","https://www.google.com/"),("192.0.2.8",""),("192.0.2.7","https://www.google.com/"),
      ("192.0.2.7","https://www.google.com/"),("192.0.2.8",""),("192.0.2.7","https://www.google.com/")]
  obtain ⟨es',alert,s',hrun',hnone,-⟩ := exists_call (by decide) hrun hidle "192.0.2.7" "https://www.google.com/"
  have hown : observations sampleHost "192.0.2.7" (es++es'++[.observe 0 "192.0.2.7" "https://www.google.com/" alert]) =
      [true,true,true,true,true] := by
    rw [observations_append,observations_append,hnone,hobs,observations_observe]
    decide +kernel
  have halert : alert = true := by
    refine ((observe_run (by decide) (by decide) hrun').2.2.2 _ _ _ _ _ [] rfl).mpr ?_
    have hfraction : fraction 20 [true,true,true,true,true] = 1 := by decide +kernel
    have hone : nearest 1 = 1 := by simpa using nearest_of_isDouble (isDouble_natCast (n := 1) (by decide)) (by norm_num)
    rw [hown,Exceeds,hfraction,hone,ofRat_four_fifths]
    norm_num
  subst halert
  refine ⟨es++es',s',hrun',?_⟩
  rw [observations_append,hnone,hobs]
  decide +kernel

theorem three_of_five_missed :
    ∃ es s, Steps (Step sampleHost 5 (.ofRat (3/5))) initial
        (es++[.observe 0 "192.0.2.7" "https://www.google.com/" false]) s ∧
      Exceeds 5 (Double.ofRat (3/5)).value (observations sampleHost "192.0.2.7"
        (es++[.observe 0 "192.0.2.7" "https://www.google.com/" false])) := by
  obtain ⟨es,s,hrun,hidle,hobs⟩ := @exists_run sampleHost 5 (.ofRat (3/5)) (by decide)
    [("192.0.2.7","https://www.google.com/"),("192.0.2.7","https://www.google.com/"),("192.0.2.7",""),("192.0.2.7","")]
  obtain ⟨es',alert,s',hrun',hnone,-⟩ := exists_call (by decide) hrun hidle "192.0.2.7" "https://www.google.com/"
  have hown (b : Bool) : observations sampleHost "192.0.2.7"
      (es++es'++[.observe 0 "192.0.2.7" "https://www.google.com/" b]) = [true,true,false,false,true] := by
    rw [observations_append,observations_append,hnone,hobs,observations_observe]
    decide +kernel
  have hfraction : fraction 5 [true,true,false,false,true] = 3/5 := by decide +kernel
  have halert : alert = false := by
    refine Bool.eq_false_iff.mpr fun htrue => ?_
    obtain ⟨s₁,s₂,hrun₁,hstep⟩ := hrun'.before (show _ = (es++es')++.observe 0 _ _ alert::[] from rfl)
    have hne := (((run_reached (by decide) hrun₁).alert (by decide) (by decide) hstep).mp htrue).2
    rw [hown,hfraction] at hne
    exact hne rfl
  subst halert
  refine ⟨es++es',s',hrun',?_⟩
  rw [hown,Exceeds,hfraction,ofRat_three_fifths]
  norm_num

end Sample

section Sequential
variable {urlHost : String → Option String} {size : ℕ} {threshold : Double}

def State.view (s : State) (size : ℕ) (ip : String) : IpWindow :=
  ((s.windows.lookup ip).bind fun window => s.heap[window]?).getD (newIPWindow size)

/-- The tracker that makes the observations one after the other. -/
def sequential (urlHost : String → Option String) (t : RefererTracker) : List Event → RefererTracker
  | [] => t
  | .observe _ ip referer _::es => sequential urlHost (t.observe urlHost ip referer).1 es
  | _::es => sequential urlHost t es

theorem sequential_append (t : RefererTracker) (es es' : List Event) :
    sequential urlHost t (es++es') = sequential urlHost (sequential urlHost t es) es' := by
  induction es generalizing t with
  | nil => rfl
  | cons e es ih => cases e <;> exact ih _

structure Agrees (size : ℕ) (threshold : Double) (s : State) (t : RefererTracker) : Prop where
  windowSize : t.windowSize = size
  threshold : t.threshold = threshold
  view : ∀ ip, (t.windows.lookup ip).getD (newIPWindow size) = s.view size ip

theorem Agrees.observe {s : State} {t : RefererTracker} (h : Agrees size threshold s t) (ip referer : String) :
    (t.observe urlHost ip referer).2 =
        ((s.view size ip).observe size threshold (isGoogleReferer urlHost referer)).2 ∧
      ∀ ip', ((t.observe urlHost ip referer).1.windows.lookup ip').getD (newIPWindow size) =
        if ip' = ip then ((s.view size ip).observe size threshold (isGoogleReferer urlHost referer)).1
        else s.view size ip' := by
  rw [← h.view ip]
  obtain ⟨windows,_,_⟩ := t
  obtain ⟨rfl,rfl,hview⟩ := h
  refine ⟨rfl,fun ip' => ?_⟩
  rw [RefererTracker.observe,StringMap.lookup_insert,← hview ip']
  split_ifs <;> rfl

theorem Reached.view_add {s : State} {es : List Event} (h : Reached urlHost size s es) {ip : String}
    (hmap : s.windows.lookup ip = none) (k : String) :
    (s.add ip (newIPWindow size)).view size k = s.view size k := by
  have hlookup : (s.add ip (newIPWindow size)).windows.lookup k =
      if k = ip then some s.heap.length else s.windows.lookup k :=
    StringMap.lookup_insert s.windows ip s.heap.length k
  rw [State.view,State.view,hlookup]
  split_ifs with hk
  · rw [hk,hmap]
    simp [State.add]
  · cases hwindow : s.windows.lookup k with
    | none => rfl
    | some window =>
      obtain ⟨w,hw,-⟩ := h.tracks k window hwindow
      have hlt := (List.getElem?_eq_some_iff.mp hw).1
      simp [State.add,List.getElem?_append_left hlt]

theorem Reached.view_write {s : State} {es : List Event} (h : Reached urlHost size s es) {ip : String}
    {window : ℕ} (hmap : s.windows.lookup ip = some window) (w : IpWindow) (k : String) :
    (s.write window w).view size k = if k = ip then w else s.view size k := by
  have hlookup : (s.write window w).windows.lookup k = s.windows.lookup k := rfl
  rw [State.view,State.view,hlookup]
  split_ifs with hk
  · obtain ⟨_,hw,-⟩ := h.tracks ip window hmap
    have hlt := (List.getElem?_eq_some_iff.mp hw).1
    rw [hk,hmap]
    simp [State.write,hlt]
  · cases hwindow : s.windows.lookup k with
    | none => rfl
    | some window' =>
      have hne : window ≠ window' := by
        rintro rfl
        exact hk (h.inj k ip window hwindow hmap)
      simp [State.write,List.getElem?_set_ne hne]

/-- A step is silent for the sequential tracker, or an observation that it makes too. -/
theorem Agrees.step {s s' : State} {es : List Event} {e : Event} {t : RefererTracker}
    (hreached : Reached urlHost size s es) (h : Agrees size threshold s t)
    (hstep : Step urlHost size threshold s e s') :
    Agrees size threshold s' (sequential urlHost t [e]) ∧
      ∀ id ip referer alert, e = .observe id ip referer alert →
        alert = (t.observe urlHost ip referer).2 := by
  cases hstep with
  | enter ip referer hnew => exact ⟨⟨h.windowSize,h.threshold,h.view⟩,by rintro _ _ _ _ ⟨⟩⟩
  | found hcall hmap => exact ⟨⟨h.windowSize,h.threshold,h.view⟩,by rintro _ _ _ _ ⟨⟩⟩
  | missing hcall hmap => exact ⟨⟨h.windowSize,h.threshold,h.view⟩,by rintro _ _ _ _ ⟨⟩⟩
  | present hcall hmap => exact ⟨⟨h.windowSize,h.threshold,h.view⟩,by rintro _ _ _ _ ⟨⟩⟩
  | create hcall hmap =>
    refine ⟨⟨h.windowSize,h.threshold,fun k => ?_⟩,by rintro _ _ _ _ ⟨⟩⟩
    exact (h.view k).trans (hreached.view_add hmap k).symm
  | @observe id window ip referer w hcall hheap =>
    have hmap := hreached.holding _ _ _ _ hcall
    have hw : s.view size ip = w := by
      rw [State.view,hmap]
      simp [hheap]
    obtain ⟨halert,hview⟩ := @Agrees.observe urlHost _ _ _ _ h ip referer
    rw [hw] at halert hview
    refine ⟨⟨h.windowSize,h.threshold,fun k => ?_⟩,?_⟩
    · exact (hview k).trans (hreached.view_write hmap _ k).symm
    · rintro _ _ _ _ ⟨⟩
      exact halert.symm

theorem run_sequential (hsize : 1 ≤ size) {es : List Event} {s : State}
    (hrun : Steps (Step urlHost size threshold) initial es s) :
    Agrees size threshold s (sequential urlHost (newRefererTracker size threshold) es) := by
  induction hrun with
  | refl => exact ⟨rfl,rfl,fun _ => rfl⟩
  | snoc hrun hstep ih =>
    rw [sequential_append]
    exact (ih.step (run_reached hsize hrun) hstep).1

theorem alert_sequential (hsize : 1 ≤ size) {es es₁ es₂ : List Event} {s : State} {id : ℕ}
    {ip referer : String} {alert : Bool} (hrun : Steps (Step urlHost size threshold) initial es s)
    (hes : es = es₁++.observe id ip referer alert::es₂) :
    alert = ((sequential urlHost (newRefererTracker size threshold) es₁).observe urlHost ip referer).2 := by
  obtain ⟨s₁,s₂,hrun₁,hstep⟩ := hrun.before hes
  exact ((run_sequential hsize hrun₁).step (run_reached hsize hrun₁) hstep).2 id ip referer alert rfl

end Sequential

end RefererWindows
end AntiScrapling
