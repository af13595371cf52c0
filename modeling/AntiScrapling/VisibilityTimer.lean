import AntiScrapling.Timeline

/-! The visibility timers of the behaviour collector in the browser
(`web/challenge/src/behavior.ts`).  `Date.now` gives whole milliseconds, so the numbers
are integers and rounding them does nothing. -/
namespace AntiScrapling
namespace VisibilityTimer

open Timeline

section Collector

/-- The fields of `BehaviorCollector` that are about visibility. -/
structure Collector where
  hiddenMs : ℤ := 0
  visibleMs : ℤ := 0
  visibilityState : String
  visibilityChangedAt : ℤ

structure VisibilityMetrics where
  hiddenMs : ℤ
  visibleMs : ℤ
  deriving DecidableEq, Repr

def new (documentState : String) (now : ℤ) : Collector where
  visibilityState := documentState
  visibilityChangedAt := now

def Collector.visibilitySnapshot (c : Collector) (now : ℤ) : VisibilityMetrics :=
  let delta := now-c.visibilityChangedAt
  if c.visibilityState = "hidden" then ⟨c.hiddenMs+delta,c.visibleMs⟩ else ⟨c.hiddenMs,c.visibleMs+delta⟩

def Collector.updateVisibilityTimers (c : Collector) (documentState : String) (now : ℤ) : Collector :=
  let delta := now-c.visibilityChangedAt
  let c := if c.visibilityState = "hidden" then {c with hiddenMs := c.hiddenMs+delta}
    else {c with visibleMs := c.visibleMs+delta}
  {c with visibilityState := documentState, visibilityChangedAt := now}

/-- What happens to a collector, with the state of the document and the times at which the
clock is read.  A snapshot is taken for every beacon, and `pagehide` sends one. -/
inductive Event
  | visibilityChange (documentState : String) (now : ℤ)
  | pageHide (documentState : String) (now sentAt : ℤ)
  | snapshot (now : ℤ)

/-- The collector after an event, and the snapshot with its time if one is taken. -/
def Collector.handle (c : Collector) : Event → Collector × List (ℤ × VisibilityMetrics)
  | .visibilityChange documentState now => (c.updateVisibilityTimers documentState now,[])
  | .pageHide documentState now sentAt =>
    let c := c.updateVisibilityTimers documentState now
    (c,[(sentAt,c.visibilitySnapshot sentAt)])
  | .snapshot now => (c,[(now,c.visibilitySnapshot now)])

def Collector.snapshots : Collector → List Event → List (ℤ × VisibilityMetrics)
  | _,[] => []
  | c,e::es => (c.handle e).2++(c.handle e).1.snapshots es

end Collector

section Clock

def Event.times : Event → List ℤ
  | .visibilityChange _ now => [now]
  | .pageHide _ now sentAt => [now,sentAt]
  | .snapshot now => [now]

def Event.changes : Event → List (ℤ × String)
  | .visibilityChange documentState now => [(now,documentState)]
  | .pageHide documentState now _ => [(now,documentState)]
  | .snapshot _ => []

/-- The clock does not go back. -/
def Ordered (t₀ : ℤ) (es : List Event) : Prop := (t₀::es.flatMap Event.times).Pairwise (· ≤ ·)

def changesOf (es : List Event) : List (ℤ × String) := es.flatMap Event.changes

def isHidden (documentState : String) : Bool := documentState = "hidden"

variable {a now : ℤ} {es : List Event} {e : Event}

theorem change_mem_times {ch : ℤ × String} (h : ch ∈ changesOf es) : ch.1 ∈ es.flatMap Event.times := by
  obtain ⟨e,he,hch⟩ := List.mem_flatMap.mp h
  refine List.mem_flatMap.mpr ⟨e,he,?_⟩
  cases e with
  | visibilityChange s now => rw [List.mem_singleton.mp hch]; exact List.mem_cons_self
  | pageHide s now sentAt => rw [List.mem_singleton.mp hch]; exact List.mem_cons_self
  | snapshot now => cases hch

theorem ordered_cons {rest : List ℤ} (h : Ordered a (e::es)) (htimes : e.times = now::rest) :
    a ≤ now ∧ Ordered a es ∧ Ordered now es ∧ (∀ t ∈ rest, now ≤ t ∧ ∀ ch ∈ changesOf es, t ≤ ch.1) ∧
      ∀ ch ∈ changesOf es, now ≤ ch.1 := by
  unfold Ordered at *
  rw [List.flatMap_cons,htimes,List.cons_append] at h
  obtain ⟨ha,hrest⟩ := List.pairwise_cons.mp h
  have hsub : (es.flatMap Event.times).Sublist (now::(rest++es.flatMap Event.times)) :=
    (List.sublist_append_right _ _).cons _
  obtain ⟨hnow,htail⟩ := List.pairwise_cons.mp hrest
  refine ⟨ha now List.mem_cons_self,h.sublist (hsub.cons_cons _),
    hrest.sublist ((List.sublist_append_right _ _).cons_cons _),?_,?_⟩
  · intro t ht
    refine ⟨hnow t (List.mem_append_left _ ht),fun ch hch => ?_⟩
    exact (List.pairwise_append.mp htail).2.2 t ht _ (change_mem_times hch)
  · intro ch hch
    exact hnow _ (List.mem_append_right _ (change_mem_times hch))

end Clock

section Shown
variable {c : Collector} {changes : List (ℤ × String)} {o : ℤ × VisibilityMetrics} {now : ℤ}

/-- What a snapshot shows of the time since the last change of a collector, given what is
recorded from then on. -/
structure Shows (c : Collector) (changes : List (ℤ × String)) (o : ℤ × VisibilityMetrics) : Prop where
  later : c.visibilityChangedAt ≤ o.1
  hidden : o.2.hiddenMs =
    c.hiddenMs+timeIn isHidden c.visibilityState changes c.visibilityChangedAt o.1
  total : o.2.hiddenMs+o.2.visibleMs = c.hiddenMs+c.visibleMs+(o.1-c.visibilityChangedAt)

theorem snapshot_hidden (c : Collector) (now : ℤ) : (c.visibilitySnapshot now).hiddenMs =
    c.hiddenMs+if isHidden c.visibilityState then now-c.visibilityChangedAt else 0 := by
  unfold Collector.visibilitySnapshot isHidden
  by_cases hstate : c.visibilityState = "hidden" <;> simp [hstate]

theorem snapshot_total (c : Collector) (now : ℤ) :
    (c.visibilitySnapshot now).hiddenMs+(c.visibilitySnapshot now).visibleMs =
      c.hiddenMs+c.visibleMs+(now-c.visibilityChangedAt) := by
  unfold Collector.visibilitySnapshot
  by_cases hstate : c.visibilityState = "hidden"
  · simp only [hstate,if_true]
    omega
  · simp only [hstate,if_false]
    omega

theorem update_eq_snapshot (c : Collector) (documentState : String) (now : ℤ) :
    c.updateVisibilityTimers documentState now =
      ⟨(c.visibilitySnapshot now).hiddenMs,(c.visibilitySnapshot now).visibleMs,documentState,now⟩ := by
  unfold Collector.updateVisibilityTimers Collector.visibilitySnapshot
  by_cases hstate : c.visibilityState = "hidden" <;> simp [hstate]

theorem snapshot_shows (hlater : c.visibilityChangedAt ≤ now) (h : ∀ ch ∈ changes, now ≤ ch.1) :
    Shows c changes (now,c.visibilitySnapshot now) := by
  refine ⟨hlater,?_,snapshot_total c now⟩
  rw [timeIn_early isHidden hlater h]
  exact snapshot_hidden c now

theorem update_shows {documentState : String} (hlater : c.visibilityChangedAt ≤ now)
    (h : ∀ ch ∈ changes, now ≤ ch.1) (ho : Shows (c.updateVisibilityTimers documentState now) changes o) :
    Shows c ((now,documentState)::changes) o := by
  rw [update_eq_snapshot] at ho
  obtain ⟨hnow,hhidden,htotal⟩ := ho
  simp only at hnow hhidden htotal
  refine ⟨hlater.trans hnow,?_,?_⟩
  · rw [timeIn_cons isHidden hlater hnow h,hhidden,snapshot_hidden,add_assoc]
  · rw [htotal,snapshot_total]
    omega

/-- Along a run no interval is lost or counted twice. -/
theorem snapshots_show {es : List Event} (h : Ordered c.visibilityChangedAt es) :
    ∀ o ∈ c.snapshots es, Shows c (changesOf es) o := by
  induction es generalizing c with
  | nil =>
    intro o ho
    cases ho
  | cons e es ih =>
    intro o ho
    rw [Collector.snapshots] at ho
    cases e with
    | visibilityChange documentState now =>
      obtain ⟨hlater,-,hnow,-,hchanges⟩ := ordered_cons h rfl
      exact update_shows hlater hchanges (ih hnow o ho)
    | pageHide documentState now sentAt =>
      obtain ⟨hlater,-,hnow,hsent,hchanges⟩ := ordered_cons h rfl
      obtain ⟨hsentAt,hsentChanges⟩ := hsent sentAt List.mem_cons_self
      refine update_shows hlater hchanges ?_
      rcases List.mem_cons.mp ho with rfl | ho
      · exact snapshot_shows hsentAt hsentChanges
      · exact ih hnow o ho
    | snapshot now =>
      obtain ⟨hlater,hsame,-,-,hchanges⟩ := ordered_cons h rfl
      rcases List.mem_cons.mp ho with rfl | ho
      · exact snapshot_shows hlater hchanges
      · exact ih hsame o ho

end Shown

section Conserved

def Collector.run (c : Collector) (es : List Event) : Collector := es.foldl (fun c e => (c.handle e).1) c

theorem snapshots_append (c : Collector) (es es' : List Event) :
    c.snapshots (es++es') = c.snapshots es++(c.run es).snapshots es' := by
  induction es generalizing c with
  | nil => rfl
  | cons e es ih =>
    rw [List.cons_append,Collector.snapshots,Collector.snapshots,ih,List.append_assoc]
    rfl

theorem snapshots_times (c : Collector) (es : List Event) :
    ((c.snapshots es).map Prod.fst).Sublist (es.flatMap Event.times) := by
  induction es generalizing c with
  | nil => exact List.Sublist.refl _
  | cons e es ih =>
    rw [Collector.snapshots,List.map_append,List.flatMap_cons]
    refine List.Sublist.append ?_ (ih _)
    cases e with
    | visibilityChange documentState now => exact List.nil_sublist _
    | pageHide documentState now sentAt => exact (List.Sublist.refl [sentAt]).cons _
    | snapshot now => exact List.Sublist.refl _

/-- The two times of a snapshot make up the time since construction, the hidden one is the time
for which the recorded state was hidden, both only grow, and a snapshot that is left out
leaves the others as they are. -/
theorem visibility_conserved (documentState : String) {t₀ : ℤ} {es : List Event} (h : Ordered t₀ es) :
    (∀ o ∈ (new documentState t₀).snapshots es, o.2.hiddenMs+o.2.visibleMs = o.1-t₀ ∧
      o.2.hiddenMs = timeIn isHidden documentState (changesOf es) t₀ o.1) ∧
    ((new documentState t₀).snapshots es).Pairwise
      (fun o o' => o.2.hiddenMs ≤ o'.2.hiddenMs ∧ o.2.visibleMs ≤ o'.2.visibleMs) ∧
    ∀ before now after, es = before++.snapshot now::after →
      ∃ os m os', (new documentState t₀).snapshots es = os++(now,m)::os' ∧
        (new documentState t₀).snapshots (before++after) = os++os' := by
  have hshown : ∀ o ∈ (new documentState t₀).snapshots es, t₀ ≤ o.1 ∧
      o.2.hiddenMs+o.2.visibleMs = o.1-t₀ ∧
      o.2.hiddenMs = timeIn isHidden documentState (changesOf es) t₀ o.1 := by
    intro o ho
    obtain ⟨hlater,hhidden,htotal⟩ := snapshots_show (c:=new documentState t₀) h o ho
    change _ = 0+0+(o.1-t₀) at htotal
    change _ = 0+timeIn isHidden documentState (changesOf es) t₀ o.1 at hhidden
    exact ⟨hlater,by omega,by omega⟩
  refine ⟨fun o ho => (hshown o ho).2,?_,?_⟩
  · have htimes : ((new documentState t₀).snapshots es).Pairwise (fun o o' => o.1 ≤ o'.1) :=
      List.pairwise_map.mp ((List.pairwise_cons.mp h).2.sublist (snapshots_times _ es))
    refine htimes.imp_of_mem fun {o o'} ho ho' hle => ?_
    obtain ⟨ht,htotal,hhidden⟩ := hshown o ho
    obtain ⟨ht',htotal',hhidden'⟩ := hshown o' ho'
    -- the visible time is the time of the other states, so it grows as well
    have hadd := timeIn_add_not isHidden documentState (changesOf es) ht
    have hadd' := timeIn_add_not isHidden documentState (changesOf es) ht'
    have hgrows := timeIn_mono isHidden documentState (changesOf es) t₀ hle
    have hgrows' := timeIn_mono (fun v => !isHidden v) documentState (changesOf es) t₀ hle
    omega
  · rintro before now after rfl
    refine ⟨_,_,_,snapshots_append _ before (.snapshot now::after),?_⟩
    exact snapshots_append _ before after

/-- Hidden from 3 to 7 and from 9 on, with a snapshot in each interval. -/
theorem visibility_conserved_sample :
    (new "visible" 0).snapshots [.snapshot 2,.visibilityChange "hidden" 3,.snapshot 5,
      .visibilityChange "visible" 7,.pageHide "hidden" 9 10] = [(2,⟨0,2⟩),(5,⟨2,3⟩),(10,⟨5,5⟩)] ∧
    timeIn isHidden "visible" [(3,"hidden"),(7,"visible"),(9,"hidden")] 0 10 = 5 := by
  have hsample : (new "visible" 0).snapshots [.snapshot 2,.visibilityChange "hidden" 3,.snapshot 5,
      .visibilityChange "visible" 7,.pageHide "hidden" 9 10] = [(2,⟨0,2⟩),(5,⟨2,3⟩),(10,⟨5,5⟩)] := by decide
  have hordered : Ordered 0 [.snapshot 2,.visibilityChange "hidden" 3,.snapshot 5,
      .visibilityChange "visible" 7,.pageHide "hidden" 9 10] := by
    unfold Ordered
    decide
  refine ⟨hsample,?_⟩
  have hlast := (visibility_conserved "visible" hordered).1 (10,⟨5,5⟩) (by rw [hsample]; decide)
  exact hlast.2.symm

end Conserved

end VisibilityTimer
end AntiScrapling
