import AntiScrapling.Behavior
import AntiScrapling.Binary64
import AntiScrapling.EventHistory
import AntiScrapling.JsonDecode
import AntiScrapling.VisibilityTimer

/-! The behaviour collector of the challenge page (`web/challenge/src/behavior.ts`), its
beacons on the wire, `HandleBeacon` (`internal/challenge/service.go`), and what the daemon
says of the page in the end: a function of what happened on the page. -/
namespace AntiScrapling
namespace BehaviorRecorder

open BeaconStore EventHistory JsonDecode
open Binary64 (IsDouble isDouble_nearest nearest)
open Timeline (timeIn)

section Numbers

/-- A literal as a double; a number may be as large as it likes. -/
def parseFloat (literal : String) : Option ℚ :=
  (decimalOfLiteral literal).map fun decimal =>
    let magnitude := nearest (decimal.1*10^decimal.2)
    if literal.toList.head? = some '-' then -magnitude else magnitude

/-- What the standard leaves to the engine of the page: how exact `Math.hypot` and `Math.sqrt`
are, and the digits of the texts, which read back as the same double. -/
structure Engine where
  hypot : ℚ → ℚ → ℚ
  sqrt : ℚ → ℚ
  text : ℚ → String
  parseFloat_text : ∀ x, IsDouble x → parseFloat (text x) = some x

variable (E : Engine)

/-- `Math.round`. -/
def mathRound (x : ℚ) : ℤ := (x+1/2).floor

def average (values : List ℚ) : ℚ :=
  if values.length = 0 then 0
  else nearest (values.foldl (fun sum value => nearest (sum+value)) 0/values.length)

def stddev (values : List ℚ) : ℚ :=
  if values.length < 2 then 0
  else
    let avg := average values
    E.sqrt (average (values.map fun value => nearest (nearest (value-avg)^2)))

def round (value : ℚ) : ℚ := nearest (mathRound (nearest (value*1000))/1000)

end Numbers

section Collector
variable (E : Engine)

/-- A position of the mouse, and `performance.now()`. -/
structure Position where
  x : ℚ
  y : ℚ
  t : ℚ

structure MouseState where
  lastMouse : Option Position := none
  velocities : List ℚ := []
  moveCount : ℤ := 0
  pathLength : ℚ := 0

def distance (last p : Position) : ℚ := E.hypot (nearest (p.x-last.x)) (nearest (p.y-last.y))

def velocity (last p : Position) : Option ℚ :=
  let dt := nearest (p.t-last.t)
  if dt > 0 then some (nearest (nearest (distance E last p/dt)*1000)) else none

def MouseState.onMouseMove (m : MouseState) (p : Position) : MouseState :=
  let m := {m with moveCount := m.moveCount+1}
  let m := match m.lastMouse with
    | none => m
    | some last => {m with
        pathLength := nearest (m.pathLength+distance E last p)
        velocities := m.velocities++(velocity E last p).toList}
  {m with lastMouse := some p}

structure ClickState where
  lastClickAt : ℤ := 0
  clickIntervals : List ℤ := []
  clicks : ℤ := 0

def ClickState.onClick (c : ClickState) (now : ℤ) : ClickState where
  clicks := c.clicks+1
  clickIntervals := if c.lastClickAt > 0 then c.clickIntervals++[now-c.lastClickAt] else c.clickIntervals
  lastClickAt := now

structure ScrollMetrics where
  events : ℤ := 0
  maxY : ℤ := 0
  deriving DecidableEq, Repr

/-- The argument is `window.scrollY`. -/
def ScrollMetrics.onScroll (s : ScrollMetrics) (scrollY : ℚ) : ScrollMetrics :=
  ⟨s.events+1,max s.maxY (mathRound scrollY)⟩

structure ResourceMetrics where
  css : ℤ := 0
  image : ℤ := 0
  font : ℤ := 0
  script : ℤ := 0
  xhr : ℤ := 0
  deriving DecidableEq, Repr

def ResourceMetrics.countResource (r : ResourceMetrics) (initiatorType : String) : ResourceMetrics :=
  match initiatorType with
  | "css" | "link" => {r with css := r.css+1}
  | "img" | "image" => {r with image := r.image+1}
  | "font" => {r with font := r.font+1}
  | "script" => {r with script := r.script+1}
  | "fetch" | "xmlhttprequest" => {r with xhr := r.xhr+1}
  | _ => r

/-- `BehaviorCollector`, its fields by what they are about. -/
structure Collector where
  sessionId : String
  mouse : MouseState := {}
  click : ClickState := {}
  scroll : ScrollMetrics := {}
  visibility : VisibilityTimer.Collector
  resources : ResourceMetrics := {}

/-- The constructor and `start`, which counts the resources that are there already. -/
def start (sessionId documentState : String) (now : ℤ) (existing : List String) : Collector where
  sessionId
  visibility := VisibilityTimer.new documentState now
  resources := existing.foldl ResourceMetrics.countResource {}

structure MouseMetrics where
  moveCount : ℤ
  pathLength : ℚ
  avgVelocity : ℚ
  jitterIndex : ℚ
  clicks : ℤ
  clickIntervalsMs : List ℤ

structure Beacon where
  sessionId : String
  timestamp : ℤ
  mouse : MouseMetrics
  scroll : ScrollMetrics
  visibility : VisibilityTimer.VisibilityMetrics
  resourceFetches : ResourceMetrics

/-- `slice(-32)`. -/
def lastIntervals (intervals : List ℤ) : List ℤ := intervals.drop (intervals.length-32)

def Collector.mouseSnapshot (c : Collector) : MouseMetrics where
  moveCount := c.mouse.moveCount
  pathLength := round c.mouse.pathLength
  avgVelocity := round (average c.mouse.velocities)
  jitterIndex := round (stddev E c.mouse.velocities)
  clicks := c.click.clicks
  clickIntervalsMs := lastIntervals c.click.clickIntervals

/-- The clock is read for the visibility and for the time stamp. -/
def Collector.snapshot (c : Collector) (shown stamped : ℤ) : Beacon where
  sessionId := c.sessionId
  timestamp := stamped
  mouse := c.mouseSnapshot E
  scroll := c.scroll
  visibility := c.visibility.visibilitySnapshot shown
  resourceFetches := c.resources

/-- What happens on the page, with the times that are read.  The observer delivers the types of
the resources, those from before `start` as well, and the timer sends a beacon. -/
inductive Event
  | mouseMove (p : Position)
  | click (now : ℤ)
  | scroll (scrollY : ℚ)
  | visibilityChange (documentState : String) (now : ℤ)
  | pageHide (documentState : String) (now shown stamped : ℤ)
  | observe (initiatorTypes : List String)
  | interval (shown stamped : ℤ)

def Collector.step (c : Collector) : Event → Collector
  | .mouseMove p => {c with mouse := c.mouse.onMouseMove E p}
  | .click now => {c with click := c.click.onClick now}
  | .scroll scrollY => {c with scroll := c.scroll.onScroll scrollY}
  | .visibilityChange documentState now | .pageHide documentState now _ _ =>
    {c with visibility := c.visibility.updateVisibilityTimers documentState now}
  | .observe initiatorTypes => {c with resources := initiatorTypes.foldl .countResource c.resources}
  | .interval _ _ => c

/-- The times that a beacon reads, if the event sends one. -/
def Event.sends : Event → Option (ℤ × ℤ)
  | .pageHide _ _ shown stamped | .interval shown stamped => some (shown,stamped)
  | _ => none

def Collector.run (c : Collector) (es : List Event) : Collector := es.foldl (Collector.step E) c

def Collector.beacons (c : Collector) : List Event → List Beacon
  | [] => []
  | e::es => ((e.sends.map fun times => (c.step E e).snapshot E times.1 times.2).toList)++(c.step E e).beacons es

end Collector

section Wire
variable (E : Engine)

def integer (n : ℤ) : Json := .num (toString n)

def number (x : ℚ) : Json := .num (E.text x)

/-- `JSON.stringify`. -/
def Beacon.json (b : Beacon) : Json := .obj [
  ("session_id",.str b.sessionId),
  ("timestamp",integer b.timestamp),
  ("mouse",.obj [
    ("move_count",integer b.mouse.moveCount),
    ("path_length",number E b.mouse.pathLength),
    ("avg_velocity",number E b.mouse.avgVelocity),
    ("jitter_index",number E b.mouse.jitterIndex),
    ("clicks",integer b.mouse.clicks),
    ("click_intervals_ms",.arr (b.mouse.clickIntervalsMs.map integer))]),
  ("scroll",.obj [
    ("events",integer b.scroll.events),
    ("max_y",integer b.scroll.maxY)]),
  ("visibility",.obj [
    ("hidden_ms",integer b.visibility.hiddenMs),
    ("visible_ms",integer b.visibility.visibleMs)]),
  ("resource_fetches",.obj [
    ("css",integer b.resourceFetches.css),
    ("image",integer b.resourceFetches.image),
    ("font",integer b.resourceFetches.font),
    ("script",integer b.resourceFetches.script),
    ("xhr",integer b.resourceFetches.xhr)])]

def double : Decoder ℚ
  | .num literal,_ => parseFloat literal
  | .null,old => some old
  | _,_ => none

def ints : Decoder (List ℤ)
  | .arr items,_ => items.mapM fun item => int64 item 0
  | .null,_ => some []
  | _,_ => none

def mouseFields : List (String × Decoder Behavior.MouseMetrics) := [
  ("move_count",field (·.moveCount) (fun m v => {m with moveCount := v}) int64),
  ("path_length",unread double 0),
  ("avg_velocity",unread double 0),
  ("jitter_index",field (·.jitterIndex) (fun m v => {m with jitterIndex := v}) double),
  ("clicks",unread int64 0),
  ("click_intervals_ms",field (·.clickIntervalsMs) (fun m v => {m with clickIntervalsMs := v}) ints)]

def scrollFields : List (String × Decoder Unit) := [("events",unread int64 0),("max_y",unread int64 0)]

def visibilityFields : List (String × Decoder Behavior.VisibilityMetrics) := [
  ("hidden_ms",field (·.hiddenMs) (fun m v => {m with hiddenMs := v}) int64),
  ("visible_ms",field (·.visibleMs) (fun m v => {m with visibleMs := v}) int64)]

def resourceFields : List (String × Decoder Behavior.ResourceMetrics) := [
  ("css",field (·.css) (fun m v => {m with css := v}) int64),
  ("image",field (·.image) (fun m v => {m with image := v}) int64),
  ("font",field (·.font) (fun m v => {m with font := v}) int64),
  ("script",unread int64 0),
  ("xhr",unread int64 0)]

/-- `types.BehaviorBeacon`; what is not scored is only checked. -/
def beaconFields : List (String × Decoder (BehaviorBeacon Behavior.Metrics)) := [
  ("session_id",field (·.sessionID) (fun b v => {b with sessionID := v}) string),
  ("timestamp",unread int64 0),
  ("mouse",field (·.metrics.mouse) (fun b v => {b with metrics := {b.metrics with mouse := v}})
    (object mouseFields)),
  ("scroll",unread (object scrollFields) ()),
  ("visibility",field (·.metrics.visibility) (fun b v => {b with metrics := {b.metrics with visibility := v}})
    (object visibilityFields)),
  ("resource_fetches",field (·.metrics.resourceFetches)
    (fun b v => {b with metrics := {b.metrics with resourceFetches := v}}) (object resourceFields))]

def decodeBeacon (body : Json) : Option (BehaviorBeacon Behavior.Metrics) := object beaconFields body ⟨"",{}⟩

/-- A request to `/__as/beacon`; a body that is no JSON is `none`. -/
structure Post where
  method : String
  body : Option Json
  remoteAddr : String

/-- `HandleBeacon` with the store of the daemon, the status and the text of the answer. -/
def handleBeacon (store : Store Behavior.Metrics) (r : Post) (pruned storedSession storedIP : ℤ) :
    Store Behavior.Metrics × ℕ × String :=
  if r.method ≠ "POST" then (store,405,"method not allowed")
  else
    match r.body.bind decodeBeacon with
    | none => (store,400,"bad request")
    | some b => ((Call.ingestFromRequest r.remoteAddr b pruned storedSession storedIP).apply store,204,"")

def Beacon.metrics (b : Beacon) : Behavior.Metrics where
  mouse := ⟨b.mouse.moveCount,b.mouse.jitterIndex,b.mouse.clickIntervalsMs⟩
  visibility := ⟨b.visibility.hiddenMs,b.visibility.visibleMs⟩
  resourceFetches := ⟨b.resourceFetches.css,b.resourceFetches.image,b.resourceFetches.font⟩

/-- The numbers that the daemon reads into integers. -/
def Beacon.integers (b : Beacon) : List ℤ :=
  [b.timestamp,b.mouse.moveCount,b.mouse.clicks,b.scroll.events,b.scroll.maxY,b.visibility.hiddenMs,
    b.visibility.visibleMs,b.resourceFetches.css,b.resourceFetches.image,b.resourceFetches.font,
    b.resourceFetches.script,b.resourceFetches.xhr]++b.mouse.clickIntervalsMs

def Fits (n : ℤ) : Prop := -2^63 ≤ n ∧ n < 2^63

instance : DecidablePred Fits := fun n => inferInstanceAs (Decidable (-2^63 ≤ n ∧ n < 2^63))

theorem int64_integer {n : ℤ} (h : Fits n) (old : ℤ) : int64 (integer n) old = some n := by
  have hfits : decide (-2^63 ≤ n ∧ n < 2^63) = true := decide_eq_true h
  rw [integer,int64,int64OfLiteral,intOfDigits_toString]
  exact Option.filter_some_pos hfits

theorem ints_integers {ns : List ℤ} (h : ∀ n ∈ ns, Fits n) (old : List ℤ) :
    ints (.arr (ns.map integer)) old = some ns := by
  induction ns with
  | nil => rfl
  | cons n ns ih =>
    have htail := ih fun m hm => h m (List.mem_cons_of_mem _ hm)
    rw [ints] at htail ⊢
    rw [List.map_cons,List.mapM_cons,int64_integer (h n List.mem_cons_self),htail]
    rfl

theorem double_round (x old : ℚ) : double (number E (round x)) old = some (round x) := E.parseFloat_text _ (isDouble_nearest _)

theorem decodeBeacon_snapshot (c : Collector) {shown stamped : ℤ}
    (h : ∀ n ∈ (c.snapshot E shown stamped).integers, Fits n) :
    decodeBeacon ((c.snapshot E shown stamped).json E) =
      some ⟨c.sessionId,(c.snapshot E shown stamped).metrics⟩ := by
  simp only [Beacon.integers,List.cons_append,List.nil_append,List.forall_mem_cons] at h
  obtain ⟨htimestamp,hmoves,hclicks,hevents,hmax,hhidden,hvisible,hcss,himage,hfont,hscript,hxhr,hintervals⟩ := h
  refine object_field rfl rfl (object_unread rfl (int64_integer htimestamp _) ?_)
  refine object_field (v := (c.snapshot E shown stamped).metrics.mouse) rfl ?_ ?_
  · refine object_field rfl (int64_integer hmoves _) ?_
    refine object_unread rfl (double_round E _ _) (object_unread rfl (double_round E _ _) ?_)
    refine object_field rfl (double_round E _ _) ?_
    exact object_unread rfl (int64_integer hclicks _) (object_field rfl (ints_integers hintervals _) rfl)
  refine object_unread (v := ()) rfl ?_ ?_
  · exact object_unread rfl (int64_integer hevents _) (object_unread rfl (int64_integer hmax _) rfl)
  refine object_field (v := (c.snapshot E shown stamped).metrics.visibility) rfl ?_ ?_
  · exact object_field rfl (int64_integer hhidden _) (object_field rfl (int64_integer hvisible _) rfl)
  refine object_field (v := (c.snapshot E shown stamped).metrics.resourceFetches) rfl ?_ rfl
  refine object_field rfl (int64_integer hcss _) (object_field rfl (int64_integer himage _) ?_)
  refine object_field rfl (int64_integer hfont _) ?_
  exact object_unread rfl (int64_integer hscript _) (object_unread rfl (int64_integer hxhr _) rfl)

end Wire

section Histories
variable (E : Engine)

def Event.move : Event → Option Position
  | .mouseMove p => some p
  | _ => none

def Event.clicked : Event → Option ℤ
  | .click now => some now
  | _ => none

def Event.scrolled : Event → Option ℚ
  | .scroll scrollY => some scrollY
  | _ => none

def Event.observed : Event → Option (List String)
  | .observe initiatorTypes => some initiatorTypes
  | _ => none

def Event.visibility : Event → Option VisibilityTimer.Event
  | .visibilityChange documentState now => some (.visibilityChange documentState now)
  | .pageHide documentState now shown _ => some (.pageHide documentState now shown)
  | .interval shown _ => some (.snapshot shown)
  | _ => none

theorem mouse_part : IsPart (Collector.step E) Collector.mouse Event.move (MouseState.onMouseMove E) := by
  intro c e
  cases e <;> rfl

theorem click_part : IsPart (Collector.step E) Collector.click Event.clicked ClickState.onClick := by
  intro c e
  cases e <;> rfl

theorem scroll_part : IsPart (Collector.step E) Collector.scroll Event.scrolled ScrollMetrics.onScroll := by
  intro c e
  cases e <;> rfl

theorem resources_part : IsPart (Collector.step E) Collector.resources Event.observed
    (List.foldl ResourceMetrics.countResource) := by
  intro c e
  cases e <;> rfl

theorem visibility_part : IsPart (Collector.step E) Collector.visibility Event.visibility
    (fun c e => (c.handle e).1) := by
  intro c e
  cases e <;> rfl

def speeds (path : List Position) : List ℚ := (pairs path).filterMap fun p => velocity E p.1 p.2

def gaps (clicks : List ℤ) : List ℤ := (pairs clicks).map fun p => p.2-p.1

theorem speeds_snoc (path : List Position) (p : Position) :
    speeds E (path++[p]) = speeds E path++(path.getLast?.bind fun last => velocity E last p).toList := by
  rw [speeds,pairs_snoc,List.filterMap_append,← speeds]
  cases path.getLast? with
  | none => rfl
  | some last => cases h : velocity E last p <;> simp [h]

theorem gaps_snoc (clicks : List ℤ) (now : ℤ) :
    gaps (clicks++[now]) = gaps clicks++(clicks.getLast?.map (now-·)).toList := by
  rw [gaps,pairs_snoc,List.map_append,← gaps]
  cases clicks.getLast? <;> rfl

theorem mouse_history (path : List Position) :
    let m := path.foldl (MouseState.onMouseMove E) {}
    m.lastMouse = path.getLast? ∧ m.velocities = speeds E path ∧ m.moveCount = path.length := by
  induction path using List.reverseRecOn with
  | nil => exact ⟨rfl,rfl,rfl⟩
  | append_singleton path p ih =>
    obtain ⟨hlast,hvelocities,hcount⟩ := ih
    rw [List.foldl_concat,List.getLast?_concat,speeds_snoc,← hlast,← hvelocities]
    generalize path.foldl (MouseState.onMouseMove E) {} = m at hcount
    cases hm : m.lastMouse <;> simp [MouseState.onMouseMove,hm,hcount]

theorem click_history {clicks : List ℤ} (h : ∀ t ∈ clicks, 0 < t) :
    clicks.foldl ClickState.onClick {} = ⟨clicks.getLast?.getD 0,gaps clicks,clicks.length⟩ := by
  induction clicks using List.reverseRecOn with
  | nil => rfl
  | append_singleton clicks now ih =>
    have hclicks := ih fun t ht => h t (List.mem_append_left _ ht)
    rw [List.foldl_concat,hclicks,List.getLast?_concat,gaps_snoc,ClickState.onClick]
    cases hlast : clicks.getLast? with
    | none => simp
    | some last =>
      have hpos : 0 < last := h last (List.mem_append_left _ (List.mem_of_getLast? hlast))
      simp [hpos]

theorem resource_history {get : ResourceMetrics → ℤ} {types : List String}
    (hget : ∀ r t, get (r.countResource t) = get r+if t ∈ types then 1 else 0) (r : ResourceMetrics)
    (fetched : List String) :
    get (fetched.foldl .countResource r) = get r+(fetched.countP (· ∈ types) : ℕ) := by
  induction fetched generalizing r with
  | nil => simp
  | cons t fetched ih =>
    rw [List.foldl_cons,ih,hget,List.countP_cons]
    by_cases ht : t ∈ types
    · simp [ht]
      omega
    · simp [ht]

theorem countResource_css (r : ResourceMetrics) (t : String) :
    (r.countResource t).css = r.css+if t ∈ ["css","link"] then 1 else 0 := by
  unfold ResourceMetrics.countResource
  split <;> simp_all

theorem countResource_image (r : ResourceMetrics) (t : String) :
    (r.countResource t).image = r.image+if t ∈ ["img","image"] then 1 else 0 := by
  unfold ResourceMetrics.countResource
  split <;> simp_all

theorem countResource_font (r : ResourceMetrics) (t : String) :
    (r.countResource t).font = r.font+if t ∈ ["font"] then 1 else 0 := by
  unfold ResourceMetrics.countResource
  split <;> simp_all

theorem countResource_script (r : ResourceMetrics) (t : String) :
    (r.countResource t).script = r.script+if t ∈ ["script"] then 1 else 0 := by
  unfold ResourceMetrics.countResource
  split <;> simp_all

theorem countResource_xhr (r : ResourceMetrics) (t : String) :
    (r.countResource t).xhr = r.xhr+if t ∈ ["fetch","xmlhttprequest"] then 1 else 0 := by
  unfold ResourceMetrics.countResource
  split <;> simp_all

end Histories

section Purpose
variable (E : Engine)

def moves (es : List Event) : List Position := es.filterMap Event.move

def clickTimes (es : List Event) : List ℤ := es.filterMap Event.clicked

/-- The types of the resources that are counted, those from before the start first. -/
def fetched (existing : List String) (es : List Event) : List String :=
  existing++(es.filterMap Event.observed).flatten

def hiddenTime (documentState : String) (t₀ : ℤ) (es : List Event) (shown : ℤ) : ℤ :=
  timeIn VisibilityTimer.isHidden documentState (VisibilityTimer.changesOf (es.filterMap Event.visibility)) t₀ shown

/-- The page loaded no style sheet, image or font. -/
def Unstyled (existing : List String) (es : List Event) : Prop :=
  ∀ type ∈ fetched existing es, type ∉ ["css","link"]++["img","image"]++["font"]

/-- The mouse moved more than ten times, at an even speed. -/
def Smooth (es : List Event) : Prop :=
  10 < (moves es).length ∧ round (stddev E (speeds E (moves es))) < Behavior.jitterThreshold

/-- There was more than one click, and the last 32 times between clicks are those of the solver. -/
def AutoClicked (es : List Event) : Prop :=
  2 ≤ (clickTimes es).length ∧
    ∀ gap ∈ lastIntervals (gaps (clickTimes es)), Behavior.turnstileMin ≤ gap ∧ gap ≤ Behavior.turnstileMax

/-- The page was hidden for more than five times as long as it was shown. -/
def MostlyHidden (documentState : String) (t₀ : ℤ) (es : List Event) (shown : ℤ) : Prop :=
  5*(shown-t₀-hiddenTime documentState t₀ es shown) < hiddenTime documentState t₀ es shown

instance (existing : List String) (es : List Event) : Decidable (Unstyled existing es) :=
  inferInstanceAs (Decidable (∀ type ∈ fetched existing es, type ∉ _))

instance (es : List Event) : Decidable (Smooth E es) := inferInstanceAs (Decidable (_ ∧ _))

instance (es : List Event) : Decidable (AutoClicked es) := inferInstanceAs (Decidable (_ ∧ _))

instance (documentState : String) (t₀ : ℤ) (es : List Event) (shown : ℤ) :
    Decidable (MostlyHidden documentState t₀ es shown) := inferInstanceAs (Decidable (_ < _))

def pageSignals (documentState : String) (t₀ : ℤ) (existing : List String) (es : List Event) (shown : ℤ) :
    List String :=
  (if Unstyled existing es then ["behavior_resource_block"] else [])++
  (if Smooth E es then ["behavior_smooth_path"] else [])++
  (if AutoClicked es then ["behavior_turnstile_clicker"] else [])++
  (if MostlyHidden documentState t₀ es shown then ["behavior_hidden_dominant"] else [])

def Event.times : Event → List ℤ
  | .click now | .visibilityChange _ now => [now]
  | .pageHide _ now shown stamped => [now,shown,stamped]
  | .interval shown stamped => [shown,stamped]
  | _ => []

/-- The clock does not go back, and the numbers stay in the range in which they are exact. -/
structure Usual (t₀ : ℤ) (existing : List String) (es : List Event) : Prop where
  clock : (t₀::es.flatMap Event.times).Pairwise (· ≤ ·)
  positive : 0 < t₀
  bounded : ∀ t ∈ es.flatMap Event.times, t < 2^53
  short : es.length < 2^53
  few : (fetched existing es).length < 2^53
  scrolled : ∀ y ∈ es.filterMap Event.scrolled, mathRound y < 2^53

end Purpose

section Checks

theorem score_names (b : BehaviorBeacon Behavior.Metrics) : (Behavior.score b).map Signal.name =
    (Behavior.checkers.map fun check => ((check b.metrics).map Signal.name).toList).flatten := by
  rw [Behavior.score]
  induction Behavior.checkers with
  | nil => rfl
  | cons check rest ih => cases h : check b.metrics <;> simp [h,ih]

variable (m : Behavior.Metrics)

theorem resourceBlock_names : ((Behavior.checkResourceBlock m).map Signal.name).toList =
    if m.resourceFetches.css = 0 ∧ m.resourceFetches.font = 0 ∧ m.resourceFetches.image = 0 then
      ["behavior_resource_block"] else [] := by
  unfold Behavior.checkResourceBlock
  split_ifs <;> simp_all

theorem mouseJitter_names : ((Behavior.checkMouseJitter m).map Signal.name).toList =
    if m.mouse.jitterIndex < Behavior.jitterThreshold ∧ 10 < m.mouse.moveCount then
      ["behavior_smooth_path"] else [] := by
  unfold Behavior.checkMouseJitter Behavior.minMoveCountBot
  split_ifs <;> simp_all

theorem clickTiming_names : ((Behavior.checkClickTiming m).map Signal.name).toList =
    if m.mouse.clickIntervalsMs ≠ [] ∧
        ∀ iv ∈ m.mouse.clickIntervalsMs, Behavior.turnstileMin ≤ iv ∧ iv ≤ Behavior.turnstileMax then
      ["behavior_turnstile_clicker"] else [] := by
  unfold Behavior.checkClickTiming
  split_ifs <;> simp_all

theorem visibility_names (h : 0 ≤ m.visibility.visibleMs ∧ m.visibility.visibleMs < 2^60) :
    ((Behavior.checkVisibility m).map Signal.name).toList =
      if m.visibility.hiddenMs ≠ 0 ∧ 5*m.visibility.visibleMs < m.visibility.hiddenMs then
        ["behavior_hidden_dominant"] else [] := by
  have hproduct : (m.visibility.visibleMs*5).bmod 18446744073709551616 = 5*m.visibility.visibleMs := by
    rw [Int.bmod_eq_of_le_mul_two] <;> omega
  simp only [Behavior.checkVisibility,hproduct]
  split_ifs <;> simp_all

end Checks

section Scored
variable (E : Engine) (sessionId documentState : String) {t₀ : ℤ} {existing : List String} {es : List Event}

def visit (t₀ : ℤ) (existing : List String) (es : List Event) : Collector :=
  (start sessionId documentState t₀ existing).run E es

theorem visit_resources (t₀ : ℤ) (existing : List String) (es : List Event) :
    (visit E sessionId documentState t₀ existing es).resources = (fetched existing es).foldl .countResource {} := by
  rw [visit,Collector.run,(resources_part E).run,fetched,List.foldl_append,List.foldl_flatten]
  rfl

theorem visit_count {get : ResourceMetrics → ℤ} {types : List String}
    (hget : ∀ r t, get (r.countResource t) = get r+if t ∈ types then 1 else 0) (hzero : get {} = 0) :
    get (visit E sessionId documentState t₀ existing es).resources =
      ((fetched existing es).countP (· ∈ types) : ℕ) := by
  rw [visit_resources,resource_history hget,hzero,zero_add]

theorem unstyled_iff {r : ResourceMetrics} (h : r = (visit E sessionId documentState t₀ existing es).resources) :
    (r.css = 0 ∧ r.font = 0 ∧ r.image = 0) ↔ Unstyled existing es := by
  rw [h,visit_count E sessionId documentState countResource_css rfl,
    visit_count E sessionId documentState countResource_font rfl,
    visit_count E sessionId documentState countResource_image rfl]
  simp only [Int.natCast_eq_zero,List.countP_eq_zero,decide_eq_true_eq,Unstyled,List.mem_append,not_or]
  exact ⟨fun h t ht => ⟨⟨h.1 t ht,h.2.2 t ht⟩,h.2.1 t ht⟩,
    fun h => ⟨fun t ht => (h t ht).1.1,fun t ht => (h t ht).2,fun t ht => (h t ht).1.2⟩⟩

theorem visit_mouse (t₀ : ℤ) (existing : List String) (es : List Event) :
    (visit E sessionId documentState t₀ existing es).mouse.velocities = speeds E (moves es) ∧
      (visit E sessionId documentState t₀ existing es).mouse.moveCount = (moves es).length := by
  rw [visit,Collector.run,(mouse_part E).run]
  exact (mouse_history E (moves es)).2

theorem time_of_click {t : ℤ} (h : t ∈ clickTimes es) : t ∈ es.flatMap Event.times := by
  obtain ⟨e,he,hclick⟩ := List.mem_filterMap.mp h
  refine List.mem_flatMap.mpr ⟨e,he,?_⟩
  cases e <;> simp_all [Event.clicked,Event.times]

theorem Usual.time_bounds (h : Usual t₀ existing es) {t : ℤ} (ht : t ∈ es.flatMap Event.times) :
    t₀ ≤ t ∧ 0 < t ∧ t < 2^53 := by
  have hle := (List.pairwise_cons.mp h.clock).1 t ht
  exact ⟨hle,h.positive.trans_le hle,h.bounded t ht⟩

theorem visit_click (h : Usual t₀ existing es) :
    (visit E sessionId documentState t₀ existing es).click.clickIntervals = gaps (clickTimes es) ∧
      (visit E sessionId documentState t₀ existing es).click.clicks = (clickTimes es).length := by
  rw [visit,Collector.run,(click_part E).run]
  have hclicks := click_history fun t ht => (h.time_bounds (time_of_click ht)).2.1
  exact ⟨congrArg ClickState.clickIntervals hclicks,congrArg ClickState.clicks hclicks⟩

theorem scroll_history {ys : List ℚ} (h : ∀ y ∈ ys, mathRound y < 2^53) :
    let s := ys.foldl ScrollMetrics.onScroll {}
    s.events = ys.length ∧ 0 ≤ s.maxY ∧ s.maxY < 2^53 := by
  induction ys using List.reverseRecOn with
  | nil => decide
  | append_singleton ys y ih =>
    obtain ⟨hevents,hnonneg,hbound⟩ := ih fun y hy => h y (List.mem_append_left _ hy)
    have hy := h y (List.mem_append_right _ List.mem_cons_self)
    rw [List.foldl_concat]
    generalize ys.foldl ScrollMetrics.onScroll {} = s at hevents hnonneg hbound
    exact ⟨by simp [ScrollMetrics.onScroll,hevents],le_max_of_le_left hnonneg,max_lt hbound hy⟩

theorem visit_scroll (h : Usual t₀ existing es) :
    let s := (visit E sessionId documentState t₀ existing es).scroll
    s.events = (es.filterMap Event.scrolled).length ∧ 0 ≤ s.maxY ∧ s.maxY < 2^53 := by
  rw [visit,Collector.run,(scroll_part E).run]
  exact scroll_history h.scrolled

theorem lastIntervals_eq_nil {l : List ℤ} : lastIntervals l = [] ↔ l = [] := by
  rw [lastIntervals,List.drop_eq_nil_iff]
  constructor
  · intro h
    exact List.length_eq_zero_iff.mp (by omega)
  · rintro rfl
    rfl

theorem gaps_ne_nil {clicks : List ℤ} : gaps clicks ≠ [] ↔ 2 ≤ clicks.length := by
  have hlength : (gaps clicks).length = clicks.length-1 := by rw [gaps,List.length_map,length_pairs]
  rw [← List.length_pos_iff]
  omega

variable {e : Event} {shown stamped : ℤ}

theorem time_of_visibility (es : List Event) :
    ((es.filterMap Event.visibility).flatMap VisibilityTimer.Event.times).Sublist (es.flatMap Event.times) := by
  induction es with
  | nil => exact List.Sublist.refl _
  | cons e es ih =>
    rw [List.flatMap_cons]
    cases e with
    | visibilityChange documentState now => exact ih.cons_cons _
    | pageHide documentState now shown stamped => exact ((ih.cons _).cons_cons _).cons_cons _
    | interval shown stamped => exact (ih.cons _).cons_cons _
    | click now => exact ih.cons _
    | _ => exact ih

theorem visit_visibility (h : Usual t₀ existing (es++[e])) (hsends : e.sends = some (shown,stamped)) :
    VisibilityTimer.Shows (VisibilityTimer.new documentState t₀)
      (VisibilityTimer.changesOf ((es++[e]).filterMap Event.visibility))
      (shown,(visit E sessionId documentState t₀ existing (es++[e])).visibility.visibilitySnapshot shown) := by
  have hordered : VisibilityTimer.Ordered t₀ ((es++[e]).filterMap Event.visibility) :=
    h.clock.sublist ((time_of_visibility _).cons_cons _)
  refine VisibilityTimer.snapshots_show (c := VisibilityTimer.new documentState t₀) hordered _ ?_
  rw [visit,Collector.run,(visibility_part E).run,List.filterMap_append,VisibilityTimer.snapshots_append,
    List.foldl_append]
  refine List.mem_append_right _ ?_
  cases e with
  | pageHide documentState now shown stamped =>
    cases hsends
    exact List.mem_cons_self
  | interval shown stamped =>
    cases hsends
    exact List.mem_cons_self
  | _ => cases hsends

theorem visit_times (h : Usual t₀ existing (es++[e])) (hsends : e.sends = some (shown,stamped)) :
    let v := (visit E sessionId documentState t₀ existing (es++[e])).visibility.visibilitySnapshot shown
    v.hiddenMs = hiddenTime documentState t₀ (es++[e]) shown ∧ v.visibleMs = shown-t₀-v.hiddenMs ∧
      0 ≤ v.hiddenMs ∧ 0 ≤ v.visibleMs := by
  obtain ⟨hlater,hhidden,htotal⟩ := visit_visibility E sessionId documentState h hsends
  have hsplit := Timeline.timeIn_add_not VisibilityTimer.isHidden documentState
    (VisibilityTimer.changesOf ((es++[e]).filterMap Event.visibility)) hlater
  have hnonneg (p : String → Bool) (changes : List (ℤ × String)) : 0 ≤ timeIn p documentState changes t₀ shown :=
    Int.natCast_nonneg _
  have hhidden' := hnonneg VisibilityTimer.isHidden (VisibilityTimer.changesOf ((es++[e]).filterMap Event.visibility))
  have hvisible' := hnonneg (fun v => !VisibilityTimer.isHidden v)
    (VisibilityTimer.changesOf ((es++[e]).filterMap Event.visibility))
  simp only [VisibilityTimer.new,hiddenTime] at *
  omega

theorem mostlyHidden_iff (h : Usual t₀ existing (es++[e])) (hsends : e.sends = some (shown,stamped)) :
    MostlyHidden documentState t₀ (es++[e]) shown ↔
      let v := (visit E sessionId documentState t₀ existing (es++[e])).visibility.visibilitySnapshot shown
      v.hiddenMs ≠ 0 ∧ 5*v.visibleMs < v.hiddenMs := by
  obtain ⟨hhidden,hvisible,hnonneg⟩ := visit_times E sessionId documentState h hsends
  rw [MostlyHidden,← hhidden]
  omega

theorem Usual.sends_bounds (h : Usual t₀ existing (es++[e])) (hsends : e.sends = some (shown,stamped)) :
    (t₀ ≤ shown ∧ 0 < shown ∧ shown < 2^53) ∧ t₀ ≤ stamped ∧ 0 < stamped ∧ stamped < 2^53 := by
  have htimes : shown ∈ e.times ∧ stamped ∈ e.times := by
    cases e <;> simp_all [Event.sends,Event.times]
  have hbounds {t : ℤ} (ht : t ∈ e.times) : t₀ ≤ t ∧ 0 < t ∧ t < 2^53 :=
    h.time_bounds (List.mem_flatMap.mpr ⟨e,List.mem_append_right _ List.mem_cons_self,ht⟩)
  exact ⟨hbounds htimes.1,hbounds htimes.2⟩

theorem fits_of_lt {n : ℤ} (h : 0 ≤ n) (hlt : n < 2^53) : Fits n := ⟨by omega,by omega⟩

theorem fits_length {n m : ℕ} (h : n ≤ m) (hlt : m < 2^53) : Fits n := fits_of_lt (by omega) (by omega)

theorem fits_gap (h : Usual t₀ existing es) {n : ℤ} (hn : n ∈ gaps (clickTimes es)) : Fits n := by
  obtain ⟨p,hp,rfl⟩ := List.mem_map.mp hn
  obtain ⟨hfst,hsnd⟩ := mem_of_mem_pairs hp
  have hfst := h.time_bounds (time_of_click hfst)
  have hsnd := h.time_bounds (time_of_click hsnd)
  exact ⟨by omega,by omega⟩

theorem visit_fits (h : Usual t₀ existing (es++[e])) (hsends : e.sends = some (shown,stamped)) :
    ∀ n ∈ ((visit E sessionId documentState t₀ existing (es++[e])).snapshot E shown stamped).integers, Fits n := by
  have hlength {α : Type} (f : Event → Option α) : ((es++[e]).filterMap f).length < 2^53 :=
    (List.length_filterMap_le f _).trans_lt h.short
  obtain ⟨hshown,hstamped⟩ := h.sends_bounds hsends
  have hcounted (types : List String) : Fits ((fetched existing (es++[e])).countP (· ∈ types) : ℕ) :=
    fits_length List.countP_le_length h.few
  obtain ⟨-,hmoves⟩ := visit_mouse E sessionId documentState t₀ existing (es++[e])
  obtain ⟨hgaps,hclicks⟩ := visit_click E sessionId documentState h
  obtain ⟨hevents,hmax⟩ := visit_scroll E sessionId documentState h
  obtain ⟨-,hvisible,hhidden⟩ := visit_times E sessionId documentState h hsends
  have hpositive := h.positive
  simp only [Beacon.integers,List.cons_append,List.nil_append,List.forall_mem_cons,Collector.snapshot,
    Collector.mouseSnapshot,hmoves,hclicks,hgaps,hevents,visit_count E sessionId documentState countResource_css rfl,
    visit_count E sessionId documentState countResource_image rfl,
    visit_count E sessionId documentState countResource_font rfl,
    visit_count E sessionId documentState countResource_script rfl,
    visit_count E sessionId documentState countResource_xhr rfl,hcounted,true_and]
  refine ⟨fits_of_lt hstamped.2.1.le hstamped.2.2,fits_length le_rfl (hlength Event.move),
    fits_length le_rfl (hlength Event.clicked),fits_length le_rfl (hlength Event.scrolled),
    fits_of_lt hmax.1 hmax.2,fits_of_lt hhidden.1 (by omega),fits_of_lt hhidden.2 (by omega),fun n hn => ?_⟩
  exact fits_gap h (List.mem_of_mem_drop hn)

theorem visit_signals (h : Usual t₀ existing (es++[e])) (hsends : e.sends = some (shown,stamped)) :
    (Behavior.score ⟨sessionId,((visit E sessionId documentState t₀ existing (es++[e])).snapshot E shown
      stamped).metrics⟩).map Signal.name = pageSignals E documentState t₀ existing (es++[e]) shown := by
  obtain ⟨hspeeds,hmoves⟩ := visit_mouse E sessionId documentState t₀ existing (es++[e])
  obtain ⟨hgaps,-⟩ := visit_click E sessionId documentState h
  obtain ⟨hhidden,hvisible,hnonneg⟩ := visit_times E sessionId documentState h hsends
  have hpositive := h.positive
  obtain ⟨hshown,-⟩ := h.sends_bounds hsends
  have hbounded : ((visit E sessionId documentState t₀ existing (es++[e])).visibility.visibilitySnapshot
      shown).visibleMs < 2^60 := by omega
  have hsmooth : round (stddev E (visit E sessionId documentState t₀ existing (es++[e])).mouse.velocities) <
        Behavior.jitterThreshold ∧ 10 < (visit E sessionId documentState t₀ existing (es++[e])).mouse.moveCount ↔
      Smooth E (es++[e]) := by
    rw [hspeeds,hmoves,Smooth,and_comm]
    simp
  have hclicked : lastIntervals (visit E sessionId documentState t₀ existing (es++[e])).click.clickIntervals ≠ [] ∧
        (∀ iv ∈ lastIntervals (visit E sessionId documentState t₀ existing (es++[e])).click.clickIntervals,
          Behavior.turnstileMin ≤ iv ∧ iv ≤ Behavior.turnstileMax) ↔ AutoClicked (es++[e]) := by
    rw [hgaps,AutoClicked,ne_eq,lastIntervals_eq_nil,← ne_eq,gaps_ne_nil]
  rw [score_names,Behavior.checkers]
  simp only [List.map_cons,List.map_nil,List.flatten_cons,List.flatten_nil,resourceBlock_names,mouseJitter_names,
    clickTiming_names]
  rw [visibility_names _ ⟨hnonneg.2,hbounded⟩]
  simp only [Beacon.metrics,Collector.snapshot,Collector.mouseSnapshot,unstyled_iff E sessionId documentState rfl,
    hsmooth,hclicked,← mostlyHidden_iff E sessionId documentState h hsends,pageSignals,List.append_assoc,List.append_nil]

theorem beacons_append (c : Collector) (es es' : List Event) :
    c.beacons E (es++es') = c.beacons E es++(c.run E es).beacons E es' := by
  induction es generalizing c with
  | nil => rfl
  | cons e es ih => simp only [List.cons_append,Collector.beacons,ih,Collector.run,List.foldl_cons,List.append_assoc]

theorem length_beacons (c : Collector) (es : List Event) :
    (c.beacons E es).length = (es.filterMap Event.sends).length := by
  induction es generalizing c with
  | nil => rfl
  | cons e es ih => cases hsends : e.sends <;> simp [Collector.beacons,hsends,ih]

theorem getElem?_beacons (c : Collector) (before after : List Event) (hsends : e.sends = some (shown,stamped)) :
    (c.beacons E (before++e::after))[(before.filterMap Event.sends).length]? =
      some ((c.run E (before++[e])).snapshot E shown stamped) := by
  rw [beacons_append,← length_beacons E c,List.getElem?_append_right le_rfl,Nat.sub_self,Collector.beacons,hsends]
  simp [Collector.run]

theorem Usual.initial {after : List Event} (h : Usual t₀ existing (es++after)) : Usual t₀ existing es where
  clock := by
    have hclock := h.clock
    rw [List.flatMap_append] at hclock
    exact hclock.sublist ((List.sublist_append_left _ _).cons_cons _)
  positive := h.positive
  bounded := fun t ht => h.bounded t (by simpa using .inl (by simpa using ht))
  short := by
    have hshort := h.short
    rw [List.length_append] at hshort
    omega
  few := by
    have hfew := h.few
    simp only [fetched,List.filterMap_append,List.flatten_append,List.length_append] at hfew ⊢
    omega
  scrolled := fun y hy => h.scrolled y (List.filterMap_append ▸ List.mem_append_left _ hy)

theorem getLast?_push (m : StringMap (List (BeaconEntry Behavior.Metrics))) (key : String)
    (beacon : BehaviorBeacon Behavior.Metrics) (now : ℤ) :
    (((push m key beacon now).lookup key).getD []).getLast? = some ⟨beacon,now⟩ := by
  rw [push,StringMap.lookup_insert,if_pos rfl,Option.getD_some]
  split_ifs with hfull
  · rw [List.getLast?_drop,if_neg (by unfold beaconMaxPerKey at hfull ⊢; omega),List.getLast?_concat]
  · exact List.getLast?_concat

theorem handleBeacon_scored {body : Json} {b : BehaviorBeacon Behavior.Metrics} (hbody : decodeBeacon body = some b)
    (s : Store Behavior.Metrics) (remoteAddr : String) (pruned storedSession storedIP : ℤ) :
    let answer := handleBeacon s ⟨"POST",some body,remoteAddr⟩ pruned storedSession storedIP
    answer.2 = (204,"") ∧
      (∀ ctx : RequestContext, ctx.remoteIP = HostPort.hostOf remoteAddr →
        Behavior.collect answer.1 ctx = Behavior.score b) ∧
      Behavior.scoreSession answer.1 b.sessionID = Behavior.score b := by
  have hhandled : handleBeacon s ⟨"POST",some body,remoteAddr⟩ pruned storedSession storedIP =
      ((Call.ingestFromRequest remoteAddr b pruned storedSession storedIP).apply s,204,"") := by
    rw [handleBeacon,if_neg (by simp),Option.bind_some,hbody]
  rw [hhandled]
  refine ⟨rfl,fun ctx hctx => ?_,?_⟩
  · rw [Behavior.collect,getByIP,hctx,Call.apply,getLast?_push]
    rfl
  · rw [Behavior.scoreSession,getBySession,Call.apply,getLast?_push]
    rfl

theorem visit_sessionId (t₀ : ℤ) (existing : List String) (es : List Event) :
    (visit E sessionId documentState t₀ existing es).sessionId = sessionId := by
  have hkept : IsPart (Collector.step E) Collector.sessionId (fun _ => (none : Option Unit)) fun s _ => s := by
    intro c e
    cases e <;> rfl
  rw [visit,Collector.run,hkept.run,List.filterMap_none]
  rfl

end Scored

section Sample

def sampleRoot (x : ℚ) : ℚ := nearest (Nat.sqrt (x.num.toNat*x.den*2^256)/(x.den*2^128))

def sampleText (x : ℚ) : String :=
  let places := Nat.log2 x.den
  toString (x.num*5^places) ++ "e-" ++ toString places

theorem parseFloat_sampleText (x : ℚ) (h : IsDouble x) : parseFloat (sampleText x) = some x := by
  obtain ⟨k,hk⟩ := Binary64.exists_den_eq h
  have hpos : (0 : ℤ) < 5^k := by positivity
  have hmagnitude : ((x.num*5^k).natAbs : ℚ)*10^(-(k : ℤ)) = |x| := by
    have hten : (10 : ℚ)^k = 2^k*5^k := by rw [← mul_pow]; norm_num
    have hx : |x| = |(x.num : ℚ)|/2^k := by
      conv_lhs => rw [← Rat.num_div_den x,abs_div,hk,Nat.abs_cast]
      push_cast
      rfl
    rw [hx,Int.natAbs_mul,zpow_neg,zpow_natCast,hten,Int.natAbs_pow]
    push_cast
    field_simp
    norm_num
  have hsign : x.num*5^k < 0 ↔ x < 0 := by
    rw [← Rat.num_neg]
    exact ⟨fun h => by nlinarith,fun h => by nlinarith⟩
  rw [sampleText,hk,Nat.log2_two_pow,parseFloat,decimalOfLiteral_places]
  simp only [Option.map_some,hmagnitude,Binary64.nearest_of_isDouble (Binary64.isDouble_abs h) (abs_nonneg x),
    String.append_assoc,head_toString,hsign]
  split_ifs with hneg
  · rw [abs_of_neg hneg,neg_neg]
  · rw [abs_of_nonneg (not_lt.mp hneg)]

def sampleEngine : Engine where
  hypot x y := sampleRoot (x^2+y^2)
  sqrt := sampleRoot
  text := sampleText
  parseFloat_text := parseFloat_sampleText

/-- Two clicks, 150 milliseconds apart, and a beacon; then the page is hidden for a minute before it is left. -/
def sampleVisit : List Event :=
  [.click 1000,.click 1150,.interval 5500 5501,.visibilityChange "hidden" 5600,.pageHide "hidden" 65600 65600 65601]

theorem sampleVisit_usual : Usual 500 ["img"] sampleVisit where
  clock := by decide
  positive := by decide
  bounded := by decide
  short := by decide
  few := by decide
  scrolled := by decide

/-- What the daemon says of an address after a beacon to an empty store. -/
def saidOf (b : Beacon) : List String :=
  (Behavior.collect (handleBeacon newBeaconStore
    ⟨"POST",some (b.json sampleEngine),"203.0.113.9:80"⟩ 0 1 2).1 {remoteIP := "203.0.113.9"}).map Signal.name

end Sample

end BehaviorRecorder
end AntiScrapling
