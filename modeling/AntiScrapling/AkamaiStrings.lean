import AntiScrapling.Akamai
import AntiScrapling.SeparatedText

/-! What an Akamai fingerprint text tells about the connection. The text is four parts
between bars and each part can be read back, so it is equal for two fingerprints only
when their parts are; frames after the first request change it through their priority
tuples and through nothing else. -/
namespace AntiScrapling
namespace Http2

open ByteCodec UnicodeText GoText Hpack SeparatedText

section Parts

def settingRow (s : Setting) : List ℕ := [s.id.toNat,s.value.toNat]

def priorityRow (p : PriorityParam) : List ℕ :=
  [p.streamID.toNat,p.exclusive.toNat,p.dependsOn.toNat,p.weight.toNat]

/-- The row of a lone zero stands for no priorities. -/
def priorityRows (ps : List PriorityParam) : List (List ℕ) :=
  if ps = [] then [[0]] else ps.map priorityRow

def knownCodes (order : List Bytes) : List String := (order.map pseudoHeaderCode).filter (· ≠ "")

def AkamaiFingerprint.parts (f : AkamaiFingerprint) : List String :=
  [joinRows ":" "," (f.settings.map settingRow),toString f.windowUpdateIncrement.toNat,
    joinRows ":" "," (priorityRows f.priorities),pseudoCodes f.pseudoHeaderOrder]

theorem settingRow_text (s : Setting) :
    toString s.id.toNat ++ ":" ++ toString s.value.toNat = joinNumbers id ":" (settingRow s) := by
  simp [joinNumbers,settingRow]

theorem priorityRow_text (p : PriorityParam) :
    toString p.streamID.toNat ++ ":" ++ (if p.exclusive then "1" else "0") ++ ":" ++
      toString p.dependsOn.toNat ++ ":" ++ toString p.weight.toNat =
        joinNumbers id ":" (priorityRow p) := by
  have hflag : (if p.exclusive then "1" else "0") = toString p.exclusive.toNat := by
    cases p.exclusive <;> rfl
  rw [hflag]
  simp [joinNumbers,priorityRow,String.append_assoc]

theorem priorityRows_text (ps : List PriorityParam) :
    (if ps.length > 0 then
      ",".intercalate (ps.map fun p => toString p.streamID.toNat ++ ":" ++
        (if p.exclusive then "1" else "0") ++ ":" ++ toString p.dependsOn.toNat ++ ":" ++
          toString p.weight.toNat)
    else "0") = joinRows ":" "," (priorityRows ps) := by
  cases ps with
  | nil => decide
  | cons p ps =>
    rw [if_pos (by simp)]
    unfold joinRows priorityRows
    rw [if_neg (by simp),List.map_map]
    exact congrArg _ (List.map_congr_left fun p _ => priorityRow_text p)

theorem string_eq_parts {f : AkamaiFingerprint} (hf : f ≠ {}) : f.string = "|".intercalate f.parts := by
  have hne : ¬ (f.settings.length = 0 ∧ f.windowUpdateIncrement = 0 ∧ f.priorities.length = 0 ∧
      f.pseudoHeaderOrder.length = 0) := by
    rintro ⟨hsettings,hincrement,hpriorities,horder⟩
    obtain ⟨settings,increment,priorities,order⟩ := f
    simp only [List.length_eq_zero_iff] at hsettings hincrement hpriorities horder
    subst hsettings hincrement hpriorities horder
    exact hf rfl
  have hsettings : (f.settings.map fun s => toString s.id.toNat ++ ":" ++ toString s.value.toNat) =
      (f.settings.map settingRow).map (joinNumbers id ":") := by
    rw [List.map_map]
    exact List.map_congr_left fun s _ => settingRow_text s
  unfold AkamaiFingerprint.string AkamaiFingerprint.front AkamaiFingerprint.parts
  rw [if_neg hne]
  simp only [priorityRows_text,hsettings]
  simp [joinRows,String.append_assoc]

end Parts

section ReadBack

theorem pseudoHeaderCode_mem (name : Bytes) : pseudoHeaderCode name ∈ ["m","a","s","p",""] := by
  unfold pseudoHeaderCode
  simp only
  split_ifs <;> decide

theorem knownCodes_letter {order : List Bytes} {code : String} (h : code ∈ knownCodes order) :
    code ∈ ["m","a","s","p"] := by
  obtain ⟨hmem,hne⟩ := List.mem_filter.mp h
  obtain ⟨name,-,hname⟩ := List.mem_map.mp hmem
  have hcode : code ∈ ["m","a","s","p"]++[""] := hname ▸ pseudoHeaderCode_mem name
  rcases List.mem_append.mp hcode with hletter | hempty
  · exact hletter
  · exact absurd (List.mem_singleton.mp hempty) (of_decide_eq_true hne)

theorem knownCodes_free {c : Char} (hc : c ∉ ['m','a','s','p']) {order : List Bytes} {code : String}
    (h : code ∈ knownCodes order) : code ≠ "" ∧ Without c code := by
  have hletter := knownCodes_letter h
  simp only [List.mem_cons,List.not_mem_nil,or_false,not_or] at hletter hc
  rcases hletter with rfl | rfl | rfl | rfl
  all_goals exact ⟨by decide,by simp [Without,hc]⟩

theorem pseudoCodes_inj {order order' : List Bytes} :
    pseudoCodes order = pseudoCodes order' ↔ knownCodes order = knownCodes order' :=
  join_inj_of_ne comma_toList (fun _ => knownCodes_free (by decide)) fun _ => knownCodes_free (by decide)

theorem settingRow_injective : Function.Injective settingRow := by
  intro s s' h
  simp only [settingRow,List.cons.injEq,UInt16.toNat_inj,UInt32.toNat_inj,and_true] at h
  obtain ⟨id,value⟩ := s
  obtain ⟨rfl,rfl⟩ := h
  rfl

theorem priorityRow_injective : Function.Injective priorityRow := by
  intro p p' h
  simp only [priorityRow,List.cons.injEq,UInt8.toNat_inj,UInt32.toNat_inj,and_true] at h
  obtain ⟨streamID,exclusive,dependsOn,weight⟩ := p
  obtain ⟨streamID',exclusive',dependsOn',weight'⟩ := p'
  obtain ⟨rfl,hexclusive,rfl,rfl⟩ := h
  cases exclusive <;> cases exclusive' <;> simp_all

theorem priorityRows_inj {ps qs : List PriorityParam} : priorityRows ps = priorityRows qs ↔ ps = qs := by
  constructor
  · intro h
    cases ps with
    | nil =>
      cases qs with
      | nil => rfl
      | cons q qs => simp [priorityRows,priorityRow] at h
    | cons p ps =>
      cases qs with
      | nil => simp [priorityRows,priorityRow] at h
      | cons q qs => exact List.map_injective_iff.mpr priorityRow_injective (by simpa [priorityRows] using h)
  · rintro rfl
    rfl

theorem rows_inj {xss yss : List (List ℕ)} (hx : ∀ row ∈ xss, row ≠ []) (hy : ∀ row ∈ yss, row ≠ []) :
    joinRows ":" "," xss = joinRows ":" "," yss ↔ xss = yss :=
  joinRows_inj colon_toList comma_toList (by decide) (by decide) (by decide) hx hy

theorem settingRow_ne_nil {ss : List Setting} : ∀ row ∈ ss.map settingRow, row ≠ [] := by
  intro row hrow
  obtain ⟨s,-,rfl⟩ := List.mem_map.mp hrow
  exact List.cons_ne_nil _ _

theorem priorityRows_ne_nil {ps : List PriorityParam} : ∀ row ∈ priorityRows ps, row ≠ [] := by
  intro row hrow
  unfold priorityRows at hrow
  split_ifs at hrow with hps
  · rw [List.mem_singleton.mp hrow]
    exact List.cons_ne_nil _ _
  · obtain ⟨p,-,rfl⟩ := List.mem_map.mp hrow
    exact List.cons_ne_nil _ _

theorem without_bar_parts (f : AkamaiFingerprint) : ∀ part ∈ f.parts, Without '|' part := by
  have hcolon : Without '|' ":" := by simp [Without,colon_toList]
  have hcomma : Without '|' "," := by simp [Without,comma_toList]
  unfold AkamaiFingerprint.parts
  simp only [List.forall_mem_cons,List.not_mem_nil,false_implies,implies_true,and_true]
  refine ⟨without_joinRows (by decide) hcolon hcomma _,without_decimal (by decide) _,
    without_joinRows (by decide) hcolon hcomma _,without_join hcomma fun code hcode => ?_⟩
  exact (knownCodes_free (by decide) hcode).2

theorem parts_inj (f g : AkamaiFingerprint) :
    "|".intercalate f.parts = "|".intercalate g.parts ↔
      f.settings = g.settings ∧ f.windowUpdateIncrement = g.windowUpdateIncrement ∧
        f.priorities = g.priorities ∧ knownCodes f.pseudoHeaderOrder = knownCodes g.pseudoHeaderOrder := by
  have hne (f : AkamaiFingerprint) : f.parts ≠ [] := List.cons_ne_nil _ _
  rw [join_inj bar_toList (hne f) (hne g) (without_bar_parts f) (without_bar_parts g)]
  simp only [AkamaiFingerprint.parts,List.cons.injEq,and_true,decimal_inj,UInt32.toNat_inj,
    pseudoCodes_inj,rows_inj settingRow_ne_nil settingRow_ne_nil,
    rows_inj priorityRows_ne_nil priorityRows_ne_nil,priorityRows_inj,
    (List.map_injective_iff.mpr settingRow_injective).eq_iff]

theorem string_ne_empty {f : AkamaiFingerprint} (hf : f ≠ {}) : f.string ≠ "" := by
  intro h
  have hchars := congrArg String.toList h
  rw [string_eq_parts hf,AkamaiFingerprint.parts,String.toList_intercalate] at hchars
  simp [List.intercalate] at hchars

/-- The text settles the settings, the increment, the priorities and the known codes, and
whether there was anything at all: unknown pseudo-headers alone give `|0|0|`. -/
theorem akamaiString_eq_iff (f g : AkamaiFingerprint) :
    f.string = g.string ↔
      (f.settings = g.settings ∧ f.windowUpdateIncrement = g.windowUpdateIncrement ∧
        f.priorities = g.priorities ∧ knownCodes f.pseudoHeaderOrder = knownCodes g.pseudoHeaderOrder) ∧
      (f = {} ↔ g = {}) := by
  have hempty : AkamaiFingerprint.string {} = "" := by rfl
  by_cases hf : f = {}
  · subst hf
    by_cases hg : g = {}
    · subst hg
      simp
    · have hne := string_ne_empty hg
      simp [hg,hempty,hne.symm]
  by_cases hg : g = {}
  · subst hg
    have hne := string_ne_empty hf
    simp [hf,hempty,hne]
  rw [string_eq_parts hf,string_eq_parts hg,parts_inj]
  simp [hf,hg]

end ReadBack

section LaterFrames

/-- A frame with a priority tuple that the collector takes. -/
def Frame.CarriesPriority (frame : Frame) : Prop :=
  (frame.type = frameTypePriority ∧ frame.priority ≠ none) ∨
    frame.type = frameTypeHeaders ∧ ∃ headers, frame.headers = some headers ∧ headers.priority ≠ none

/-- The frames up to a first request: settings, a window for the connection and, last, a
request with pseudo-headers. -/
structure FirstRequest (frames : List Frame) : Prop where
  settings_sent : ∃ frame ∈ frames, frame.type = frameTypeSettings ∧ frame.settings ≠ []
  window_sent : ∃ frame ∈ frames, frame.type = frameTypeWindowUpdate ∧ frame.streamID = 0 ∧
    frame.windowUpdateIncrement ≠ 0
  request_last : ∃ before request headers, frames = before++[request] ∧
    request.type = frameTypeHeaders ∧ request.headers = some headers ∧ headers.pseudoHeaderOrder ≠ []

namespace AkamaiFingerprint

theorem merge_assoc (f g h : AkamaiFingerprint) : (f.merge g).merge h = f.merge (g.merge h) := by
  unfold merge
  simp only [List.append_assoc]
  congr 1 <;> split_ifs <;> simp_all

theorem empty_merge (f : AkamaiFingerprint) : merge {} f = f := by
  simp [merge]

theorem merge_empty (f : AkamaiFingerprint) : f.merge {} = f := by
  obtain ⟨settings,increment,priorities,order⟩ := f
  unfold merge
  simp only [List.append_nil]
  congr 1 <;> split_ifs <;> simp_all

theorem foldl_collect (f : AkamaiFingerprint) (frames : List Frame) :
    frames.foldl collect f = f.merge (frames.foldl collect {}) := by
  induction frames generalizing f with
  | nil => exact (merge_empty f).symm
  | cons frame frames ih =>
    rw [List.foldl_cons,List.foldl_cons,ih,ih (collect {} frame),collect_eq_merge,collect_eq_merge,
      merge_assoc,empty_merge]

theorem merge_of_full {f : AkamaiFingerprint} (hsettings : f.settings ≠ [])
    (hincrement : f.windowUpdateIncrement ≠ 0) (horder : f.pseudoHeaderOrder ≠ [])
    (g : AkamaiFingerprint) : f.merge g = {f with priorities := f.priorities++g.priorities} := by
  simp [merge,hsettings,hincrement,horder]

theorem foldl_collect_full {frames : List Frame} {frame : Frame} (hmem : frame ∈ frames) :
    (frame.part.settings ≠ [] → (frames.foldl collect {}).settings ≠ []) ∧
    (frame.part.windowUpdateIncrement ≠ 0 → (frames.foldl collect {}).windowUpdateIncrement ≠ 0) ∧
    (frame.part.pseudoHeaderOrder ≠ [] → (frames.foldl collect {}).pseudoHeaderOrder ≠ []) := by
  obtain ⟨xs,ys,rfl⟩ := List.append_of_mem hmem
  rw [List.foldl_append,List.foldl_cons,foldl_collect,collect_eq_merge]
  unfold merge
  refine ⟨fun h => ?_,fun h => ?_,fun h => ?_⟩
  all_goals
    simp only
    split_ifs <;> simp_all

theorem foldl_collect_priorities (frames : List Frame) :
    (frames.foldl collect {}).priorities = frames.flatMap fun frame => frame.part.priorities := by
  induction frames with
  | nil => rfl
  | cons frame frames ih =>
    rw [List.foldl_cons,foldl_collect,collect_eq_merge,empty_merge,List.flatMap_cons,← ih]
    rfl

end AkamaiFingerprint

theorem part_priorities_ne_nil (frame : Frame) :
    frame.part.priorities ≠ [] ↔ frame.CarriesPriority := by
  unfold Frame.part Frame.CarriesPriority
  have htypes : frameTypePriority ≠ frameTypeHeaders := by decide
  by_cases hpriority : frame.type = frameTypePriority
  · simp [hpriority,htypes]
  · cases frame.headers <;> simp [hpriority]

theorem FirstRequest.full {frames : List Frame} (h : FirstRequest frames) :
    (frames.foldl AkamaiFingerprint.collect {}).settings ≠ [] ∧
    (frames.foldl AkamaiFingerprint.collect {}).windowUpdateIncrement ≠ 0 ∧
    (frames.foldl AkamaiFingerprint.collect {}).pseudoHeaderOrder ≠ [] := by
  obtain ⟨settings,hsettings,htype,hne⟩ := h.settings_sent
  obtain ⟨window,hwindow,hkind,hid,hincrement⟩ := h.window_sent
  obtain ⟨before,request,headers,hframes,hrequest,hheaders,horder⟩ := h.request_last
  have hlast : request ∈ frames := by simp [hframes]
  refine ⟨(AkamaiFingerprint.foldl_collect_full hsettings).1 ?_,
    (AkamaiFingerprint.foldl_collect_full hwindow).2.1 ?_,
    (AkamaiFingerprint.foldl_collect_full hlast).2.2 ?_⟩
  · simpa [Frame.part,htype] using hne
  · simpa [Frame.part,hkind,hid] using hincrement
  · simpa [Frame.part,hrequest,hheaders] using horder

/-- After the first request the fingerprint moves with every priority tuple that is sent,
and with nothing else. -/
theorem computeAkamaiFingerprint_append_iff {frames : List Frame} (h : FirstRequest frames)
    (later : List Frame) :
    computeAkamaiFingerprint (frames++later) = computeAkamaiFingerprint frames ↔
      ∀ frame ∈ later, ¬ frame.CarriesPriority := by
  obtain ⟨hsettings,hincrement,horder⟩ := h.full
  have hne : frames.foldl AkamaiFingerprint.collect {} ≠ {} := fun heq => hsettings (by rw [heq])
  have hmore : (frames++later).foldl AkamaiFingerprint.collect {} ≠ {} := by
    rw [List.foldl_append,AkamaiFingerprint.foldl_collect,
      AkamaiFingerprint.merge_of_full hsettings hincrement horder]
    exact fun heq => hsettings (congrArg AkamaiFingerprint.settings heq)
  unfold computeAkamaiFingerprint
  rw [string_eq_parts hne,string_eq_parts hmore,parts_inj,List.foldl_append,
    AkamaiFingerprint.foldl_collect,AkamaiFingerprint.merge_of_full hsettings hincrement horder]
  simp only [true_and,and_true,List.append_right_eq_self,AkamaiFingerprint.foldl_collect_priorities,
    List.flatMap_eq_nil_iff]
  refine forall₂_congr fun frame _ => ?_
  rw [← part_priorities_ne_nil,not_not]

/-- Settings, a window and a first request, as a browser sends them. -/
def openingFrames : List Frame :=
  [{type := frameTypeSettings, flags := 0, streamID := 0, settings := [⟨1,65536⟩,⟨4,6291456⟩]},
   {type := frameTypeWindowUpdate, flags := 0, streamID := 0, windowUpdateIncrement := 15663105},
   {type := frameTypeHeaders, flags := 0x5, streamID := 1,
    headers := some {streamID := 1, pseudoHeaderOrder := ["method","authority","scheme","path"].map utf8}}]

theorem openingFrames_firstRequest : FirstRequest openingFrames where
  settings_sent := ⟨_,List.mem_cons_self,rfl,List.cons_ne_nil _ _⟩
  window_sent := ⟨_,List.mem_cons_of_mem _ List.mem_cons_self,rfl,rfl,by decide⟩
  request_last := ⟨openingFrames.take 2,_,_,rfl,rfl,rfl,List.cons_ne_nil _ _⟩

/-- A second request without a priority leaves the text as it is. -/
theorem computeAkamaiFingerprint_append_request :
    FirstRequest openingFrames ∧
      computeAkamaiFingerprint (openingFrames++openingFrames.drop 2) =
        computeAkamaiFingerprint openingFrames :=
  ⟨openingFrames_firstRequest,(computeAkamaiFingerprint_append_iff openingFrames_firstRequest _).mpr
    fun frame hframe => by
      rw [List.mem_singleton.mp hframe]
      simp [Frame.CarriesPriority,frameTypePriority,frameTypeHeaders]⟩

/-- A PRIORITY frame for the third stream, sent after the first request. -/
def laterPriority : Frame :=
  {type := frameTypePriority, flags := 0, streamID := 3, priority := some ⟨3,false,0,200⟩}

/-- A later PRIORITY frame makes the fingerprint another one. -/
theorem fingerprint_drifts :
    FirstRequest openingFrames ∧
    computeAkamaiFingerprint openingFrames = "1:65536,4:6291456|15663105|0|m,a,s,p" ∧
    computeAkamaiFingerprint (openingFrames++[laterPriority]) =
      "1:65536,4:6291456|15663105|3:0:0:200|m,a,s,p" :=
  ⟨openingFrames_firstRequest,by decide +kernel,by decide +kernel⟩

end LaterFrames

end Http2
end AntiScrapling
