import AntiScrapling.Http2Stream
import AntiScrapling.HpackNames
import AntiScrapling.GoText

/-! The Akamai HTTP/2 fingerprint of `internal/signal/http2/akamai.go`, and its round
trip through the frames that `akamai_test.go` builds. -/
namespace AntiScrapling
namespace Http2

open CheckedRun ByteCodec UnicodeText GoText Hpack

section Fingerprint

structure AkamaiFingerprint where
  settings : List Setting := []
  windowUpdateIncrement : UInt32 := 0
  priorities : List PriorityParam := []
  pseudoHeaderOrder : List Bytes := []
  deriving DecidableEq, Repr

def pseudoHeaderCode (name : Bytes) : String :=
  let name := trimPrefix (toLower (runes name)) ":"
  if name = "method" then "m"
  else if name = "authority" then "a"
  else if name = "scheme" then "s"
  else if name = "path" then "p"
  else ""

/-- The codes of the pseudo-headers that have one, joined. -/
def pseudoCodes (order : List Bytes) : String :=
  ",".intercalate ((order.map pseudoHeaderCode).filter (· ≠ ""))

namespace AkamaiFingerprint

def front (f : AkamaiFingerprint) : String :=
  let settings := f.settings.map fun setting =>
    toString setting.id.toNat ++ ":" ++ toString setting.value.toNat
  let priorities :=
    if f.priorities.length > 0 then
      ",".intercalate (f.priorities.map fun priority =>
        toString priority.streamID.toNat ++ ":" ++ (if priority.exclusive then "1" else "0") ++
          ":" ++ toString priority.dependsOn.toNat ++ ":" ++ toString priority.weight.toNat)
    else "0"
  ",".intercalate settings ++ "|" ++ toString f.windowUpdateIncrement.toNat ++ "|" ++ priorities ++ "|"

/-- `SETTINGS|WINDOW_UPDATE|PRIORITY|PSEUDO`. -/
def string (f : AkamaiFingerprint) : String :=
  if f.settings.length = 0 ∧ f.windowUpdateIncrement = 0 ∧ f.priorities.length = 0 ∧
      f.pseudoHeaderOrder.length = 0 then ""
  else f.front ++ pseudoCodes f.pseudoHeaderOrder

def collect (f : AkamaiFingerprint) (frame : Frame) : AkamaiFingerprint :=
  if frame.type = frameTypeSettings then
    if f.settings.length = 0 ∧ frame.settings.length > 0 then
      {f with settings := f.settings++frame.settings}
    else f
  else if frame.type = frameTypeWindowUpdate then
    if f.windowUpdateIncrement = 0 ∧ frame.streamID = 0 then
      {f with windowUpdateIncrement := frame.windowUpdateIncrement}
    else f
  else if frame.type = frameTypePriority then
    match frame.priority with
    | some priority => {f with priorities := f.priorities++[priority]}
    | none => f
  else if frame.type = frameTypeHeaders then
    match frame.headers with
    | none => f
    | some headers =>
      let f := {f with priorities := f.priorities++headers.priority.toList}
      if f.pseudoHeaderOrder.length = 0 ∧ headers.pseudoHeaderOrder.length > 0 then
        {f with pseudoHeaderOrder := f.pseudoHeaderOrder++headers.pseudoHeaderOrder}
      else f
  else f

/-- The parts of `f`, and where `f` has none those of `g`; priorities add up. -/
def merge (f g : AkamaiFingerprint) : AkamaiFingerprint where
  settings := if f.settings = [] then g.settings else f.settings
  windowUpdateIncrement :=
    if f.windowUpdateIncrement = 0 then g.windowUpdateIncrement else f.windowUpdateIncrement
  priorities := f.priorities++g.priorities
  pseudoHeaderOrder := if f.pseudoHeaderOrder = [] then g.pseudoHeaderOrder else f.pseudoHeaderOrder

end AkamaiFingerprint

def Frame.part (frame : Frame) : AkamaiFingerprint where
  settings := if frame.type = frameTypeSettings then frame.settings else []
  windowUpdateIncrement :=
    if frame.type = frameTypeWindowUpdate ∧ frame.streamID = 0 then frame.windowUpdateIncrement else 0
  priorities :=
    if frame.type = frameTypePriority then frame.priority.toList
    else if frame.type = frameTypeHeaders then (frame.headers.bind HeadersBlock.priority).toList
    else []
  pseudoHeaderOrder :=
    if frame.type = frameTypeHeaders then (frame.headers.map HeadersBlock.pseudoHeaderOrder).getD []
    else []

theorem collect_eq_merge (f : AkamaiFingerprint) (frame : Frame) :
    f.collect frame = f.merge frame.part := by
  obtain ⟨settings,increment,priorities,order⟩ := f
  unfold AkamaiFingerprint.collect AkamaiFingerprint.merge Frame.part
  by_cases h₁ : frame.type = frameTypeSettings
  · cases settings <;> cases frame.settings <;>
      simp [h₁,frameTypeSettings,frameTypeWindowUpdate,frameTypePriority,frameTypeHeaders]
  by_cases h₂ : frame.type = frameTypeWindowUpdate
  · by_cases hzero : increment = 0 <;> by_cases hid : frame.streamID = 0 <;>
      simp [h₂,hzero,hid,frameTypeSettings,frameTypeWindowUpdate,frameTypePriority,frameTypeHeaders]
  by_cases h₃ : frame.type = frameTypePriority
  · cases frame.priority <;>
      simp [h₃,frameTypeSettings,frameTypeWindowUpdate,frameTypePriority,frameTypeHeaders]
  by_cases h₄ : frame.type = frameTypeHeaders
  · cases frame.headers with
    | none => simp [h₄,frameTypeSettings,frameTypeWindowUpdate,frameTypePriority,frameTypeHeaders]
    | some headers =>
      obtain ⟨id,pseudo,regular,priority⟩ := headers
      cases order <;> cases pseudo <;>
        simp [h₄,frameTypeSettings,frameTypeWindowUpdate,frameTypePriority,frameTypeHeaders]
  · simp [h₁,h₂,h₃,h₄]

def computeAkamaiFingerprint (frames : List Frame) : String :=
  (frames.foldl AkamaiFingerprint.collect {}).string

def computeAkamaiFingerprintBytes (data : Bytes) : Run String := do
  let frames ← parseFrames data
  .ok (computeAkamaiFingerprint frames)

/-- On a stream of frames the fingerprint is the one of the frames that are read. -/
theorem computeAkamaiFingerprintBytes_encode (s : Stream) :
    computeAkamaiFingerprintBytes s.encode =
      (readFrames newHPACKNameDecoder s.frames).map fun p => computeAkamaiFingerprint p.1 := by
  unfold computeAkamaiFingerprintBytes
  rw [parseFrames_encode]
  cases readFrames newHPACKNameDecoder s.frames <;> rfl

end Fingerprint

section Profiles

inductive PseudoCode
  | m | a | s | p
  deriving DecidableEq, Repr

namespace PseudoCode

def letter : PseudoCode → String
  | m => "m" | a => "a" | s => "s" | p => "p"

def index : PseudoCode → UInt8
  | m => 2 | a => 1 | s => 6 | p => 4

def value : PseudoCode → String
  | m => "GET" | a => "example.com" | s => "https" | p => "/"

end PseudoCode

def literalPseudoHeader (code : PseudoCode) : Bytes :=
  [code.index,UInt8.ofNat (utf8 code.value).length]++utf8 code.value

structure PriorityTuple extends PriorityParam where
  streamID_lt : streamID.toNat < 2^31
  dependsOn_lt : dependsOn.toNat < 2^31

/-- What a client of the tests sends. -/
structure Profile where
  settings : List Setting
  increment : UInt32
  priorities : List PriorityTuple
  codes : List PseudoCode
  settings_ne : settings ≠ []
  settings_fit : 6*settings.length < 2^24
  increment_lt : increment.toNat < 2^31
  codes_fit : (codes.flatMap literalPseudoHeader).length < 2^24

def Profile.render (p : Profile) : String :=
  let setting (s : Setting) := toString s.id.toNat ++ ":" ++ toString s.value.toNat
  let priority (t : PriorityTuple) :=
    toString t.streamID.toNat ++ ":" ++ (if t.exclusive then "1" else "0") ++ ":" ++
      toString t.dependsOn.toNat ++ ":" ++ toString t.weight.toNat
  ",".intercalate (p.settings.map setting) ++ "|" ++ toString p.increment.toNat ++ "|" ++
    (if p.priorities = [] then "0" else ",".intercalate (p.priorities.map priority)) ++ "|" ++
    ",".intercalate (p.codes.map PseudoCode.letter)

end Profiles

section Synthesis

def settingEntry (s : Setting) : Bytes := put16 s.id.toNat++put32 s.value.toNat

theorem settingEntries_length (settings : List Setting) :
    (settings.flatMap settingEntry).length = 6*settings.length := by
  induction settings with
  | nil => rfl
  | cons s settings ih =>
    have hs : (settingEntry s).length = 6 := rfl
    rw [List.flatMap_cons,List.length_append,ih,hs,List.length_cons]
    omega

def settingsFrame (p : Profile) : RawFrame where
  type := frameTypeSettings
  flags := 0
  id := 0
  payload := p.settings.flatMap settingEntry
  fits := by rw [settingEntries_length]; exact p.settings_fit

def windowUpdateFrame (increment : UInt32) : RawFrame :=
  ⟨frameTypeWindowUpdate,0,0,put32 increment.toNat,(by decide : 4 < 2^24)⟩

def priorityFrame (t : PriorityTuple) : RawFrame :=
  let dependsOn := if t.exclusive then t.dependsOn ||| 0x80000000 else t.dependsOn
  ⟨frameTypePriority,0,t.streamID &&& 0x7fffffff,put32 dependsOn.toNat++[t.weight],
    (by decide : 5 < 2^24)⟩

def headersFrame (p : Profile) : RawFrame :=
  ⟨frameTypeHeaders,0x4,1,p.codes.flatMap literalPseudoHeader,p.codes_fit⟩

def synthesizeFramesFromAkamai (p : Profile) : List RawFrame :=
  [settingsFrame p]++(if p.increment ≠ 0 then [windowUpdateFrame p.increment] else [])++
    p.priorities.map priorityFrame++[headersFrame p]

end Synthesis

section Reading

theorem settingsRound_entry (s : Setting) (rest : Bytes) (acc : List Setting) :
    settingsRound (settingEntry s++rest,acc) = .ok (.inl (rest,acc++[s])) := by
  have hlen : (settingEntry s++rest).length = 6+rest.length := by
    rw [List.length_append]
    rfl
  have hid : slice (settingEntry s++rest) 0 2 = .ok (put16 s.id.toNat) :=
    slice_total (by decide) (by omega)
  have hvalue : slice (settingEntry s++rest) 2 6 = .ok (put32 s.value.toNat) :=
    slice_total (by decide) (by omega)
  have hrest : slice (settingEntry s++rest) 6 (settingEntry s++rest).length = .ok rest :=
    slice_from (by omega)
  have hid' : uint16 (put16 s.id.toNat) = .ok s.id := by
    have h := uint16_put16 s.id.toNat_lt []
    rwa [List.append_nil,UInt16.ofNat_toNat] at h
  have hpos : (settingEntry s++rest).length > 0 := by omega
  simp only [settingsRound,hpos,if_true,hid,hid',hvalue,uint32_id,hrest,ok_bind]

theorem parseSettings_entries (settings : List Setting) :
    parseSettings (settings.flatMap settingEntry) = .ok settings := by
  have hlen := settingEntries_length settings
  have hmod : ¬ (settings.flatMap settingEntry).length%6 ≠ 0 := by omega
  unfold parseSettings
  rw [if_neg hmod]
  exact iterate_collect settingsRound settings (fun xs acc => (xs.flatMap settingEntry,acc)) id
    (fun s rest acc _ => settingsRound_entry s (rest.flatMap settingEntry) acc) (fun _ => rfl)
    (by omega)

variable (d : HPACKNameDecoder)

def settingsRead (p : Profile) : Frame :=
  {type := frameTypeSettings, flags := 0, streamID := 0, settings := p.settings}

theorem settingsFrame_read (p : Profile) : (settingsFrame p).read d = .ok (settingsRead p,d) := by
  have h := parseSettings_entries p.settings
  unfold RawFrame.read parsePayload settingsFrame
  simp only [h,ok_bind]
  rfl

def windowUpdateRead (increment : UInt32) : Frame :=
  {type := frameTypeWindowUpdate, flags := 0, streamID := 0, windowUpdateIncrement := increment}

theorem windowUpdateFrame_read {increment : UInt32} (h : increment.toNat < 2^31) :
    (windowUpdateFrame increment).read d = .ok (windowUpdateRead increment,d) := by
  have hread : parseWindowUpdate (put32 increment.toNat) = .ok increment := by
    unfold parseWindowUpdate
    rw [if_neg (by rw [put32_length]; decide),uint32_id]
    show Except.ok (increment &&& 0x7fffffff) = _
    rw [and_low h]
  unfold RawFrame.read parsePayload windowUpdateFrame
  simp only [hread,ok_bind]
  rfl

theorem parsePriority_encode (dependency : UInt32) (weight : UInt8) (streamID : UInt32) :
    parsePriority (put32 dependency.toNat++[weight]) streamID =
      .ok ⟨streamID,dependency &&& 0x80000000 ≠ 0,dependency &&& 0x7fffffff,weight⟩ := by
  have hdep : slice (put32 dependency.toNat++[weight]) 0 4 = .ok (put32 dependency.toNat) := rfl
  have hweight : byteAt (put32 dependency.toNat++[weight]) 4 = .ok weight := rfl
  have hlen : ¬ (put32 dependency.toNat++[weight]).length ≠ 5 := by simp [put32]
  simp only [parsePriority,hlen,if_false,hdep,hweight,uint32_id,ok_bind]

def priorityRead (t : PriorityTuple) : Frame :=
  {type := frameTypePriority, flags := 0, streamID := t.streamID, priority := some t.toPriorityParam}

theorem priorityFrame_read (t : PriorityTuple) :
    (priorityFrame t).read d = .ok (priorityRead t,d) := by
  have hid : t.streamID &&& 0x7fffffff &&& 0x7fffffff = t.streamID := by
    rw [and_low t.streamID_lt,and_low t.streamID_lt]
  have hread : parsePriority (priorityFrame t).payload t.streamID = .ok t.toPriorityParam := by
    unfold priorityFrame
    simp only [parsePriority_encode]
    cases hex : t.exclusive with
    | true =>
      have hhigh := toNat_or_high t.dependsOn_lt
      have hset : (t.dependsOn ||| 0x80000000) &&& 0x80000000 ≠ 0 := by
        rw [ne_eq,and_high]
        omega
      have hlow : (t.dependsOn ||| 0x80000000) &&& 0x7fffffff = t.dependsOn := by
        have := t.dependsOn_lt
        rw [← UInt32.toNat_inj,toNat_and_low]
        omega
      simp only [if_true,hlow]
      rw [decide_eq_true hset,← hex]
    | false =>
      have hclear := (and_high t.dependsOn).mpr t.dependsOn_lt
      simp only [Bool.false_eq_true,if_false,hclear,ne_eq,not_true_eq_false,decide_false,
        and_low t.dependsOn_lt]
      rw [← hex]
  unfold RawFrame.read parsePayload
  simp only [show (priorityFrame t).id = t.streamID &&& 0x7fffffff from rfl,hid,hread,ok_bind]
  rfl

/-- A pseudo-header as a field without indexing. -/
def PseudoCode.field (code : PseudoCode) : Representation :=
  .literal .without (.index code.index.toNat) ⟨false,utf8 code.value⟩

def PseudoCode.name : PseudoCode → Bytes
  | .m => utf8 "method" | .a => utf8 "authority" | .s => utf8 "scheme" | .p => utf8 "path"

theorem literalPseudoHeader_eq (code : PseudoCode) :
    literalPseudoHeader code = code.field.encode id := by
  cases code <;> decide +kernel

theorem pseudoBlock_octets (codes : List PseudoCode) :
    BlockOctets id (codes.map PseudoCode.field) (codes.flatMap literalPseudoHeader) := by
  have hnumbers (code : PseudoCode) : ∀ n ∈ code.field.numbers id, n < 2^63 := by
    cases code <;> decide +kernel
  have hall : ∀ r ∈ codes.map PseudoCode.field, ∀ n ∈ r.numbers id, n < 2^63 := by
    intro r hr
    obtain ⟨code,-,rfl⟩ := List.mem_map.mp hr
    exact hnumbers code
  have hencode : literalPseudoHeader = fun code => code.field.encode id :=
    funext literalPseudoHeader_eq
  have h := blockOctets_encode hall
  rw [List.flatMap_map] at h
  rwa [hencode]

theorem follow_pseudo (codes : List PseudoCode) :
    follow d (codes.map PseudoCode.field) = (codes.map fun code => 58::code.name,d) := by
  induction codes with
  | nil => rfl
  | cons code codes ih =>
    have hname : nameStep d code.field = (d,58::code.name) := by cases code <;> rfl
    simp only [List.map_cons,follow,hname,ih,appendName]
    simp

theorem pseudoNames_codes (codes : List PseudoCode) :
    pseudoNames (codes.map fun code => 58::code.name) = codes.map PseudoCode.name ∧
      regularNames (codes.map fun code => 58::code.name) = [] := by
  induction codes with
  | nil => exact ⟨rfl,rfl⟩
  | cons code codes ih =>
    obtain ⟨hpseudo,hregular⟩ := ih
    unfold pseudoNames regularNames at *
    simp only [List.map_cons,List.head?_cons,List.filter_cons,List.tail_cons,decide_true,if_true,
      ne_eq,not_true_eq_false,and_false,decide_false,Bool.false_eq_true,if_false]
    exact ⟨congrArg _ hpseudo,hregular⟩

def headersRead (p : Profile) : Frame :=
  {type := frameTypeHeaders, flags := 0x4, streamID := 1,
   headers := some {streamID := 1, pseudoHeaderOrder := p.codes.map PseudoCode.name}}

theorem headersFrame_read (p : Profile) : (headersFrame p).read d = .ok (headersRead p,d) := by
  have hrange : ∀ r ∈ p.codes.map PseudoCode.field, InRange r := by
    intro r hr
    obtain ⟨code,-,rfl⟩ := List.mem_map.mp hr
    cases code <;> simp [InRange,PseudoCode.field,Representation.indices,PseudoCode.index]
  have hdecode := decode_octets (pseudoBlock_octets p.codes) hrange d
  rw [follow_pseudo] at hdecode
  have hread : parseHeaders (p.codes.flatMap literalPseudoHeader) 0x4 1 d =
      .ok ({streamID := 1, pseudoHeaderOrder := p.codes.map PseudoCode.name},d) := by
    have hpad (payload : Bytes) : removePadding payload 0x4 = .ok payload := rfl
    have hpriority (payload : Bytes) : takePriority payload 0x4 1 = .ok (none,payload) := rfl
    unfold parseHeaders
    simp only [hpad,hpriority,ok_bind,hdecode,sortNames_eq,
      (pseudoNames_codes p.codes).1,(pseudoNames_codes p.codes).2]
    rfl
  unfold RawFrame.read parsePayload headersFrame
  have hid : (1 : UInt32) &&& 0x7fffffff = 1 := rfl
  simp only [hid,hread,ok_bind]
  rfl

end Reading

section RoundTrip

theorem collect_priorities (f : AkamaiFingerprint) (ts : List PriorityTuple) :
    (ts.map priorityRead).foldl AkamaiFingerprint.collect f =
      {f with priorities := f.priorities++ts.map PriorityTuple.toPriorityParam} := by
  induction ts generalizing f with
  | nil => simp
  | cons t ts ih =>
    have hcollect : f.collect (priorityRead t) =
        {f with priorities := f.priorities++[t.toPriorityParam]} := rfl
    rw [List.map_cons,List.foldl_cons,hcollect,ih]
    simp

theorem pseudoHeaderCode_name (code : PseudoCode) : pseudoHeaderCode code.name = code.letter := by
  cases code <;> decide +kernel

theorem pseudoCodes_names (codes : List PseudoCode) :
    pseudoCodes (codes.map PseudoCode.name) = ",".intercalate (codes.map PseudoCode.letter) := by
  have hmap : (codes.map PseudoCode.name).map pseudoHeaderCode = codes.map PseudoCode.letter := by
    simp only [List.map_map,Function.comp_def,pseudoHeaderCode_name]
  have hletter (code : PseudoCode) : code.letter ≠ "" := by cases code <;> decide
  have hfilter : (codes.map PseudoCode.letter).filter (· ≠ "") = codes.map PseudoCode.letter := by
    rw [List.filter_eq_self]
    intro x hx
    obtain ⟨code,-,rfl⟩ := List.mem_map.mp hx
    exact decide_eq_true (hletter code)
  unfold pseudoCodes
  rw [hmap,hfilter]

def Profile.fingerprint (p : Profile) : AkamaiFingerprint :=
  ⟨p.settings,p.increment,p.priorities.map PriorityTuple.toPriorityParam,p.codes.map PseudoCode.name⟩

theorem Profile.fingerprint_string (p : Profile) : p.fingerprint.string = p.render := by
  have hne : ¬ (p.settings.length = 0 ∧ p.increment = 0 ∧
      (p.priorities.map PriorityTuple.toPriorityParam).length = 0 ∧
      (p.codes.map PseudoCode.name).length = 0) :=
    fun h => p.settings_ne (List.length_eq_zero_iff.mp h.1)
  unfold AkamaiFingerprint.string AkamaiFingerprint.front Profile.render Profile.fingerprint
  simp only [hne,if_false,pseudoCodes_names,List.map_map]
  cases p.priorities with
  | nil => rfl
  | cons t ts => simp [Function.comp_def]

def synthesizedRead (p : Profile) : List Frame :=
  settingsRead p::((if p.increment ≠ 0 then [windowUpdateRead p.increment] else [])++
    (p.priorities.map priorityRead++[headersRead p]))

theorem synthesized_read (p : Profile) (d : HPACKNameDecoder) :
    readFrames d (synthesizeFramesFromAkamai p) = .ok (synthesizedRead p,d) := by
  have hrest : readFrames d (p.priorities.map priorityFrame++[headersFrame p]) =
      .ok (p.priorities.map priorityRead++[headersRead p],d) := by
    rw [readFrames_append,readFrames_map fun t _ => priorityFrame_read d t,ok_bind,readFrames_cons,
      headersFrame_read]
    rfl
  unfold synthesizeFramesFromAkamai synthesizedRead
  rw [List.append_assoc,List.append_assoc,List.singleton_append,readFrames_cons,settingsFrame_read]
  by_cases hzero : p.increment = 0
  · simp only [hzero,ne_eq,not_true_eq_false,if_false,List.nil_append,hrest,ok_bind,Except.map]
  · simp only [hzero,ne_eq,not_false_eq_true,if_true,List.singleton_append,readFrames_cons,
      windowUpdateFrame_read d p.increment_lt,hrest,ok_bind,Except.map]

theorem synthesized_collect (p : Profile) :
    (synthesizedRead p).foldl AkamaiFingerprint.collect {} = p.fingerprint := by
  have hsettings : p.settings.length > 0 := List.length_pos_iff.mpr p.settings_ne
  have hstart : AkamaiFingerprint.collect {} (settingsRead p) = {settings := p.settings} := by
    simp [AkamaiFingerprint.collect,settingsRead,hsettings]
  have hwindow : ((if p.increment ≠ 0 then [windowUpdateRead p.increment] else []).foldl
      AkamaiFingerprint.collect {settings := p.settings}) =
      {settings := p.settings, windowUpdateIncrement := p.increment} := by
    by_cases hzero : p.increment = 0
    · simp [hzero]
    · simp [hzero,AkamaiFingerprint.collect,windowUpdateRead,frameTypeSettings,frameTypeWindowUpdate]
  unfold synthesizedRead
  rw [List.foldl_cons,hstart,List.foldl_append,hwindow,List.foldl_append,collect_priorities]
  cases hcodes : p.codes with
  | nil =>
    simp [AkamaiFingerprint.collect,headersRead,Profile.fingerprint,hcodes,frameTypeHeaders,
      frameTypeSettings,frameTypeWindowUpdate,frameTypePriority]
  | cons code codes =>
    simp [AkamaiFingerprint.collect,headersRead,Profile.fingerprint,hcodes,frameTypeHeaders,
      frameTypeSettings,frameTypeWindowUpdate,frameTypePriority]

/-- The bytes that the tests build for a profile give back the text of the profile. -/
theorem fingerprint_roundtrip (p : Profile) (preface : Bool) :
    computeAkamaiFingerprintBytes ((if preface then clientPreface else [])++
      (synthesizeFramesFromAkamai p).flatMap RawFrame.encode) = .ok p.render := by
  have htype : (settingsFrame p).type ≠ 0x20 := (by decide : frameTypeSettings ≠ 0x20)
  have hstream := computeAkamaiFingerprintBytes_encode
    ⟨preface,synthesizeFramesFromAkamai p,fun _ => not_preface htype⟩
  rw [synthesized_read] at hstream
  rw [← p.fingerprint_string,← synthesized_collect]
  exact hstream

end RoundTrip

end Http2
end AntiScrapling
