import AntiScrapling.Akamai
import AntiScrapling.Http2Safety

/-! Header blocks that are split over CONTINUATION frames.  The parser reads the part
in the HEADERS frame as if it were the whole block, so a split can change the
fingerprint; the main result says where a block can be cut without harm. -/
namespace AntiScrapling
namespace Http2

open CheckedRun ByteCodec Hpack

section Frames

def headersPayload (padding : Option Bytes) (priority : Option (UInt32 × UInt8)) (block : Bytes) :
    Bytes :=
  (padding.map fun p => put8 p.length).getD []++
    ((priority.map fun p => put32 p.1.toNat++[p.2]).getD []++block++padding.getD [])

/-- A well-formed HEADERS frame: padding and priority are there if the flags say so. -/
structure HeadersFrame where
  raw : RawFrame
  padding : Option Bytes
  priority : Option (UInt32 × UInt8)
  block : Bytes
  type_eq : raw.type = frameTypeHeaders
  padded : raw.flags &&& flagHeadersPadded ≠ 0 ↔ padding.isSome
  prioritized : raw.flags &&& flagHeadersPriority ≠ 0 ↔ priority.isSome
  padding_lt : ∀ p ∈ padding, p.length < 256
  payload_eq : raw.payload = headersPayload padding priority block

/-- The frame with a part of the block, and the CONTINUATION frames with the rest. -/
structure HeadersFrame.Split (h : HeadersFrame) where
  head : HeadersFrame
  rest : List RawFrame
  id_eq : head.raw.id = h.raw.id
  priority_eq : head.priority = h.priority
  continuation : ∀ r ∈ rest, r.type = frameTypeContinuation ∧ r.id = h.raw.id
  block_eq : h.block = head.block++rest.flatMap RawFrame.payload

namespace HeadersFrame
variable (h : HeadersFrame)

def streamID : UInt32 := h.raw.id &&& 0x7fffffff

def priorityParam : Option PriorityParam :=
  h.priority.map fun p => ⟨h.streamID,p.1 &&& 0x80000000 ≠ 0,p.1 &&& 0x7fffffff,p.2⟩

/-- The frame after parsing, if its block gives `names`. -/
def frame (names : List Bytes) : Frame where
  type := frameTypeHeaders
  flags := h.raw.flags
  streamID := h.streamID
  headers := some
    { streamID := h.streamID
      pseudoHeaderOrder := pseudoNames names
      regularHeaderOrder := regularNames names
      priority := h.priorityParam }

theorem removePadding_eq :
    removePadding h.raw.payload h.raw.flags =
      .ok ((h.priority.map fun p => put32 p.1.toNat++[p.2]).getD []++h.block) := by
  rw [h.payload_eq]
  unfold headersPayload removePadding
  generalize (h.priority.map fun p => put32 p.1.toNat++[p.2]).getD []++h.block = body
  have hpadded := h.padded
  cases hp : h.padding with
  | none =>
    rw [hp] at hpadded
    rw [if_neg (by simp [hpadded])]
    simp
  | some padding =>
    have hlt := h.padding_lt padding hp
    rw [hp] at hpadded
    rw [if_pos (by simp [hpadded])]
    have hbyte : byteAt (put8 padding.length++(body++padding)) 0 = .ok (UInt8.ofNat padding.length) := rfl
    have hrest : slice (put8 padding.length++(body++padding)) 1
        (put8 padding.length++(body++padding)).length = .ok (body++padding) := slice_tail _ _
    have hlen : (UInt8.ofNat padding.length).toNat = padding.length := UInt8.toNat_ofNat_of_lt hlt
    have hbody : slice (body++padding) 0 ((body++padding).length-padding.length) = .ok body := by
      rw [List.length_append,Nat.add_sub_cancel,slice_upto (by simp),List.take_left]
    simp only [Option.map_some,Option.getD_some]
    rw [if_neg (by simp [put8]),hbyte]
    simp only [ok_bind,hrest,hlen,hbody]
    rw [if_neg (by simp)]

theorem takePriority_eq :
    takePriority ((h.priority.map fun p => put32 p.1.toNat++[p.2]).getD []++h.block) h.raw.flags
      h.streamID = .ok (h.priorityParam,h.block) := by
  have hprioritized := h.prioritized
  unfold takePriority priorityParam
  cases hp : h.priority with
  | none =>
    rw [hp] at hprioritized
    rw [if_neg (by simp [hprioritized])]
    rfl
  | some p =>
    rw [hp] at hprioritized
    have hlen : (put32 p.1.toNat++[p.2]++h.block).length = 5+h.block.length := by
      rw [List.length_append]
      rfl
    have hfive : slice (put32 p.1.toNat++[p.2]++h.block) 0 5 = .ok (put32 p.1.toNat++[p.2]) :=
      slice_upto (by omega)
    have hrest : slice (put32 p.1.toNat++[p.2]++h.block) 5 (put32 p.1.toNat++[p.2]++h.block).length =
        .ok h.block := slice_from (by omega)
    rw [if_pos (by simp [hprioritized])]
    simp only [Option.map_some,Option.getD_some]
    rw [if_neg (by omega),hfive]
    simp only [ok_bind,parsePriority_encode,hrest]

theorem read_eq (d : HPACKNameDecoder) :
    h.raw.read d = (d.decode h.block).map fun p => (h.frame p.1,p.2) := by
  have hread : parseHeaders h.raw.payload h.raw.flags h.streamID d =
      (d.decode h.block).map fun p =>
        (⟨h.streamID,pseudoNames p.1,regularNames p.1,h.priorityParam⟩,p.2) := by
    unfold parseHeaders
    simp only [removePadding_eq,takePriority_eq,ok_bind]
    cases d.decode h.block with
    | error e => rfl
    | ok p => simp only [ok_bind,sortNames_eq,List.nil_append,Except.map]
  unfold RawFrame.read parsePayload
  simp only [h.type_eq]
  show (parseHeaders h.raw.payload h.raw.flags h.streamID d >>= fun x =>
    .ok (({type := frameTypeHeaders, flags := h.raw.flags, streamID := h.streamID,
           headers := some x.1} : Frame),x.2)) = _
  rw [hread]
  cases d.decode h.block <;> rfl

end HeadersFrame

def continuationRead (r : RawFrame) : Frame :=
  {type := r.type, flags := r.flags, streamID := r.id &&& 0x7fffffff}

theorem readFrames_continuations (d : HPACKNameDecoder) {rs : List RawFrame}
    (h : ∀ r ∈ rs, r.type = frameTypeContinuation) :
    readFrames d rs = .ok (rs.map continuationRead,d) := by
  have hread : ∀ r ∈ rs, r.read d = .ok (continuationRead r,d) := by
    intro r hr
    unfold RawFrame.read parsePayload continuationRead
    simp only [h r hr]
    rfl
  have hmap := readFrames_map hread
  rwa [List.map_id'] at hmap

end Frames

section Collecting

def AkamaiFingerprint.withoutOrder (f : AkamaiFingerprint) : AkamaiFingerprint :=
  {f with pseudoHeaderOrder := []}

theorem merge_withoutOrder (f g : AkamaiFingerprint) :
    (f.merge g).withoutOrder = f.withoutOrder.merge g.withoutOrder := by
  simp only [AkamaiFingerprint.merge,AkamaiFingerprint.withoutOrder,if_true]
  rfl

/-- The pseudo-headers of the first HEADERS frame that has some. -/
def firstOrder : List Frame → List Bytes
  | [] => []
  | frame::frames =>
    if frame.part.pseudoHeaderOrder = [] then firstOrder frames else frame.part.pseudoHeaderOrder

def SamePart (frame frame' : Frame) : Prop := frame.part.withoutOrder = frame'.part.withoutOrder

/-- A frame that has no settings, window increment or priority to show. -/
def Frame.Bare (frame : Frame) : Prop := frame.part.withoutOrder = {}

theorem merge_eq_empty {f g : AkamaiFingerprint} : f.merge g = {} ↔ f = {} ∧ g = {} := by
  obtain ⟨settings,increment,priorities,order⟩ := f
  obtain ⟨settings',increment',priorities',order'⟩ := g
  simp only [AkamaiFingerprint.merge,AkamaiFingerprint.mk.injEq,List.append_eq_nil_iff]
  constructor
  · intro h
    split_ifs at h <;> simp_all
  · rintro ⟨⟨rfl,rfl,rfl,rfl⟩,rfl,rfl,rfl,rfl⟩
    simp

variable (frames : List Frame) (f : AkamaiFingerprint)

theorem collectAll_order :
    (frames.foldl AkamaiFingerprint.collect f).pseudoHeaderOrder =
      if f.pseudoHeaderOrder = [] then firstOrder frames else f.pseudoHeaderOrder := by
  induction frames generalizing f with
  | nil => simp [firstOrder]
  | cons frame frames ih =>
    rw [List.foldl_cons,ih,collect_eq_merge]
    simp only [AkamaiFingerprint.merge,firstOrder]
    split_ifs <;> simp_all

theorem collectAll_bare :
    (frames.foldl AkamaiFingerprint.collect f).withoutOrder = {} ↔
      f.withoutOrder = {} ∧ ∀ frame ∈ frames, frame.Bare := by
  induction frames generalizing f with
  | nil => simp
  | cons frame frames ih =>
    rw [List.foldl_cons,ih,collect_eq_merge,merge_withoutOrder,merge_eq_empty,List.forall_mem_cons,
      and_assoc]
    rfl

variable {frames f}

theorem collectAll_withoutOrder {frames' : List Frame} {f' : AkamaiFingerprint}
    (hf : f.withoutOrder = f'.withoutOrder) (h : List.Forall₂ SamePart frames frames') :
    (frames.foldl AkamaiFingerprint.collect f).withoutOrder =
      (frames'.foldl AkamaiFingerprint.collect f').withoutOrder := by
  induction h generalizing f f' with
  | nil => exact hf
  | cons hframe _ ih =>
    rw [List.foldl_cons,List.foldl_cons]
    apply ih
    rw [collect_eq_merge,collect_eq_merge,merge_withoutOrder,merge_withoutOrder,hf,hframe]

theorem string_eq (f : AkamaiFingerprint) :
    f.string = if f.withoutOrder = {} ∧ f.pseudoHeaderOrder = [] then ""
      else f.withoutOrder.front ++ pseudoCodes f.pseudoHeaderOrder := by
  obtain ⟨settings,increment,priorities,order⟩ := f
  unfold AkamaiFingerprint.string AkamaiFingerprint.withoutOrder AkamaiFingerprint.front
  simp only [List.length_eq_zero_iff,AkamaiFingerprint.mk.injEq,and_true,and_assoc]

theorem front_append_ne (f : AkamaiFingerprint) (text : String) : f.front ++ text ≠ "" := by
  intro h
  have hchars := congrArg String.toList h
  unfold AkamaiFingerprint.front at hchars
  simp at hchars

theorem string_eq_iff {g : AkamaiFingerprint} (h : f.withoutOrder = g.withoutOrder) :
    f.string = g.string ↔ pseudoCodes f.pseudoHeaderOrder = pseudoCodes g.pseudoHeaderOrder ∧
      (f.withoutOrder = {} → (f.pseudoHeaderOrder = [] ↔ g.pseudoHeaderOrder = [])) := by
  rw [string_eq,string_eq,← h]
  by_cases hbare : f.withoutOrder = {}
  · by_cases hf : f.pseudoHeaderOrder = [] <;> by_cases hg : g.pseudoHeaderOrder = []
    · simp [hbare,hf,hg]
    · rw [if_pos ⟨hbare,hf⟩,if_neg fun hc => hg hc.2]
      exact iff_of_false (front_append_ne _ _).symm fun hc => hg ((hc.2 hbare).mp hf)
    · rw [if_neg fun hc => hf hc.2,if_pos ⟨hbare,hg⟩]
      exact iff_of_false (front_append_ne _ _) fun hc => hf ((hc.2 hbare).mpr hg)
    · simp [hbare,hf,hg]
  · simp [hbare]

/-- Two lists of frames with the same letters for their pseudo-headers; if there is
nothing else in them, both must have pseudo-headers or neither. -/
def SameOrder (frames frames' : List Frame) : Prop :=
  pseudoCodes (firstOrder frames) = pseudoCodes (firstOrder frames') ∧
    ((∀ frame ∈ frames, frame.Bare) → (firstOrder frames = [] ↔ firstOrder frames' = []))

theorem compute_eq_iff {frames' : List Frame} (h : List.Forall₂ SamePart frames frames') :
    computeAkamaiFingerprint frames = computeAkamaiFingerprint frames' ↔ SameOrder frames frames' := by
  unfold computeAkamaiFingerprint SameOrder
  rw [string_eq_iff (collectAll_withoutOrder rfl h),collectAll_order,collectAll_order,
    collectAll_bare]
  simp [AkamaiFingerprint.withoutOrder]

theorem compute_continuations (frames frames' : List Frame) {rs : List RawFrame}
    (h : ∀ r ∈ rs, r.type = frameTypeContinuation) :
    computeAkamaiFingerprint (frames++(rs.map continuationRead++frames')) =
      computeAkamaiFingerprint (frames++frames') := by
  have hnone (f : AkamaiFingerprint) :
      (rs.map continuationRead).foldl AkamaiFingerprint.collect f = f := by
    induction rs with
    | nil => rfl
    | cons r rs ih =>
      have hskip : f.collect (continuationRead r) = f := by
        have htype := h r (by simp)
        simp [AkamaiFingerprint.collect,continuationRead,htype,frameTypeContinuation,
          frameTypeSettings,frameTypeWindowUpdate,frameTypePriority,frameTypeHeaders]
      rw [List.map_cons,List.foldl_cons,hskip]
      exact ih fun r' hr' => h r' (by simp [hr'])
  unfold computeAkamaiFingerprint
  rw [List.foldl_append,List.foldl_append,List.foldl_append,hnone]

end Collecting

section Tables

theorem readLiteralName_alike (d e : HPACKNameDecoder) (block : Bytes) (bits : ℕ) :
    Alike (fun p q => p.2 = q.2) (d.readLiteralName block bits) (e.readLiteralName block bits) := by
  apply alike_after (readHPACKInt block bits)
  rintro ⟨index,rest⟩
  have hvalue (name name' rest : Bytes) :
      Alike (fun p q : Bytes × Bytes => p.2 = q.2)
        (readHPACKString rest >>= fun p => .ok (name,p.2))
        (readHPACKString rest >>= fun p => .ok (name',p.2)) := by
    apply alike_after (readHPACKString rest)
    intro p
    exact .ok rfl
  simp only
  split_ifs
  · obtain ⟨name,hname⟩ := lookupName_total d index
    obtain ⟨name',hname'⟩ := lookupName_total e index
    rw [hname,hname']
    exact hvalue name name' rest
  · apply alike_after (readHPACKString rest)
    rintro ⟨name,rest⟩
    exact hvalue name name rest

def SameBlock (s t : DecodeState) : Prop := s.block = t.block

theorem decodeRound_alike (s t : DecodeState) (h : SameBlock s t) :
    Alike (Sum.LiftRel SameBlock fun _ _ => True) (decodeRound s) (decodeRound t) := by
  obtain ⟨d,names,block⟩ := s
  obtain ⟨e,names',block'⟩ := t
  obtain rfl : block = block' := h
  unfold decodeRound
  simp only
  split_ifs with hlen
  · obtain ⟨b,hb⟩ := byteAt_total block hlen
    rw [hb]
    simp only [ok_bind]
    split_ifs
    · apply alike_after (readHPACKInt block 7)
      rintro ⟨index,rest⟩
      obtain ⟨name,hname⟩ := lookupName_total d index
      obtain ⟨name',hname'⟩ := lookupName_total e index
      simp only [hname,hname']
      exact .ok (.inl rfl)
    · apply (readLiteralName_alike d e block 6).bind
      rintro ⟨name,rest⟩ ⟨name',rest'⟩ hrest
      exact .ok (.inl hrest)
    · apply alike_after (readHPACKInt block 5)
      rintro ⟨size,rest⟩
      exact .ok (.inl rfl)
    · apply (readLiteralName_alike d e block 4).bind
      rintro ⟨name,rest⟩ ⟨name',rest'⟩ hrest
      exact .ok (.inl hrest)
  · exact .ok (.inr trivial)

theorem decode_alike (d e : HPACKNameDecoder) (block : Bytes) :
    Alike (fun _ _ => True) (d.decode block) (e.decode block) :=
  alike_iterate decodeRound_alike (block.length+1) rfl

/-- Whether a frame is accepted, and what it shows besides names, does not depend on
the table. -/
theorem read_alike (r : RawFrame) (d e : HPACKNameDecoder) :
    Alike (fun p q => SamePart p.1 q.1) (r.read d) (r.read e) := by
  unfold RawFrame.read parsePayload
  split_ifs
  · apply alike_after (parseSettings r.payload)
    intro settings
    exact .ok rfl
  · apply alike_after (parseWindowUpdate r.payload)
    intro increment
    exact .ok rfl
  · apply alike_after (parsePriority r.payload _)
    intro priority
    exact .ok rfl
  · have hheaders : Alike (fun p q => p.1.priority = q.1.priority)
        (parseHeaders r.payload r.flags (r.id &&& 0x7fffffff) d)
        (parseHeaders r.payload r.flags (r.id &&& 0x7fffffff) e) := by
      apply alike_after (removePadding r.payload r.flags)
      intro payload
      apply alike_after (takePriority payload r.flags _)
      rintro ⟨priority,block⟩
      apply (decode_alike d e block).bind
      rintro ⟨names,d'⟩ ⟨names',e'⟩ -
      simp only [sortNames_eq]
      exact .ok rfl
    apply hheaders.bind
    rintro ⟨headers,d'⟩ ⟨headers',e'⟩ hpriority
    apply Alike.ok
    unfold SamePart Frame.part AkamaiFingerprint.withoutOrder
    simp only at hpriority
    simp [hpriority]
  · exact .ok rfl

theorem readFrames_alike (rs : List RawFrame) (d e : HPACKNameDecoder) :
    Alike (fun p q => List.Forall₂ SamePart p.1 q.1) (readFrames d rs) (readFrames e rs) := by
  induction rs generalizing d e with
  | nil => exact .ok .nil
  | cons r rs ih =>
    rw [readFrames_cons,readFrames_cons]
    apply (read_alike r d e).bind
    rintro ⟨frame,d'⟩ ⟨frame',e'⟩ hframe
    apply (ih d' e').map
    rintro ⟨frames,d''⟩ ⟨frames',e''⟩ hframes
    exact .cons hframe hframes

end Tables

section Splitting

theorem preface_first (r : RawFrame) (rs : List RawFrame) :
    clientPreface <+: (r::rs).flatMap RawFrame.encode ↔ clientPreface <+: r.encode := by
  rw [List.flatMap_cons]
  constructor
  · rintro ⟨rest,hrest⟩
    have h₀ : (clientPreface++rest)[0]? = some 0x50 := rfl
    have h₁ : (clientPreface++rest)[1]? = some 0x52 := rfl
    rw [hrest] at h₀ h₁
    have h₀ : UInt8.ofNat (r.payload.length/65536) = 0x50 := Option.some.inj h₀
    have hlong : 65536 ≤ r.payload.length := by
      by_contra hshort
      rw [Nat.div_eq_of_lt (by omega)] at h₀
      exact absurd h₀ (by decide)
    have hlen : clientPreface.length ≤ r.encode.length := by
      rw [r.encode_length]
      have : clientPreface.length = 24 := rfl
      omega
    exact List.prefix_of_prefix_length_le ⟨rest,hrest⟩ (List.prefix_append _ _) hlen
  · intro h
    exact h.trans (List.prefix_append _ _)

structure Site where
  preface : Bool
  before : List RawFrame
  frame : HeadersFrame
  after : List RawFrame
  plain : preface = false → ¬ clientPreface <+: (before++frame.raw::after).flatMap RawFrame.encode

namespace Site
variable (s : Site)

def whole : Stream := ⟨s.preface,s.before++s.frame.raw::s.after,s.plain⟩

theorem split_plain (c : s.frame.Split) (h : s.preface = false) :
    ¬ clientPreface <+: (s.before++(c.head.raw::(c.rest++s.after))).flatMap RawFrame.encode := by
  have hplain := s.plain h
  cases hbefore : s.before with
  | nil =>
    apply not_preface
    rw [c.head.type_eq]
    decide
  | cons r rs =>
    rw [hbefore,List.cons_append,preface_first] at hplain
    rwa [List.cons_append,preface_first]

def split (c : s.frame.Split) : Stream :=
  ⟨s.preface,s.before++(c.head.raw::(c.rest++s.after)),s.split_plain c⟩

/-- The fault of the frames after a prefix that is accepted, if `block` is the header
block in the picked frame. -/
def laterFault (d : HPACKNameDecoder) (block : Bytes) : Option Fault :=
  (fault (d.decode block)).or (fault (readFrames d s.after))

/-- What a split must not change.  Unless a frame before it is rejected anyhow, the rest
of the stream is rejected for the same reason with the whole block and with its first
part; and if nothing is rejected, the stream shows the same pseudo-headers. -/
def Transparent (c : s.frame.Split) : Prop :=
  ∀ frames d, readFrames newHPACKNameDecoder s.before = .ok (frames,d) →
    s.laterFault d s.frame.block = s.laterFault d c.head.block ∧
    ∀ p p' q q', d.decode s.frame.block = .ok p → d.decode c.head.block = .ok p' →
      readFrames p.2 s.after = .ok q → readFrames p'.2 s.after = .ok q' →
      SameOrder (frames++s.frame.frame p.1::q.1) (frames++c.head.frame p'.1::q'.1)

end Site

variable {s : Site} {c : s.frame.Split}

theorem samePart_head (names names' : List Bytes) :
    SamePart (s.frame.frame names) (c.head.frame names') := by
  unfold SamePart Frame.part AkamaiFingerprint.withoutOrder HeadersFrame.frame
    HeadersFrame.priorityParam HeadersFrame.streamID
  simp [c.id_eq,c.priority_eq]

theorem fingerprint_whole {frames : List Frame} {d : HPACKNameDecoder}
    (h : readFrames newHPACKNameDecoder s.before = .ok (frames,d)) :
    computeAkamaiFingerprintBytes s.whole.encode =
      d.decode s.frame.block >>= fun p => (readFrames p.2 s.after).map fun q =>
        computeAkamaiFingerprint (frames++s.frame.frame p.1::q.1) := by
  rw [computeAkamaiFingerprintBytes_encode]
  unfold Site.whole
  rw [readFrames_append,h]
  simp only [ok_bind,readFrames_cons,s.frame.read_eq]
  cases d.decode s.frame.block with
  | error e => rfl
  | ok p =>
    simp only [ok_bind,Except.map]
    cases readFrames p.2 s.after <;> rfl

theorem fingerprint_split {frames : List Frame} {d : HPACKNameDecoder}
    (h : readFrames newHPACKNameDecoder s.before = .ok (frames,d)) :
    computeAkamaiFingerprintBytes (s.split c).encode =
      d.decode c.head.block >>= fun p => (readFrames p.2 s.after).map fun q =>
        computeAkamaiFingerprint (frames++c.head.frame p.1::q.1) := by
  have htype : ∀ r ∈ c.rest, r.type = frameTypeContinuation := fun r hr => (c.continuation r hr).1
  rw [computeAkamaiFingerprintBytes_encode]
  unfold Site.split
  rw [readFrames_append,h]
  simp only [ok_bind,readFrames_cons,c.head.read_eq]
  cases d.decode c.head.block with
  | error e => rfl
  | ok p =>
    simp only [ok_bind,Except.map]
    rw [readFrames_append,readFrames_continuations p.2 htype,ok_bind]
    cases readFrames p.2 s.after with
    | error e => rfl
    | ok q =>
      have hskip := compute_continuations (frames++[c.head.frame p.1]) q.1 htype
      rw [List.append_assoc,List.append_assoc] at hskip
      exact congrArg Except.ok hskip

theorem laterFault_eq (d : HPACKNameDecoder) (block : Bytes) (text : List Bytes × HPACKNameDecoder →
    List Frame × HPACKNameDecoder → String) :
    fault (d.decode block >>= fun p => (readFrames p.2 s.after).map (text p)) =
      s.laterFault d block := by
  apply fault_bind
  intro p
  rw [fault_map]
  exact (readFrames_alike s.after p.2 d).fault_eq

theorem compute_split_iff (frames : List Frame) {p p' : List Bytes × HPACKNameDecoder}
    {q q' : List Frame × HPACKNameDecoder} (hq : readFrames p.2 s.after = .ok q)
    (hq' : readFrames p'.2 s.after = .ok q') :
    computeAkamaiFingerprint (frames++s.frame.frame p.1::q.1) =
        computeAkamaiFingerprint (frames++c.head.frame p'.1::q'.1) ↔
      SameOrder (frames++s.frame.frame p.1::q.1) (frames++c.head.frame p'.1::q'.1) := by
  have hlater := readFrames_alike s.after p.2 p'.2
  rw [hq,hq'] at hlater
  cases hlater with
  | ok hlater =>
    have hearlier : List.Forall₂ SamePart frames frames := List.forall₂_same.mpr fun _ _ => rfl
    apply compute_eq_iff
    exact List.rel_append hearlier (.cons (samePart_head _ _) hlater)

/-- Splitting a header block leaves the fingerprint of the stream as it is exactly when
the split is transparent. -/
theorem fingerprint_split_iff (s : Site) (c : s.frame.Split) :
    computeAkamaiFingerprintBytes s.whole.encode = computeAkamaiFingerprintBytes (s.split c).encode ↔
      s.Transparent c := by
  cases hbefore : readFrames newHPACKNameDecoder s.before with
  | error e =>
    have hwhole : computeAkamaiFingerprintBytes s.whole.encode = .error e := by
      rw [computeAkamaiFingerprintBytes_encode,Site.whole,readFrames_append,hbefore]
      rfl
    have hsplit : computeAkamaiFingerprintBytes (s.split c).encode = .error e := by
      rw [computeAkamaiFingerprintBytes_encode,Site.split,readFrames_append,hbefore]
      rfl
    rw [hwhole,hsplit]
    refine iff_of_true rfl ?_
    intro frames d h
    rw [hbefore] at h
    cases h
  | ok r =>
    obtain ⟨frames,d⟩ := r
    rw [run_eq_iff,fingerprint_whole hbefore,fingerprint_split hbefore,
      laterFault_eq d s.frame.block fun p q =>
        computeAkamaiFingerprint (frames++s.frame.frame p.1::q.1),
      laterFault_eq d c.head.block fun p q =>
        computeAkamaiFingerprint (frames++c.head.frame p.1::q.1)]
    constructor
    · rintro ⟨hfault,hvalue⟩ frames' d' h
      rw [hbefore] at h
      cases h
      refine ⟨hfault,?_⟩
      intro p p' q q' hp hp' hq hq'
      rw [← compute_split_iff frames hq hq']
      apply hvalue
      · rw [hp]
        exact map_eq_ok.mpr ⟨q,hq,rfl⟩
      · rw [hp']
        exact map_eq_ok.mpr ⟨q',hq',rfl⟩
    · intro h
      obtain ⟨hfault,horder⟩ := h frames d hbefore
      refine ⟨hfault,?_⟩
      intro a b ha hb
      obtain ⟨p,hp,ha⟩ := bind_eq_ok.mp ha
      obtain ⟨q,hq,rfl⟩ := map_eq_ok.mp ha
      obtain ⟨p',hp',hb⟩ := bind_eq_ok.mp hb
      obtain ⟨q',hq',rfl⟩ := map_eq_ok.mp hb
      exact (compute_split_iff frames hq hq').mpr (horder p p' q q' hp hp' hq hq')

end Splitting

section Pseudo
variable {coder : Bytes → Bytes}

/-- A name that the parser takes for that of a pseudo-header whatever was sent before. -/
def PseudoName : NameRef → Prop
  | .index i => 1 ≤ i ∧ i ≤ 14
  | .literal s => s.huffman = false ∧ s.text.head? = some 58

def RegularName : NameRef → Prop
  | .index i => 15 ≤ i ∧ i ≤ 61
  | .literal s => s.text.head? ≠ some 58

def PseudoField : Representation → Prop
  | .indexed i => PseudoName (.index i)
  | .literal _ name _ => PseudoName name
  | .sizeUpdate _ => False

def RegularField : Representation → Prop
  | .indexed i => RegularName (.index i)
  | .literal _ name _ => RegularName name
  | .sizeUpdate _ => True

theorem PseudoName.spelled {name : NameRef} (h : PseudoName name) (d : HPACKNameDecoder) :
    (spelled d name).head? = some 58 := by
  cases name with
  | index i =>
    have hstatic : ∀ j < 14, (hpackStaticNames.getD j []).head? = some 58 := by decide +kernel
    obtain ⟨hpos,hle⟩ := h
    rw [Http2.spelled,knownName,if_neg (by omega),if_pos (by omega)]
    exact hstatic (i-1) (by omega)
  | literal s =>
    rw [Http2.spelled,spelling,h.1]
    exact h.2

theorem RegularName.spelled {name : NameRef} (h : RegularName name) (d : HPACKNameDecoder) :
    (spelled d name).head? ≠ some 58 := by
  cases name with
  | index i =>
    have hstatic : ∀ j < 61, 14 ≤ j → (hpackStaticNames.getD j []).head? ≠ some 58 := by decide +kernel
    obtain ⟨hpos,hle⟩ := h
    rw [Http2.spelled,knownName,if_neg (by omega),if_pos (by omega)]
    exact hstatic (i-1) (by omega) (by omega)
  | literal s =>
    rw [Http2.spelled,spelling]
    split_ifs
    · simp
    · exact h

theorem PseudoField.name {r : Representation} (h : PseudoField r) (d : HPACKNameDecoder) :
    (nameStep d r).2.head? = some 58 := by
  cases r with
  | indexed i => exact @PseudoName.spelled (.index i) h d
  | literal mode name value => exact PseudoName.spelled h d
  | sizeUpdate n => exact h.elim

theorem RegularField.name {r : Representation} (h : RegularField r) (d : HPACKNameDecoder) :
    (nameStep d r).2.head? ≠ some 58 := by
  cases r with
  | indexed i => exact @RegularName.spelled (.index i) h d
  | literal mode name value => exact RegularName.spelled h d
  | sizeUpdate n => simp [nameStep]

theorem pseudoNames_append (names names' : List Bytes) :
    pseudoNames (names++names') = pseudoNames names++pseudoNames names' := by
  simp [pseudoNames]

theorem pseudoNames_regular {rs : List Representation} (h : ∀ r ∈ rs, RegularField r)
    (d : HPACKNameDecoder) : pseudoNames (follow d rs).1 = [] := by
  induction rs generalizing d with
  | nil => rfl
  | cons r rs ih =>
    rw [List.forall_mem_cons] at h
    have hname := h.1.name d
    simp only [follow,pseudoNames_append,ih h.2,List.append_nil]
    unfold appendName
    split_ifs
    · simp [pseudoNames,hname]
    · rfl

theorem pseudoNames_ne_nil {rs : List Representation} (h : ∃ r ∈ rs, PseudoField r)
    (d : HPACKNameDecoder) : pseudoNames (follow d rs).1 ≠ [] := by
  induction rs generalizing d with
  | nil => simp at h
  | cons r rs ih =>
    simp only [follow,pseudoNames_append,ne_eq,List.append_eq_nil_iff,not_and_or]
    rw [List.exists_mem_cons_iff] at h
    rcases h with hr | hrs
    · left
      have hname := hr.name d
      have hne : (nameStep d r).2 ≠ [] := by
        intro hnil
        rw [hnil] at hname
        cases hname
      simp [appendName,hne,pseudoNames,hname]
    · exact .inr (ih hrs _)

end Pseudo

section Orders

theorem firstOrder_append (frames later : List Frame) :
    firstOrder (frames++later) = if firstOrder frames = [] then firstOrder later else firstOrder frames := by
  induction frames with
  | nil => simp [firstOrder]
  | cons frame frames ih =>
    rw [List.cons_append,firstOrder,firstOrder,ih]
    by_cases hnone : frame.part.pseudoHeaderOrder = []
    · rw [if_pos hnone,if_pos hnone]
    · rw [if_neg hnone,if_neg hnone,if_neg hnone]

theorem firstOrder_ne_nil {frames : List Frame} {frame : Frame} (hmem : frame ∈ frames)
    (hframe : frame.part.pseudoHeaderOrder ≠ []) : firstOrder frames ≠ [] := by
  obtain ⟨before,after,rfl⟩ := List.append_of_mem hmem
  rw [firstOrder_append,firstOrder,if_neg hframe]
  split_ifs with h
  · exact hframe
  · exact h

theorem frame_order (h : HeadersFrame) (names : List Bytes) :
    (h.frame names).part.pseudoHeaderOrder = pseudoNames names := rfl

theorem mem_of_readFrames {d d' : HPACKNameDecoder} {rs : List RawFrame} {frames : List Frame}
    (h : readFrames d rs = .ok (frames,d')) {r : RawFrame} (hr : r ∈ rs) :
    ∃ e p, r.read e = .ok p ∧ p.1 ∈ frames := by
  obtain ⟨before,after,rfl⟩ := List.append_of_mem hr
  rw [readFrames_append] at h
  obtain ⟨q,-,h⟩ := bind_eq_ok.mp h
  obtain ⟨q',hq',heq⟩ := map_eq_ok.mp h
  rw [readFrames_cons] at hq'
  obtain ⟨p,hp,hq'⟩ := bind_eq_ok.mp hq'
  obtain ⟨x,-,rfl⟩ := map_eq_ok.mp hq'
  cases heq
  exact ⟨_,p,hp,by simp⟩

end Orders

section BetweenFields
variable {coder : Bytes → Bytes}

variable (coder) in
structure HasFields (block : Bytes) (fields : List Representation) : Prop where
  octets : BlockOctets coder fields block
  inRange : ∀ r ∈ fields, InRange r

theorem HasFields.decode {block : Bytes} {fields : List Representation} (h : HasFields coder block fields)
    (d : HPACKNameDecoder) : d.decode block = .ok (follow d fields) :=
  decode_octets h.octets h.inRange d

variable (coder) in
/-- A HEADERS frame in front of the picked one has a pseudo-header. -/
def Site.PseudoBefore (s : Site) : Prop :=
  ∃ f : HeadersFrame, f.raw ∈ s.before ∧
    ∃ fields, HasFields coder f.block fields ∧ ∃ r ∈ fields, PseudoField r

theorem Site.PseudoBefore.order {s : Site} (h : s.PseudoBefore coder) {frames : List Frame}
    {d : HPACKNameDecoder} (hbefore : readFrames newHPACKNameDecoder s.before = .ok (frames,d)) :
    firstOrder frames ≠ [] := by
  obtain ⟨f,hf,fields,hfields,hpseudo⟩ := h
  obtain ⟨e,p,hp,hmem⟩ := mem_of_readFrames hbefore hf
  rw [f.read_eq,hfields.decode] at hp
  cases hp
  exact firstOrder_ne_nil hmem (pseudoNames_ne_nil hpseudo e)

variable {s : Site} {c : s.frame.Split} {front back : List Representation}

theorem transparent_of_order (hfront : HasFields coder c.head.block front)
    (hback : HasFields coder (c.rest.flatMap RawFrame.payload) back)
    (h : ∀ frames d, readFrames newHPACKNameDecoder s.before = .ok (frames,d) → firstOrder frames ≠ [] ∨
      pseudoNames (follow d front).1 ≠ [] ∧ pseudoNames (follow (follow d front).2 back).1 = []) :
    s.Transparent c := by
  intro frames d hbefore
  have hwhole : HasFields coder s.frame.block (front++back) := by
    rw [c.block_eq]
    exact ⟨hfront.octets.append hback.octets,List.forall_mem_append.mpr ⟨hfront.inRange,hback.inRange⟩⟩
  refine ⟨by rw [Site.laterFault,Site.laterFault,hwhole.decode,hfront.decode]; rfl,?_⟩
  rintro p p' q q' hp hp' - -
  rw [hwhole.decode] at hp
  rw [hfront.decode] at hp'
  cases hp
  cases hp'
  have horder : firstOrder (frames++s.frame.frame (follow d (front++back)).1::q.1) =
      firstOrder (frames++c.head.frame (follow d front).1::q'.1) := by
    rw [firstOrder_append,firstOrder_append]
    rcases h frames d hbefore with hearlier | ⟨hsome,hnone⟩
    · rw [if_neg hearlier,if_neg hearlier]
    · have hpseudo : pseudoNames (follow d (front++back)).1 = pseudoNames (follow d front).1 := by
        rw [follow_append,pseudoNames_append,hnone,List.append_nil]
      rw [firstOrder,firstOrder,frame_order,frame_order,hpseudo,if_neg hsome,if_neg hsome]
  exact ⟨by rw [horder],fun _ => by rw [horder]⟩

/-- A cut between two fields leaves the fingerprint as it is, if an earlier HEADERS frame has
pseudo-headers, or the first part of the block has some and the other part has none. -/
theorem fingerprint_split_between_fields (hfront : HasFields coder c.head.block front)
    (hback : HasFields coder (c.rest.flatMap RawFrame.payload) back)
    (h : s.PseudoBefore coder ∨ (∃ r ∈ front, PseudoField r) ∧ ∀ r ∈ back, RegularField r) :
    computeAkamaiFingerprintBytes s.whole.encode = computeAkamaiFingerprintBytes (s.split c).encode := by
  refine (fingerprint_split_iff s c).mpr (transparent_of_order hfront hback fun frames d hbefore => ?_)
  rcases h with hearlier | ⟨hpseudo,hregular⟩
  · exact .inl (hearlier.order hbefore)
  · exact .inr ⟨pseudoNames_ne_nil hpseudo d,pseudoNames_regular hregular _⟩

end BetweenFields

section Sample

/-- A HEADERS frame without padding and priority. -/
def plainHeaders (flags : UInt8) (block : Bytes) (hpadded : flags &&& flagHeadersPadded = 0)
    (hpriority : flags &&& flagHeadersPriority = 0) (hfits : block.length < 2^24) :
    HeadersFrame where
  raw := ⟨frameTypeHeaders,flags,1,block,hfits⟩
  padding := none
  priority := none
  block := block
  type_eq := rfl
  padded := by simp [hpadded]
  prioritized := by simp [hpriority]
  padding_lt := by simp
  payload_eq := by simp [headersPayload]

def siteWith (block : Bytes) (hfits : block.length < 2^24) : Site where
  preface := true
  before := [⟨frameTypeSettings,0,0,settingEntry ⟨1,65536⟩,by decide⟩]
  frame := plainHeaders 0x4 block rfl rfl hfits
  after := []
  plain := by simp

/-- The block cut behind `n` bytes. -/
def cutAt (block : Bytes) (hfits : block.length < 2^24) (n : ℕ) : (siteWith block hfits).frame.Split where
  head := plainHeaders 0 (block.take n) rfl rfl
    (by rw [List.length_take]; exact lt_of_le_of_lt (Nat.min_le_right _ _) hfits)
  rest := [⟨frameTypeContinuation,0x4,1,block.drop n,
    by rw [List.length_drop]; exact lt_of_le_of_lt (Nat.sub_le _ _) hfits⟩]
  id_eq := rfl
  priority_eq := rfl
  continuation := by simp [siteWith,plainHeaders]
  block_eq := by simp [siteWith,plainHeaders]

def samplePseudo : List Representation := [PseudoCode.m,.a,.s,.p].map PseudoCode.field

def sampleRegular : List Representation := [
  .indexed 16,.literal .incremental (.index 58) ⟨false,UnicodeText.utf8 "curl/8.5.0"⟩,
  .literal .without (.literal ⟨false,UnicodeText.utf8 "x-trace"⟩) ⟨false,UnicodeText.utf8 "1"⟩]

def sampleBlock : Bytes := (samplePseudo++sampleRegular).flatMap fun r => r.encode id

theorem sampleBlock_fits : sampleBlock.length < 2^24 := by decide +kernel

theorem sampleBlock_cut : sampleBlock.take 28 = samplePseudo.flatMap (fun r => r.encode id) ∧
    sampleBlock.drop 28 = sampleRegular.flatMap fun r => r.encode id := by
  decide +kernel

theorem hasFields_encode {fields : List Representation}
    (h : (∀ r ∈ fields, ∀ n ∈ r.numbers id, n < 2^63) ∧ ∀ r ∈ fields, ∀ i ∈ r.indices, 0 < i ∧ i < 2^63) :
    HasFields id (fields.flatMap fun r => r.encode id) fields :=
  ⟨blockOctets_encode h.1,h.2⟩

theorem fingerprint_split_between_fields_sample :
    computeAkamaiFingerprintBytes (siteWith sampleBlock sampleBlock_fits).whole.encode =
        .ok "1:65536|0|0|m,a,s,p" ∧
    computeAkamaiFingerprintBytes (siteWith sampleBlock sampleBlock_fits).whole.encode =
      computeAkamaiFingerprintBytes ((siteWith sampleBlock sampleBlock_fits).split
        (cutAt sampleBlock sampleBlock_fits 28)).encode := by
  have hfront : HasFields id (sampleBlock.take 28) samplePseudo := by
    rw [sampleBlock_cut.1]
    exact hasFields_encode (by decide +kernel)
  have hback : HasFields id ((cutAt sampleBlock sampleBlock_fits 28).rest.flatMap RawFrame.payload)
      sampleRegular := by
    rw [show (cutAt sampleBlock sampleBlock_fits 28).rest.flatMap RawFrame.payload =
      sampleBlock.drop 28 from List.append_nil _,sampleBlock_cut.2]
    exact hasFields_encode (by decide +kernel)
  refine ⟨by decide +kernel,fingerprint_split_between_fields hfront hback (.inr ⟨?_,?_⟩)⟩
  · exact ⟨PseudoCode.m.field,List.mem_cons_self,by simp [PseudoField,PseudoName,PseudoCode.field,PseudoCode.index]⟩
  · simp [sampleRegular,RegularField,RegularName]
    decide

/-- Cut behind the first two fields, the block loses the other two; cut inside a field,
it loses the whole fingerprint. -/
theorem split_block_misread :
    computeAkamaiFingerprintBytes (siteWith sampleBlock sampleBlock_fits).whole.encode =
      .ok "1:65536|0|0|m,a,s,p" ∧
    computeAkamaiFingerprintBytes ((siteWith sampleBlock sampleBlock_fits).split
      (cutAt sampleBlock sampleBlock_fits 18)).encode = .ok "1:65536|0|0|m,a" ∧
    computeAkamaiFingerprintBytes ((siteWith sampleBlock sampleBlock_fits).split
      (cutAt sampleBlock sampleBlock_fits 10)).encode = fail errNeedMoreData := by
  decide +kernel

end Sample

end Http2
end AntiScrapling
