import AntiScrapling.HpackReading
import Mathlib.Data.List.Forall2

/-! The names of header blocks against RFC 7541: whole connections, with the decoder's
table and the encoder's side by side. -/
namespace AntiScrapling
namespace Http2

open CheckedRun ByteCodec Hpack

section Blocks
variable {coder : Bytes → Bytes}

/-- The names and the decoder after a list of representations. -/
def follow (d : HPACKNameDecoder) : List Representation → List Bytes × HPACKNameDecoder
  | [] => ([],d)
  | r::rs =>
    let (names,d') := follow (nameStep d r).1 rs
    (appendName [] (nameStep d r).2++names,d')

theorem appendName_append (names : List Bytes) (name : Bytes) (rest : List Bytes) :
    appendName names name++rest = names++(appendName [] name++rest) := by
  unfold appendName
  split_ifs <;> simp

theorem decodeLoop_octets {rs : List Representation} {bs : Bytes} (h : BlockOctets coder rs bs)
    (hr : ∀ r ∈ rs, InRange r) (d : HPACKNameDecoder) (names : List Bytes) {fuel : ℕ}
    (hfuel : rs.length < fuel) :
    iterate decodeRound fuel ⟨d,names,bs⟩ = .ok (names++(follow d rs).1,(follow d rs).2) := by
  induction h generalizing d names fuel with
  | nil =>
    obtain ⟨fuel,rfl⟩ : ∃ k, fuel = k+1 := ⟨fuel-1,by omega⟩
    exact iterate_done (by simp [decodeRound,follow])
  | @cons r rs bs rest hoct hrest ih =>
    obtain ⟨fuel,rfl⟩ : ∃ k, fuel = k+1 := ⟨fuel-1,by omega⟩
    rw [iterate_next (decodeRound_octets hoct (hr r (by simp)) d names rest),
      ih (fun r' hr' => hr r' (by simp [hr'])) _ _ (by simpa using hfuel),appendName_append]
    rfl

theorem decode_octets {rs : List Representation} {bs : Bytes} (h : BlockOctets coder rs bs)
    (hr : ∀ r ∈ rs, InRange r) (d : HPACKNameDecoder) : d.decode bs = .ok (follow d rs) := by
  have hle := h.length_le
  rw [HPACKNameDecoder.decode,decodeLoop_octets h hr d [] (by omega)]
  rfl

theorem follow_append (d : HPACKNameDecoder) (rs rs' : List Representation) :
    follow d (rs++rs') = ((follow d rs).1++(follow (follow d rs).2 rs').1,
      (follow (follow d rs).2 rs').2) := by
  induction rs generalizing d with
  | nil => rfl
  | cons r rs ih => simp [follow,ih]

def decodeBlocks (d : HPACKNameDecoder) : List Bytes → Run (List (List Bytes) × HPACKNameDecoder)
  | [] => .ok ([],d)
  | block::blocks => do
    let (names,d) ← d.decode block
    let (rest,d) ← decodeBlocks d blocks
    .ok (names::rest,d)

theorem decodeBlocks_cons {d : HPACKNameDecoder} {block : Bytes} {blocks : List Bytes}
    {names : List Bytes} {d₁ : HPACKNameDecoder} (h : d.decode block = .ok (names,d₁)) :
    decodeBlocks d (block::blocks) =
      (decodeBlocks d₁ blocks).map fun p => (names::p.1,p.2) := by
  cases hrest : decodeBlocks d₁ blocks <;>
    simp [decodeBlocks,h,hrest,ok_bind,error_bind,Except.map]

theorem decodeBlocks_octets {blocks : List (List Representation)} {octets : List Bytes}
    (h : List.Forall₂ (BlockOctets coder) blocks octets) (hr : ∀ r ∈ blocks.flatten, InRange r)
    (d : HPACKNameDecoder) :
    ∃ names, decodeBlocks d octets = .ok (names,(follow d blocks.flatten).2) ∧
      names.flatten = (follow d blocks.flatten).1 := by
  induction h generalizing d with
  | nil => exact ⟨[],rfl,rfl⟩
  | @cons b bs blocks octets hb _ ih =>
    obtain ⟨names,hnames,hflat⟩ := ih (fun r hr' => hr r (by simp at hr' ⊢; tauto)) (follow d b).2
    have hblock := decode_octets hb (fun r hr' => hr r (by simp [hr'])) d
    refine ⟨(follow d b).1::names,?_,?_⟩
    · rw [decodeBlocks_cons hblock,hnames,List.flatten_cons,follow_append]
      rfl
    · rw [List.flatten_cons,List.flatten_cons,hflat,follow_append]

end Blocks

section Mirror

/-- The largest table that the 32-bit setting SETTINGS_HEADER_TABLE_SIZE allows. -/
def maxTableSize : ℕ := 2^32-1

theorem staticFields_names : staticFields.map Field.name = hpackStaticNames := by decide +kernel

theorem staticFields_length : staticFields.length = 61 := rfl

theorem static_ne_nil : ∀ f ∈ staticFields, f.name ≠ [] := by decide +kernel

variable {t t' : Table maxTableSize} {d : HPACKNameDecoder} {r : Representation}

theorem lookup_inRange {i : ℕ} {f : Field} (h : t.lookup i = some f) : 0 < i ∧ i < 2^63 := by
  obtain ⟨hpos,hle⟩ := Table.lookup_some h
  have hlen := t.length_entries_le
  rw [staticFields_length] at hle
  unfold maxTableSize at hlen
  omega

theorem step_inRange {x : Table maxTableSize × Option Field} (h : t.step r = some x) : InRange r := by
  intro i hi
  cases r with
  | indexed j =>
    obtain rfl : i = j := by simpa [Representation.indices] using hi
    obtain ⟨f,hf,-⟩ := Table.step_indexed h
    exact lookup_inRange hf
  | literal mode name value =>
    cases name with
    | index j =>
      obtain rfl : i = j := by simpa [Representation.indices] using hi
      obtain ⟨n,hn,-⟩ := Table.step_literal h
      obtain ⟨f,hf,-⟩ := Option.map_eq_some_iff.mp hn
      exact lookup_inRange hf
    | literal s => simp [Representation.indices] at hi
  | sizeUpdate n => simp [Representation.indices] at hi

/-- The names of the table are the newest names of the decoder, and none is empty. -/
structure Mirrors (t : Table maxTableSize) (d : HPACKNameDecoder) : Prop where
  newest : t.entries.map Field.name <+: d.dynamicNames
  known : ∀ name ∈ d.dynamicNames, name ≠ []

/-- A literal that is neither empty nor Huffman-coded. -/
def Plain (s : StringLiteral) : Prop := s.huffman = false ∧ s.text ≠ []

instance plainDecidable (s : StringLiteral) : Decidable (Plain s) := by
  unfold Plain
  infer_instance

def Recorded : Representation → Prop
  | .literal .incremental (.literal s) _ => Plain s
  | _ => True

instance recordedDecidable (r : Representation) : Decidable (Recorded r) := by
  unfold Recorded
  split <;> infer_instance

theorem mirrors_start (h : t.entries = []) : Mirrors t newHPACKNameDecoder :=
  ⟨by simp [h,newHPACKNameDecoder],by simp [newHPACKNameDecoder]⟩

theorem Mirrors.lookup (h : Mirrors t d) {i : ℕ} {f : Field} (hf : t.lookup i = some f) :
    knownName d.dynamicNames i = f.name ∧ f.name ≠ [] := by
  unfold Table.lookup at hf
  rw [staticFields_length] at hf
  unfold knownName
  split_ifs at hf ⊢ with h0 hstatic
  · refine ⟨?_,static_ne_nil f (List.mem_of_getElem? hf)⟩
    rw [← staticFields_names,List.getD_eq_getElem?_getD,List.getElem?_map,hf]
    rfl
  · have hget : (t.entries.map Field.name)[i-61-1]? = some f.name := by
      rw [List.getElem?_map,hf]
      rfl
    have hsome : d.dynamicNames[i-62]? = some f.name := by
      obtain ⟨rest,hrest⟩ := h.newest
      rw [← hrest,List.getElem?_append_left]
      · exact hget
      · exact (List.getElem?_eq_some_iff.mp hget).1
    refine ⟨?_,h.known _ (List.mem_of_getElem? hsome)⟩
    rw [List.getD_eq_getElem?_getD,hsome]
    rfl

theorem Mirrors.nameOf (h : Mirrors t d) {name : NameRef} {n : Bytes} (hn : t.nameOf name = some n)
    (hplain : ∀ s, name = .literal s → Plain s) :
    spelled d name = n ∧ n ≠ [] := by
  cases name with
  | index i =>
    obtain ⟨f,hf,rfl⟩ := Option.map_eq_some_iff.mp hn
    exact h.lookup hf
  | literal s =>
    obtain ⟨hraw,hne⟩ := hplain s rfl
    obtain rfl : s.text = n := by simpa [Table.nameOf] using hn
    exact ⟨by simp [spelled,spelling,hraw],hne⟩

theorem Mirrors.insert (h : Mirrors t d) (f : Field) (hf : f.name ≠ []) :
    Mirrors (t.insert f) (d.addDynamicName f.name) := by
  have hadd : d.addDynamicName f.name = ⟨f.name::d.dynamicNames⟩ := by
    simp [HPACKNameDecoder.addDynamicName,hf]
  rw [hadd]
  refine ⟨?_,?_⟩
  · have hkeep : (t.insert f).entries <+: f::t.entries := keep_initial _ _
    have hcons : (f::t.entries).map Field.name <+: f.name::d.dynamicNames :=
      List.cons_prefix_cons.mpr ⟨rfl,h.newest⟩
    exact (hkeep.map _).trans hcons
  · intro name hname
    rcases List.mem_cons.mp hname with rfl | hname
    · exact hf
    · exact h.known name hname

/-- One representation keeps the decoder in step with the table. -/
theorem Mirrors.step (h : Mirrors t d) {f : Option Field} (hstep : t.step r = some (t',f))
    (hr : Recorded r) : Mirrors t' (nameStep d r).1 := by
  cases r with
  | indexed i =>
    obtain ⟨-,-,rfl,-⟩ := Table.step_indexed hstep
    exact h
  | literal mode name value =>
    obtain ⟨n,hn,rfl,-⟩ := Table.step_literal hstep
    by_cases hmode : mode = .incremental
    · subst hmode
      obtain ⟨hspell,hne⟩ := h.nameOf hn fun s hs => by rwa [hs] at hr
      have := h.insert ⟨n,value.text⟩ hne
      simpa [nameStep,hspell] using this
    · simpa [nameStep,hmode] using h
  | sizeUpdate n =>
    obtain ⟨hn,rfl,-⟩ := Table.step_sizeUpdate hstep
    have hkeep : (t.resize n hn).entries <+: t.entries := keep_initial _ _
    exact ⟨(hkeep.map _).trans h.newest,h.known⟩

def PlainName : Representation → Prop
  | .literal _ (.literal s) _ => Plain s
  | _ => True

instance plainNameDecidable (r : Representation) : Decidable (PlainName r) := by
  unfold PlainName
  split <;> infer_instance

theorem PlainName.recorded (h : PlainName r) : Recorded r := by
  unfold Recorded
  split
  · exact h
  · trivial

/-- The field of a representation is the one whose name is read. -/
theorem Mirrors.field (h : Mirrors t d) {f : Option Field} (hstep : t.step r = some (t',f))
    (hr : PlainName r) :
    appendName [] (nameStep d r).2 = f.toList.map Field.name := by
  cases r with
  | indexed i =>
    obtain ⟨g,hg,-,rfl⟩ := Table.step_indexed hstep
    obtain ⟨hname,hne⟩ := h.lookup hg
    simp [nameStep,hname,appendName,hne]
  | literal mode name value =>
    obtain ⟨n,hn,-,rfl⟩ := Table.step_literal hstep
    obtain ⟨hname,hne⟩ := h.nameOf hn fun s hs => by rwa [hs] at hr
    simp [nameStep,hname,appendName,hne]
  | sizeUpdate n =>
    obtain ⟨-,-,rfl⟩ := Table.step_sizeUpdate hstep
    simp [nameStep,appendName]

end Mirror

section Connections
variable {coder : Bytes → Bytes} {t t' : Table maxTableSize} {d : HPACKNameDecoder}

theorem run_inRange {rs : List Representation} {x : Table maxTableSize × List Field}
    (h : t.run rs = some x) : ∀ r ∈ rs, InRange r := by
  induction rs generalizing t x with
  | nil => simp
  | cons r rs ih =>
    obtain ⟨t₁,f,t₂,fs,hstep,hrun,-⟩ := Table.run_cons h
    intro r' hr'
    rcases List.mem_cons.mp hr' with rfl | hr'
    · exact step_inRange hstep
    · exact ih hrun r' hr'

theorem Mirrors.run {rs : List Representation} {fs : List Field} (h : Mirrors t d)
    (hrun : t.run rs = some (t',fs)) (hr : ∀ r ∈ rs, PlainName r) :
    Mirrors t' (follow d rs).2 ∧ (follow d rs).1 = fs.map Field.name := by
  induction rs generalizing t d fs with
  | nil =>
    simp only [Table.run,Option.some.injEq,Prod.mk.injEq] at hrun
    obtain ⟨rfl,rfl⟩ := hrun
    exact ⟨h,rfl⟩
  | cons r rs ih =>
    obtain ⟨t₁,f,t₂,gs,hstep,hrest,hx⟩ := Table.run_cons hrun
    simp only [Prod.mk.injEq] at hx
    obtain ⟨rfl,rfl⟩ := hx
    have hplain := hr r (by simp)
    obtain ⟨hm,hnames⟩ := ih (h.step hstep hplain.recorded) hrest fun r' hr' => hr r' (by simp [hr'])
    refine ⟨hm,?_⟩
    rw [List.map_append,← h.field hstep hplain,← hnames]
    rfl

theorem Mirrors.runBlocks {blocks : List (List Representation)} {octets : List Bytes}
    {fields : List (List Field)} (h : Mirrors t d)
    (hoct : List.Forall₂ (BlockOctets coder) blocks octets)
    (hrun : t.runBlocks blocks = some (t',fields))
    (hr : ∀ block ∈ blocks, ∀ r ∈ block, PlainName r) :
    ∃ d', decodeBlocks d octets = .ok (fields.map fun fs => fs.map Field.name,d') ∧
      Mirrors t' d' := by
  induction hoct generalizing t d fields with
  | nil =>
    simp only [Table.runBlocks,Option.some.injEq,Prod.mk.injEq] at hrun
    obtain ⟨rfl,rfl⟩ := hrun
    exact ⟨d,rfl,h⟩
  | @cons b bs blocks octets hb _ ih =>
    obtain ⟨t₁,fs,t₂,rest,hblock,hrest,hx⟩ := Table.runBlocks_cons hrun
    simp only [Prod.mk.injEq] at hx
    obtain ⟨rfl,rfl⟩ := hx
    obtain ⟨hm,hnames⟩ := h.run hblock (hr b (by simp))
    obtain ⟨d',hd,hm'⟩ := ih hm hrest fun block hblock => hr block (by simp [hblock])
    refine ⟨d',?_,hm'⟩
    rw [decodeBlocks_cons (decode_octets hb (run_inRange hblock) d),hd,hnames]
    rfl

/-- On every connection of an encoder whose literal names are not empty and not
Huffman-coded, each block decodes to the names of its fields, and the names of the
encoder's table are a prefix of the decoder's.  Every beginning of a connection, also
in the middle of a block, is a connection, so the second part holds at all times. -/
theorem decodeBlocks_refines {t₀ t : Table maxTableSize} {blocks : List (List Representation)}
    {octets : List Bytes} {fields : List (List Field)} (hstart : t₀.entries = [])
    (hoct : List.Forall₂ (BlockOctets coder) blocks octets)
    (hrun : t₀.runBlocks blocks = some (t,fields))
    (hplain : ∀ block ∈ blocks, ∀ r ∈ block, PlainName r) :
    ∃ d, decodeBlocks newHPACKNameDecoder octets = .ok (fields.map fun fs => fs.map Field.name,d) ∧
      t.entries.map Field.name <+: d.dynamicNames := by
  obtain ⟨d,hd,hm⟩ := (mirrors_start hstart).runBlocks hoct hrun hplain
  exact ⟨d,hd,hm.newest⟩

end Connections

section Alignment
variable {coder : Bytes → Bytes} {t t' : Table maxTableSize} {d : HPACKNameDecoder}
  {hidden : List Bool} {r : Representation} {bs : Bytes}

/-- Whether the name at a place of the tables was sent in the Huffman code; `hidden`
tells it for all insertions so far, the newest first. -/
def hiddenAt (hidden : List Bool) (i : ℕ) : Bool := decide (61 < i) && hidden.getD (i-62) false

def hiddenName (hidden : List Bool) : NameRef → Bool
  | .index i => hiddenAt hidden i
  | .literal s => s.huffman

def hiddenStep (hidden : List Bool) : Representation → List Bool
  | .literal .incremental name _ => hiddenName hidden name::hidden
  | _ => hidden

/-- What decoding the bytes of one representation must do: a field that the encoder adds
to its table moves the decoder's names by one place, and a reference gives the name that
the encoder means, or no name if that name was Huffman-coded. -/
structure StepAligned (t : Table maxTableSize) (hidden : List Bool) (d : HPACKNameDecoder)
    (r : Representation) (bs : Bytes) : Prop where
  shifts : ∀ name value, r = .literal .incremental name value →
    ∃ names n, d.decode bs = .ok (names,⟨n::d.dynamicNames⟩)
  resolves : ∀ i ∈ r.indices, ∀ f, t.lookup i = some f →
    ∃ name, d.lookupName (UInt64.ofNat i) = .ok name ∧
      (name = f.name ∨ hiddenAt hidden i = true ∧ name = [])

def Aligned : Table maxTableSize → List Bool → HPACKNameDecoder → List (Representation × Bytes) → Prop
  | _,_,_,[] => True
  | t,hidden,d,(r,bs)::rest => StepAligned t hidden d r bs ∧
    ∀ t' f names d', t.step r = some (t',f) → d.decode bs = .ok (names,d') →
      Aligned t' (hiddenStep hidden r) d' rest

theorem decode_single (h : Octets coder r bs) (hr : InRange r) (d : HPACKNameDecoder) :
    d.decode bs = .ok (appendName [] (nameStep d r).2,(nameStep d r).1) := by
  have hblock : BlockOctets coder [r] bs := by simpa using BlockOctets.cons h .nil
  rw [decode_octets hblock (by simpa using hr) d]
  simp [follow]

theorem Mirrors.stepAligned (h : Mirrors t d) {f : Option Field} (hoct : Octets coder r bs)
    (hstep : t.step r = some (t',f)) (hr : Recorded r) (hidden : List Bool) :
    StepAligned t hidden d r bs := by
  have hrange := step_inRange hstep
  refine ⟨?_,?_⟩
  · rintro name value rfl
    obtain ⟨n,hn,-⟩ := Table.step_literal hstep
    obtain ⟨hspell,hne⟩ := h.nameOf hn fun s hs => by rwa [hs] at hr
    have hadd : (nameStep d (.literal .incremental name value)).1 = ⟨n::d.dynamicNames⟩ := by
      simp [nameStep,hspell,HPACKNameDecoder.addDynamicName,hne]
    exact ⟨_,n,by rw [decode_single hoct hrange d,hadd]⟩
  · intro i hi f hf
    exact ⟨_,lookupName_ofNat d (hrange i hi).2,.inl (h.lookup hf).1⟩

theorem aligned_of_recorded {ps : List (Representation × Bytes)}
    {x : Table maxTableSize × List Field} (h : Mirrors t d)
    (hoct : ∀ p ∈ ps, Octets coder p.1 p.2) (hrun : t.run (ps.map Prod.fst) = some x)
    (hr : ∀ p ∈ ps, Recorded p.1) : Aligned t hidden d ps := by
  induction ps generalizing t d hidden x with
  | nil => trivial
  | cons p ps ih =>
    obtain ⟨r,bs⟩ := p
    obtain ⟨t₁,f,t₂,fs,hstep,hrest,-⟩ := Table.run_cons hrun
    have hfirst : Octets coder r bs := hoct (r,bs) (by simp)
    have hrec : Recorded r := hr (r,bs) (by simp)
    refine ⟨h.stepAligned hfirst hstep hrec hidden,?_⟩
    intro t' f' names d' hstep' hdecode
    rw [hstep] at hstep'
    simp only [Option.some.injEq,Prod.mk.injEq] at hstep'
    obtain ⟨rfl,-⟩ := hstep'
    rw [decode_single hfirst (step_inRange hstep) d] at hdecode
    simp only [Except.ok.injEq,Prod.mk.injEq] at hdecode
    obtain ⟨-,rfl⟩ := hdecode
    exact ih (h.step hstep hrec) (fun q hq => hoct q (by simp [hq])) hrest
      fun q hq => hr q (by simp [hq])

theorem plain_of_shift {s : StringLiteral} {n : Bytes}
    (h : d.addDynamicName (spelling s) = ⟨n::d.dynamicNames⟩) : Plain s := by
  have hne : spelling s ≠ [] := by
    intro hnil
    have := congrArg (fun d => d.dynamicNames.length) h
    simp [HPACKNameDecoder.addDynamicName,hnil] at this
  unfold spelling at hne
  split_ifs at hne with hh
  · exact absurd rfl hne
  · exact ⟨by simpa using hh,hne⟩

theorem StepAligned.recorded (h : StepAligned t hidden d r bs) (hoct : Octets coder r bs)
    (hrange : InRange r) : Recorded r := by
  match r with
  | .indexed i => trivial
  | .sizeUpdate n => trivial
  | .literal .without name value => trivial
  | .literal .never name value => trivial
  | .literal .incremental (.index i) value => trivial
  | .literal .incremental (.literal s) value =>
    obtain ⟨names,n,hdecode⟩ := h.shifts _ _ rfl
    rw [decode_single hoct hrange d] at hdecode
    simp only [Except.ok.injEq,Prod.mk.injEq] at hdecode
    exact plain_of_shift hdecode.2

theorem recorded_of_aligned {ps : List (Representation × Bytes)}
    {x : Table maxTableSize × List Field} (h : Aligned t hidden d ps)
    (hoct : ∀ p ∈ ps, Octets coder p.1 p.2) (hrun : t.run (ps.map Prod.fst) = some x) :
    ∀ p ∈ ps, Recorded p.1 := by
  induction ps generalizing t d hidden x with
  | nil => simp
  | cons p ps ih =>
    obtain ⟨r,bs⟩ := p
    obtain ⟨t₁,f,t₂,fs,hstep,hrest,-⟩ := Table.run_cons hrun
    have hfirst : Octets coder r bs := hoct (r,bs) (by simp)
    have hrange := step_inRange hstep
    intro q hq
    rcases List.mem_cons.mp hq with rfl | hq
    · exact h.1.recorded hfirst hrange
    · exact ih (h.2 _ _ _ _ hstep (decode_single hfirst hrange d))
        (fun q' hq' => hoct q' (by simp [hq'])) hrest q hq

/-- The bytes of a block that is given as a list of representations with their bytes. -/
def blockBytes (block : List (Representation × Bytes)) : Bytes := block.flatMap Prod.snd

theorem blockOctets_of_pieces {block : List (Representation × Bytes)}
    (h : ∀ p ∈ block, Octets coder p.1 p.2) :
    BlockOctets coder (block.map Prod.fst) (blockBytes block) := by
  induction block with
  | nil => exact .nil
  | cons p block ih =>
    rw [List.map_cons,blockBytes,List.flatMap_cons]
    exact .cons (h p (by simp)) (ih fun q hq => h q (by simp [hq]))

/-- On every connection of a conforming encoder the decoder stays aligned exactly when no
field that is added to the table has a literal name that is Huffman-coded or empty.
Decoding the blocks and decoding the representations one by one is the same. -/
theorem aligned_iff {t₀ t : Table maxTableSize} {blocks : List (List (Representation × Bytes))}
    {fields : List (List Field)} (hstart : t₀.entries = [])
    (hoct : ∀ block ∈ blocks, ∀ p ∈ block, Octets coder p.1 p.2)
    (hrun : t₀.runBlocks (blocks.map fun block => block.map Prod.fst) = some (t,fields)) :
    (∃ names pieces d, decodeBlocks newHPACKNameDecoder (blocks.map blockBytes) = .ok (names,d) ∧
      decodeBlocks newHPACKNameDecoder (blocks.flatten.map Prod.snd) = .ok (pieces,d) ∧
      names.flatten = pieces.flatten) ∧
    (Aligned t₀ [] newHPACKNameDecoder blocks.flatten ↔
      ∀ block ∈ blocks, ∀ p ∈ block, Recorded p.1) := by
  have hflat : t₀.run (blocks.flatten.map Prod.fst) = some (t,fields.flatten) := by
    have := Table.run_flatten hrun
    rwa [← List.map_flatten] at this
  have hpieces : ∀ p ∈ blocks.flatten, Octets coder p.1 p.2 := by
    intro p hp
    obtain ⟨block,hblock,hp⟩ := List.mem_flatten.mp hp
    exact hoct block hblock p hp
  refine ⟨?_,?_⟩
  · have hrange := run_inRange hflat
    have hblocks : List.Forall₂ (BlockOctets coder) (blocks.map fun block => block.map Prod.fst)
        (blocks.map blockBytes) := by
      rw [List.forall₂_map_left_iff,List.forall₂_map_right_iff,List.forall₂_same]
      exact fun block hblock => blockOctets_of_pieces (hoct block hblock)
    have hsingles : List.Forall₂ (BlockOctets coder) (blocks.flatten.map fun p => [p.1])
        (blocks.flatten.map Prod.snd) := by
      rw [List.forall₂_map_left_iff,List.forall₂_map_right_iff,List.forall₂_same]
      exact fun p hp => by simpa using BlockOctets.cons (hpieces p hp) .nil
    have hflat₁ : (blocks.map fun block => block.map Prod.fst).flatten =
        blocks.flatten.map Prod.fst := List.map_flatten.symm
    have hflat₂ : (blocks.flatten.map fun p => [p.1]).flatten = blocks.flatten.map Prod.fst := by
      rw [← List.flatMap_def,← List.map_eq_flatMap]
    obtain ⟨names,hnames,hn⟩ := decodeBlocks_octets hblocks (by rwa [hflat₁]) newHPACKNameDecoder
    obtain ⟨pieces,hdecode,hp⟩ := decodeBlocks_octets hsingles (by rwa [hflat₂]) newHPACKNameDecoder
    rw [hflat₁] at hnames hn
    rw [hflat₂] at hdecode hp
    exact ⟨names,pieces,_,hnames,hdecode,hn.trans hp.symm⟩
  · constructor
    · intro h block hblock p hp
      exact recorded_of_aligned h hpieces hflat p (List.mem_flatten.mpr ⟨block,hblock,hp⟩)
    · intro h
      apply aligned_of_recorded (mirrors_start hstart) hpieces hflat
      intro p hp
      obtain ⟨block,hblock,hp⟩ := List.mem_flatten.mp hp
      exact h block hblock p hp

end Alignment

section Sample

def startTable : Table maxTableSize := ⟨[],4096,Nat.zero_le _,by decide⟩

def raw (text : String) : StringLiteral := ⟨false,UnicodeText.utf8 text⟩

def coded (text : String) : StringLiteral := ⟨true,UnicodeText.utf8 text⟩

/-- The Huffman code on the two strings of the samples (RFC 7541, C.4.3). -/
def sampleCoder (text : Bytes) : Bytes :=
  if text = UnicodeText.utf8 "custom-key" then [0x25,0xa8,0x49,0xe9,0x5b,0xa9,0x7d,0x7f]
  else if text = UnicodeText.utf8 "custom-value" then [0x25,0xa8,0x49,0xe9,0x5b,0xb8,0xe8,0xb4,0xbf]
  else []

/-- Two blocks; the second refers to a name of the first, and empties the table. -/
def plainBlocks : List (List Representation) := [
  [.indexed 2,.literal .incremental (.literal (raw "x-id")) (coded "custom-value")],
  [.indexed 62,.literal .never (.index 62) (raw "8"),.sizeUpdate 0]]

theorem decodeBlocks_refines_sample : ∃ t fields d,
    startTable.runBlocks plainBlocks = some (t,fields) ∧
    decodeBlocks newHPACKNameDecoder
        (plainBlocks.map fun block => block.flatMap (Representation.encode sampleCoder)) =
      .ok (fields.map fun fs => fs.map Field.name,d) ∧
    t.entries.map Field.name <+: d.dynamicNames := by
  obtain ⟨⟨t,fields⟩,hrun⟩ : ∃ x, startTable.runBlocks plainBlocks = some x := ⟨_,rfl⟩
  have hoct : List.Forall₂ (BlockOctets sampleCoder) plainBlocks
      (plainBlocks.map fun block => block.flatMap (Representation.encode sampleCoder)) := by
    have hsmall : ∀ block ∈ plainBlocks, ∀ r ∈ block, ∀ n ∈ r.numbers sampleCoder, n < 2^63 := by
      decide +kernel
    rw [List.forall₂_map_right_iff,List.forall₂_same]
    exact fun block hblock => blockOctets_encode (hsmall block hblock)
  obtain ⟨d,hd,hnewest⟩ := decodeBlocks_refines rfl hoct hrun (by decide +kernel)
  exact ⟨t,fields,d,hrun,hd,hnewest⟩

/-- A Huffman-coded name is added to the table after a plain one; then both are referred to. -/
def codedBlock : List Representation := [
  .literal .incremental (.literal (raw "x-id")) (raw "7"),
  .literal .incremental (.literal (coded "custom-key")) (coded "custom-value"),
  .indexed 62,.indexed 63]

/-- A run in which the Huffman-coded name is not added to the table. -/
def alignedBlock : List (Representation × Bytes) := [
  .literal .incremental (.literal (raw "x-id")) (raw "7"),
  .literal .without (.literal (coded "custom-key")) (coded "custom-value"),
  .indexed 62].map fun r => (r,r.encode sampleCoder)

theorem aligned_sample : Aligned startTable [] newHPACKNameDecoder alignedBlock := by
  obtain ⟨⟨t,fields⟩,hrun⟩ :
    ∃ x, startTable.runBlocks ([alignedBlock].map fun block => block.map Prod.fst) = some x := ⟨_,rfl⟩
  have hoct : ∀ block ∈ [alignedBlock], ∀ p ∈ block, Octets sampleCoder p.1 p.2 := by
    intro block hblock p hp
    obtain rfl : block = alignedBlock := by simpa using hblock
    obtain ⟨r,hr,rfl⟩ := List.mem_map.mp hp
    have hsmall : ∀ p ∈ alignedBlock, ∀ n ∈ p.1.numbers sampleCoder, n < 2^63 := by decide +kernel
    exact Representation.encode_octets (hsmall (r,r.encode sampleCoder) hp)
  have hstart : startTable.entries = [] := rfl
  have hiff := (aligned_iff hstart hoct hrun).2
  rw [List.flatten_cons,List.flatten_nil,List.append_nil] at hiff
  exact hiff.mpr (by decide +kernel)

/-- The encoder means `custom-key` and `x-id`; the decoder reads `x-id` and nothing. -/
theorem coded_name_misread :
    (∀ r ∈ codedBlock, Octets sampleCoder r (r.encode sampleCoder)) ∧
    (startTable.run codedBlock).map (fun x => x.2.map Field.name) =
      some [UnicodeText.utf8 "x-id",UnicodeText.utf8 "custom-key",UnicodeText.utf8 "custom-key",
        UnicodeText.utf8 "x-id"] ∧
    newHPACKNameDecoder.decode (codedBlock.flatMap (Representation.encode sampleCoder)) =
      .ok ([UnicodeText.utf8 "x-id",UnicodeText.utf8 "x-id"],⟨[UnicodeText.utf8 "x-id"]⟩) := by
  refine ⟨?_,by decide +kernel,by decide +kernel⟩
  have hsmall : ∀ r ∈ codedBlock, ∀ n ∈ r.numbers sampleCoder, n < 2^63 := by decide +kernel
  exact fun r hr => Representation.encode_octets (hsmall r hr)

end Sample

end Http2
end AntiScrapling
