import AntiScrapling.ByteCodec
import AntiScrapling.UnicodeText
import Mathlib.Algebra.Order.Ring.Nat

/-! HPACK, the header compression of HTTP/2 (RFC 7541): integers, strings, the dynamic
table and the meaning of a header block.  An encoding is a relation, as an encoder
may choose among several; the Huffman code is a parameter. -/
namespace AntiScrapling
namespace Hpack

open ByteCodec UnicodeText

section Integers

/-- Groups of seven bits, the lowest first; all but the last have the high bit set. -/
inductive Continuation : ℕ → Bytes → Prop
  | last {b : ℕ} (hb : b < 128) : Continuation b [UInt8.ofNat b]
  | more {b n : ℕ} {cs : Bytes} (hb : b < 128) (h : Continuation n cs) :
      Continuation (b+128*n) (UInt8.ofNat (128+b)::cs)

/-- A number in the low `bits` bits of a byte and, if it does not fit, up to nine bytes
after it; the other bits of the first byte are `pattern`. -/
inductive PrefixInt (bits pattern : ℕ) : ℕ → Bytes → Prop
  | short {n : ℕ} (hn : n < 2^bits-1) : PrefixInt bits pattern n [UInt8.ofNat (pattern+n)]
  | long {n : ℕ} {cs : Bytes} (h : Continuation n cs) (hlen : cs.length ≤ 9) :
      PrefixInt bits pattern (2^bits-1+n) (UInt8.ofNat (pattern+(2^bits-1))::cs)

theorem Continuation.lt {n : ℕ} {cs : Bytes} (h : Continuation n cs) : n < 128^cs.length := by
  induction h with
  | last hb => simpa using hb
  | more hb _ ih =>
    rw [List.length_cons,pow_succ]
    omega

theorem Continuation.length_pos {n : ℕ} {cs : Bytes} (h : Continuation n cs) : 0 < cs.length := by
  cases h <;> simp

theorem PrefixInt.length_pos {bits pattern n : ℕ} {bs : Bytes} (h : PrefixInt bits pattern n bs) :
    0 < bs.length := by
  cases h <;> simp

theorem PrefixInt.lt {bits pattern n : ℕ} {bs : Bytes} (h : PrefixInt bits pattern n bs)
    (hbits : bits ≤ 7) : n < 2^63+127 := by
  have hpow : 2^bits ≤ 2^7 := Nat.pow_le_pow_right (by decide) hbits
  cases h with
  | short hn => omega
  | long hc hlen =>
    have hlt := hc.lt
    have hmax : 128^(List.length _) ≤ 128^9 := Nat.pow_le_pow_right (by decide) hlen
    have : (128 : ℕ)^9 = 2^63 := by norm_num
    omega

/-- The groups of a number below `128^(k+1)`. -/
def groups : ℕ → ℕ → Bytes
  | 0,n => [UInt8.ofNat n]
  | k+1,n => if n < 128 then [UInt8.ofNat n] else UInt8.ofNat (128+n%128)::groups k (n/128)

/-- The encoding algorithm of section 5.1, for numbers whose rest is below `2^63`. -/
def encodeInt (bits pattern n : ℕ) : Bytes :=
  if n < 2^bits-1 then [UInt8.ofNat (pattern+n)]
  else UInt8.ofNat (pattern+(2^bits-1))::groups 8 (n-(2^bits-1))

theorem groups_continuation {k n : ℕ} (hn : n < 128^(k+1)) :
    Continuation n (groups k n) ∧ (groups k n).length ≤ k+1 := by
  induction k generalizing n with
  | zero => exact ⟨.last (by simpa using hn),le_rfl⟩
  | succ k ih =>
    unfold groups
    split_ifs with hlt
    · exact ⟨.last hlt,by simp⟩
    · have hdiv : n/128 < 128^(k+1) := by
        rw [Nat.div_lt_iff_lt_mul (by decide)]
        rwa [pow_succ] at hn
      obtain ⟨hc,hlen⟩ := ih hdiv
      have hmore := Continuation.more (Nat.mod_lt n (by decide)) hc
      rw [Nat.mod_add_div] at hmore
      exact ⟨hmore,by rw [List.length_cons]; omega⟩

theorem encodeInt_prefixInt {bits pattern n : ℕ} (hn : n-(2^bits-1) < 2^63) :
    PrefixInt bits pattern n (encodeInt bits pattern n) := by
  unfold encodeInt
  split_ifs with hlt
  · exact .short hlt
  · have hpow : n-(2^bits-1) < 128^(8+1) := by
      have : (128 : ℕ)^(8+1) = 2^63 := by norm_num
      omega
    obtain ⟨hc,hlen⟩ := groups_continuation hpow
    have hlong : PrefixInt bits pattern (2^bits-1+(n-(2^bits-1))) _ := .long hc hlen
    have hsum : 2^bits-1+(n-(2^bits-1)) = n := by omega
    rwa [hsum] at hlong

end Integers

section Fields

structure Field where
  name : Bytes
  value : Bytes
  deriving DecidableEq, Repr

def Field.size (f : Field) : ℕ := f.name.length+f.value.length+32

/-- A string literal and whether it is sent in the Huffman code. -/
structure StringLiteral where
  huffman : Bool
  text : Bytes
  deriving DecidableEq, Repr

inductive Indexing
  | incremental
  | without
  | never
  deriving DecidableEq, Repr

/-- The size of the index of a literal field, and the bits in front of it. -/
def Indexing.bits : Indexing → ℕ
  | .incremental => 6
  | .without => 4
  | .never => 4

def Indexing.pattern : Indexing → ℕ
  | .incremental => 64
  | .without => 0
  | .never => 16

inductive NameRef
  | index (i : ℕ)
  | literal (s : StringLiteral)
  deriving DecidableEq, Repr

inductive Representation
  | indexed (i : ℕ)
  | literal (mode : Indexing) (name : NameRef) (value : StringLiteral)
  | sizeUpdate (n : ℕ)
  deriving DecidableEq, Repr

/-- The places of the tables that a representation refers to. -/
def Representation.indices : Representation → List ℕ
  | .indexed i => [i]
  | .literal _ (.index i) _ => [i]
  | .literal _ (.literal _) _ => []
  | .sizeUpdate _ => []

end Fields

section Octets
variable (coder : Bytes → Bytes)

def StringLiteral.content (s : StringLiteral) : Bytes :=
  if s.huffman then coder s.text else s.text

def StringLiteral.pattern (s : StringLiteral) : ℕ := if s.huffman then 128 else 0

inductive StringOctets (s : StringLiteral) : Bytes → Prop
  | mk {len : Bytes} (h : PrefixInt 7 s.pattern (s.content coder).length len) :
      StringOctets s (len++s.content coder)

inductive Octets : Representation → Bytes → Prop
  | indexed {i : ℕ} {bs : Bytes} (h : PrefixInt 7 128 i bs) : Octets (.indexed i) bs
  | literalIndex {mode : Indexing} {i : ℕ} {value : StringLiteral} {bs vs : Bytes}
      (hi : PrefixInt mode.bits mode.pattern i bs) (hv : StringOctets coder value vs) :
      Octets (.literal mode (.index i) value) (bs++vs)
  | literalName {mode : Indexing} {name value : StringLiteral} {bs ns vs : Bytes}
      (h0 : PrefixInt mode.bits mode.pattern 0 bs) (hn : StringOctets coder name ns)
      (hv : StringOctets coder value vs) :
      Octets (.literal mode (.literal name) value) (bs++ns++vs)
  | sizeUpdate {n : ℕ} {bs : Bytes} (h : PrefixInt 5 32 n bs) : Octets (.sizeUpdate n) bs

inductive BlockOctets : List Representation → Bytes → Prop
  | nil : BlockOctets [] []
  | cons {r : Representation} {rs : List Representation} {bs rest : Bytes}
      (h : Octets coder r bs) (hrest : BlockOctets rs rest) : BlockOctets (r::rs) (bs++rest)

variable {coder} in
theorem BlockOctets.append {rs rs' : List Representation} {bs bs' : Bytes} (h : BlockOctets coder rs bs)
    (h' : BlockOctets coder rs' bs') : BlockOctets coder (rs++rs') (bs++bs') := by
  induction h with
  | nil => exact h'
  | cons hoct _ ih =>
    rw [List.cons_append,List.append_assoc]
    exact .cons hoct ih

/-- The bytes of an encoder that follows section 5.1 for every number. -/
def StringLiteral.encode (s : StringLiteral) : Bytes :=
  encodeInt 7 s.pattern (s.content coder).length++s.content coder

def Representation.encode : Representation → Bytes
  | .indexed i => encodeInt 7 128 i
  | .literal mode (.index i) value => encodeInt mode.bits mode.pattern i++value.encode coder
  | .literal mode (.literal name) value =>
    encodeInt mode.bits mode.pattern 0++name.encode coder++value.encode coder
  | .sizeUpdate n => encodeInt 5 32 n

def Representation.numbers : Representation → List ℕ
  | .indexed i => [i]
  | .literal _ (.index i) value => [i,(value.content coder).length]
  | .literal _ (.literal name) value => [0,(name.content coder).length,(value.content coder).length]
  | .sizeUpdate n => [n]

variable {coder}

theorem StringLiteral.encode_octets {s : StringLiteral} (h : (s.content coder).length < 2^63) :
    StringOctets coder s (s.encode coder) :=
  .mk (encodeInt_prefixInt (by omega))

theorem Representation.encode_octets {r : Representation} (h : ∀ n ∈ r.numbers coder, n < 2^63) :
    Octets coder r (r.encode coder) := by
  have hint {bits pattern n : ℕ} (hn : n ∈ r.numbers coder) :
      PrefixInt bits pattern n (encodeInt bits pattern n) :=
    encodeInt_prefixInt (by have := h n hn; omega)
  cases r with
  | indexed i => exact .indexed (hint (by simp [numbers]))
  | literal mode name value =>
    cases name with
    | index i =>
      exact .literalIndex (hint (by simp [numbers]))
        (StringLiteral.encode_octets (h _ (by simp [numbers])))
    | literal name =>
      exact .literalName (hint (by simp [numbers]))
        (StringLiteral.encode_octets (h _ (by simp [numbers])))
        (StringLiteral.encode_octets (h _ (by simp [numbers])))
  | sizeUpdate n => exact .sizeUpdate (hint (by simp [numbers]))

theorem blockOctets_encode {rs : List Representation}
    (h : ∀ r ∈ rs, ∀ n ∈ r.numbers coder, n < 2^63) :
    BlockOctets coder rs (rs.flatMap (Representation.encode coder)) := by
  induction rs with
  | nil => exact .nil
  | cons r rs ih =>
    exact .cons (Representation.encode_octets (h r (by simp))) (ih fun r' hr' => h r' (by simp [hr']))

theorem StringOctets.length_pos {s : StringLiteral} {bs : Bytes} (h : StringOctets coder s bs) :
    0 < bs.length := by
  cases h with
  | mk h =>
    have := h.length_pos
    rw [List.length_append]
    omega

theorem Octets.length_pos {r : Representation} {bs : Bytes} (h : Octets coder r bs) :
    0 < bs.length := by
  cases h with
  | indexed h => exact h.length_pos
  | literalIndex hi hv =>
    have := hi.length_pos
    rw [List.length_append]
    omega
  | literalName h0 hn hv =>
    have := h0.length_pos
    rw [List.length_append,List.length_append]
    omega
  | sizeUpdate h => exact h.length_pos

theorem BlockOctets.length_le {rs : List Representation} {bs : Bytes} (h : BlockOctets coder rs bs) :
    rs.length ≤ bs.length := by
  induction h with
  | nil => simp
  | cons hr _ ih =>
    have := hr.length_pos
    rw [List.length_cons,List.length_append]
    omega

end Octets

section Tables

def staticTable : List (String × String) := [
  (":authority",""),(":method","GET"),(":method","POST"),(":path","/"),(":path","/index.html"),
  (":scheme","http"),(":scheme","https"),(":status","200"),(":status","204"),(":status","206"),
  (":status","304"),(":status","400"),(":status","404"),(":status","500"),("accept-charset",""),
  ("accept-encoding","gzip, deflate"),("accept-language",""),("accept-ranges",""),("accept",""),
  ("access-control-allow-origin",""),("age",""),("allow",""),("authorization",""),
  ("cache-control",""),("content-disposition",""),("content-encoding",""),("content-language",""),
  ("content-length",""),("content-location",""),("content-range",""),("content-type",""),
  ("cookie",""),("date",""),("etag",""),("expect",""),("expires",""),("from",""),("host",""),
  ("if-match",""),("if-modified-since",""),("if-none-match",""),("if-range",""),
  ("if-unmodified-since",""),("last-modified",""),("link",""),("location",""),
  ("max-forwards",""),("proxy-authenticate",""),("proxy-authorization",""),("range",""),
  ("referer",""),("refresh",""),("retry-after",""),("server",""),("set-cookie",""),
  ("strict-transport-security",""),("transfer-encoding",""),("user-agent",""),("vary",""),
  ("via",""),("www-authenticate","")]

def staticFields : List Field := staticTable.map fun e => ⟨utf8 e.1,utf8 e.2⟩

def totalSize (fs : List Field) : ℕ := (fs.map Field.size).sum

/-- Eviction from the end: the longest initial part that fits. -/
def keep : ℕ → List Field → List Field
  | _,[] => []
  | room,f::fs => if f.size ≤ room then f::keep (room-f.size) fs else []

theorem keep_fits (room : ℕ) (fs : List Field) : totalSize (keep room fs) ≤ room := by
  induction fs generalizing room with
  | nil => simp [keep,totalSize]
  | cons f fs ih =>
    unfold keep
    split_ifs with h
    · have := ih (room-f.size)
      simp only [totalSize,List.map_cons,List.sum_cons] at this ⊢
      omega
    · simp [totalSize]

theorem keep_initial (room : ℕ) (fs : List Field) : keep room fs <+: fs := by
  induction fs generalizing room with
  | nil => exact List.prefix_refl []
  | cons f fs ih =>
    unfold keep
    split_ifs
    · exact List.cons_prefix_cons.mpr ⟨rfl,ih _⟩
    · exact List.nil_prefix

theorem length_le_totalSize (fs : List Field) : 32*fs.length ≤ totalSize fs := by
  induction fs with
  | nil => simp [totalSize]
  | cons f fs ih =>
    simp only [totalSize,List.map_cons,List.sum_cons,List.length_cons,Field.size] at ih ⊢
    omega

/-- A dynamic table, newest entry first.  `limit` is what the protocol lets a size
update ask for at most. -/
structure Table (limit : ℕ) where
  entries : List Field
  maxSize : ℕ
  fits : totalSize entries ≤ maxSize
  bounded : maxSize ≤ limit

namespace Table

variable {limit : ℕ}

def insert (t : Table limit) (f : Field) : Table limit :=
  ⟨keep t.maxSize (f::t.entries),t.maxSize,keep_fits _ _,t.bounded⟩

def resize (t : Table limit) (n : ℕ) (hn : n ≤ limit) : Table limit :=
  ⟨keep n t.entries,n,keep_fits _ _,hn⟩

theorem length_entries_le (t : Table limit) : 32*t.entries.length ≤ limit :=
  (length_le_totalSize _).trans (t.fits.trans t.bounded)

/-- The static table first, then the dynamic one; index 0 is not used. -/
def lookup (t : Table limit) (i : ℕ) : Option Field :=
  if i = 0 then none
  else if i ≤ staticFields.length then staticFields[i-1]?
  else t.entries[i-staticFields.length-1]?

theorem lookup_some {t : Table limit} {i : ℕ} {f : Field} (h : t.lookup i = some f) :
    0 < i ∧ i ≤ staticFields.length+t.entries.length := by
  unfold lookup at h
  split_ifs at h with h0 hstatic
  · omega
  · obtain ⟨hlt,-⟩ := List.getElem?_eq_some_iff.mp h
    omega

def nameOf (t : Table limit) : NameRef → Option Bytes
  | .index i => (t.lookup i).map Field.name
  | .literal s => some s.text

/-- One representation: the table after it, and the field it adds to the header list. -/
def step (t : Table limit) : Representation → Option (Table limit × Option Field)
  | .indexed i => (t.lookup i).map fun f => (t,some f)
  | .literal mode name value => (t.nameOf name).map fun n =>
    (if mode = .incremental then t.insert ⟨n,value.text⟩ else t,some ⟨n,value.text⟩)
  | .sizeUpdate n => if hn : n ≤ limit then some (t.resize n hn,none) else none

theorem step_indexed {t t' : Table limit} {i : ℕ} {f : Option Field}
    (h : t.step (.indexed i) = some (t',f)) : ∃ g, t.lookup i = some g ∧ t' = t ∧ f = some g := by
  obtain ⟨g,hg,hx⟩ := Option.map_eq_some_iff.mp h
  cases hx
  exact ⟨g,hg,rfl,rfl⟩

theorem step_literal {t t' : Table limit} {mode : Indexing} {name : NameRef} {value : StringLiteral}
    {f : Option Field} (h : t.step (.literal mode name value) = some (t',f)) :
    ∃ n, t.nameOf name = some n ∧
      t' = (if mode = .incremental then t.insert ⟨n,value.text⟩ else t) ∧ f = some ⟨n,value.text⟩ := by
  obtain ⟨n,hn,hx⟩ := Option.map_eq_some_iff.mp h
  cases hx
  exact ⟨n,hn,rfl,rfl⟩

theorem step_sizeUpdate {t t' : Table limit} {n : ℕ} {f : Option Field}
    (h : t.step (.sizeUpdate n) = some (t',f)) : ∃ hn : n ≤ limit, t' = t.resize n hn ∧ f = none := by
  simp only [step] at h
  split_ifs at h with hn
  cases h
  exact ⟨hn,rfl,rfl⟩

def run (t : Table limit) : List Representation → Option (Table limit × List Field)
  | [] => some (t,[])
  | r::rs => do
    let (t,f) ← t.step r
    let (t,fs) ← t.run rs
    some (t,f.toList++fs)

def runBlocks (t : Table limit) : List (List Representation) → Option (Table limit × List (List Field))
  | [] => some (t,[])
  | b::bs => do
    let (t,fs) ← t.run b
    let (t,rest) ← t.runBlocks bs
    some (t,fs::rest)

theorem run_cons {t : Table limit} {r : Representation} {rs : List Representation}
    {x : Table limit × List Field} (h : t.run (r::rs) = some x) :
    ∃ t₁ f t₂ fs, t.step r = some (t₁,f) ∧ t₁.run rs = some (t₂,fs) ∧ x = (t₂,f.toList++fs) := by
  simp only [run,bind,Option.bind_eq_some_iff,Option.some.injEq] at h
  obtain ⟨⟨t₁,f⟩,hstep,⟨t₂,fs⟩,hrun,rfl⟩ := h
  exact ⟨t₁,f,t₂,fs,hstep,hrun,rfl⟩

theorem runBlocks_cons {t : Table limit} {b : List Representation} {bs : List (List Representation)}
    {x : Table limit × List (List Field)} (h : t.runBlocks (b::bs) = some x) :
    ∃ t₁ fs t₂ rest, t.run b = some (t₁,fs) ∧ t₁.runBlocks bs = some (t₂,rest) ∧
      x = (t₂,fs::rest) := by
  simp only [runBlocks,bind,Option.bind_eq_some_iff,Option.some.injEq] at h
  obtain ⟨⟨t₁,fs⟩,hrun,⟨t₂,rest⟩,hrest,rfl⟩ := h
  exact ⟨t₁,fs,t₂,rest,hrun,hrest,rfl⟩

theorem run_append {t t₁ t₂ : Table limit} {rs rs' : List Representation} {fs fs' : List Field}
    (h : t.run rs = some (t₁,fs)) (h' : t₁.run rs' = some (t₂,fs')) :
    t.run (rs++rs') = some (t₂,fs++fs') := by
  induction rs generalizing t fs with
  | nil =>
    simp only [run,Option.some.injEq,Prod.mk.injEq] at h
    obtain ⟨rfl,rfl⟩ := h
    exact h'
  | cons r rs ih =>
    obtain ⟨t₃,f,t₄,gs,hstep,hrun,hx⟩ := run_cons h
    simp only [Prod.mk.injEq] at hx
    obtain ⟨rfl,rfl⟩ := hx
    simp [run,hstep,ih hrun]

/-- Where one block ends and the next begins does not matter for the table. -/
theorem run_flatten {t t' : Table limit} {blocks : List (List Representation)}
    {fields : List (List Field)} (h : t.runBlocks blocks = some (t',fields)) :
    t.run blocks.flatten = some (t',fields.flatten) := by
  induction blocks generalizing t fields with
  | nil =>
    simp only [runBlocks,Option.some.injEq,Prod.mk.injEq] at h
    obtain ⟨rfl,rfl⟩ := h
    rfl
  | cons b bs ih =>
    obtain ⟨t₁,fs,t₂,rest,hrun,hrest,hx⟩ := runBlocks_cons h
    simp only [Prod.mk.injEq] at hx
    obtain ⟨rfl,rfl⟩ := hx
    exact run_append hrun (ih hrest)

end Table

end Tables

end Hpack
end AntiScrapling
