import AntiScrapling.ByteCodec
import AntiScrapling.UnicodeText

/-! Paths in URLs: percent coding, and the way of a path through a URL and back, as
`net/url` documents them. -/
namespace AntiScrapling
namespace UrlPath

open ByteCodec UnicodeText

section Coding

def isAlphanum (b : UInt8) : Bool :=
  let n := b.toNat
  decide (48 ≤ n ∧ n ≤ 57 ∨ 65 ≤ n ∧ n ≤ 90 ∨ 97 ≤ n ∧ n ≤ 122)

/-- Bytes of a path that are not written as they are. -/
def shouldEscape (b : UInt8) : Bool := !(isAlphanum b || (utf8 "-_.~$&+,/:;=@").contains b)

def upperHex (n : ℕ) : UInt8 := UInt8.ofNat (if n < 10 then 48+n else 55+n)

def unhex (b : UInt8) : Option ℕ :=
  let n := b.toNat
  if 48 ≤ n ∧ n ≤ 57 then some (n-48)
  else if 97 ≤ n ∧ n ≤ 102 then some (n-87)
  else if 65 ≤ n ∧ n ≤ 70 then some (n-55)
  else none

def escapeByte (b : UInt8) : Bytes :=
  if shouldEscape b then [37,upperHex (b.toNat/16),upperHex (b.toNat%16)] else [b]

def escape (p : Bytes) : Bytes := p.flatMap escapeByte

/-- A percent sign must have two hexadecimal digits behind it. -/
def unescape : Bytes → Option Bytes
  | [] => some []
  | b::rest =>
    if b = 37 then
      match rest with
      | hi::lo::rest => do
        let hi ← unhex hi
        let lo ← unhex lo
        let rest ← unescape rest
        some (UInt8.ofNat (hi*16+lo)::rest)
      | _ => none
    else (unescape rest).map (b::·)

theorem unhex_upperHex {n : ℕ} (hn : n < 16) : unhex (upperHex n) = some n := by
  have h : ∀ m : Fin 16, unhex (upperHex m) = some m.val := by decide
  exact h ⟨n,hn⟩

theorem unescape_cons {b : UInt8} (hb : b ≠ 37) (rest : Bytes) :
    unescape (b::rest) = (unescape rest).map (b::·) := by
  rw [unescape.eq_def]
  exact if_neg hb

theorem unescape_escapeByte (b : UInt8) (rest : Bytes) :
    unescape (escapeByte b++rest) = (unescape rest).map (b::·) := by
  have hb := b.toNat_lt
  have hbyte : UInt8.ofNat (b.toNat/16*16+b.toNat%16) = b := by
    rw [Nat.div_add_mod',UInt8.ofNat_toNat]
  unfold escapeByte
  split_ifs with h
  · rw [List.cons_append,List.cons_append,List.cons_append,List.nil_append,unescape,if_pos rfl]
    simp only [unhex_upperHex (show b.toNat/16 < 16 by omega),
      unhex_upperHex (show b.toNat%16 < 16 by omega),Option.bind_eq_bind,Option.bind_some,hbyte]
    cases unescape rest <;> rfl
  · have hne : b ≠ 37 := by
      rintro rfl
      exact h (by decide)
    exact unescape_cons hne rest

theorem unescape_escape (p : Bytes) : unescape (escape p) = some p := by
  induction p with
  | nil => rfl
  | cons b p ih =>
    rw [escape,List.flatMap_cons,unescape_escapeByte]
    show (unescape (escape p)).map (b::·) = _
    rw [ih]
    rfl

theorem unescape_plain {p : Bytes} (h : 37 ∉ p) : unescape p = some p := by
  induction p with
  | nil => rfl
  | cons b p ih =>
    rw [List.mem_cons,not_or] at h
    rw [unescape_cons (Ne.symm h.1),ih h.2]
    rfl

/-- Three bytes become one, so a path with a coded byte gets shorter. -/
theorem unescape_length {p q : Bytes} (h : unescape p = some q) :
    q.length ≤ p.length ∧ (37 ∈ p → q.length < p.length) := by
  induction p using unescape.induct generalizing q with
  | case1 =>
    obtain rfl : [] = q := by simpa [unescape] using h
    simp
  | case2 hi lo rest ih =>
    rw [unescape,if_pos rfl] at h
    simp only [Option.bind_eq_bind,Option.bind_eq_some_iff,Option.some.injEq] at h
    obtain ⟨x,-,y,-,tail,htail,rfl⟩ := h
    have := (ih htail).1
    simp only [List.length_cons]
    omega
  | case3 rest hshort =>
    rw [unescape,if_pos rfl] at h
    · cases h
    · exact hshort
  | case4 b rest hb ih =>
    rw [unescape_cons hb,Option.map_eq_some_iff] at h
    obtain ⟨tail,htail,rfl⟩ := h
    obtain ⟨hle,hlt⟩ := ih htail
    refine ⟨by simp only [List.length_cons]; omega,?_⟩
    intro hmem
    have hrest : 37 ∈ rest := by
      rcases List.mem_cons.mp hmem with heq | hmem
      · exact absurd heq.symm hb
      · exact hmem
    have := hlt hrest
    simp only [List.length_cons]
    omega

theorem slash_notMem_escapeByte {b : UInt8} (hb : b ≠ 47) : 47 ∉ escapeByte b := by
  have h : ∀ b : UInt8, b ≠ 47 → 47 ∉ escapeByte b := forall_byte (by decide +kernel)
  exact h b hb

theorem escapeByte_ne_nil (b : UInt8) : escapeByte b ≠ [] := by
  unfold escapeByte
  split_ifs <;> exact List.cons_ne_nil _ _

theorem escape_slash (p : Bytes) : escape (47::p) = 47::escape p := rfl

theorem escape_cons (b : UInt8) (p : Bytes) : escape (b::p) = escapeByte b++escape p := rfl

/-- Slashes at the front are written as they are, and nothing else becomes one. -/
theorem slashes_prefix_escape (n : ℕ) (p : Bytes) :
    List.replicate n 47 <+: escape p ↔ List.replicate n 47 <+: p := by
  induction n generalizing p with
  | zero => simp
  | succ n ih =>
    cases p with
    | nil => rfl
    | cons b p =>
      by_cases hb : b = 47
      · subst hb
        rw [escape_slash,List.replicate_succ,List.prefix_cons_inj,List.prefix_cons_inj]
        exact ih p
      · have hplain : ¬ List.replicate (n+1) 47 <+: b::p := fun h =>
          hb (List.cons_prefix_cons.mp h).1.symm
        have hescaped : ¬ List.replicate (n+1) 47 <+: escape (b::p) := by
          rw [escape_cons]
          cases hbytes : escapeByte b with
          | nil => exact absurd hbytes (escapeByte_ne_nil b)
          | cons c cs =>
            intro h
            refine slash_notMem_escapeByte hb ?_
            rw [hbytes,(List.cons_prefix_cons.mp h).1]
            exact List.mem_cons_self
        exact iff_of_false hescaped hplain

theorem dropWhile_escape (p : Bytes) :
    (escape p).dropWhile (· ≠ 47) = escape (p.dropWhile (· ≠ 47)) := by
  induction p with
  | nil => rfl
  | cons b p ih =>
    by_cases hb : b = 47
    · subst hb
      rfl
    · have hskip : ∀ c ∈ escapeByte b, decide (c ≠ 47) = true := fun c hc =>
        decide_eq_true fun heq => slash_notMem_escapeByte hb (heq ▸ hc)
      have hfirst : (b::p).dropWhile (· ≠ 47) = p.dropWhile (· ≠ 47) :=
        List.dropWhile_cons_of_pos (p:=fun x => decide (x ≠ 47)) (decide_eq_true hb)
      rw [escape_cons,List.dropWhile_append_of_pos hskip,ih,hfirst]

end Coding

section Escaped

theorem escape_append (p q : Bytes) : escape (p++q) = escape p++escape q := List.flatMap_append

theorem escape_injective {p q : Bytes} (h : escape p = escape q) : p = q := by
  have hsome := unescape_escape p
  rw [h,unescape_escape] at hsome
  exact (Option.some.inj hsome).symm

theorem escapeByte_front {b c : UInt8} {x y z q : Bytes} (h : c::x++y = escapeByte b++z)
    (hx : unescape (c::x) = some q) : ∃ x', c::x = escapeByte b++x' ∧ x'++y = z := by
  unfold escapeByte at h ⊢
  split_ifs at h ⊢
  · obtain ⟨rfl,htail⟩ := List.cons.inj h
    match x,htail with
    | hi::lo::x',htail =>
      obtain ⟨rfl,hlow⟩ := List.cons.inj htail
      obtain ⟨rfl,hrest⟩ := List.cons.inj hlow
      exact ⟨x',rfl,hrest⟩
    | [],_ => cases hx
    | [_],_ => cases hx
  · obtain ⟨rfl,htail⟩ := List.cons.inj h
    exact ⟨x,rfl,htail⟩

/-- A part in front that can be decoded on its own is the encoding of a part in front. -/
theorem escape_split {p x y q : Bytes} (h : x++y = escape p) (hx : unescape x = some q) :
    x = escape q ∧ ∃ r, p = q++r ∧ y = escape r := by
  induction p generalizing x q with
  | nil =>
    obtain ⟨rfl,rfl⟩ := List.append_eq_nil_iff.mp h
    cases hx
    exact ⟨rfl,[],rfl,rfl⟩
  | cons b p ih =>
    cases x with
    | nil =>
      cases hx
      exact ⟨rfl,b::p,rfl,h⟩
    | cons c x =>
      obtain ⟨x',hxb,hrest⟩ := escapeByte_front h hx
      rw [hxb,unescape_escapeByte,Option.map_eq_some_iff] at hx
      obtain ⟨tail,htail,rfl⟩ := hx
      obtain ⟨rfl,r,rfl,hy⟩ := ih hrest htail
      exact ⟨hxb,r,rfl,hy⟩

/-- The parts of `url.URL` that a proxy rewrites. -/
structure Url where
  scheme : String
  host : String
  path : Bytes
  /-- A hint at the encoding of the path. -/
  rawPath : Bytes
  rawQuery : String
  deriving DecidableEq, Repr

def validEncoded (s : Bytes) : Bool := s.all fun b => (utf8 "!$&'()*+,;=:@[]%").contains b || !shouldEscape b

/-- The hint is used if it is a valid encoding of the path. -/
def Url.HintHolds (u : Url) : Prop :=
  u.rawPath ≠ [] ∧ validEncoded u.rawPath = true ∧ unescape u.rawPath = some u.path

instance Url.decidableHintHolds (u : Url) : Decidable u.HintHolds := inferInstanceAs (Decidable (_ ∧ _ ∧ _))

/-- `EscapedPath`. -/
def Url.escapedPath (u : Url) : Bytes :=
  if u.HintHolds then u.rawPath
  else if u.path = utf8 "*" then u.path
  else escape u.path

theorem Url.escapedPath_congr {u u' : Url} (hpath : u.path = u'.path) (hraw : u.rawPath = u'.rawPath) :
    u.escapedPath = u'.escapedPath := by
  have hhint : u.HintHolds ↔ u'.HintHolds := by
    unfold Url.HintHolds
    rw [hpath,hraw]
  unfold Url.escapedPath
  simp only [hhint,hpath,hraw]

/-- The escaped path, whatever it is, is an encoding of the path. -/
theorem Url.unescape_escapedPath (u : Url) : unescape u.escapedPath = some u.path := by
  unfold Url.escapedPath
  split_ifs with hhint hstar
  · exact hhint.2.2
  · rw [hstar]
    rfl
  · exact unescape_escape u.path

/-- The path fields that `Parse` makes of the path in a text. -/
def Url.setPath (u : Url) (s : Bytes) : Option Url :=
  (unescape s).map fun path => {u with path := path, rawPath := if s = escape path then [] else s}

theorem Url.setPath_hint {u u' : Url} {s : Bytes} (h : u.setPath s = some u') (hraw : u'.rawPath ≠ []) :
    unescape u'.rawPath = some u'.path := by
  obtain ⟨path,hpath,rfl⟩ := Option.map_eq_some_iff.mp h
  change (if s = escape path then [] else s) ≠ [] at hraw
  show unescape (if s = escape path then [] else s) = some path
  split_ifs at hraw ⊢
  · exact absurd rfl hraw
  · exact hpath

end Escaped

section References

def firstSegment (p : Bytes) : Bytes := p.takeWhile (· ≠ 47)

/-- The text of a URL that has only a path; a colon in the first segment would be taken for
the end of a scheme. -/
def urlString (path : Bytes) : Bytes :=
  let escaped := if path = utf8 "*" then path else escape path
  if 58 ∈ firstSegment escaped then utf8 "./"++escaped else escaped

/-- What is wrong with a URL, in the words of `net/url`. -/
structure ParseErrors where
  authority : Bytes → Option String
  escape : Bytes → String

variable (errors : ParseErrors)

def setPath (s : Bytes) : Except String Bytes :=
  match unescape s with
  | some path => .ok path
  | none => .error (errors.escape s)

/-- The path of a URL without scheme, query and fragment. -/
def parsePath (s : Bytes) : Except String Bytes :=
  if s = utf8 "*" then .ok s
  else if utf8 "//" <+: s ∧ ¬ utf8 "///" <+: s then
    let rest := s.drop 2
    match errors.authority (firstSegment rest) with
    | some e => .error e
    | none => setPath errors (rest.drop (firstSegment rest).length)
  else setPath errors s

theorem root_ne_star (rest : Bytes) : 47::rest ≠ utf8 "*" := by
  intro h
  exact absurd (List.cons.inj h).1 (by decide)

theorem urlString_root (rest : Bytes) : urlString (47::rest) = escape (47::rest) := by
  unfold urlString
  rw [if_neg (root_ne_star rest),escape_slash]
  rfl

/-- A path from the root comes back as it is, unless it starts with exactly two slashes:
then the next segment is taken for an authority and only what follows is left. -/
theorem parsePath_root (rest : Bytes) :
    parsePath errors (urlString (47::rest)) =
      if utf8 "//" <+: 47::rest ∧ ¬ utf8 "///" <+: 47::rest then
        (errors.authority (firstSegment (escape rest.tail))).elim
          (.ok (rest.tail.dropWhile (· ≠ 47))) .error
      else .ok (47::rest) := by
  have htwo : utf8 "//" <+: escape (47::rest) ↔ utf8 "//" <+: 47::rest :=
    slashes_prefix_escape 2 (47::rest)
  have hthree : utf8 "///" <+: escape (47::rest) ↔ utf8 "///" <+: 47::rest :=
    slashes_prefix_escape 3 (47::rest)
  rw [urlString_root]
  unfold parsePath setPath
  rw [if_neg (escape_slash rest ▸ root_ne_star (escape rest))]
  simp only [htwo,hthree]
  split_ifs with h
  · obtain ⟨tail,rfl⟩ : ∃ tail, rest = 47::tail := by
      obtain ⟨x,hx⟩ := h.1
      exact ⟨x,(List.cons.inj hx).2.symm⟩
    have hrest : (escape (47::47::tail)).drop 2 = escape tail := rfl
    have hsplit : firstSegment (escape tail)++(escape tail).dropWhile (· ≠ 47) = escape tail :=
      List.takeWhile_append_dropWhile
    have hdrop : (escape tail).drop (firstSegment (escape tail)).length =
        escape (tail.dropWhile (· ≠ 47)) := by
      calc (escape tail).drop (firstSegment (escape tail)).length
          = (firstSegment (escape tail)++(escape tail).dropWhile (· ≠ 47)).drop
              (firstSegment (escape tail)).length := by rw [hsplit]
        _ = (escape tail).dropWhile (· ≠ 47) := List.drop_left
        _ = escape (tail.dropWhile (· ≠ 47)) := dropWhile_escape tail
    rw [hrest,hdrop,unescape_escape,List.tail_cons]
    cases errors.authority (firstSegment (escape tail)) <;> rfl
  · rw [unescape_escape]

theorem parsePath_urlString {rest : Bytes} (h : rest.head? ≠ some 47) :
    parsePath errors (urlString (47::rest)) = .ok (47::rest) := by
  rw [parsePath_root,if_neg]
  rintro ⟨⟨x,hx⟩,-⟩
  refine h ?_
  rw [← (List.cons.inj hx).2]
  rfl

end References

end UrlPath
end AntiScrapling
