import AntiScrapling.CelText
import AntiScrapling.GoText
import Mathlib.Algebra.BigOperators.Group.List.Basic
import Mathlib.Tactic.Ring

/-! Literals of CEL and the simplest operands of its `&&`: names, selections, calls of a
method with a string or a list of strings, numbers, and one comparison of two of these.
What Go quotes is read back as a literal. -/
namespace AntiScrapling
namespace CelText

open Cel GoText

section Strings

def hexVal (c : Char) : Option ℕ :=
  if c.isDigit then some (c.toNat - '0'.toNat)
  else if 'a' ≤ c ∧ c ≤ 'f' then some (c.toNat - 'a'.toNat+10)
  else if 'A' ≤ c ∧ c ≤ 'F' then some (c.toNat - 'A'.toNat+10)
  else none

/-- Hexadecimal digits, read after a value `v`. -/
def hexNumber (v : ℕ) (cs : List Char) : Option ℕ :=
  cs.foldlM (fun v c => (hexVal c).map fun d => 16*v+d) v

def charOf (n : ℕ) : Option Char := if n.isValidChar then some (Char.ofNat n) else none

/-- The character that a number of hexadecimal digits stands for. -/
def readHex (width : ℕ) (cs : List Char) : Option (Char × List Char) :=
  if cs.length < width then none
  else ((hexNumber 0 (cs.take width)).bind charOf).map fun c => (c,cs.drop width)

def octalVal (c : Char) : Option ℕ :=
  if '0' ≤ c ∧ c ≤ '7' then some (c.toNat - '0'.toNat) else none

def readOctal : List Char → Option (Char × List Char)
  | a::b::c::cs => (octalVal a).bind fun x => (octalVal b).bind fun y => (octalVal c).bind fun z =>
    if x ≤ 3 then some (Char.ofNat (64*x+8*y+z),cs) else none
  | _ => none

def namedEscapes : List (Char × Char) :=
  [('a','\x07'),('b','\x08'),('f','\x0c'),('n','\n'),('r','\r'),('t','\t'),('v','\x0b'),
    ('\\','\\'),('"','"'),('\'','\''),('?','?'),('\x60','\x60')]

def readEscape : List Char → Option (Char × List Char)
  | [] => none
  | c::cs => match namedEscapes.lookup c with
    | some d => some (d,cs)
    | none =>
      if c = 'x' ∨ c = 'X' then readHex 2 cs
      else if c = 'u' then readHex 4 cs
      else if c = 'U' then readHex 8 cs
      else readOctal (c::cs)

/-- The characters up to the closing quote, at most as many as there is fuel. -/
def readChars : ℕ → List Char → Option (List Char × List Char)
  | 0,_ => none
  | _+1,[] => none
  | fuel+1,c::cs =>
    if c = '"' then some ([],cs)
    else if c = '\\' then
      (readEscape cs).bind fun r => (readChars fuel r.2).map fun q => (r.1::q.1,q.2)
    else if c = '\n' ∨ c = '\r' then none
    else (readChars fuel cs).map fun q => (c::q.1,q.2)

/-- A string literal in double quotes at the start of a text, and the text after it. -/
def readString : List Char → Option (String × List Char)
  | [] => none
  | c::cs =>
    if c = '"' then (readChars (cs.length+1) cs).map fun r => (String.ofList r.1,r.2) else none

theorem hexVal_hexDigit (n : ℕ) : hexVal (hexDigit n) = some (n%16) := by
  have hall : ∀ i : Fin 16, hexVal (hexDigit i) = some (i : ℕ) := by decide
  rw [← hexDigit_mod]
  exact hall ⟨n%16,Nat.mod_lt n (by decide)⟩

theorem hex_succ (width n : ℕ) : hex (width+1) n = hexDigit (n/16^width)::hex width n := by
  simp [hex,List.range_succ]

theorem hexNumber_hex (width n v : ℕ) :
    hexNumber v (hex width n) = some (v*16^width+n%16^width) := by
  induction width generalizing v with
  | zero => simp [hex,hexNumber,Nat.mod_one]
  | succ width ih =>
    have hstep : hexNumber v (hexDigit (n/16^width)::hex width n) =
        hexNumber (16*v+n/16^width%16) (hex width n) := by
      simp [hexNumber,hexVal_hexDigit]
    rw [hex_succ,hstep,ih,Nat.mod_pow_succ]
    congr 1
    ring

theorem length_hex (width n : ℕ) : (hex width n).length = width := by simp [hex]

theorem charOf_toNat (c : Char) : charOf c.toNat = some c := by
  rw [charOf,if_pos (show c.toNat.isValidChar from c.valid),Char.ofNat_toNat]

theorem readHex_hex (width : ℕ) (c : Char) (h : c.toNat < 16^width) (rest : List Char) :
    readHex width (hex width c.toNat++rest) = some (c,rest) := by
  have htake : (hex width c.toNat++rest).take width = hex width c.toNat :=
    List.take_left' (length_hex width _)
  have hdrop : (hex width c.toNat++rest).drop width = rest := List.drop_left' (length_hex width _)
  rw [readHex,if_neg (by simp [length_hex]),htake,hdrop,hexNumber_hex,Nat.mod_eq_of_lt h]
  simp [charOf_toNat]

theorem length_le_flatMap {α β : Type} {f : α → List β} (h : ∀ x, f x ≠ []) (xs : List α) :
    xs.length ≤ (xs.flatMap f).length := by
  have hsum := List.length_le_sum_of_one_le (xs.map fun x => (f x).length) fun n hn => by
    obtain ⟨x,-,rfl⟩ := List.mem_map.mp hn
    exact List.length_pos_of_ne_nil (h x)
  rwa [List.length_map,← List.length_flatMap] at hsum

/-- What is assumed of the characters that are printed as they are. -/
structure Printable (isPrint : Char → Bool) : Prop where
  newline : isPrint '\n' = false
  carriageReturn : isPrint '\r' = false

inductive Escaped (c : Char) : List Char → Prop
  | plain (hquote : c ≠ '"') (hescape : c ≠ '\\') (hline : ¬(c = '\n' ∨ c = '\r')) : Escaped c [c]
  | named (d : Char) (h : namedEscapes.lookup d = some c) : Escaped c ['\\',d]
  | coded (d : Char) (width : ℕ) (h : (d,width) ∈ [('x',2),('u',4),('U',8)])
    (hlt : c.toNat < 16^width) : Escaped c ('\\'::d::hex width c.toNat)

variable {isPrint : Char → Bool} (hprint : Printable isPrint)
include hprint

theorem escaped_escapeChar (c : Char) : Escaped c (escapeChar isPrint c) := by
  unfold escapeChar
  refine iteInduction (fun h => .named c (by rcases h with rfl | rfl <;> rfl)) fun h => ?_
  rw [not_or] at h
  refine iteInduction (fun hp => .plain h.1 h.2 ?_) fun _ => ?_
  · rintro (rfl | rfl)
    · exact Bool.false_ne_true (hprint.newline.symm.trans hp)
    · exact Bool.false_ne_true (hprint.carriageReturn.symm.trans hp)
  -- The seven control characters with a name of their own.
  iterate 7 refine iteInduction (fun h => .named _ (h ▸ rfl)) fun _ => ?_
  refine iteInduction (fun h => .coded 'x' 2 (by simp) ?_) fun _ => ?_
  · rcases h with hlow | rfl
    · exact Nat.lt_trans hlow (by decide)
    · decide
  refine iteInduction (fun h => .coded 'u' 4 (by simp) h) fun _ => ?_
  exact .coded 'U' 8 (by simp) (Nat.lt_of_lt_of_eq c.val.toNat_lt (by decide))

theorem escapeChar_ne_nil (c : Char) : escapeChar isPrint c ≠ [] := by
  have hescaped := escaped_escapeChar hprint c
  generalize escapeChar isPrint c = cs at hescaped ⊢
  cases hescaped <;> simp

theorem readChars_escape (c : Char) (fuel : ℕ) (rest : List Char) :
    readChars (fuel+1) (escapeChar isPrint c++rest) =
      (readChars fuel rest).map fun q => (c::q.1,q.2) := by
  have hescaped := escaped_escapeChar hprint c
  generalize escapeChar isPrint c = cs at hescaped ⊢
  cases hescaped with
  | plain hquote hescape hline => simp [readChars,hquote,hescape,hline]
  | named d h => simp [readChars,readEscape,h]
  | coded d width h hlt =>
    have hread : readEscape (d::(hex width c.toNat++rest)) = some (c,rest) := by
      have hhex := readHex_hex width c hlt rest
      simp only [List.mem_cons,Prod.mk.injEq,List.not_mem_nil,or_false] at h
      rcases h with ⟨rfl,rfl⟩ | ⟨rfl,rfl⟩ | ⟨rfl,rfl⟩ <;> exact hhex
    simp [readChars,hread]

theorem readChars_escaped (cs : List Char) {fuel : ℕ} (h : cs.length < fuel) (rest : List Char) :
    readChars fuel (cs.flatMap (escapeChar isPrint)++ '"'::rest) = some (cs,rest) := by
  induction cs generalizing fuel with
  | nil =>
    cases fuel with
    | zero => cases h
    | succ fuel => rfl
  | cons c cs ih =>
    cases fuel with
    | zero => cases h
    | succ fuel =>
      rw [List.flatMap_cons,List.append_assoc,readChars_escape hprint,
        ih (Nat.lt_of_succ_lt_succ h)]
      rfl

omit hprint in
theorem toList_quote (s : String) :
    (quote isPrint s).toList = '"'::(s.toList.flatMap (escapeChar isPrint)++['"']) := by
  simp [quote]

/-- A quoted text is a literal of that text. -/
theorem readString_quote (s : String) (rest : List Char) :
    readString ((quote isPrint s).toList++rest) = some (s,rest) := by
  rw [toList_quote]
  simp only [List.cons_append,List.append_assoc,List.nil_append,readString,if_true]
  rw [readChars_escaped hprint]
  · simp
  · have := length_le_flatMap (escapeChar_ne_nil hprint) s.toList
    simp only [List.length_append,List.length_cons]
    omega

end Strings

section Scanning

/-- The characters that are not only passed on outside literals. -/
def markChars : List Char :=
  ['"','\'','/','(','[','\x7b',')',']','\x7d','&','|','?',':']

theorem reads_code {cs : List Char} (h : ∀ c ∈ cs, c ∉ markChars) (word : List Char) (depth : ℕ) :
    ∃ word', Reads ⟨.code word,depth⟩ cs ⟨.code word',depth⟩ := by
  induction cs generalizing word with
  | nil => exact ⟨word,rfl⟩
  | cons c cs ih =>
    have hc := h c List.mem_cons_self
    simp only [markChars,List.mem_cons,List.not_mem_nil,or_false,not_or] at hc
    have hstep : Scanner.step ⟨.code word,depth⟩ c =
        some (⟨.code (if isWordChar c then word++[c] else []),depth⟩,[.char c]) := by
      simp [Scanner.step,codeStep,hc]
    obtain ⟨word',hread⟩ := ih (fun x hx => h x (List.mem_cons_of_mem c hx))
      (if isWordChar c then word++[c] else [])
    refine ⟨word',?_⟩
    rw [Reads] at hread ⊢
    simp [scan,hstep,hread]

theorem reads_line {cs : List Char} (h : ∀ c ∈ cs, c ≠ '"' ∧ c ≠ '\\' ∧ ¬(c = '\n' ∨ c = '\r'))
    (depth : ℕ) : Reads ⟨.line .double false,depth⟩ cs ⟨.line .double false,depth⟩ := by
  induction cs with
  | nil => rfl
  | cons c cs ih =>
    obtain ⟨hquote,hescape,hline⟩ := h c List.mem_cons_self
    have hstep : Scanner.step ⟨.line .double false,depth⟩ c =
        some (⟨.line .double false,depth⟩,[.char c]) := by
      simp [Scanner.step,lineStep,Quote.char,hquote,hescape,hline]
    have hrest := ih fun x hx => h x (List.mem_cons_of_mem c hx)
    rw [Reads] at hrest ⊢
    simp [scan,hstep,hrest]

theorem hex_line {width n : ℕ} {c : Char} (h : c ∈ hex width n) :
    c ≠ '"' ∧ c ≠ '\\' ∧ ¬(c = '\n' ∨ c = '\r') := by
  have hall : ∀ i : Fin 16, hexDigit i ≠ '"' ∧ hexDigit i ≠ '\\' ∧
      ¬(hexDigit i = '\n' ∨ hexDigit i = '\r') := by decide
  obtain ⟨i,-,rfl⟩ := List.mem_map.mp h
  obtain ⟨d,hd⟩ := exists_hexDigit (n/16^i)
  rw [hd]
  exact hall d

variable {isPrint : Char → Bool} (hprint : Printable isPrint)
include hprint

theorem reads_escape (c : Char) (depth : ℕ) :
    Reads ⟨.line .double false,depth⟩ (escapeChar isPrint c) ⟨.line .double false,depth⟩ := by
  have hescaped := escaped_escapeChar hprint c
  generalize escapeChar isPrint c = cs at hescaped ⊢
  cases hescaped with
  | plain hquote hescape hline => exact reads_line (List.forall_mem_singleton.mpr ⟨hquote,hescape,hline⟩) depth
  | named d _ => rfl
  | coded d width _ _ =>
    have hstart : Reads ⟨.line .double false,depth⟩ ['\\',d] ⟨.line .double false,depth⟩ := rfl
    exact hstart.append (reads_line (fun c hc => hex_line hc) depth)

theorem reads_escaped (cs : List Char) (depth : ℕ) :
    Reads ⟨.line .double false,depth⟩ (cs.flatMap (escapeChar isPrint)) ⟨.line .double false,depth⟩ := by
  induction cs with
  | nil => rfl
  | cons c cs ih => exact (reads_escape hprint c depth).append ih

theorem reads_opened (c : Char) (depth : ℕ) :
    Reads ⟨.opened .double false,depth⟩ (escapeChar isPrint c) ⟨.line .double false,depth⟩ := by
  have hread := reads_escape hprint c depth
  have hescaped := escaped_escapeChar hprint c
  generalize escapeChar isPrint c = cs at hread hescaped ⊢
  cases hescaped with
  | plain hquote _ _ =>
    rw [Reads] at hread ⊢
    rw [← hread]
    simp [scan,Scanner.step,Quote.char,hquote]
  | named d _ => rfl
  | coded d width _ _ => exact hread

/-- A quoted text is passed on as it is. -/
theorem reads_quote (s : String) (depth : ℕ) :
    ∃ t : Scanner, t.Settled depth ∧ Reads ⟨.code [],depth⟩ (quote isPrint s).toList t := by
  rw [toList_quote]
  have hopen : Reads ⟨.code [],depth⟩ ['"'] ⟨.opened .double false,depth⟩ := rfl
  cases s.toList with
  | nil =>
    have hclose : Reads ⟨.opened .double false,depth⟩ ['"'] ⟨.closed .double false,depth⟩ := rfl
    exact ⟨_,.closed .double false,hopen.append hclose⟩
  | cons c cs =>
    have hclose : Reads ⟨.line .double false,depth⟩ ['"'] ⟨.code [],depth⟩ := rfl
    have hread := ((reads_opened hprint c depth).append (reads_escaped hprint cs depth)).append hclose
    exact ⟨_,.code [],hopen.append hread⟩

theorem newline_notMem_quote (s : String) : '\n' ∉ (quote isPrint s).toList := by
  rw [toList_quote]
  simp only [List.mem_cons,Char.reduceEq,false_or,List.mem_append,List.mem_flatMap,or_false,
    List.not_mem_nil]
  rintro ⟨c,-,hmem⟩
  have hescaped := escaped_escapeChar hprint c
  generalize escapeChar isPrint c = cs at hescaped hmem
  cases hescaped with
  | plain _ _ hline => exact hline (.inl (List.mem_singleton.mp hmem).symm)
  | named d h =>
    have hd : '\n' = d := by simpa using hmem
    subst hd
    cases h
  | coded d width h _ =>
    simp only [List.mem_cons,Char.reduceEq,false_or] at hmem
    rcases hmem with rfl | hmem
    · simp at h
    · exact (hex_line hmem).2.2 (.inl rfl)

omit hprint in
theorem Scanner.Settled.comma {s : Scanner} {depth : ℕ} (h : s.Settled depth) :
    Reads s [',',' '] ⟨.code [],depth⟩ := by
  cases h with
  | code word => cases depth <;> rfl
  | closed q raw => cases q <;> cases depth <;> rfl

omit hprint in
theorem Scanner.Settled.close {s : Scanner} {depth : ℕ} (h : s.Settled (depth+1)) {c : Char}
    (hc : c = ')' ∨ c = ']') : Reads s [c] ⟨.code [],depth⟩ := by
  rcases hc with rfl | rfl <;> cases h with
  | code word => rfl
  | closed q raw => cases q <;> rfl

theorem reads_moreQuotes (ss : List String) {s : Scanner} {depth : ℕ} (hs : s.Settled depth) :
    ∃ t : Scanner, t.Settled depth ∧
      Reads s (ss.flatMap fun t => [',',' ']++(quote isPrint t).toList) t := by
  induction ss generalizing s with
  | nil => exact ⟨s,hs,rfl⟩
  | cons x ss ih =>
    obtain ⟨t,ht,hread⟩ := reads_quote hprint x depth
    obtain ⟨u,hu,hrest⟩ := ih ht
    exact ⟨u,hu,(hs.comma.append hread).append hrest⟩

theorem reads_quotes (ss : List String) (depth : ℕ) : ∃ t : Scanner, t.Settled depth ∧
    Reads ⟨.code [],depth⟩ ([',',' '].intercalate (ss.map fun s => (quote isPrint s).toList)) t := by
  cases ss with
  | nil => exact ⟨_,.code [],rfl⟩
  | cons s ss =>
    rw [List.map_cons,intercalate_cons,List.flatMap_map]
    obtain ⟨t,ht,hread⟩ := reads_quote hprint s depth
    obtain ⟨u,hu,hrest⟩ := reads_moreQuotes hprint ss ht
    exact ⟨u,hu,hread.append hrest⟩

theorem newline_notMem_quotes (ss : List String) :
    '\n' ∉ [',',' '].intercalate (ss.map fun s => (quote isPrint s).toList) := by
  cases ss with
  | nil => simp
  | cons s ss =>
    rw [List.map_cons,intercalate_cons,List.flatMap_map,List.mem_append,not_or]
    refine ⟨newline_notMem_quote hprint s,fun h => ?_⟩
    obtain ⟨t,-,ht⟩ := List.mem_flatMap.mp h
    simp only [List.cons_append,List.nil_append,List.mem_cons,Char.reduceEq,false_or] at ht
    exact newline_notMem_quote hprint t ht

end Scanning

section Grammar

structure Literals (ν : Type) where
  string : String → ν
  int : ℤ → ν
  bool : Bool → ν

def reservedWords : List String :=
  ["as","break","const","continue","else","false","for","function","if","import","in","let","loop",
    "package","namespace","null","return","true","var","void","while"]

/-- A word that may stand for a variable, a field or a method. -/
def isName (word : List Char) : Bool :=
  word.all isWordChar && !(word.headD '0').isDigit && !reservedWords.contains (String.ofList word)

def decimal (ds : List Char) : ℕ := ds.foldl (fun n c => 10*n+(c.toNat - '0'.toNat)) 0

/-- A number of 64 bits in decimal digits, after its sign. -/
def readInt (negative : Bool) (cs : List Char) : Option (ℤ × List Char) :=
  let ds := cs.takeWhile Char.isDigit
  let n : ℤ := if negative then -decimal ds else decimal ds
  if ds.isEmpty ∨ n < -2^63 ∨ 2^63 ≤ n then none else some (n,cs.dropWhile Char.isDigit)

variable {ν : Type} (lits : Literals ν)

/-- The string literals of a list, up to the closing bracket. -/
def readItems : ℕ → List Char → Option (List (Expr ν) × List Char)
  | 0,_ => none
  | fuel+1,cs => (readString cs).bind fun r =>
    match r.2 with
    | ']'::rest => some ([.const (lits.string r.1)],rest)
    | ',':: ' '::rest => (readItems fuel rest).map fun q => (.const (lits.string r.1)::q.1,q.2)
    | _ => none

/-- The argument of a method: a string literal or a list of them. -/
def readArgument (cs : List Char) : Option (Expr ν × List Char) :=
  match cs with
  | '[':: ']'::rest => some (.call "[_]" [],rest)
  | '['::rest => (readItems lits rest.length rest).map fun r => (.call "[_]" r.1,r.2)
  | _ => (readString cs).map fun r => (.const (lits.string r.1),r.2)

def readMembers : ℕ → Expr ν → List Char → Option (Expr ν × List Char)
  | 0,e,cs => some (e,cs)
  | fuel+1,e,cs =>
    match cs with
    | '.'::cs =>
      let word := cs.takeWhile isWordChar
      if isName word then
        match cs.dropWhile isWordChar with
        | '('::rest => (readArgument lits rest).bind fun r =>
          match r.2 with
          | ')'::rest => readMembers fuel (.call (String.ofList word) [e,r.1]) rest
          | _ => none
        | rest => readMembers fuel (.call "_._" [e,.const (lits.string (String.ofList word))]) rest
      else none
    | cs => some (e,cs)

def readName (cs : List Char) : Option (Expr ν × List Char) :=
  let word := cs.takeWhile isWordChar
  let rest := cs.dropWhile isWordChar
  if word = "true".toList then some (.const (lits.bool true),rest)
  else if word = "false".toList then some (.const (lits.bool false),rest)
  else if isName word then readMembers lits rest.length (.ident (String.ofList word)) rest
  else none

def readNumber (negative : Bool) (cs : List Char) : Option (Expr ν × List Char) :=
  (readInt negative cs).map fun r => (.const (lits.int r.1),r.2)

def readSide : List Char → Option (Expr ν × List Char)
  | [] => none
  | c::cs =>
    if c = '"' then (readString (c::cs)).map fun r => (.const (lits.string r.1),r.2)
    else if c = '!' then (readName lits cs).map fun r => (.call "!_" [r.1],r.2)
    else if c = '-' then readNumber lits true cs
    else if c.isDigit then readNumber lits false (c::cs)
    else readName lits (c::cs)

def comparisons : List String := ["==","!=","<","<=",">",">="]

def readRelation (cs : List Char) : Option (Expr ν) :=
  (readSide lits cs).bind fun r =>
    match r.2 with
    | [] => some r.1
    | ' '::rest =>
      let op := String.ofList (rest.takeWhile (· ≠ ' '))
      if op ∈ comparisons then
        (readSide lits ((rest.dropWhile (· ≠ ' ')).drop 1)).bind fun q =>
          if q.2.isEmpty then some (.call ("_"++op++"_") [r.1,q.1]) else none
      else none
    | _ => none

def trimBlanks (cs : List Char) : List Char :=
  ((cs.dropWhile (· = ' ')).reverse.dropWhile (· = ' ')).reverse

/-- The operands of `&&` of the forms above. -/
def simpleOperand (cs : List Char) : Option (Expr ν) := readRelation lits (trimBlanks cs)

end Grammar

section Reading
variable {ν : Type} (lits : Literals ν)

theorem takeWhile_exact {p : Char → Bool} {word rest : List Char} (hword : ∀ c ∈ word, p c = true)
    (hrest : ∀ c ∈ rest.head?, p c = false) : (word++rest).takeWhile p = word := by
  rw [List.takeWhile_append_of_pos hword]
  cases rest with
  | nil => simp
  | cons c rest => simp [hrest c rfl]

theorem dropWhile_exact {p : Char → Bool} {word rest : List Char} (hword : ∀ c ∈ word, p c = true)
    (hrest : ∀ c ∈ rest.head?, p c = false) : (word++rest).dropWhile p = rest := by
  rw [List.dropWhile_append_of_pos hword]
  cases rest with
  | nil => simp
  | cons c rest => simp [hrest c rfl]

theorem isName_word {word : List Char} (h : isName word = true) : ∀ c ∈ word, isWordChar c = true := by
  simp only [isName,Bool.and_eq_true,List.all_eq_true] at h
  exact h.1.1

def SideEnd (rest : List Char) : Prop := ∀ c ∈ rest.head?, c = ' '

theorem SideEnd.word {rest : List Char} (h : SideEnd rest) : ∀ c ∈ rest.head?, isWordChar c = false := by
  intro c hc
  rw [h c hc]
  rfl

theorem SideEnd.cases {rest : List Char} (h : SideEnd rest) : rest = [] ∨ ∃ xs, rest = ' '::xs := by
  cases rest with
  | nil => exact .inl rfl
  | cons c xs => exact .inr ⟨xs,by rw [h c rfl]⟩

theorem readMembers_end (fuel : ℕ) (e : Expr ν) {rest : List Char} (h : SideEnd rest) :
    readMembers lits fuel e rest = some (e,rest) := by
  cases fuel with
  | zero => rfl
  | succ fuel => rcases h.cases with rfl | ⟨xs,rfl⟩ <;> rfl

theorem readMembers_select (fuel : ℕ) (e : Expr ν) {word rest : List Char} (hword : isName word = true)
    (hrest : ∀ c ∈ rest.head?, isWordChar c = false ∧ c ≠ '(') :
    readMembers lits (fuel+1) e ('.'::(word++rest)) =
      readMembers lits fuel (.call "_._" [e,.const (lits.string (String.ofList word))]) rest := by
  have hend : ∀ c ∈ rest.head?, isWordChar c = false := fun c hc => (hrest c hc).1
  rw [readMembers]
  simp only [takeWhile_exact (isName_word hword) hend,dropWhile_exact (isName_word hword) hend,hword,
    if_true]
  split
  · exact absurd rfl (hrest '(' (by simp)).2
  · rfl

/-- `arg` is the text of an argument. -/
def Argument (arg : List Char) (e : Expr ν) : Prop :=
  ∀ rest, readArgument lits (arg++rest) = some (e,rest)

variable {lits} in
theorem readMembers_call (fuel : ℕ) (e : Expr ν) {word arg : List Char} {a : Expr ν}
    (hword : isName word = true) (harg : Argument lits arg a) (rest : List Char) :
    readMembers lits (fuel+1) e ('.'::(word++ '('::(arg++ ')'::rest))) =
      readMembers lits fuel (.call (String.ofList word) [e,a]) rest := by
  have hend : ∀ c ∈ ('('::(arg++ ')'::rest)).head?, isWordChar c = false := by
    intro c hc
    cases hc
    rfl
  rw [readMembers]
  simp only [takeWhile_exact (isName_word hword) hend,dropWhile_exact (isName_word hword) hend,hword,
    if_true]
  rw [harg (')'::rest)]
  rfl

theorem readName_name {word rest : List Char} (hword : isName word = true)
    (hrest : ∀ c ∈ rest.head?, isWordChar c = false) :
    readName lits (word++rest) = readMembers lits rest.length (.ident (String.ofList word)) rest := by
  have htrue : word ≠ "true".toList := by
    rintro rfl
    revert hword
    decide
  have hfalse : word ≠ "false".toList := by
    rintro rfl
    revert hword
    decide
  rw [readName]
  simp only [takeWhile_exact (isName_word hword) hrest,dropWhile_exact (isName_word hword) hrest]
  rw [if_neg htrue,if_neg hfalse,if_pos hword]

theorem readSide_name {word rest : List Char} (hword : isName word = true)
    (hrest : ∀ c ∈ rest.head?, isWordChar c = false) :
    readSide lits (word++rest) = readMembers lits rest.length (.ident (String.ofList word)) rest := by
  rw [← readName_name lits hword hrest]
  cases word with
  | nil => cases hword
  | cons c word =>
    have hc := isName_word hword c List.mem_cons_self
    have hdigit : c.isDigit = false := by
      simp only [isName,List.headD_cons,Bool.and_eq_true,Bool.not_eq_true'] at hword
      exact hword.1.2
    rw [List.cons_append,readSide,if_neg,if_neg,if_neg,if_neg]
    · simp [hdigit]
    all_goals
      rintro rfl
      cases hc

/-- `cs` is the text of a side. -/
def Side (cs : List Char) (e : Expr ν) : Prop :=
  ∀ rest, SideEnd rest → readSide lits (cs++rest) = some (e,rest)

theorem side_name {word : List Char} (hword : isName word = true) :
    Side lits word (.ident (String.ofList word)) := by
  intro rest hrest
  rw [readSide_name lits hword hrest.word,readMembers_end lits _ _ hrest]

theorem side_not {word : List Char} (hword : isName word = true) :
    Side lits ('!'::word) (.call "!_" [.ident (String.ofList word)]) := by
  intro rest hrest
  have hname := readName_name lits hword hrest.word
  rw [readMembers_end lits _ _ hrest] at hname
  change (readName lits (word++rest)).map _ = _
  rw [hname]
  rfl

theorem side_select {word field : List Char} (hword : isName word = true) (hfield : isName field = true) :
    Side lits (word++ '.'::field)
      (.call "_._" [.ident (String.ofList word),.const (lits.string (String.ofList field))]) := by
  intro rest hrest
  have hdot : ∀ c ∈ ('.'::(field++rest)).head?, isWordChar c = false := by
    intro c hc
    cases hc
    rfl
  have hend : ∀ c ∈ rest.head?, isWordChar c = false ∧ c ≠ '(' := by
    intro c hc
    rw [hrest c hc]
    decide
  rw [List.append_assoc,List.cons_append,readSide_name lits hword hdot,List.length_cons,
    readMembers_select lits _ _ hfield hend,readMembers_end lits _ _ hrest]

variable {lits}

theorem side_call {word method arg : List Char} {a : Expr ν} (hword : isName word = true)
    (hmethod : isName method = true) (harg : Argument lits arg a) :
    Side lits (word++ '.'::(method++ '('::(arg++[')'])))
      (.call (String.ofList method) [.ident (String.ofList word),a]) := by
  intro rest hrest
  have hdot : ∀ c ∈ ('.'::(method++ '('::(arg++ ')'::rest))).head?, isWordChar c = false := by
    intro c hc
    cases hc
    rfl
  have htext : word++ '.'::(method++ '('::(arg++[')']))++rest =
      word++ '.'::(method++ '('::(arg++ ')'::rest)) := by simp
  rw [htext,readSide_name lits hword hdot,List.length_cons,readMembers_call _ _ hmethod harg,
    readMembers_end lits _ _ hrest]

theorem side_select_call {word field method arg : List Char} {a : Expr ν} (hword : isName word = true)
    (hfield : isName field = true) (hmethod : isName method = true) (harg : Argument lits arg a) :
    Side lits (word++ '.'::(field++ '.'::(method++ '('::(arg++[')']))))
      (.call (String.ofList method) [.call "_._"
        [.ident (String.ofList word),.const (lits.string (String.ofList field))],a]) := by
  intro rest hrest
  have hdot : ∀ xs, ∀ c ∈ ('.'::xs).head?, isWordChar c = false ∧ c ≠ '(' := by
    intro xs c hc
    cases hc
    decide
  have htext : word++ '.'::(field++ '.'::(method++ '('::(arg++[')'])))++rest =
      word++ '.'::(field++ '.'::(method++ '('::(arg++ ')'::rest))) := by simp
  rw [htext,readSide_name lits hword fun c hc => (hdot _ c hc).1,List.length_cons,
    readMembers_select lits _ _ hfield (hdot _),List.length_append,List.length_cons,← Nat.add_assoc,
    readMembers_call _ _ hmethod harg,readMembers_end lits _ _ hrest]

theorem relation_side {a : List Char} {ea : Expr ν} (ha : Side lits a ea) :
    readRelation lits a = some ea := by
  have hread := ha [] (by simp [SideEnd])
  rw [List.append_nil] at hread
  rw [readRelation,hread]
  rfl

theorem comparison_chars {op : String} (hop : op ∈ comparisons) :
    ∀ c ∈ op.toList, decide (c ≠ ' ') = true := by
  have hall : (comparisons.all fun op => op.toList.all fun c => decide (c ≠ ' ')) = true := by decide
  exact List.all_eq_true.mp (List.all_eq_true.mp hall op hop)

theorem blank_head (xs : List Char) : ∀ c ∈ (' '::xs).head?, decide (c ≠ ' ') = false := by
  intro c hc
  cases hc
  rfl

theorem relation_compare {a b : List Char} {op : String} {ea eb : Expr ν} (ha : Side lits a ea)
    (hop : op ∈ comparisons) (hb : Side lits b eb) :
    readRelation lits (a++ ' '::(op.toList++ ' '::b)) = some (.call ("_"++op++"_") [ea,eb]) := by
  have hleft := ha (' '::(op.toList++ ' '::b)) (by simp [SideEnd])
  have hright := hb [] (by simp [SideEnd])
  rw [List.append_nil] at hright
  rw [readRelation,hleft,Option.bind_some]
  simp only [takeWhile_exact (comparison_chars hop) (blank_head _),
    dropWhile_exact (comparison_chars hop) (blank_head _),String.ofList_toList,List.drop_succ_cons,
    List.drop_zero,hright]
  rw [if_pos hop]
  rfl

section Strings
variable {isPrint : Char → Bool} (hprint : Printable isPrint)
include hprint

theorem side_string (s : String) : Side lits (quote isPrint s).toList (.const (lits.string s)) := by
  intro rest _
  have hread := readString_quote hprint s rest
  rw [toList_quote,List.cons_append] at hread ⊢
  rw [readSide,if_pos rfl,hread]
  rfl

variable (lits) in
theorem argument_string (s : String) : Argument lits (quote isPrint s).toList (.const (lits.string s)) := by
  intro rest
  have hread := readString_quote hprint s rest
  rw [toList_quote,List.cons_append] at hread ⊢
  change (readString _).map _ = _
  rw [hread]
  rfl

variable (lits) in
theorem readItems_quotes (s : String) (ss : List String) {fuel : ℕ} (h : ss.length < fuel)
    (rest : List Char) :
    readItems lits fuel ((quote isPrint s).toList++
        (ss.flatMap (fun t => [',',' ']++(quote isPrint t).toList)++ ']'::rest)) =
      some ((s::ss).map fun t => .const (lits.string t),rest) := by
  induction ss generalizing s fuel with
  | nil =>
    cases fuel with
    | zero => cases h
    | succ fuel =>
      rw [readItems,readString_quote hprint]
      rfl
  | cons t ss ih =>
    cases fuel with
    | zero => cases h
    | succ fuel =>
      have hrest := ih t (Nat.lt_of_succ_lt_succ h)
      rw [readItems,readString_quote hprint,Option.bind_some]
      simp only [List.flatMap_cons,List.append_assoc,List.cons_append,List.nil_append] at hrest ⊢
      rw [hrest]
      rfl

variable (lits) in
/-- The literals of a list with `, ` between them. -/
theorem argument_list (ss : List String) :
    Argument lits ('['::([',',' '].intercalate (ss.map fun s => (quote isPrint s).toList)++[']']))
      (.call "[_]" (ss.map fun s => .const (lits.string s))) := by
  intro rest
  cases ss with
  | nil => rfl
  | cons s ss =>
    have htext : '['::([',',' '].intercalate ((s::ss).map fun s => (quote isPrint s).toList)++[']'])++rest =
        '['::((quote isPrint s).toList++
          (ss.flatMap (fun t => [',',' ']++(quote isPrint t).toList)++ ']'::rest)) := by
      rw [List.map_cons,intercalate_cons,List.flatMap_map]
      simp
    have hlength : ss.length < ((quote isPrint s).toList++
        (ss.flatMap (fun t => [',',' ']++(quote isPrint t).toList)++ ']'::rest)).length := by
      have := length_le_flatMap (f := fun t => [',',' ']++(quote isPrint t).toList) (by simp) ss
      simp only [List.length_append,List.length_cons] at this ⊢
      omega
    have hitems := readItems_quotes lits hprint s ss hlength rest
    rw [htext]
    rw [toList_quote,List.cons_append] at hitems ⊢
    change (readItems lits _ _).map _ = _
    rw [hitems]
    rfl

end Strings

theorem readInt_digits {negative : Bool} {ds rest : List Char} {n : ℤ} (hds : ∀ d ∈ ds, d.isDigit = true)
    (hne : ds ≠ []) (hn : n = if negative then -(decimal ds : ℤ) else decimal ds)
    (hlow : -2^63 ≤ n) (hhigh : n < 2^63) (hrest : SideEnd rest) :
    readInt negative (ds++rest) = some (n,rest) := by
  have hend : ∀ c ∈ rest.head?, c.isDigit = false := by
    intro c hc
    rw [hrest c hc]
    rfl
  have hempty : ds.isEmpty = false := by cases ds <;> simp_all
  simp only [readInt,takeWhile_exact hds hend,dropWhile_exact hds hend,← hn,hempty]
  rw [if_neg (by simp only [Bool.false_eq_true,false_or]; omega)]

/-- A number with or without a minus sign. -/
theorem side_int {negative : Bool} {ds : List Char} {n : ℤ} (hds : ∀ d ∈ ds, d.isDigit = true)
    (hne : ds ≠ []) (hn : n = if negative then -(decimal ds : ℤ) else decimal ds)
    (hlow : -2^63 ≤ n) (hhigh : n < 2^63) :
    Side lits (if negative then '-'::ds else ds) (.const (lits.int n)) := by
  intro rest hrest
  have hread := readInt_digits hds hne hn hlow hhigh hrest
  cases negative with
  | true =>
    change (readInt true (ds++rest)).map _ = _
    rw [hread]
    rfl
  | false =>
    cases ds with
    | nil => exact absurd rfl hne
    | cons d ds =>
      have hd := hds d List.mem_cons_self
      simp only [Bool.false_eq_true,if_false,List.cons_append] at hread ⊢
      rw [readSide,if_neg,if_neg,if_neg,if_pos hd,readNumber,hread]
      · rfl
      all_goals
        rintro rfl
        cases hd

end Reading

section Blanks
variable {ν : Type} {lits : Literals ν}

theorem trimBlanks_eq {cs : List Char} (hhead : cs.head? ≠ some ' ') (hlast : cs.getLast? ≠ some ' ') :
    trimBlanks cs = cs := by
  have hdrop : ∀ xs : List Char, xs.head? ≠ some ' ' → xs.dropWhile (· = ' ') = xs := by
    intro xs hxs
    cases xs with
    | nil => rfl
    | cons x xs => simp_all
  rw [trimBlanks,hdrop cs hhead,hdrop cs.reverse (by rwa [List.head?_reverse]),List.reverse_reverse]

theorem simpleOperand_blind : Blind (simpleOperand lits) where
  leading cs := by simp [simpleOperand,trimBlanks]
  trailing cs := by
    have htrim : trimBlanks (cs++[' ']) = trimBlanks cs := by
      rw [trimBlanks,trimBlanks,List.dropWhile_append]
      split
      case isTrue h =>
        rw [List.isEmpty_iff.mp h]
        rfl
      case isFalse => simp
    rw [simpleOperand,htrim,simpleOperand]

/-- A grammar of the operands of `&&` that has the simple ones, and no sign `+`. -/
structure Grammar (lits : Literals ν) (rel : List Char → Option (Expr ν)) : Prop extends Blind rel where
  simple : ∀ cs e, simpleOperand lits cs = some e → rel cs = some e
  noPlus : ∀ word op ds, isName word = true → op ∈ comparisons → (∀ d ∈ ds, d.isDigit = true) →
    rel (word++ ' '::(op.toList++ ' ':: '+'::ds)) = none

theorem isName_head {word : List Char} (hword : isName word = true) (rest : List Char) :
    (word++rest).head? ≠ some ' ' := by
  cases word with
  | nil => cases hword
  | cons c word =>
    have hc := isName_word hword c List.mem_cons_self
    rintro h
    cases h
    cases hc

theorem getLast?_side {a op b : List Char} (hb : b ≠ []) :
    (a++ ' '::(op++ ' '::b)).getLast? = b.getLast? := by
  have htext : a++ ' '::(op++ ' '::b) = (a++ ' '::(op++[' ']))++b := by simp
  rw [htext,List.getLast?_append_of_ne_nil _ hb]

theorem simpleOperand_noPlus {word ds : List Char} {op : String} (hword : isName word = true)
    (hop : op ∈ comparisons) (hds : ∀ d ∈ ds, d.isDigit = true) :
    simpleOperand lits (word++ ' '::(op.toList++ ' ':: '+'::ds)) = none := by
  have hlast : (word++ ' '::(op.toList++ ' ':: '+'::ds)).getLast? ≠ some ' ' := by
    rw [getLast?_side (by simp)]
    intro hlast
    rcases List.mem_cons.mp (List.mem_of_getLast? hlast) with h | h
    · cases h
    · cases hds ' ' h
  have hleft := side_name lits hword (' '::(op.toList++ ' ':: '+'::ds)) (by simp [SideEnd])
  rw [simpleOperand,trimBlanks_eq (isName_head hword _) hlast,readRelation,hleft,Option.bind_some]
  simp only [takeWhile_exact (comparison_chars hop) (blank_head _),
    dropWhile_exact (comparison_chars hop) (blank_head _),String.ofList_toList,List.drop_succ_cons,
    List.drop_zero]
  rw [if_pos hop]
  rfl

theorem simpleOperand_grammar (lits : Literals ν) : Grammar lits (simpleOperand lits) where
  toBlind := simpleOperand_blind
  simple _ _ h := h
  noPlus _ _ _ := simpleOperand_noPlus

theorem Grammar.of_relation {rel : List Char → Option (Expr ν)} (h : Grammar lits rel) {cs : List Char}
    {e : Expr ν} (hhead : cs.head? ≠ some ' ') (hlast : cs.getLast? ≠ some ' ')
    (hcs : readRelation lits cs = some e) : rel cs = some e :=
  h.simple cs e (by rw [simpleOperand,trimBlanks_eq hhead hlast,hcs])

theorem Grammar.of_compare {rel : List Char → Option (Expr ν)} (h : Grammar lits rel) {word rest b : List Char}
    {op : String} {ea eb : Expr ν} (hword : isName word = true) (ha : Side lits (word++rest) ea)
    (hop : op ∈ comparisons) (hb : Side lits b eb) (hne : b ≠ []) (hlast : b.getLast? ≠ some ' ') :
    rel (word++rest++ ' '::(op.toList++ ' '::b)) = some (.call ("_"++op++"_") [ea,eb]) := by
  refine h.of_relation ?_ ?_ (relation_compare ha hop hb)
  · rw [List.append_assoc]
    exact isName_head hword _
  · rwa [getLast?_side hne]

end Blanks

section Numbers

theorem uintOfDigits_ok {n m : ℕ} {ds : List Char} (h : uintOfDigits n ds = .ok m) :
    (∀ d ∈ ds, d.isDigit = true) ∧ ds.foldl (fun n c => 10*n+(c.toNat - '0'.toNat)) n = m := by
  induction ds generalizing n with
  | nil =>
    cases h
    exact ⟨by simp,rfl⟩
  | cons d ds ih =>
    rw [uintOfDigits] at h
    split_ifs at h with hd hlt
    obtain ⟨hall,hfold⟩ := ih h
    exact ⟨List.forall_mem_cons.mpr ⟨by simpa using hd,hall⟩,hfold⟩

theorem signedInt_ok {negative : Bool} {ds : List Char} {n : ℤ} (h : signedInt negative ds = .ok n) :
    ds ≠ [] ∧ (∀ d ∈ ds, d.isDigit = true) ∧ (n = if negative then -(decimal ds : ℤ) else decimal ds) ∧
      -2^63 ≤ n ∧ n < 2^63 := by
  have hne : ds ≠ [] := by
    rintro rfl
    cases h
  rw [signedInt,if_neg (by simpa using hne)] at h
  cases hdigits : uintOfDigits 0 ds with
  | error e =>
    rw [hdigits] at h
    cases h
  | ok m =>
    obtain ⟨hall,hm⟩ := uintOfDigits_ok hdigits
    have hdecimal : decimal ds = m := hm
    rw [hdigits] at h
    refine ⟨hne,hall,?_⟩
    rw [hdecimal]
    cases negative with
    | true =>
      simp only [if_true] at h ⊢
      split_ifs at h with hbound
      cases h
      omega
    | false =>
      simp only [Bool.false_eq_true,if_false] at h ⊢
      split_ifs at h with hbound
      cases h
      omega

/-- A number that Go reads has digits after a sign or none. -/
theorem atoi_ok {isPrint : Char → Bool} {s : String} {n : ℤ} (h : atoi isPrint s = .ok n) :
    (∃ ds, s.toList = '+'::ds ∧ signedInt false ds = .ok n) ∨
      ∃ negative ds, s.toList = (if negative then '-'::ds else ds) ∧ signedInt negative ds = .ok n := by
  unfold atoi at h
  split at h
  all_goals
    simp only at h
    split at h
    case h_2 => cases h
    cases h
  · rename_i ds hds _ hm
    exact .inr ⟨true,ds,hds,hm⟩
  · rename_i ds hds _ hm
    exact .inl ⟨ds,hds,hm⟩
  · rename_i hm
    exact .inr ⟨false,s.toList,rfl,hm⟩

end Numbers

end CelText
end AntiScrapling
