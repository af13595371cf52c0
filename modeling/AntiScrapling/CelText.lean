import AntiScrapling.Cel

/-! The outer structure of a CEL text.  A scanner that knows string literals, line
comments and brackets finds the operators `?`, `:`, `||` and `&&` outside brackets; the
texts between them are the operands, with the usual precedence.  The grammar of an
operand is a parameter. -/
namespace AntiScrapling
namespace CelText

open Cel

section Scanner

/-- What the scanner passes on: the operators outside brackets, and all other characters. -/
inductive Sym
  | char (c : Char)
  | and
  | or
  | question
  | colon

inductive Quote
  | double
  | single

def Quote.char : Quote → Char
  | .double => '"'
  | .single => '\''

inductive Mode
  /-- Outside literals and comments, with the word that is being read. -/
  | code (word : List Char)
  | slash
  | ampersand
  | bar
  | comment
  /-- After the first quote of a literal. -/
  | opened (quote : Quote) (raw : Bool)
  /-- After two quotes: an empty literal, or the start of three quotes. -/
  | closed (quote : Quote) (raw : Bool)
  | line (quote : Quote) (raw : Bool)
  | lineEscape (quote : Quote)
  /-- Between triple quotes, with the number of quotes just read. -/
  | block (quote : Quote) (raw : Bool) (seen : ℕ)
  | blockEscape (quote : Quote)

structure Scanner where
  mode : Mode
  depth : ℕ

def Scanner.start : Scanner := ⟨.code [],0⟩

def isWordChar (c : Char) : Bool := c.isAlphanum || c == '_'

/-- The prefixes of a literal in which a backslash is no escape. -/
def rawWords : List (List Char) :=
  [['r'],['R'],['b','r'],['b','R'],['B','r'],['B','R']]

def codeStep (depth : ℕ) (word : List Char) (c : Char) : Option (Scanner × List Sym) :=
  if c = '"' then some (⟨.opened .double (rawWords.contains word),depth⟩,[.char c])
  else if c = '\'' then some (⟨.opened .single (rawWords.contains word),depth⟩,[.char c])
  else if c = '/' then some (⟨.slash,depth⟩,[])
  else if c = '(' ∨ c = '[' ∨ c = '\x7b' then some (⟨.code [],depth+1⟩,[.char c])
  else if c = ')' ∨ c = ']' ∨ c = '\x7d' then
    if depth = 0 then none else some (⟨.code [],depth-1⟩,[.char c])
  else if depth = 0 ∧ c = '&' then some (⟨.ampersand,depth⟩,[])
  else if depth = 0 ∧ c = '|' then some (⟨.bar,depth⟩,[])
  else if depth = 0 ∧ c = '?' then some (⟨.code [],depth⟩,[.question])
  else if depth = 0 ∧ c = ':' then some (⟨.code [],depth⟩,[.colon])
  else some (⟨.code (if isWordChar c then word++[c] else []),depth⟩,[.char c])

def lineStep (depth : ℕ) (q : Quote) (raw : Bool) (c : Char) : Option (Scanner × List Sym) :=
  if c = q.char then some (⟨.code [],depth⟩,[.char c])
  else if c = '\\' ∧ !raw then some (⟨.lineEscape q,depth⟩,[.char c])
  else if c = '\n' ∨ c = '\r' then none
  else some (⟨.line q raw,depth⟩,[.char c])

def blockStep (depth : ℕ) (q : Quote) (raw : Bool) (seen : ℕ) (c : Char) :
    Option (Scanner × List Sym) :=
  if c = q.char then
    if seen = 2 then some (⟨.code [],depth⟩,[.char c])
    else some (⟨.block q raw (seen+1),depth⟩,[.char c])
  else if c = '\\' ∧ !raw then some (⟨.blockEscape q,depth⟩,[.char c])
  else some (⟨.block q raw 0,depth⟩,[.char c])

def Scanner.step (s : Scanner) (c : Char) : Option (Scanner × List Sym) :=
  match s.mode with
  | .code word => codeStep s.depth word c
  | .slash =>
    if c = '/' then some (⟨.comment,s.depth⟩,[])
    else (codeStep s.depth [] c).map fun r => (r.1,.char '/'::r.2)
  | .ampersand => if c = '&' then some (⟨.code [],s.depth⟩,[.and]) else none
  | .bar => if c = '|' then some (⟨.code [],s.depth⟩,[.or]) else none
  | .comment =>
    -- A comment is a blank of the text.
    if c = '\n' then some (⟨.code [],s.depth⟩,[.char ' ']) else some (⟨.comment,s.depth⟩,[])
  | .opened q raw =>
    if c = q.char then some (⟨.closed q raw,s.depth⟩,[.char c]) else lineStep s.depth q raw c
  | .closed q raw =>
    if c = q.char then some (⟨.block q raw 0,s.depth⟩,[.char c]) else codeStep s.depth [] c
  | .line q raw => lineStep s.depth q raw c
  | .lineEscape q => some (⟨.line q false,s.depth⟩,[.char c])
  | .block q raw seen => blockStep s.depth q raw seen c
  | .blockEscape q => some (⟨.block q false 0,s.depth⟩,[.char c])

def scan : Scanner → List Char → Option (Scanner × List Sym)
  | s,[] => some (s,[])
  | s,c::cs => (s.step c).bind fun r => (scan r.1 cs).map fun q => (q.1,r.2++q.2)

def Scanner.finish (s : Scanner) : Option (List Sym) :=
  if s.depth = 0 then
    match s.mode with
    | .code _ => some []
    | .closed _ _ => some []
    | .comment => some []
    | .slash => some [.char '/']
    | _ => none
  else none

/-- The symbols of a text that the scanner starts to read in a given state. -/
def symbolsFrom (s : Scanner) (cs : List Char) : Option (List Sym) :=
  (scan s cs).bind fun r => r.1.finish.map fun last => r.2++last

end Scanner

section Structure

/-- Operands of `||`, the last of them with its operands of `&&`, and of these the last
one, as far as they are read. -/
structure Chain where
  done : List (List (List Char))
  ands : List (List Char)
  term : List Char

def Chain.empty : Chain := ⟨[],[],[]⟩

def Chain.char (c : Chain) (x : Char) : Chain := ⟨c.done,c.ands,c.term++[x]⟩

def Chain.and (c : Chain) : Chain := ⟨c.done,c.ands++[c.term],[]⟩

def Chain.or (c : Chain) : Chain := ⟨c.done++[c.ands++[c.term]],[],[]⟩

/-- The branches `c ? a :` of a text, the `c ?` of the branch that is being read, and the
operands after them. -/
structure Outline where
  conds : List (Chain × Chain)
  pending : Option Chain
  last : Chain

def Outline.empty : Outline := ⟨[],none,.empty⟩

def Outline.push (o : Outline) : Sym → Option Outline
  | .char x => some ⟨o.conds,o.pending,o.last.char x⟩
  | .and => some ⟨o.conds,o.pending,o.last.and⟩
  | .or => some ⟨o.conds,o.pending,o.last.or⟩
  | .question => match o.pending with
    | none => some ⟨o.conds,some o.last,.empty⟩
    | some _ => none
  | .colon => match o.pending with
    | none => none
    | some c => some ⟨o.conds++[(c,o.last)],none,.empty⟩

def Outline.closed (o : Outline) : Option Outline := if o.pending.isNone then some o else none

def outline (syms : List Sym) : Option Outline := (syms.foldlM Outline.push .empty).bind Outline.closed

variable {ν : Type} (rel : List Char → Option (Expr ν))

def joined (op : Expr ν → Expr ν → Expr ν) : List (Expr ν) → Option (Expr ν)
  | [] => none
  | e::es => some (es.foldl op e)

def andExpr (terms : List (List Char)) : Option (Expr ν) := (terms.mapM rel).bind (joined .and)

def orExpr (groups : List (List (List Char))) : Option (Expr ν) :=
  (groups.mapM (andExpr rel)).bind (joined .or)

def Chain.expr (c : Chain) : Option (Expr ν) := orExpr rel (c.done++[c.ands++[c.term]])

def condExpr : List (Chain × Chain) → Option (Expr ν) → Option (Expr ν)
  | [],last => last
  | (c,a)::conds,last => (c.expr rel).bind fun ec => (a.expr rel).bind fun ea =>
    (condExpr conds last).map (.cond ec ea)

def Outline.expr (o : Outline) : Option (Expr ν) := condExpr rel o.conds (o.last.expr rel)

def parse (cs : List Char) : Option (Expr ν) :=
  ((symbolsFrom .start cs).bind outline).bind (Outline.expr rel)

end Structure

section Reading

theorem scan_append (s : Scanner) (xs ys : List Char) :
    scan s (xs++ys) = (scan s xs).bind fun r => (scan r.1 ys).map fun q => (q.1,r.2++q.2) := by
  induction xs generalizing s with
  | nil => simp [scan]
  | cons x xs ih =>
    rw [List.cons_append,scan,scan]
    cases s.step x with
    | none => rfl
    | some r =>
      simp only [Option.bind_some,ih]
      cases scan r.1 xs with
      | none => rfl
      | some q =>
        simp only [Option.bind_some,Option.map_some,Option.map_map]
        refine Option.map_congr fun p _ => ?_
        simp

theorem symbolsFrom_append {s t : Scanner} {xs : List Char} {out : List Sym}
    (h : scan s xs = some (t,out)) (ys : List Char) :
    symbolsFrom s (xs++ys) = (symbolsFrom t ys).map fun rest => out++rest := by
  rw [symbolsFrom,symbolsFrom,scan_append,h,Option.bind_some]
  cases scan t ys with
  | none => rfl
  | some q => simp [Function.comp_def]

/-- The text `cs` leads from `s` to `t` and has no operator outside brackets. -/
def Reads (s : Scanner) (cs : List Char) (t : Scanner) : Prop := scan s cs = some (t,cs.map .char)

theorem Reads.append {s t u : Scanner} {xs ys : List Char} (hx : Reads s xs t) (hy : Reads t ys u) :
    Reads s (xs++ys) u := by
  rw [Reads] at hx hy ⊢
  simp [scan_append,hx,hy]

/-- Nothing is held back, and a blank goes on with code. -/
inductive Scanner.Settled (depth : ℕ) : Scanner → Prop
  | code (word : List Char) : Settled depth ⟨.code word,depth⟩
  | closed (q : Quote) (raw : Bool) : Settled depth ⟨.closed q raw,depth⟩

structure Operand (cs : List Char) : Prop where
  oneLine : '\n' ∉ cs
  reads : ∃ s : Scanner, s.Settled 0 ∧ Reads .start cs s

theorem Scanner.Settled.finish {s : Scanner} (h : s.Settled 0) : s.finish = some [] := by
  cases h <;> rfl

theorem step_blank {s : Scanner} {last : List Sym} (h : s.finish = some last)
    (hmode : s.mode ≠ .comment) : s.step ' ' = some (.start,last++[.char ' ']) := by
  obtain ⟨mode,depth⟩ := s
  unfold Scanner.finish at h
  split_ifs at h with hdepth
  cases hdepth
  cases mode with
  | comment => exact absurd rfl hmode
  | code word =>
    cases h
    rfl
  | closed q raw =>
    cases h
    cases q <;> rfl
  | slash =>
    cases h
    rfl
  | _ => cases h

theorem scan_comment (depth : ℕ) {cs : List Char} (h : '\n' ∉ cs) :
    scan ⟨.comment,depth⟩ cs = some (⟨.comment,depth⟩,[]) := by
  induction cs with
  | nil => rfl
  | cons c cs ih =>
    rw [List.mem_cons,not_or] at h
    have hstep : Scanner.step ⟨.comment,depth⟩ c = some (⟨.comment,depth⟩,[]) := if_neg (Ne.symm h.1)
    simp [scan,hstep,ih h.2]

/-- A text with ` && ` and an operand after it, for each of the operands. -/
def followed (ps : List (List Char)) : List Char := ps.flatMap fun p => ' ':: '&':: '&':: ' '::p

def operandSyms (p : List Char) : List Sym := .char ' '::.and::.char ' '::p.map .char

theorem symbolsFrom_followed {s : Scanner} {last : List Sym} (h : s.finish = some last)
    (hmode : s.mode ≠ .comment) {ps : List (List Char)} (hps : ∀ p ∈ ps, Operand p) :
    symbolsFrom s (followed ps) = some (last++ps.flatMap operandSyms) := by
  induction ps generalizing s last with
  | nil => simp [followed,symbolsFrom,scan,h]
  | cons p ps ih =>
    obtain ⟨t,ht,hread⟩ := (hps p List.mem_cons_self).reads
    have hoperator : scan s [' ','&','&',' '] = some (.start,last++[.char ' ',.and,.char ' ']) := by
      rw [scan,step_blank h hmode]
      simp [scan,Scanner.step,Scanner.start,codeStep,isWordChar]
    have hrest := ih ht.finish (by cases ht <;> simp) fun q hq => hps q (List.mem_cons_of_mem p hq)
    have htext : followed (p::ps) = [' ','&','&',' ']++(p++followed ps) := by simp [followed]
    rw [htext,symbolsFrom_append hoperator,symbolsFrom_append hread,hrest]
    simp [operandSyms]

theorem intercalate_cons {α : Type} (sep x : List α) (xs : List (List α)) :
    sep.intercalate (x::xs) = x++xs.flatMap fun y => sep++y := by
  induction xs generalizing x with
  | nil => simp
  | cons y ys ih => rw [List.intercalate_cons_cons,ih,List.flatMap_cons,List.append_assoc,List.append_assoc]

theorem newline_notMem_followed {ps : List (List Char)} (hps : ∀ p ∈ ps, Operand p) :
    '\n' ∉ followed ps := by
  intro h
  obtain ⟨p,hp,hmem⟩ := List.mem_flatMap.mp h
  simp only [List.mem_cons,Char.reduceEq,false_or] at hmem
  exact (hps p hp).oneLine hmem

end Reading

section Outlines

/-- The chain after ` && ` and an operand. -/
def Chain.then (c : Chain) (p : List Char) : Chain := ⟨c.done,c.ands++[c.term++[' ']],' '::p⟩

theorem foldlM_chars (cs : List Char) (o : Outline) :
    (cs.map Sym.char).foldlM Outline.push o =
      some ⟨o.conds,o.pending,⟨o.last.done,o.last.ands,o.last.term++cs⟩⟩ := by
  induction cs generalizing o with
  | nil => simp
  | cons c cs ih =>
    simp only [List.map_cons,List.foldlM_cons,Outline.push]
    exact (ih _).trans (by simp [Chain.char])

theorem foldlM_operandSyms (p : List Char) (o : Outline) :
    (operandSyms p).foldlM Outline.push o = some ⟨o.conds,o.pending,o.last.then p⟩ := by
  simp only [operandSyms,List.foldlM_cons,Outline.push]
  exact (foldlM_chars p _).trans (by simp [Chain.char,Chain.and,Chain.then])

theorem foldlM_operands (ps : List (List Char)) (o : Outline) :
    (ps.flatMap operandSyms).foldlM Outline.push o =
      some ⟨o.conds,o.pending,ps.foldl Chain.then o.last⟩ := by
  induction ps generalizing o with
  | nil => rfl
  | cons p ps ih =>
    rw [List.flatMap_cons,List.foldlM_append,foldlM_operandSyms]
    exact ih _

theorem outline_operands {syms : List Sym} {o : Outline} (h : outline syms = some o)
    (ps : List (List Char)) :
    outline (syms++ps.flatMap operandSyms) = some ⟨o.conds,o.pending,ps.foldl Chain.then o.last⟩ := by
  obtain ⟨o',ho',hclosed⟩ := Option.bind_eq_some_iff.mp h
  unfold Outline.closed at hclosed
  split_ifs at hclosed with hpending
  cases hclosed
  rw [outline,List.foldlM_append,ho']
  change ((ps.flatMap operandSyms).foldlM Outline.push o).bind Outline.closed = _
  rw [foldlM_operands,Option.bind_some,Outline.closed,if_pos hpending]

variable {ν : Type} {rel : List Char → Option (Expr ν)}

/-- Blanks around an operand are not part of it. -/
structure Blind (rel : List Char → Option (Expr ν)) : Prop where
  leading : ∀ cs, rel (' '::cs) = rel cs
  trailing : ∀ cs, rel (cs++[' ']) = rel cs

theorem andExpr_congr {ts us : List (List Char)} (h : ts.mapM rel = us.mapM rel) :
    andExpr rel ts = andExpr rel us := by
  rw [andExpr,andExpr,h]

theorem then_terms (hrel : Blind rel) (c : Chain) (ps : List (List Char)) :
    ((ps.foldl Chain.then c).ands++[(ps.foldl Chain.then c).term]).mapM rel =
      (c.ands++[c.term]++ps).mapM rel := by
  induction ps generalizing c with
  | nil => simp
  | cons p ps ih =>
    rw [List.foldl_cons,ih]
    simp [Chain.then,hrel.leading,hrel.trailing]

theorem then_done (c : Chain) (ps : List (List Char)) : (ps.foldl Chain.then c).done = c.done := by
  induction ps generalizing c with
  | nil => rfl
  | cons p ps ih => exact ih _

theorem then_expr (hrel : Blind rel) (c : Chain) (ps : List (List Char)) :
    (ps.foldl Chain.then c).expr rel = orExpr rel (c.done++[c.ands++[c.term]++ps]) := by
  rw [Chain.expr,then_done,orExpr,orExpr,List.mapM_append,List.mapM_append,List.mapM_cons,
    List.mapM_cons,andExpr_congr (then_terms hrel c ps)]

end Outlines

section Meaning
variable {ν : Type}

section Truth
variable (V : Values ν) (calls : Calls ν) (env : String → Option ν)

def truthOf (e : Expr ν) : Except String Bool := truth V (eval V calls env e)

/-- What operands that follow with `&&` make of a truth value. -/
def after (es : List (Expr ν)) (r : Except String Bool) : Except String Bool :=
  (es.map (truthOf V calls env)).foldl andResult r

variable {V calls env}

theorem andResult_false (r : Except String Bool) : andResult r (.ok false) = .ok false := by
  rcases r with e | (_ | _) <;> rfl

theorem andResult_true (r : Except String Bool) : andResult r (.ok true) = r := by
  rcases r with e | (_ | _) <;> rfl

theorem after_bools {es : List (Expr ν)} {bs : List Bool}
    (h : es.map (truthOf V calls env) = bs.map .ok) (r : Except String Bool) :
    after V calls env es r = if bs.all id then r else .ok false := by
  rw [after,h]
  clear h
  induction bs generalizing r with
  | nil => rfl
  | cons b bs ih =>
    rw [List.map_cons,List.foldl_cons,ih]
    cases b with
    | false => simp [andResult_false]
    | true => simp [andResult_true]

variable (hV : ∀ b, V.toBool (V.ofBool b) = some b)
include hV

theorem truth_ofBool (r : Except String Bool) : truth V (r.map V.ofBool) = r := by
  cases r with
  | error e => rfl
  | ok b => simp [truth,Except.map,Except.bind,hV]

theorem truthOf_or (a b : Expr ν) :
    truthOf V calls env (.or a b) = orResult (truthOf V calls env a) (truthOf V calls env b) := by
  simp only [truthOf,eval,truth_ofBool hV]

theorem truthOf_and (a b : Expr ν) :
    truthOf V calls env (.and a b) = andResult (truthOf V calls env a) (truthOf V calls env b) := by
  simp only [truthOf,eval,truth_ofBool hV]

theorem truthOf_foldl_and (es : List (Expr ν)) (e : Expr ν) :
    truthOf V calls env (es.foldl .and e) = after V calls env es (truthOf V calls env e) := by
  induction es generalizing e with
  | nil => rfl
  | cons x es ih =>
    rw [List.foldl_cons,ih,truthOf_and hV]
    rfl

omit hV in
theorem truthOf_cond (c a b : Expr ν) : truthOf V calls env (.cond c a b) =
    (truthOf V calls env c).bind fun t => if t then truthOf V calls env a else truthOf V calls env b := by
  simp only [truthOf,eval]
  cases truth V (eval V calls env c) with
  | error e => rfl
  | ok t => cases t <;> rfl

end Truth

/-- An expression with a hole, of which only the truth value matters. -/
def Congruent (f : Expr ν → Expr ν) : Prop :=
  ∀ (V : Values ν) (calls : Calls ν) (env : String → Option ν), (∀ b, V.toBool (V.ofBool b) = some b) →
    ∀ a b, truthOf V calls env a = truthOf V calls env b →
      truthOf V calls env (f a) = truthOf V calls env (f b)

theorem joined_append {op : Expr ν → Expr ν → Expr ν} {es : List (Expr ν)} {e : Expr ν}
    (h : joined op es = some e) (fs : List (Expr ν)) : joined op (es++fs) = some (fs.foldl op e) := by
  cases es with
  | nil => cases h
  | cons x es =>
    cases h
    simp [joined]

theorem joined_or_last (es : List (Expr ν)) :
    ∃ f, Congruent f ∧ ∀ a, joined Expr.or (es++[a]) = some (f a) := by
  cases es with
  | nil => exact ⟨id,fun _ _ _ _ _ _ h => h,fun _ => rfl⟩
  | cons x es =>
    refine ⟨.or (es.foldl .or x),fun V calls env hV a b h => ?_,fun a => ?_⟩
    · rw [truthOf_or hV,truthOf_or hV,h]
    · simp [joined]

variable {rel : List Char → Option (Expr ν)}

theorem andExpr_append {ts ps : List (List Char)} {e : Expr ν} {es : List (Expr ν)}
    (h : andExpr rel ts = some e) (hps : ps.mapM rel = some es) :
    andExpr rel (ts++ps) = some (es.foldl .and e) := by
  obtain ⟨xs,hxs,hjoined⟩ := Option.bind_eq_some_iff.mp h
  rw [andExpr,List.mapM_append,hxs,hps]
  exact joined_append hjoined es

theorem orExpr_last {done : List (List (List Char))} {ts : List (List Char)} {e : Expr ν}
    (h : orExpr rel (done++[ts]) = some e) : ∃ f t, Congruent f ∧ andExpr rel ts = some t ∧
      ∀ us u, andExpr rel us = some u → orExpr rel (done++[us]) = some (f u) := by
  obtain ⟨xs,hxs,-⟩ := Option.bind_eq_some_iff.mp h
  rw [List.mapM_append] at hxs
  obtain ⟨ds,hds,hxs⟩ := Option.bind_eq_some_iff.mp hxs
  obtain ⟨last,hlast,-⟩ := Option.bind_eq_some_iff.mp hxs
  rw [List.mapM_cons] at hlast
  obtain ⟨t,ht,-⟩ := Option.bind_eq_some_iff.mp hlast
  obtain ⟨f,hf,hjoined⟩ := joined_or_last ds
  refine ⟨f,t,hf,ht,fun us u hu => ?_⟩
  rw [orExpr,List.mapM_append,hds,List.mapM_cons,hu]
  exact hjoined u

theorem condExpr_last {conds : List (Chain × Chain)} {last : Option (Expr ν)} {e : Expr ν}
    (h : condExpr rel conds last = some e) : last.isSome ∧ ∃ f, Congruent f ∧
      ∀ x, condExpr rel conds (some x) = some (f x) := by
  induction conds generalizing e with
  | nil => exact ⟨by rw [show last = some e from h]; rfl,id,fun _ _ _ _ _ _ h => h,fun _ => rfl⟩
  | cons p conds ih =>
    obtain ⟨c,a⟩ := p
    obtain ⟨ec,hc,h⟩ := Option.bind_eq_some_iff.mp h
    obtain ⟨ea,ha,h⟩ := Option.bind_eq_some_iff.mp h
    obtain ⟨rest,hrest,-⟩ := Option.map_eq_some_iff.mp h
    obtain ⟨hlast,f,hf,hexpr⟩ := ih hrest
    refine ⟨hlast,fun x => .cond ec ea (f x),fun V calls env hV x y hxy => ?_,fun x => ?_⟩
    · rw [truthOf_cond,truthOf_cond,hf V calls env hV x y hxy]
    · simp [condExpr,hc,ha,hexpr]

/-- Operands with `&&` between them. -/
theorem parse_operands (hrel : Blind rel) {p : List Char} {ps : List (List Char)} (hp : Operand p)
    (hps : ∀ q ∈ ps, Operand q) : parse rel (p++followed ps) = andExpr rel (p::ps) := by
  obtain ⟨s,hs,hread⟩ := hp.reads
  have hfollowed := symbolsFrom_followed hs.finish (by cases hs <;> simp) hps
  have hstart : outline (p.map .char) = some ⟨[],none,⟨[],[],p⟩⟩ := by
    rw [outline,foldlM_chars]
    rfl
  rw [parse,symbolsFrom_append hread,hfollowed,Option.map_some,Option.bind_some,List.nil_append,
    outline_operands hstart,Option.bind_some,Outline.expr,condExpr,then_expr hrel]
  change orExpr rel [p::ps] = _
  rw [orExpr,List.mapM_cons,List.mapM_nil]
  cases andExpr rel (p::ps) <;> rfl

theorem parse_operand (hrel : Blind rel) {p : List Char} (hp : Operand p) : parse rel p = rel p := by
  have h : parse rel (p++followed []) = andExpr rel [p] := parse_operands hrel hp (by simp)
  rw [followed,List.flatMap_nil,List.append_nil,andExpr,List.mapM_cons,List.mapM_nil] at h
  rw [h]
  cases rel p <;> rfl

/-- What follows a text with `&&` goes next to one of its operands: only there does it
count. -/
theorem parse_followed (hrel : Blind rel) {cs : List Char} {e : Expr ν} (h : parse rel cs = some e) :
    ∃ f t, Congruent f ∧ ∀ ps es, (∀ p ∈ ps, Operand p) → ps.mapM rel = some es →
      parse rel (cs++followed ps) = some (f (es.foldl .and t)) := by
  obtain ⟨o,ho,hexpr⟩ := Option.bind_eq_some_iff.mp h
  obtain ⟨syms,hsyms,ho⟩ := Option.bind_eq_some_iff.mp ho
  obtain ⟨⟨s,out⟩,hscan,hfinish⟩ := Option.bind_eq_some_iff.mp hsyms
  obtain ⟨last,hlast,rfl⟩ := Option.map_eq_some_iff.mp hfinish
  by_cases hmode : s.mode = .comment
  · -- The operands are part of the comment.
    refine ⟨fun _ => e,e,fun _ _ _ _ _ _ _ => rfl,fun ps es hps _ => ?_⟩
    obtain ⟨mode,depth⟩ := s
    cases hmode
    have hrest : symbolsFrom ⟨.comment,depth⟩ (followed ps) = some last := by
      rw [symbolsFrom,scan_comment depth (newline_notMem_followed hps),Option.bind_some,hlast]
      rfl
    rw [parse,symbolsFrom_append hscan,hrest,Option.map_some,Option.bind_some,ho,Option.bind_some,hexpr]
  · obtain ⟨hsome,f,hf,hcond⟩ := condExpr_last hexpr
    obtain ⟨x,hx⟩ := Option.isSome_iff_exists.mp hsome
    obtain ⟨g,t,hg,ht,hor⟩ := orExpr_last hx
    refine ⟨fun a => f (g a),t,fun V calls env hV a b hab =>
      hf V calls env hV _ _ (hg V calls env hV a b hab),fun ps es hps hes => ?_⟩
    rw [parse,symbolsFrom_append hscan,symbolsFrom_followed hlast hmode hps,Option.map_some,
      Option.bind_some,← List.append_assoc,outline_operands ho,Option.bind_some,Outline.expr,
      then_expr hrel,hor _ _ (andExpr_append ht hes),hcond]

/-- Of operands that follow a text only matters whether they are all true. -/
theorem followed_congr (hrel : Blind rel) {V : Values ν} {calls : Calls ν} {env : String → Option ν}
    (hV : ∀ b, V.toBool (V.ofBool b) = some b) {cs : List Char} {e : Expr ν} (h : parse rel cs = some e)
    {ps qs : List (List Char)} {es fs : List (Expr ν)} {as bs : List Bool}
    (hps : ∀ p ∈ ps, Operand p) (hes : ps.mapM rel = some es)
    (has : es.map (truthOf V calls env) = as.map .ok)
    (hqs : ∀ q ∈ qs, Operand q) (hfs : qs.mapM rel = some fs)
    (hbs : fs.map (truthOf V calls env) = bs.map .ok) (hall : as.all id = bs.all id) :
    ∃ a b, parse rel (cs++followed ps) = some a ∧ parse rel (cs++followed qs) = some b ∧
      truthOf V calls env a = truthOf V calls env b := by
  obtain ⟨f,t,hf,hparse⟩ := parse_followed hrel h
  refine ⟨_,_,hparse ps es hps hes,hparse qs fs hqs hfs,hf V calls env hV _ _ ?_⟩
  rw [truthOf_foldl_and hV,truthOf_foldl_and hV,after_bools has,after_bools hbs,hall]

end Meaning

end CelText
end AntiScrapling
