import AntiScrapling.MatchText

/-! What match maps mean: the keys of a map as conditions, and the compiled rule as their
conjunction. -/
namespace AntiScrapling
namespace Policy

open UnicodeText GoText CelText

section Shorthands
variable (L : Libraries)

def Comparison.holds : Comparison → ℤ → ℤ → Bool
  | .ge,a,b => decide (a ≥ b)
  | .le,a,b => decide (a ≤ b)
  | .ne,a,b => decide (a ≠ b)
  | .gt,a,b => decide (a > b)
  | .lt,a,b => decide (a < b)
  | .eq,a,b => decide (a = b)

inductive Shorthand
  | path (s : String)
  | pathPrefix (s : String)
  | ja3In (patterns : List String)
  | score (op : Comparison) (n : ℤ)
  | ipCategory (s : String)
  | hasValidToken (b : Bool)

/-- The condition that a match key with its value stands for. -/
inductive Means : String → Yaml → Shorthand → Prop
  | path (s : String) : Means "path" (.str s) (.path s)
  | pathPrefix (s : String) : Means "path_prefix" (.str s) (.pathPrefix s)
  | ja3In (ss : List String) : Means "ja3_in" (.seq (ss.map .str)) (.ja3In ss)
  | score (op : Comparison) (rest : String) (n : ℤ) (h : atoi L.isPrint (trimSpace rest) = .ok n) :
    Means "score" (.str (op.symbol ++ rest)) (.score op n)
  | ipCategory (s : String) : Means "ip_category" (.str s) (.ipCategory s)
  | hasValidToken (b : Bool) : Means "has_valid_token" (.bool b) (.hasValidToken b)

def Shorthand.holds (ctx : EvaluationContext) : Shorthand → Bool
  | .path s => decide (ctx.request.path = s)
  | .pathPrefix s => decide (s.toList <+: ctx.request.path.toList)
  | .ja3In patterns => patterns.any fun p => L.pathMatch (trimPrefix p "@") ctx.ja3 == some true
  | .score op n => op.holds ctx.score n
  | .ipCategory s => decide (ctx.ip.category = s)
  | .hasValidToken b => decide (ctx.hasValidToken = b)

def select (name field : String) : Cel.Expr Value := .call "_._" [.ident name,.const (.string field)]

def Shorthand.expr : Shorthand → Cel.Expr Value
  | .path s => .call "_==_" [select "request" "path",.const (.string s)]
  | .pathPrefix s => .call "startsWith" [select "request" "path",.const (.string s)]
  | .ja3In patterns => .call "matches_family"
    [.ident "ja3",.call "[_]" (patterns.map fun s => .const (.string s))]
  | .score op n => .call ("_" ++ op.symbol ++ "_") [.ident "score",.const (.int n)]
  | .ipCategory s => .call "_==_" [select "ip" "category",.const (.string s)]
  | .hasValidToken b => if b then .ident "has_valid_token" else .call "!_" [.ident "has_valid_token"]

structure StandardCalls (call : Cel.Calls Value) : Prop where
  select : ∀ entries field v, entries.lookup field = some v →
    call "_._" [.map entries,.string field] = .ok v
  equalStrings : ∀ a b, call "_==_" [.string a,.string b] = .ok (.bool (decide (a = b)))
  startsWith : ∀ a b, call "startsWith" [.string a,.string b] = .ok (.bool (decide (b.toList <+: a.toList)))
  compare : ∀ op : Comparison, ∀ a b, call ("_" ++ op.symbol ++ "_") [.int a,.int b] = .ok (.bool (op.holds a b))
  not : ∀ b, call "!_" [.bool b] = .ok (.bool !b)
  list : ∀ items, call "[_]" items = .ok (.list items)

variable {L}

theorem evalArgs_consts (env : String → Option Value) (ss : List String) :
    Cel.evalArgs celValues (calls L none) env (ss.map fun s => .const (.string s)) =
      .ok (ss.map Value.string) := by
  induction ss with
  | nil => rfl
  | cons s ss ih =>
    rw [List.map_cons,Cel.evalArgs,ih]
    rfl

theorem eval_select (hcalls : StandardCalls L.call) {env : String → Option Value}
    {name field : String} {entries : List (String × Value)} {v : Value}
    (hname : env name = some (.map entries)) (hfield : entries.lookup field = some v) :
    Cel.eval celValues (calls L none) env (select name field) = .ok v := by
  have hselect : calls L none "_._" [.map entries,.string field] = .ok v := hcalls.select _ _ _ hfield
  simp only [select,Cel.eval,Cel.evalArgs,hname]
  exact hselect

theorem eval_call_two {env : String → Option Value} {f : String} {a b : Cel.Expr Value} {va vb : Value}
    (ha : Cel.eval celValues (calls L none) env a = .ok va)
    (hb : Cel.eval celValues (calls L none) env b = .ok vb) :
    Cel.eval celValues (calls L none) env (.call f [a,b]) = calls L none f [va,vb] := by
  simp only [Cel.eval,Cel.evalArgs,ha,hb]
  rfl

theorem eval_patterns (hcalls : StandardCalls L.call) (env : String → Option Value) (ss : List String) :
    Cel.eval celValues (calls L none) env (.call "[_]" (ss.map fun s => .const (.string s))) =
      .ok (.list (ss.map Value.string)) := by
  rw [Cel.eval,evalArgs_consts]
  exact hcalls.list _

theorem matchesFamilyBinding_strings (ja3 : String) (ss : List String) :
    matchesFamilyBinding L (.string ja3) (.list (ss.map Value.string)) =
      .bool (ss.any fun p => L.pathMatch (trimPrefix p "@") ja3 == some true) := by
  rw [matchesFamilyBinding,List.any_map]
  rfl

theorem eval_expr (hcalls : StandardCalls L.call) (ctx : EvaluationContext) (sh : Shorthand) :
    Cel.eval celValues (calls L none) (buildActivation ctx) sh.expr = .ok (.bool (sh.holds L ctx)) := by
  have hpath := eval_select hcalls (rfl : buildActivation ctx "request" = some (.map _))
    (rfl : List.lookup "path" _ = some (.string ctx.request.path))
  have hcategory := eval_select hcalls (rfl : buildActivation ctx "ip" = some (.map _))
    (rfl : List.lookup "category" _ = some (.string ctx.ip.category))
  cases sh with
  | path s => exact (eval_call_two hpath rfl).trans (hcalls.equalStrings _ _)
  | pathPrefix s => exact (eval_call_two hpath rfl).trans (hcalls.startsWith _ _)
  | ja3In patterns =>
    rw [Shorthand.expr,eval_call_two rfl (eval_patterns hcalls _ patterns)]
    exact congrArg Except.ok (matchesFamilyBinding_strings ctx.ja3 patterns)
  | score op n =>
    rw [Shorthand.expr,eval_call_two rfl rfl]
    refine Eq.trans ?_ (hcalls.compare op ctx.score n)
    cases op <;> rfl
  | ipCategory s => exact (eval_call_two hcategory rfl).trans (hcalls.equalStrings _ _)
  | hasValidToken b =>
    cases b with
    | true =>
      change Except.ok (Value.bool ctx.hasValidToken) = _
      cases h : ctx.hasValidToken <;> simp [Shorthand.holds,h]
    | false =>
      refine Eq.trans (hcalls.not ctx.hasValidToken) ?_
      cases h : ctx.hasValidToken <;> simp [Shorthand.holds,h]

theorem trimSpace_equals (xs : List Char) :
    ∃ ys, (trimSpace (String.ofList ('='::xs))).toList = '='::ys := by
  have hspace : isSpace '=' = false := rfl
  rw [trimSpace,String.toList_ofList,String.toList_ofList,List.dropWhile_cons_of_neg (by simp [hspace]),
    List.reverse_cons,List.dropWhile_append]
  split
  · exact ⟨[],by simp [hspace]⟩
  · exact ⟨_,by rw [List.reverse_append]; rfl⟩

theorem number_head {rest : String} {n : ℤ} (h : atoi L.isPrint (trimSpace rest) = .ok n) :
    rest.toList.head? ≠ some '=' := by
  intro hhead
  obtain ⟨xs,hxs⟩ := List.head?_eq_some_iff.mp hhead
  obtain ⟨ys,hys⟩ := trimSpace_equals xs
  rw [← hxs,String.ofList_toList] at hys
  have hchar := number_chars h '=' (by rw [hys]; exact List.mem_cons_self)
  revert hchar
  decide

def readOperator : List Char → Option (Comparison × List Char)
  | '>':: '='::cs => some (.ge,cs)
  | '<':: '='::cs => some (.le,cs)
  | '!':: '='::cs => some (.ne,cs)
  | '=':: '='::cs => some (.eq,cs)
  | '>'::cs => some (.gt,cs)
  | '<'::cs => some (.lt,cs)
  | _ => none

theorem readOperator_symbol (op : Comparison) {rest : List Char} (h : rest.head? ≠ some '=') :
    readOperator (op.symbol.toList++rest) = some (op,rest) := by
  cases rest with
  | nil => cases op <;> rfl
  | cons c rest =>
    have hc : c ≠ '=' := fun hc => h (congrArg some hc)
    cases op with
    | gt => exact readOperator.eq_5 _ fun cs hcs => hc (List.cons.inj hcs).1
    | lt => exact readOperator.eq_6 _ fun cs hcs => hc (List.cons.inj hcs).1
    | _ => rfl

theorem score_unique {op op' : Comparison} {rest rest' : String} {n n' : ℤ}
    (hn : atoi L.isPrint (trimSpace rest) = .ok n) (hn' : atoi L.isPrint (trimSpace rest') = .ok n')
    (h : op.symbol ++ rest = op'.symbol ++ rest') : op = op' ∧ n = n' := by
  have hread := readOperator_symbol op (number_head hn)
  rw [← String.toList_append,h,String.toList_append,readOperator_symbol op' (number_head hn')] at hread
  obtain ⟨hop,hrest⟩ := Prod.mk.inj (Option.some.inj hread)
  rw [String.toList_inj.mp hrest,hn] at hn'
  exact ⟨hop.symm,Except.ok.inj hn'⟩

theorem Means.unique {key : String} {value : Yaml} {a b : Shorthand} (ha : Means L key value a)
    (hb : Means L key value b) : a = b := by
  suffices h : ∀ key' value', key' = key → value' = value → Means L key' value' b → a = b from
    h key value rfl rfl hb
  intro key' value' hkey hvalue hb'
  clear hb
  cases ha <;> cases hb' <;> try exact absurd hkey (by decide)
  case ja3In.ja3In ss ss' =>
    have hss : ss' = ss := List.map_injective_iff.mpr (fun _ _ h => Yaml.str.inj h) (Yaml.seq.inj hvalue)
    rw [hss]
  case score.score op rest n hn op' rest' n' hn' =>
    obtain ⟨rfl,rfl⟩ := score_unique hn' hn (Yaml.str.inj hvalue)
    rfl
  all_goals
    cases hvalue
    rfl

end Shorthands

section Sample

def plainCalls : Cel.Calls Value
  | "_._",[.map entries,.string field] =>
    (entries.lookup field).elim (.error ("no such key: " ++ field)) .ok
  | "_==_",[.string a,.string b] => .ok (.bool (decide (a = b)))
  | "_==_",[.int a,.int b] => .ok (.bool (decide (a = b)))
  | "_!=_",[.int a,.int b] => .ok (.bool (decide (a ≠ b)))
  | "_<_",[.int a,.int b] => .ok (.bool (decide (a < b)))
  | "_<=_",[.int a,.int b] => .ok (.bool (decide (a ≤ b)))
  | "_>_",[.int a,.int b] => .ok (.bool (decide (a > b)))
  | "_>=_",[.int a,.int b] => .ok (.bool (decide (a ≥ b)))
  | "startsWith",[.string a,.string b] => .ok (.bool (decide (b.toList <+: a.toList)))
  | "!_",[.bool b] => .ok (.bool !b)
  | "[_]",items => .ok (.list items)
  | _,_ => .error "no such overload"

def compileText (text : String) : Except String (Cel.Expr Value) :=
  (parse (simpleOperand literals) text.toList).elim (.error "syntax error") .ok

def textLibraries : Libraries where
  compile := compileText
  program := .ok
  call := plainCalls
  goType _ := "ref.Val"
  pathMatch pattern s := some (pattern == s)
  parseDuration _ := .error "invalid duration"
  isPrint c := decide (' ' ≤ c ∧ c < '\x7f')

theorem textLibraries_conforms : Conforms textLibraries (simpleOperand literals) := by
  intro text ast program hast hprogram
  cases hprogram
  change compileText text = .ok ast at hast
  rw [compileText] at hast
  cases hparse : parse (simpleOperand literals) text.toList with
  | none =>
    rw [hparse] at hast
    cases hast
  | some e =>
    rw [hparse] at hast
    cases hast
    exact ⟨_,rfl,fun _ _ => Iff.rfl⟩

theorem textLibraries_printable : Printable textLibraries.isPrint := ⟨rfl,rfl⟩

theorem plainCalls_standard : StandardCalls plainCalls where
  select entries field v h := by
    change (entries.lookup field).elim _ _ = _
    rw [h]
    rfl
  equalStrings _ _ := rfl
  startsWith _ _ := rfl
  compare op _ _ := by cases op <;> rfl
  not _ := rfl
  list _ := rfl

end Sample

section Conjunction
variable {L : Libraries} {rel : List Char → Option (Cel.Expr Value)}

/-- The rule with one of its keys only. -/
def PolicyRule.only (rule : PolicyRule) (e : String × Yaml) : PolicyRule := ⟨rule.name,single e,rule.action⟩

variable (L) in
/-- A key of a rule, compiled on its own, is true or false for a request. -/
def KeyIs (rule : PolicyRule) (ctx : EvaluationContext) (e : String × Yaml) (b : Bool) : Prop :=
  ∃ cr, compileRule L (rule.only e) = .ok cr ∧ evalProgram L ctx cr = .ok (.bool b)

variable (L rel) in
/-- A text that is true for a request with `&& false` after it: by an operand of `||`, a
branch of `?` or a comment, whatever follows. -/
def TrueAnyway (ctx : EvaluationContext) (text : String) : Prop :=
  ∃ e, parse rel (text ++ " && false").toList = some e ∧ truthIn L ctx e = .ok true

theorem KeyIs.unique {rule : PolicyRule} {ctx : EvaluationContext} {e : String × Yaml} {a b : Bool}
    (ha : KeyIs L rule ctx e a) (hb : KeyIs L rule ctx e b) : a = b := by
  obtain ⟨cr,hcr,heval⟩ := ha
  obtain ⟨cr',hcr',heval'⟩ := hb
  rw [hcr] at hcr'
  cases hcr'
  rw [heval] at heval'
  cases heval'
  rfl

theorem KeyIs.parse (hL : Conforms L rel) {rule : PolicyRule} {ctx : EvaluationContext}
    {e : String × Yaml} {b : Bool} (h : KeyIs L rule ctx e b) {part : String}
    (hpart : keyValueToExpr L e.1 e.2 = .ok part) :
    ∃ q, CelText.parse rel part.toList = some q ∧ truthIn L ctx q = .ok b := by
  obtain ⟨cr,hcr,heval⟩ := h
  obtain ⟨text,q,htext,hq,htruth⟩ := compileRule_parse hL hcr
  have hsame : matchMapToExpr L (rule.only e).matchMap = .ok part :=
    (matchMapToExpr_single e).trans hpart
  rw [htext] at hsame
  cases hsame
  exact ⟨q,hq,(htruth ctx b).mp heval⟩

theorem parts_operands (hprint : Printable L.isPrint) {es : List (String × Yaml)} {parts : List String}
    (hparts : List.Forall₂ (fun e part => keyValueToExpr L e.1 e.2 = .ok part) es parts)
    (hexpr : ∀ e ∈ es, e.1 ≠ "expr") : ∀ p ∈ parts.map String.toList, Operand p := by
  induction hparts with
  | nil => simp
  | @cons e part es parts hpart hrest ih =>
    rw [List.forall_mem_cons] at hexpr
    rw [List.map_cons,List.forall_mem_cons]
    exact ⟨(keyPart_of_ok hpart).operand hprint hexpr.1,ih hexpr.2⟩

theorem keys_truths (hL : Conforms L rel) (hrel : Blind rel) {rule : PolicyRule} {ctx : EvaluationContext}
    {es : List (String × Yaml)} {parts : List String}
    (hparts : List.Forall₂ (fun e part => keyValueToExpr L e.1 e.2 = .ok part) es parts)
    (hoperands : ∀ p ∈ parts.map String.toList, Operand p) (hkeys : ∀ e ∈ es, ∃ b, KeyIs L rule ctx e b) :
    ∃ (qs : List (Cel.Expr Value)) (bs : List Bool), (parts.map String.toList).mapM rel = some qs ∧
      qs.map (truthIn L ctx) = bs.map .ok ∧ (bs.all id = true ↔ ∀ e ∈ es, KeyIs L rule ctx e true) := by
  induction hparts with
  | nil => exact ⟨[],[],rfl,rfl,by simp⟩
  | @cons e part es parts hpart hrest ih =>
    rw [List.map_cons,List.forall_mem_cons] at hoperands
    rw [List.forall_mem_cons] at hkeys
    obtain ⟨qs,bs,hqs,hbs,hall⟩ := ih hoperands.2 hkeys.2
    obtain ⟨b,hb⟩ := hkeys.1
    obtain ⟨q,hq,hqb⟩ := hb.parse hL hpart
    rw [parse_operand hrel hoperands.1] at hq
    refine ⟨q::qs,b::bs,?_,?_,?_⟩
    · rw [List.map_cons,List.mapM_cons,hq,hqs]
      rfl
    · rw [List.map_cons,List.map_cons,hqb,hbs]
    · rw [List.all_cons,Bool.and_eq_true,hall,List.forall_mem_cons]
      refine and_congr_left fun _ => ⟨fun h => ?_,fun h => hb.unique h⟩
      rw [id] at h
      exact h ▸ hb

theorem parse_false (hG : Grammar literals rel) :
    Operand "false".toList ∧ ["false".toList].mapM rel = some [.const (.bool false)] := by
  have hsimple : simpleOperand literals "false".toList = some (.const (.bool false)) := rfl
  refine ⟨operand_code (by decide),?_⟩
  rw [List.mapM_cons,hG.simple _ _ hsimple]
  rfl

theorem entries_of_sorted_nil {m : StringMap Yaml} (h : sortedEntries m = []) : m.entries = [] := by
  refine List.eq_nil_iff_forall_not_mem.mpr fun e he => ?_
  have hsorted := mem_sortedEntries.mpr he
  rw [h] at hsorted
  cases hsorted

theorem compileRule_empty (hL : Conforms L rel) (hG : Grammar literals rel) {rule : PolicyRule}
    {cr : CompiledRule} (hcr : compileRule L rule = .ok cr) (hm : rule.matchMap.entries = []) :
    (∃ text, matchMapToExpr L rule.matchMap = .ok text ∧
      parse rel text.toList = some (.const (.bool true))) ∧
      ∀ ctx b, evalProgram L ctx cr = .ok (.bool b) ↔ true = b := by
  obtain ⟨text,e,htext,he,htruth⟩ := compileRule_parse hL hcr
  have hsame := htext
  rw [matchMapToExpr,hm] at hsame
  cases hsame
  have hsimple : simpleOperand literals "true".toList = some (.const (.bool true)) := rfl
  have hparse := (parse_operand hG.toBlind (operand_code (by decide))).trans (hG.simple _ _ hsimple)
  refine ⟨⟨_,htext,hparse⟩,fun ctx b => ?_⟩
  rw [hparse] at he
  cases he
  rw [htruth]
  exact ⟨fun h => Except.ok.inj h,fun h => congrArg Except.ok h⟩

theorem toList_and_false (text : String) :
    (text ++ " && false").toList = text.toList++followed ["false".toList] := by
  rw [String.toList_append]
  rfl

/-- The rule against its first key: instead of the other keys any operands may follow it
that are all true where the other keys are. -/
theorem rule_followed (hL : Conforms L rel) (hG : Grammar literals rel) (hprint : Printable L.isPrint)
    {rule : PolicyRule} {cr : CompiledRule} (hcr : compileRule L rule = .ok cr) {ctx : EvaluationContext}
    {e : String × Yaml} {es : List (String × Yaml)} (hsorted : sortedEntries rule.matchMap = e::es)
    (hkeys : ∀ x ∈ rule.matchMap.entries, ∃ b, KeyIs L rule ctx x b) :
    ∃ part, keyValueToExpr L e.1 e.2 = .ok part ∧ (∀ x ∈ es, x.1 ≠ "expr") ∧
      ∀ ps qs (bs : List Bool), (∀ p ∈ ps, Operand p) → ps.mapM rel = some qs →
        qs.map (truthIn L ctx) = bs.map .ok →
        (bs.all id = true ↔ ∀ x ∈ es, KeyIs L rule ctx x true) →
        ∃ c, parse rel (part.toList++followed ps) = some c ∧
          (evalProgram L ctx cr = .ok (.bool true) ↔ truthIn L ctx c = .ok true) := by
  obtain ⟨text,a,htext,ha,htruth⟩ := compileRule_parse hL hcr
  obtain ⟨part,parts,hpart,hparts,hchars⟩ := matchMapToExpr_parts hsorted htext
  have hmem : ∀ x ∈ e::es, x ∈ rule.matchMap.entries := fun x hx =>
    mem_sortedEntries.mp (hsorted ▸ hx)
  have hok : ∀ x ∈ rule.matchMap.entries, ∃ part, keyValueToExpr L x.1 x.2 = .ok part := by
    intro x hx
    obtain ⟨b,cr',hcr',-⟩ := hkeys x hx
    obtain ⟨text',ast,htext',-⟩ := compileRule_ok hcr'
    exact ⟨text',(matchMapToExpr_single x).symm.trans htext'⟩
  have hexpr := expr_first hsorted hok
  have hoperands := parts_operands hprint hparts hexpr
  obtain ⟨qs,bs,hqs,hbs,hall⟩ := keys_truths hL hG.toBlind hparts hoperands
    fun x hx => hkeys x (hmem x (List.mem_cons_of_mem e hx))
  obtain ⟨b,hb⟩ := hkeys e (hmem e List.mem_cons_self)
  obtain ⟨q,hq,-⟩ := hb.parse hL hpart
  refine ⟨part,hpart,hexpr,?_⟩
  intro ps qs' bs' hps hqs' hbs' hall'
  obtain ⟨a',c,ha',hc,hsame⟩ := followed_congr hG.toBlind toBool_ofBool hq hoperands hqs hbs hps
    hqs' hbs' (Bool.eq_iff_iff.mpr (hall.trans hall'.symm))
  rw [← hchars,ha] at ha'
  cases ha'
  have htruths : truthIn L ctx a = truthIn L ctx c := hsame
  exact ⟨c,hc,by rw [htruth,htruths]⟩

/-- The rule is true as its first key is where all other keys are true, and as the key with
`&& false` after it where one of them is false. -/
theorem rule_first_key (hL : Conforms L rel) (hG : Grammar literals rel) (hprint : Printable L.isPrint)
    {rule : PolicyRule} {cr : CompiledRule} (hcr : compileRule L rule = .ok cr) {ctx : EvaluationContext}
    {e : String × Yaml} {es : List (String × Yaml)} (hsorted : sortedEntries rule.matchMap = e::es)
    (hkeys : ∀ x ∈ rule.matchMap.entries, ∃ b, KeyIs L rule ctx x b) :
    ∃ part, keyValueToExpr L e.1 e.2 = .ok part ∧ (∀ x ∈ es, x.1 ≠ "expr") ∧
      ((∀ x ∈ es, KeyIs L rule ctx x true) →
        (evalProgram L ctx cr = .ok (.bool true) ↔ KeyIs L rule ctx e true)) ∧
      (¬ (∀ x ∈ es, KeyIs L rule ctx x true) →
        (evalProgram L ctx cr = .ok (.bool true) ↔ TrueAnyway L rel ctx part)) := by
  obtain ⟨part,hpart,hexpr,hfollowed⟩ := rule_followed hL hG hprint hcr hsorted hkeys
  refine ⟨part,hpart,hexpr,fun htrue => ?_,fun hfalse => ?_⟩
  · obtain ⟨b,hb⟩ := hkeys e (mem_sortedEntries.mp (hsorted ▸ List.mem_cons_self))
    obtain ⟨q,hq,hqb⟩ := hb.parse hL hpart
    obtain ⟨c,hc,heval⟩ := hfollowed [] [] [] (by simp) rfl rfl (iff_of_true rfl htrue)
    rw [followed,List.flatMap_nil,List.append_nil,hq] at hc
    cases hc
    rw [heval,hqb]
    exact ⟨fun h => Except.ok.inj h ▸ hb,fun h => congrArg Except.ok (hb.unique h)⟩
  · have hlast : ∀ p ∈ ["false".toList], Operand p := by simpa using (parse_false hG).1
    obtain ⟨c,hc,heval⟩ := hfollowed _ _ [false] hlast (parse_false hG).2 rfl
      (iff_of_false Bool.false_ne_true hfalse)
    rw [← toList_and_false] at hc
    rw [heval,TrueAnyway,hc]
    constructor
    · exact fun h => ⟨c,rfl,h⟩
    · rintro ⟨c',hc',h⟩
      cases hc'
      exact h

theorem not_trueAnyway (hG : Grammar literals rel) {ctx : EvaluationContext} {part : String}
    (hpart : Operand part.toList) : ¬ TrueAnyway L rel ctx part := by
  rintro ⟨e,he,htrue⟩
  rw [toList_and_false,parse_operands hG.toBlind hpart (by simpa using (parse_false hG).1),andExpr,
    List.mapM_cons,(parse_false hG).2] at he
  cases hq : rel part.toList with
  | none =>
    rw [hq] at he
    cases he
  | some q =>
    rw [hq] at he
    cases he
    have hand : truthIn L ctx (.and q (.const (.bool false))) = _ := truthOf_and toBool_ofBool q _
    rw [show truthOf celValues _ _ (.const (.bool false)) = .ok false from rfl,andResult_false] at hand
    have hsame : Except.ok false = Except.ok true := hand.symm.trans htrue
    cases hsame

/-- The compiled rule is true exactly where every key of its match map is, unless `expr`
is true whatever follows it while another key is false. -/
theorem rule_true_iff_keys (hL : Conforms L rel) (hG : Grammar literals rel)
    (hprint : Printable L.isPrint) {rule : PolicyRule} {cr : CompiledRule}
    (hcr : compileRule L rule = .ok cr) {ctx : EvaluationContext}
    (hkeys : ∀ e ∈ rule.matchMap.entries, ∃ b, KeyIs L rule ctx e b) :
    (evalProgram L ctx cr = .ok (.bool true) ↔ ∀ e ∈ rule.matchMap.entries, KeyIs L rule ctx e true) ↔
      ¬ ∃ text, ("expr",Yaml.str text) ∈ rule.matchMap.entries ∧ TrueAnyway L rel ctx text ∧
        ∃ e ∈ rule.matchMap.entries, e.1 ≠ "expr" ∧ KeyIs L rule ctx e false := by
  cases hsorted : sortedEntries rule.matchMap with
  | nil =>
    have hentries := entries_of_sorted_nil hsorted
    have htrue := ((compileRule_empty hL hG hcr hentries).2 ctx true).mpr rfl
    rw [htrue,hentries]
    simp
  | cons e es =>
    have hmem : ∀ x, x ∈ rule.matchMap.entries ↔ x = e ∨ x ∈ es := fun x => by
      rw [← mem_sortedEntries,hsorted,List.mem_cons]
    obtain ⟨part,hpart,hexpr,htrue,hfalse⟩ := rule_first_key hL hG hprint hcr hsorted hkeys
    have hpartOf := keyPart_of_ok hpart
    -- `expr` is the first key or there is none.
    have hfirst : ∀ text, ("expr",Yaml.str text) ∈ rule.matchMap.entries → e = ("expr",.str text) :=
      fun text htext => ((hmem _).mp htext).elim Eq.symm fun h => absurd rfl (hexpr _ h)
    have hall : (∀ x ∈ rule.matchMap.entries, KeyIs L rule ctx x true) ↔
        KeyIs L rule ctx e true ∧ ∀ x ∈ es, KeyIs L rule ctx x true := by
      simp only [hmem,forall_eq_or_imp]
    rw [hall]
    by_cases hrest : ∀ x ∈ es, KeyIs L rule ctx x true
    · refine iff_of_true ((htrue hrest).trans (and_iff_left hrest).symm) ?_
      rintro ⟨text,htext,-,x,hx,hne,hxf⟩
      rcases (hmem x).mp hx with rfl | hx
      · exact hne (by rw [hfirst text htext])
      · exact Bool.false_ne_true (hxf.unique (hrest x hx))
    · have hnot : ¬ (KeyIs L rule ctx e true ∧ ∀ x ∈ es, KeyIs L rule ctx x true) := fun h => hrest h.2
      rw [hfalse hrest,iff_false_intro hnot,iff_false,not_iff_not]
      by_cases hkey : e.1 = "expr"
      · have he : e = ("expr",.str part) := Prod.ext hkey (hpartOf.of_expr hkey)
        constructor
        · intro hanyway
          obtain ⟨x,hx,hxt⟩ : ∃ x ∈ es, ¬ KeyIs L rule ctx x true := by
            simpa only [not_forall,exists_prop] using hrest
          obtain ⟨b,hb⟩ := hkeys x ((hmem x).mpr (.inr hx))
          cases b with
          | true => exact absurd hb hxt
          | false =>
            exact ⟨part,(hmem _).mpr (.inl he.symm),hanyway,x,(hmem x).mpr (.inr hx),hexpr x hx,hb⟩
        · rintro ⟨text,htext,hanyway,-⟩
          have hsame := he.symm.trans (hfirst text htext)
          cases hsame
          exact hanyway
      · refine iff_of_false (not_trueAnyway hG (hpartOf.operand hprint hkey)) ?_
        rintro ⟨text,htext,-⟩
        exact hkey (by rw [hfirst text htext])

def adminRule : PolicyRule where
  name := "admin"
  matchMap := ⟨[("expr",.str "has_valid_token || score < 50"),("path",.str "/admin")],by decide⟩
  action := "allow"

def visitor : EvaluationContext where
  request := ⟨"GET","/","example.com","curl"⟩
  ip := ⟨"192.0.2.1","datacenter",""⟩
  ja3 := ""
  ja4 := ""
  score := 90
  hasValidToken := true
  signals := .empty

/-- `has_valid_token || score < 50 && request.path == "/admin"`. -/
def adminCompiled : CompiledRule where
  rule := adminRule
  program := .or (.ident "has_valid_token")
    (.and (Shorthand.expr (.score .lt 50)) (Shorthand.expr (.path "/admin")))

theorem adminRule_compiled : compileRule textLibraries adminRule = .ok adminCompiled := by rfl

theorem adminRule_expr : KeyIs textLibraries adminRule visitor
    ("expr",.str "has_valid_token || score < 50") true := ⟨_,rfl,rfl⟩

theorem adminRule_path : KeyIs textLibraries adminRule visitor ("path",.str "/admin") false :=
  ⟨_,rfl,rfl⟩

theorem adminRule_keys :
    ∀ e ∈ adminRule.matchMap.entries, ∃ b, KeyIs textLibraries adminRule visitor e b :=
  List.forall_mem_cons.mpr ⟨⟨_,adminRule_expr⟩,List.forall_mem_singleton.mpr ⟨_,adminRule_path⟩⟩

theorem rule_true_iff_keys_admin :
    (evalProgram textLibraries visitor adminCompiled = .ok (.bool true) ↔
      ∀ e ∈ adminRule.matchMap.entries, KeyIs textLibraries adminRule visitor e true) ↔
      ¬ ∃ text, ("expr",Yaml.str text) ∈ adminRule.matchMap.entries ∧
        TrueAnyway textLibraries (simpleOperand literals) visitor text ∧
        ∃ e ∈ adminRule.matchMap.entries, e.1 ≠ "expr" ∧ KeyIs textLibraries adminRule visitor e false :=
  rule_true_iff_keys textLibraries_conforms (simpleOperand_grammar literals) textLibraries_printable
    adminRule_compiled adminRule_keys

/-- A visitor of `/` passes a rule for `/admin`. -/
theorem expr_escapes_path : Conforms textLibraries (simpleOperand literals) ∧
    compileRule textLibraries adminRule = .ok adminCompiled ∧
    (∀ e ∈ adminRule.matchMap.entries, ∃ b, KeyIs textLibraries adminRule visitor e b) ∧
    ¬ (evalProgram textLibraries visitor adminCompiled = .ok (.bool true) ↔
      ∀ e ∈ adminRule.matchMap.entries, KeyIs textLibraries adminRule visitor e true) := by
  refine ⟨textLibraries_conforms,adminRule_compiled,adminRule_keys,fun h => ?_⟩
  have hpath := h.mp rfl ("path",.str "/admin") (by simp [adminRule])
  exact Bool.false_ne_true (adminRule_path.unique hpath)

end Conjunction

section Compiled
variable {L : Libraries} {rel : List Char → Option (Cel.Expr Value)}

theorem rel_name (hG : Grammar literals rel) {name : String} (hname : isName name.toList = true) :
    rel name.toList = some (.ident name) := by
  have hside := side_name literals hname
  rw [String.ofList_toList] at hside
  have hword := isName_word hname
  refine hG.of_relation ?_ ?_ (relation_side hside)
  · rw [← List.append_nil name.toList]
    exact isName_head hname []
  · intro hlast
    have := hword ' ' (List.mem_of_getLast? hlast)
    cases this

theorem rel_not (hG : Grammar literals rel) {name : String} (hname : isName name.toList = true) :
    rel ("!" ++ name).toList = some (.call "!_" [.ident name]) := by
  have hside := side_not literals hname
  rw [String.ofList_toList] at hside
  have hword := isName_word hname
  have htext : ("!" ++ name).toList = '!'::name.toList := String.toList_append
  rw [htext]
  refine hG.of_relation (by simp) ?_ (relation_side hside)
  intro hlast
  rcases List.mem_cons.mp (List.mem_of_getLast? hlast) with h | h
  · cases h
  · cases hword ' ' h

theorem rel_equals (hG : Grammar literals rel) (hprint : Printable L.isPrint) {name field : String}
    (hname : isName name.toList = true) (hfield : isName field.toList = true) (s : String) :
    rel (name ++ "." ++ field ++ " == " ++ quote L.isPrint s).toList =
      some (.call "_==_" [select name field,.const (.string s)]) := by
  have hquote : (quote L.isPrint s).toList ≠ [] ∧ (quote L.isPrint s).toList.getLast? ≠ some ' ' := by
    rw [toList_quote,← List.cons_append,List.getLast?_concat]
    simp
  have hcompare := hG.of_compare hname (side_select literals hname hfield)
    (by decide : "==" ∈ comparisons) (side_string hprint s) hquote.1 hquote.2
  rw [String.ofList_toList,String.ofList_toList] at hcompare
  have htext : (name ++ "." ++ field ++ " == " ++ quote L.isPrint s).toList =
      name.toList++ '.'::field.toList++ ' '::("==".toList++ ' '::(quote L.isPrint s).toList) := by
    simp
  rw [htext]
  exact hcompare

theorem rel_startsWith (hG : Grammar literals rel) (hprint : Printable L.isPrint) (s : String) :
    rel ("request.path.startsWith(" ++ quote L.isPrint s ++ ")").toList =
      some (.call "startsWith" [select "request" "path",.const (.string s)]) := by
  have hside := side_select_call (by decide : isName "request".toList = true)
    (by decide : isName "path".toList = true) (by decide : isName "startsWith".toList = true)
    (argument_string literals hprint s)
  have htext : ("request.path.startsWith(" ++ quote L.isPrint s ++ ")").toList =
      "request".toList++ '.'::("path".toList++ '.'::("startsWith".toList++
        '('::((quote L.isPrint s).toList++[')']))) := by
    rw [String.toList_append,String.toList_append]
    rfl
  have hlast : ("request.path.startsWith(" ++ quote L.isPrint s ++ ")").toList.getLast? ≠ some ' ' := by
    rw [String.toList_append,show ")".toList = [')'] from rfl,List.getLast?_concat]
    decide
  rw [htext] at hlast ⊢
  exact hG.of_relation (isName_head (by decide) _) hlast (relation_side hside)

theorem rel_matchesFamily (hG : Grammar literals rel) (hprint : Printable L.isPrint) (ss : List String) :
    rel ("ja3.matches_family([" ++ joinQuoted L ss ++ "])").toList = some (.call "matches_family"
      [.ident "ja3",.call "[_]" (ss.map fun s => .const (.string s))]) := by
  have hside := side_call (by decide : isName "ja3".toList = true)
    (by decide : isName "matches_family".toList = true) (argument_list literals hprint ss)
  have htext : ("ja3.matches_family([" ++ joinQuoted L ss ++ "])").toList =
      "ja3".toList++ '.'::("matches_family".toList++ '('::('['::([',',' '].intercalate
        (ss.map fun s => (quote L.isPrint s).toList)++[']'])++[')'])) := by
    simp [toList_joinQuoted]
  have hlast : ("ja3.matches_family([" ++ joinQuoted L ss ++ "])").toList.getLast? ≠ some ' ' := by
    rw [String.toList_append,show "])".toList = [']']++[')'] from rfl,← List.append_assoc,
      List.getLast?_concat]
    decide
  rw [htext] at hlast ⊢
  exact hG.of_relation (isName_head (by decide) _) hlast (relation_side hside)

theorem rel_score (hG : Grammar literals rel) (op : Comparison) {num : String} {n : ℤ}
    (hn : atoi L.isPrint num = .ok n) {e : Cel.Expr Value}
    (he : rel ("score " ++ op.symbol ++ " " ++ num).toList = some e) :
    e = .call ("_" ++ op.symbol ++ "_") [.ident "score",.const (.int n)] := by
  have hname : isName "score".toList = true := by decide
  have htext : ("score " ++ op.symbol ++ " " ++ num).toList =
      "score".toList++ ' '::(op.symbol.toList++ ' '::num.toList) := by simp
  rw [htext] at he
  rcases atoi_ok hn with ⟨ds,hs,hint⟩ | ⟨negative,ds,hs,hint⟩
  · obtain ⟨-,hds,-⟩ := signedInt_ok hint
    rw [hs,hG.noPlus _ _ _ hname op.mem hds] at he
    cases he
  · obtain ⟨hne,hds,hvalue,hlow,hhigh⟩ := signedInt_ok hint
    have hleft : Side literals ("score".toList++[]) (.ident "score") := by
      have hside := side_name literals hname
      rwa [String.ofList_toList,← List.append_nil "score".toList] at hside
    have hright : Side literals num.toList (.const (.int n)) := by
      rw [hs]
      exact side_int hds hne hvalue hlow hhigh
    have hnonempty : num.toList ≠ [] := by
      rw [hs]
      cases negative <;> simp [hne]
    have hlast : num.toList.getLast? ≠ some ' ' := by
      intro hlast
      have hchar := number_chars hn ' ' (List.mem_of_getLast? hlast)
      revert hchar
      decide
    have hcompare := hG.of_compare hname hleft op.mem hright hnonempty hlast
    rw [List.append_nil,he] at hcompare
    exact Option.some.inj hcompare

/-- The text of a key is the condition that the key stands for. -/
theorem KeyPart.meaning (hG : Grammar literals rel) (hprint : Printable L.isPrint) {key part : String}
    {value : Yaml} (h : KeyPart L key value part) (hkey : key ≠ "expr") {e : Cel.Expr Value}
    (he : rel part.toList = some e) : ∃ sh, Means L key value sh ∧ e = sh.expr := by
  cases h with
  | expr s => exact absurd rfl hkey
  | path s =>
    have hrel := rel_equals hG hprint (by decide : isName "request".toList = true)
      (by decide : isName "path".toList = true) s
    exact ⟨.path s,.path s,Option.some.inj (he.symm.trans hrel)⟩
  | pathPrefix s =>
    exact ⟨.pathPrefix s,.pathPrefix s,Option.some.inj (he.symm.trans (rel_startsWith hG hprint s))⟩
  | ja3In ss =>
    exact ⟨.ja3In ss,.ja3In ss,Option.some.inj (he.symm.trans (rel_matchesFamily hG hprint ss))⟩
  | score op rest n hn => exact ⟨.score op n,.score op rest n hn,rel_score hG op hn he⟩
  | ipCategory s =>
    have hrel := rel_equals hG hprint (by decide : isName "ip".toList = true)
      (by decide : isName "category".toList = true) s
    exact ⟨.ipCategory s,.ipCategory s,Option.some.inj (he.symm.trans hrel)⟩
  | hasValidToken b =>
    refine ⟨.hasValidToken b,.hasValidToken b,Option.some.inj (he.symm.trans ?_)⟩
    have hname : isName "has_valid_token".toList = true := by decide
    cases b with
    | true => exact rel_name hG hname
    | false => exact rel_not hG hname

theorem keys_meaning (hG : Grammar literals rel) (hprint : Printable L.isPrint)
    {es : List (String × Yaml)} {parts : List String} {qs : List (Cel.Expr Value)}
    (hparts : List.Forall₂ (fun e part => keyValueToExpr L e.1 e.2 = .ok part) es parts)
    (hexpr : ∀ e ∈ es, e.1 ≠ "expr") (hqs : (parts.map String.toList).mapM rel = some qs) :
    ∃ shs : List Shorthand, List.Forall₂ (fun e sh => Means L e.1 e.2 sh) es shs ∧
      qs = shs.map Shorthand.expr := by
  induction hparts generalizing qs with
  | nil =>
    cases hqs
    exact ⟨[],.nil,rfl⟩
  | @cons e part es parts hpart hrest ih =>
    rw [List.map_cons,List.mapM_cons] at hqs
    obtain ⟨q,hq,hqs⟩ := Option.bind_eq_some_iff.mp hqs
    obtain ⟨qs',hqs',hcons⟩ := Option.bind_eq_some_iff.mp hqs
    cases hcons
    obtain ⟨shs,hmeans,rfl⟩ := ih (fun x hx => hexpr x (List.mem_cons_of_mem e hx)) hqs'
    obtain ⟨sh,hsh,rfl⟩ := (keyPart_of_ok hpart).meaning hG hprint (hexpr e List.mem_cons_self) hq
    exact ⟨sh::shs,.cons hsh hmeans,rfl⟩

/-- Conditions with `&&` between them, and `true` if there are none. -/
def conjunction : List (Cel.Expr Value) → Cel.Expr Value
  | [] => .const (.bool true)
  | e::es => es.foldl .and e

theorem truthIn_conjunction (hcalls : StandardCalls L.call) (ctx : EvaluationContext)
    (shs : List Shorthand) : truthIn L ctx (conjunction (shs.map Shorthand.expr)) =
      .ok (shs.all fun sh => sh.holds L ctx) := by
  have htruth : ∀ sh : Shorthand, truthIn L ctx sh.expr = .ok (sh.holds L ctx) :=
    fun sh => truth_eq_ok.mpr (eval_expr hcalls ctx sh)
  cases shs with
  | nil => rfl
  | cons sh shs =>
    have hmap : (shs.map Shorthand.expr).map (truthIn L ctx) =
        (shs.map fun sh => sh.holds L ctx).map .ok := by
      simp [htruth]
    have hfold : truthIn L ctx ((shs.map Shorthand.expr).foldl .and sh.expr) = _ :=
      truthOf_foldl_and toBool_ofBool _ _
    have hall : (shs.map fun sh => sh.holds L ctx).all id = shs.all fun sh => sh.holds L ctx := by
      rw [List.all_map]
      rfl
    rw [List.map_cons,conjunction,hfold,after_bools hmap,hall]
    change (if _ then truthIn L ctx sh.expr else _) = _
    rw [htruth,List.all_cons]
    cases shs.all fun sh => sh.holds L ctx with
    | false => simp
    | true => simp

/-- A rule whose keys are conditions is compiled to their conjunction: every value of the
match map is one literal that stands for it. -/
theorem shorthand_rule_conjunction (hL : Conforms L rel) (hG : Grammar literals rel)
    (hcalls : StandardCalls L.call) (hprint : Printable L.isPrint) {rule : PolicyRule} {cr : CompiledRule}
    (hcr : compileRule L rule = .ok cr) (hkeys : ∀ e ∈ rule.matchMap.entries, e.1 ≠ "expr") :
    (∀ s rest, readString ((quote L.isPrint s).toList++rest) = some (s,rest)) ∧
      ∃ text shs, matchMapToExpr L rule.matchMap = .ok text ∧
        List.Forall₂ (fun e sh => ∀ sh', Means L e.1 e.2 sh' ↔ sh' = sh) (sortedEntries rule.matchMap) shs ∧
        parse rel text.toList = some (conjunction (shs.map Shorthand.expr)) ∧
        ∀ ctx, evalProgram L ctx cr = .ok (.bool (shs.all fun sh => sh.holds L ctx)) := by
  refine ⟨readString_quote hprint,?_⟩
  obtain ⟨text,a,htext,ha,htruth⟩ := compileRule_parse hL hcr
  suffices h : ∃ shs : List Shorthand,
      List.Forall₂ (fun e sh => Means L e.1 e.2 sh) (sortedEntries rule.matchMap) shs ∧
        a = conjunction (shs.map Shorthand.expr) by
    obtain ⟨shs,hmeans,rfl⟩ := h
    refine ⟨text,shs,htext,hmeans.imp fun e sh hsh sh' => ?_,ha,fun ctx => ?_⟩
    · exact ⟨fun h => h.unique hsh,fun h => h ▸ hsh⟩
    · exact (htruth ctx _).mpr (truthIn_conjunction hcalls ctx shs)
  cases hsorted : sortedEntries rule.matchMap with
  | nil =>
    obtain ⟨⟨text',htext',hparse⟩,-⟩ := compileRule_empty hL hG hcr (entries_of_sorted_nil hsorted)
    rw [htext] at htext'
    cases htext'
    exact ⟨[],.nil,Option.some.inj (ha.symm.trans hparse)⟩
  | cons e es =>
    obtain ⟨part,parts,hpart,hparts,hchars⟩ := matchMapToExpr_parts hsorted htext
    have hexpr : ∀ x ∈ e::es, x.1 ≠ "expr" := fun x hx => hkeys x (mem_sortedEntries.mp (hsorted ▸ hx))
    have hall : List.Forall₂ (fun e part => keyValueToExpr L e.1 e.2 = .ok part) (e::es) (part::parts) :=
      .cons hpart hparts
    have hoperands := parts_operands hprint hall hexpr
    rw [List.map_cons,List.forall_mem_cons] at hoperands
    rw [hchars,parse_operands hG.toBlind hoperands.1 hoperands.2,← List.map_cons] at ha
    obtain ⟨qs,hqs,hjoined⟩ := Option.bind_eq_some_iff.mp ha
    obtain ⟨shs,hmeans,rfl⟩ := keys_meaning hG hprint hall hexpr hqs
    refine ⟨shs,hmeans,?_⟩
    cases hmeans with
    | cons _ _ => exact (Option.some.inj hjoined).symm

def quotedRule : PolicyRule where
  name := "quoted"
  matchMap := ⟨[("score",.str ">= -05"),("path",.str "/a\"\\\n|| true")],by decide⟩
  action := "deny"

def quotedCompiled : CompiledRule where
  rule := quotedRule
  program := .and (Shorthand.expr (.path "/a\"\\\n|| true")) (Shorthand.expr (.score .ge (-5)))

theorem quotedRule_compiled : compileRule textLibraries quotedRule = .ok quotedCompiled := by rfl

theorem shorthand_rule_conjunction_quoted :
    (∀ s rest, readString ((quote textLibraries.isPrint s).toList++rest) = some (s,rest)) ∧
      ∃ text shs, matchMapToExpr textLibraries quotedRule.matchMap = .ok text ∧
        List.Forall₂ (fun e sh => ∀ sh', Means textLibraries e.1 e.2 sh' ↔ sh' = sh)
          (sortedEntries quotedRule.matchMap) shs ∧
        parse (simpleOperand literals) text.toList = some (conjunction (shs.map Shorthand.expr)) ∧
        ∀ ctx, evalProgram textLibraries ctx quotedCompiled =
          .ok (.bool (shs.all fun sh => sh.holds textLibraries ctx)) :=
  shorthand_rule_conjunction textLibraries_conforms (simpleOperand_grammar literals) plainCalls_standard
    textLibraries_printable quotedRule_compiled (by simp [quotedRule])

end Compiled

end Policy
end AntiScrapling
