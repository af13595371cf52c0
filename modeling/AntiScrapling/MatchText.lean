import AntiScrapling.CelLiteral
import AntiScrapling.CheckedRun
import AntiScrapling.Policy

/-! The texts that match maps are compiled to: what each key contributes, and how the
joined text is read. -/
namespace AntiScrapling
namespace Policy

open UnicodeText GoText CelText
open CheckedRun (map_eq_ok forall₂_of_mapM)

section Assumptions
variable (L : Libraries)

def literals : Literals Value := ⟨.string,.int,.bool⟩

def truthIn (ctx : EvaluationContext) (e : Cel.Expr Value) : Except String Bool :=
  truthOf celValues (calls L none) (buildActivation ctx) e

/-- cel-go evaluates what it compiles as the text is read, with `rel` for the operands of
`&&`. -/
def Conforms (rel : List Char → Option (Cel.Expr Value)) : Prop :=
  ∀ text ast program, L.compile text = .ok ast → L.program ast = .ok program →
    ∃ e, parse rel text.toList = some e ∧
      ∀ ctx b, truthIn L ctx program = .ok b ↔ truthIn L ctx e = .ok b

theorem truth_eq_ok {r : Except String Value} {b : Bool} :
    Cel.truth celValues r = .ok b ↔ r = .ok (.bool b) := by
  constructor
  · intro h
    cases r with
    | error e => cases h
    | ok v =>
      cases v with
      | bool a =>
        cases h
        rfl
      | _ => cases h
  · intro h
    rw [h]
    rfl

theorem toBool_ofBool (b : Bool) : celValues.toBool (celValues.ofBool b) = some b := rfl

end Assumptions

section Keys
variable {L : Libraries}

inductive Comparison
  | ge
  | le
  | ne
  | gt
  | lt
  | eq

def Comparison.symbol : Comparison → String
  | .ge => ">="
  | .le => "<="
  | .ne => "!="
  | .gt => ">"
  | .lt => "<"
  | .eq => "=="

theorem Comparison.mem (op : Comparison) : op.symbol ∈ comparisons := by cases op <;> decide

variable (L) in
inductive KeyPart : String → Yaml → String → Prop
  | expr (s : String) : KeyPart "expr" (.str s) s
  | path (s : String) : KeyPart "path" (.str s) ("request.path == " ++ quote L.isPrint s)
  | pathPrefix (s : String) :
    KeyPart "path_prefix" (.str s) ("request.path.startsWith(" ++ quote L.isPrint s ++ ")")
  | ja3In (ss : List String) :
    KeyPart "ja3_in" (.seq (ss.map .str)) ("ja3.matches_family([" ++ joinQuoted L ss ++ "])")
  | score (op : Comparison) (rest : String) (n : ℤ) (h : atoi L.isPrint (trimSpace rest) = .ok n) :
    KeyPart "score" (.str (op.symbol ++ rest)) ("score " ++ op.symbol ++ " " ++ trimSpace rest)
  | ipCategory (s : String) : KeyPart "ip_category" (.str s) ("ip.category == " ++ quote L.isPrint s)
  | hasValidToken (b : Bool) :
    KeyPart "has_valid_token" (.bool b) (if b then "has_valid_token" else "!has_valid_token")

theorem stringKey_ok {key hint part : String} {value : Yaml} {f : String → Except String String}
    (h : stringKey key value hint f = .ok part) : ∃ s, value = .str s ∧ f s = .ok part := by
  cases value with
  | str s => exact ⟨s,rfl,h⟩
  | _ => cases h

theorem stringItems_ok {i : ℕ} {items : List Yaml} {ss : List String}
    (h : stringItems i items = .ok ss) : items = ss.map .str := by
  induction items generalizing i ss with
  | nil =>
    cases h
    rfl
  | cons item items ih =>
    cases item with
    | str s =>
      rw [stringItems] at h
      obtain ⟨rest,hrest,rfl⟩ := map_eq_ok.mp h
      rw [List.map_cons,← ih hrest]
    | _ => cases h

theorem toStringSlice_ok {value : Yaml} {ss : List String} (h : toStringSlice value = .ok ss) :
    value = .seq (ss.map .str) := by
  cases value with
  | seq items => rw [stringItems_ok h]
  | _ => cases h

theorem comparison_of_mem {op : String} (h : op ∈ comparisonOps) : ∃ c : Comparison, op = c.symbol := by
  simp only [comparisonOps,List.mem_cons,List.not_mem_nil,or_false] at h
  rcases h with rfl | rfl | rfl | rfl | rfl | rfl
  · exact ⟨.ge,rfl⟩
  · exact ⟨.le,rfl⟩
  · exact ⟨.ne,rfl⟩
  · exact ⟨.gt,rfl⟩
  · exact ⟨.lt,rfl⟩
  · exact ⟨.eq,rfl⟩

theorem parseScoreExpr_ok {s part : String} (h : parseScoreExpr L s = .ok part) :
    ∃ (op : Comparison) (rest : String) (n : ℤ), s = op.symbol ++ rest ∧
      atoi L.isPrint (trimSpace rest) = .ok n ∧ part = "score " ++ op.symbol ++ " " ++ trimSpace rest := by
  unfold parseScoreExpr at h
  cases hfind : comparisonOps.find? fun op => op.toList <+: s.toList with
  | none =>
    rw [hfind] at h
    cases h
  | some op =>
    obtain ⟨c,rfl⟩ := comparison_of_mem (List.mem_of_find?_eq_some hfind)
    have hstart : c.symbol.toList <+: s.toList := by simpa using List.find?_some hfind
    rw [hfind] at h
    simp only at h
    cases hnum : atoi L.isPrint (trimSpace (String.ofList (s.toList.drop c.symbol.length))) with
    | error e =>
      rw [hnum] at h
      cases h
    | ok n =>
      rw [hnum] at h
      cases h
      refine ⟨c,_,n,?_,hnum,rfl⟩
      apply String.toList_inj.mp
      rw [String.toList_append,String.toList_ofList]
      exact (List.prefix_append_drop hstart)

theorem keyPart_of_ok {key part : String} {value : Yaml} (h : keyValueToExpr L key value = .ok part) :
    KeyPart L key value part := by
  unfold keyValueToExpr at h
  -- One key after the other, as in the source.
  rcases ite_eq_iff.mp h with ⟨rfl,h⟩ | ⟨-,h⟩
  · obtain ⟨s,rfl,hs⟩ := stringKey_ok h
    cases hs
    exact .expr _
  rcases ite_eq_iff.mp h with ⟨rfl,h⟩ | ⟨-,h⟩
  · obtain ⟨s,rfl,hs⟩ := stringKey_ok h
    cases hs
    exact .path s
  rcases ite_eq_iff.mp h with ⟨rfl,h⟩ | ⟨-,h⟩
  · obtain ⟨s,rfl,hs⟩ := stringKey_ok h
    cases hs
    exact .pathPrefix s
  rcases ite_eq_iff.mp h with ⟨rfl,h⟩ | ⟨-,h⟩
  · cases hlist : toStringSlice value with
    | error e =>
      rw [hlist] at h
      cases h
    | ok ss =>
      rw [hlist] at h
      cases h
      rw [toStringSlice_ok hlist]
      exact .ja3In ss
  rcases ite_eq_iff.mp h with ⟨rfl,h⟩ | ⟨-,h⟩
  · obtain ⟨s,rfl,hs⟩ := stringKey_ok h
    obtain ⟨op,rest,n,rfl,hn,rfl⟩ := parseScoreExpr_ok hs
    exact .score op rest n hn
  rcases ite_eq_iff.mp h with ⟨rfl,h⟩ | ⟨-,h⟩
  · obtain ⟨s,rfl,hs⟩ := stringKey_ok h
    cases hs
    exact .ipCategory s
  rcases ite_eq_iff.mp h with ⟨rfl,h⟩ | ⟨-,h⟩
  · cases value with
    | bool b =>
      cases h
      exact .hasValidToken b
    | _ => cases h
  · cases h

theorem KeyPart.of_expr {key part : String} {value : Yaml} (h : KeyPart L key value part)
    (hkey : key = "expr") : value = .str part := by
  cases h with
  | expr s => rfl
  | _ => exact absurd hkey (by decide)

end Keys

section Operands
variable {L : Libraries}

theorem toList_joinQuoted (ss : List String) : (joinQuoted L ss).toList =
    [',',' '].intercalate (ss.map fun s => (quote L.isPrint s).toList) := by
  rw [joinQuoted,String.toList_intercalate,List.map_map]
  rfl

theorem operand_quoted {before text after : List Char} {depth : ℕ}
    (hbefore : Reads .start before ⟨.code [],depth⟩)
    (htext : ∃ t : Scanner, t.Settled depth ∧ Reads ⟨.code [],depth⟩ text t)
    (hafter : ∀ t : Scanner, t.Settled depth → ∃ u : Scanner, u.Settled 0 ∧ Reads t after u)
    (hline : '\n' ∉ before) (hline' : '\n' ∉ text) (hline'' : '\n' ∉ after) :
    Operand (before++(text++after)) := by
  obtain ⟨t,ht,htext⟩ := htext
  obtain ⟨u,hu,hafter⟩ := hafter t ht
  exact ⟨by simp [hline,hline',hline''],u,hu,hbefore.append (htext.append hafter)⟩

/-- A character that is only passed on, on the line it stands on. -/
def isCode (c : Char) : Bool := !('\n'::markChars).contains c

theorem operand_code {text : List Char} (h : text.all isCode = true) : Operand text := by
  have hnot : ∀ c ∈ text, c ∉ '\n'::markChars := fun c hc => by
    simpa [isCode] using List.all_eq_true.mp h c hc
  obtain ⟨word,hread⟩ := reads_code (fun c hc hmem => hnot c hc (List.mem_cons_of_mem _ hmem)) [] 0
  exact ⟨fun hline => hnot _ hline List.mem_cons_self,_,.code word,hread⟩

theorem isCode_digit {c : Char} (h : c.isDigit = true) : isCode c = true := by
  have hall : ('\n'::markChars).all (fun x => !x.isDigit) = true := by decide
  rw [isCode,Bool.not_eq_true',Bool.eq_false_iff,Ne,List.contains_iff_mem]
  intro hmem
  have hdigit := List.all_eq_true.mp hall c hmem
  rw [h] at hdigit
  cases hdigit

theorem number_chars {s : String} {n : ℤ} (h : atoi L.isPrint s = .ok n) :
    ∀ c ∈ s.toList, c = '+' ∨ c = '-' ∨ c.isDigit = true := by
  rcases atoi_ok h with ⟨ds,hs,hint⟩ | ⟨negative,ds,hs,hint⟩
  · obtain ⟨-,hds,-⟩ := signedInt_ok hint
    rw [hs]
    exact List.forall_mem_cons.mpr ⟨.inl rfl,fun c hc => .inr (.inr (hds c hc))⟩
  · obtain ⟨-,hds,-⟩ := signedInt_ok hint
    rw [hs]
    cases negative with
    | true => exact List.forall_mem_cons.mpr ⟨.inr (.inl rfl),fun c hc => .inr (.inr (hds c hc))⟩
    | false => exact fun c hc => .inr (.inr (hds c hc))

theorem operand_score (op : Comparison) {num : String} {n : ℤ} (h : atoi L.isPrint num = .ok n) :
    Operand ("score " ++ op.symbol ++ " " ++ num).toList := by
  have hnum : num.toList.all isCode = true := by
    refine List.all_eq_true.mpr fun c hc => ?_
    rcases number_chars h c hc with rfl | rfl | hdigit
    · rfl
    · rfl
    · exact isCode_digit hdigit
  have hop : ("score " ++ op.symbol ++ " ").toList.all isCode = true := by cases op <;> decide
  refine operand_code ?_
  rw [String.toList_append,List.all_append,hop,hnum]
  rfl

variable (hprint : Printable L.isPrint)
include hprint

theorem operand_equals {before : String} (hbefore : Reads .start before.toList .start)
    (hline : '\n' ∉ before.toList) (s : String) : Operand (before ++ quote L.isPrint s).toList := by
  have hend : ∀ t : Scanner, t.Settled 0 → ∃ u : Scanner, u.Settled 0 ∧ Reads t [] u :=
    fun t ht => ⟨t,ht,rfl⟩
  have h := operand_quoted hbefore (reads_quote hprint s 0) hend hline (newline_notMem_quote hprint s)
    List.not_mem_nil
  rwa [List.append_nil,← String.toList_append] at h

/-- Every key but `expr` gives an operand of `&&`. -/
theorem KeyPart.operand {key part : String} {value : Yaml} (h : KeyPart L key value part)
    (hkey : key ≠ "expr") : Operand part.toList := by
  cases h with
  | expr s => exact absurd rfl hkey
  | path s =>
    have hstart : Reads .start "request.path == ".toList .start := rfl
    exact operand_equals hprint hstart (by decide) s
  | pathPrefix s =>
    have hstart : Reads .start "request.path.startsWith(".toList ⟨.code [],1⟩ := rfl
    rw [String.append_assoc,String.toList_append,String.toList_append]
    exact operand_quoted hstart (reads_quote hprint s 1) (fun t ht => ⟨_,.code [],ht.close (.inl rfl)⟩)
      (by decide) (newline_notMem_quote hprint s) (by decide)
  | ja3In ss =>
    have hstart : Reads .start "ja3.matches_family([".toList ⟨.code [],2⟩ := rfl
    have hclose : ∀ t : Scanner, t.Settled 2 → ∃ u : Scanner, u.Settled 0 ∧ Reads t [']',')'] u :=
      fun t ht => ⟨_,.code [],(ht.close (.inr rfl)).append ((Scanner.Settled.code []).close (.inl rfl))⟩
    rw [String.append_assoc,String.toList_append,String.toList_append,toList_joinQuoted]
    exact operand_quoted hstart (reads_quotes hprint ss 2) hclose (by decide)
      (newline_notMem_quotes hprint ss) (by decide)
  | score op rest n hn => exact operand_score op hn
  | ipCategory s =>
    have hstart : Reads .start "ip.category == ".toList .start := rfl
    exact operand_equals hprint hstart (by decide) s
  | hasValidToken b =>
    cases b
    · exact operand_code (by decide)
    · exact operand_code (by decide)

end Operands

section Texts
variable {L : Libraries}

theorem compileRule_ok {rule : PolicyRule} {cr : CompiledRule} (h : compileRule L rule = .ok cr) :
    ∃ text ast, matchMapToExpr L rule.matchMap = .ok text ∧ L.compile text = .ok ast ∧
      L.program ast = .ok cr.program := by
  unfold compileRule at h
  cases htext : matchMapToExpr L rule.matchMap with
  | error e =>
    rw [htext] at h
    cases h
  | ok text =>
    rw [htext] at h
    simp only at h
    cases hast : L.compile text with
    | error e =>
      rw [hast] at h
      cases h
    | ok ast =>
      rw [hast] at h
      simp only at h
      cases hprogram : L.program ast with
      | error e =>
        rw [hprogram] at h
        cases h
      | ok program =>
        rw [hprogram] at h
        cases h
        exact ⟨text,ast,rfl,hast,hprogram⟩

/-- A compiled rule is true where its text is. -/
theorem compileRule_parse {rel : List Char → Option (Cel.Expr Value)} (hL : Conforms L rel)
    {rule : PolicyRule} {cr : CompiledRule} (h : compileRule L rule = .ok cr) :
    ∃ text e, matchMapToExpr L rule.matchMap = .ok text ∧ parse rel text.toList = some e ∧
      ∀ ctx b, evalProgram L ctx cr = .ok (.bool b) ↔ truthIn L ctx e = .ok b := by
  obtain ⟨text,ast,htext,hast,hprogram⟩ := compileRule_ok h
  obtain ⟨e,he,heval⟩ := hL text ast cr.program hast hprogram
  exact ⟨text,e,htext,he,fun ctx b => truth_eq_ok.symm.trans (heval ctx b)⟩

/-- The parts in the order of the keys, with ` && ` between them. -/
theorem matchMapToExpr_parts {m : StringMap Yaml} {text : String} {e : String × Yaml}
    {es : List (String × Yaml)} (hm : sortedEntries m = e::es) (h : matchMapToExpr L m = .ok text) :
    ∃ part parts, keyValueToExpr L e.1 e.2 = .ok part ∧
      List.Forall₂ (fun e part => keyValueToExpr L e.1 e.2 = .ok part) es parts ∧
      text.toList = part.toList++followed (parts.map String.toList) := by
  have hne : m.entries.isEmpty = false := by
    cases hentries : m.entries with
    | nil =>
      rw [sortedEntries,hentries] at hm
      cases hm
    | cons x xs => rfl
  rw [matchMapToExpr,hne,hm] at h
  obtain ⟨all,hparts,rfl⟩ := map_eq_ok.mp h
  cases forall₂_of_mapM hparts with
  | cons hpart hrest =>
    refine ⟨_,_,hpart,hrest,?_⟩
    rw [String.toList_intercalate,List.map_cons,intercalate_cons]
    rfl

def single (e : String × Yaml) : StringMap Yaml := ⟨[e],List.nodup_singleton _⟩

theorem matchMapToExpr_single (e : String × Yaml) :
    matchMapToExpr L (single e) = keyValueToExpr L e.1 e.2 := by
  have hsorted : sortedEntries (single e) = [e] := rfl
  rw [matchMapToExpr,hsorted,List.mapM_cons,List.mapM_nil]
  change Except.map _ _ = _
  cases keyValueToExpr L e.1 e.2 with
  | error msg => rfl
  | ok part => exact congrArg Except.ok String.intercalate_singleton

theorem mem_sortedEntries {m : StringMap Yaml} {e : String × Yaml} :
    e ∈ sortedEntries m ↔ e ∈ m.entries := (List.perm_insertionSort _ _).mem_iff

theorem sortedEntries_pairwise (m : StringMap Yaml) : (sortedEntries m).Pairwise fun a b => a.1 ≤ b.1 := by
  have htotal : Std.Total fun a b : String × Yaml => a.1 ≤ b.1 := ⟨fun a b => String.le_total a.1 b.1⟩
  have htrans : IsTrans (String × Yaml) fun a b => a.1 ≤ b.1 := ⟨fun _ _ _ => String.le_trans⟩
  exact List.pairwise_insertionSort _ m.entries

/-- The key `expr` comes before all others. -/
theorem expr_first {m : StringMap Yaml} {e : String × Yaml} {es : List (String × Yaml)}
    (hm : sortedEntries m = e::es) (hkeys : ∀ x ∈ m.entries, ∃ part, keyValueToExpr L x.1 x.2 = .ok part) :
    ∀ x ∈ es, x.1 ≠ "expr" := by
  intro x hx hexpr
  have hpairs := sortedEntries_pairwise m
  have hdistinct : ((sortedEntries m).map Prod.fst).Nodup :=
    ((List.perm_insertionSort _ _).map Prod.fst).nodup_iff.mpr m.distinct
  rw [hm] at hpairs hdistinct
  have hle : e.1 ≤ "expr" := hexpr ▸ (List.pairwise_cons.mp hpairs).1 x hx
  obtain ⟨part,hpart⟩ := hkeys e (mem_sortedEntries.mp (hm ▸ List.mem_cons_self))
  have hfirst : e.1 = "expr" := by
    have hpart := keyPart_of_ok hpart
    revert hle
    generalize e.1 = key at hpart ⊢
    generalize e.2 = value at hpart
    cases hpart <;> decide
  rw [List.map_cons,List.nodup_cons,hfirst,← hexpr] at hdistinct
  exact hdistinct.1 (List.mem_map_of_mem hx)

end Texts

end Policy
end AntiScrapling
