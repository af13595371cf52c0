import AntiScrapling.MatchKeys
import AntiScrapling.SeparatedText
import Mathlib.Data.List.Perm.Subperm

/-! The command `policy lint`.  It compares match maps through the printed form of their
values, while a rule means what its match map is compiled to. -/
namespace AntiScrapling
namespace Policy

open SeparatedText (Without join_inj_of_ne)
open GoText (quote)
open CheckedRun (map_eq_ok forall₂_of_mapM)

section Command
variable (L : Libraries) (other : String → String)

mutual

/-- `%v`.  Of a value of another kind only the Go type is kept, with `other` for the text;
such a value is refused before it is compared. -/
def sprint : Yaml → String
  | .str s => s
  | .bool b => toString b
  | .seq items => "[" ++ " ".intercalate (sprintAll items) ++ "]"
  | .other goType => other goType

def sprintAll : List Yaml → List String
  | [] => []
  | item::items => sprint item::sprintAll items

end

def rulesConflict (a b : StringMap Yaml) : Bool :=
  if a.entries.isEmpty || b.entries.isEmpty then false
  else if a.entries.length ≠ b.entries.length then false
  else a.entries.all fun e =>
    match b.lookup e.1 with
    | none => false
    | some vb => decide (sprint other e.2 = sprint other vb)

structure Warning where
  i : ℕ
  iName : String
  j : ℕ
  jName : String

def Warning.text (w : Warning) : String :=
  "  WARNING: rule[" ++ toString w.i ++ "] " ++ quote L.isPrint w.iName ++ " may shadow rule[" ++
    toString w.j ++ "] " ++ quote L.isPrint w.jName ++ " (identical match conditions)"

/-- The loops over all pairs `i < j`. -/
def lintWarnings (rules : List PolicyRule) : List Warning :=
  rules.zipIdx.flatMap fun a => (rules.zipIdx.drop (a.2+1)).filterMap fun b =>
    if rulesConflict other a.1.matchMap b.1.matchMap then some ⟨a.2,a.1.name,b.2,b.1.name⟩ else none

def lintReport (cfg : PolicyConfig) (warnings : List Warning) : String :=
  (if warnings.isEmpty then "No shadowed rules detected.\n"
    else "Reachability warnings:\n" ++ String.join (warnings.map fun w => w.text L ++ "\n") ++
      "\n" ++ toString warnings.length ++ " warning(s) found\n") ++
    "Rules: " ++ toString cfg.rules.length ++ "  Default: " ++ cfg.default ++ "\n" ++ "OK\n"

/-- The command on a file that holds `cfg`: what it prints, and its error. -/
def policyLint (path : String) (cfg : PolicyConfig) : String × Except String Unit :=
  match validateConfig L cfg with
  | .error e => ("",.error e)
  | .ok () =>
    match newEvaluator L cfg with
    | .error e => ("Lint: " ++ path ++ "\n\n",.error ("compile error: " ++ e))
    | .ok _ => ("Lint: " ++ path ++ "\n\n" ++ lintReport L cfg (lintWarnings other cfg.rules),.ok ())

/-- Some warning is about the rules `i` and `j`. -/
def Warns (rules : List PolicyRule) (i j : ℕ) : Prop :=
  ∃ w ∈ lintWarnings other rules, w.i = i ∧ w.j = j

end Command

section Printed
variable {L : Libraries} {other : String → String}

theorem sprintAll_str (ss : List String) : sprintAll other (ss.map .str) = ss := by
  induction ss with
  | nil => rw [List.map_nil,sprintAll]
  | cons s ss ih => rw [List.map_cons,sprintAll,sprint,ih]

/-- A list of patterns whose printed form can be read back. -/
def PlainPatterns (m : StringMap Yaml) : Prop :=
  ∀ ss : List String, m.lookup "ja3_in" = some (.seq (ss.map .str)) → ∀ s ∈ ss, s ≠ "" ∧ Without ' ' s

/-- Two match maps whose printed forms do not confuse their lists of patterns: the lists are the
same, or both can be read back. -/
def PatternsApart (a b : StringMap Yaml) : Prop :=
  a.lookup "ja3_in" = b.lookup "ja3_in" ∨ PlainPatterns a ∧ PlainPatterns b

/-- The kind of an accepted value is known from its key. -/
theorem KeyPart.kind {key part : String} {value : Yaml} (h : KeyPart L key value part) :
    (key ≠ "ja3_in" ∧ key ≠ "has_valid_token" ∧ ∃ s, value = .str s) ∨
      (key = "ja3_in" ∧ ∃ ss : List String, value = .seq (ss.map .str)) ∨
      (key = "has_valid_token" ∧ ∃ b, value = .bool b) := by
  cases h with
  | ja3In ss => exact .inr (.inl ⟨rfl,ss,rfl⟩)
  | hasValidToken b => exact .inr (.inr ⟨rfl,b,rfl⟩)
  | _ => exact .inl ⟨by decide,by decide,_,rfl⟩

theorem KeyPart.eq_of_sprint {a b : StringMap Yaml} {key part part' : String} {va vb : Yaml}
    (ha : KeyPart L key va part) (hb : KeyPart L key vb part') (hva : a.lookup key = some va)
    (hvb : b.lookup key = some vb) (hpatterns : PatternsApart a b)
    (h : sprint other va = sprint other vb) : va = vb := by
  rcases ha.kind with ⟨hja3,htoken,s,rfl⟩ | ⟨rfl,ss,rfl⟩ | ⟨rfl,x,rfl⟩
  · rcases hb.kind with ⟨-,-,s',rfl⟩ | ⟨hkey,-⟩ | ⟨hkey,-⟩
    · rw [sprint,sprint] at h
      rw [h]
    · exact absurd hkey hja3
    · exact absurd hkey htoken
  · rcases hb.kind with ⟨hkey,-⟩ | ⟨-,ss',rfl⟩ | ⟨hkey,-⟩
    · exact absurd rfl hkey
    · rcases hpatterns with hsame | ⟨hplain,hplain'⟩
      · exact Option.some.inj ((hva.symm.trans hsame).trans hvb)
      rw [sprint,sprint,sprintAll_str,sprintAll_str] at h
      have hjoin : " ".intercalate ss = " ".intercalate ss' := by
        have hlist := congrArg String.toList h
        simp only [String.toList_append] at hlist
        exact String.toList_inj.mp (List.append_cancel_left (List.append_cancel_right hlist))
      rw [(join_inj_of_ne (by decide) (hplain ss hva) (hplain' ss' hvb)).mp hjoin]
    · exact absurd hkey (by decide)
  · rcases hb.kind with ⟨-,hkey,-⟩ | ⟨hkey,-⟩ | ⟨-,x',rfl⟩
    · exact absurd rfl hkey
    · exact absurd hkey (by decide)
    · rw [sprint,sprint] at h
      have hbool : ∀ x x' : Bool, toString x = toString x' → x = x' := by decide
      rw [hbool x x' h]

end Printed

section Conflicts
variable {L : Libraries} {other : String → String} {a b : StringMap Yaml}

/-- Equal as YAML values: the order of the keys does not count. -/
def SameMatch (a b : StringMap Yaml) : Prop := ∀ key, a.lookup key = b.lookup key

theorem rulesConflict_iff : rulesConflict other a b = true ↔
    a.entries ≠ [] ∧ a.entries.length = b.entries.length ∧
      ∀ e ∈ a.entries, ∃ vb, b.lookup e.1 = some vb ∧ sprint other e.2 = sprint other vb := by
  unfold rulesConflict
  split_ifs with hempty hlength
  · rw [Bool.or_eq_true,List.isEmpty_iff,List.isEmpty_iff] at hempty
    refine iff_of_false not_false ?_
    rintro ⟨hne,hlen,-⟩
    rcases hempty with ha | hb
    · exact hne ha
    · rw [hb,List.length_nil,List.length_eq_zero_iff] at hlen
      exact hne hlen
  · exact iff_of_false not_false fun h => hlength h.2.1
  · rw [Bool.or_eq_true,not_or,List.isEmpty_iff] at hempty
    rw [List.all_eq_true]
    constructor
    · intro hall
      refine ⟨hempty.1,not_not.mp hlength,fun e he => ?_⟩
      have hsame := hall e he
      cases hb : b.lookup e.1 with
      | none =>
        rw [hb] at hsame
        cases hsame
      | some vb =>
        rw [hb] at hsame
        exact ⟨vb,rfl,of_decide_eq_true hsame⟩
    · rintro ⟨-,-,hall⟩ e he
      obtain ⟨vb,hb,hsame⟩ := hall e he
      rw [hb]
      exact decide_eq_true hsame

theorem sortedEntries_congr (h : a.entries.Perm b.entries) : sortedEntries a = sortedEntries b := by
  refine List.Perm.eq_of_pairwise ?_ (sortedEntries_pairwise a) (sortedEntries_pairwise b)
    ((List.perm_insertionSort _ _).trans (h.trans (List.perm_insertionSort _ _).symm))
  intro x y hx hy hxy hyx
  have hkey : x.1 = y.1 := String.le_antisymm hxy hyx
  have hvalue : b.lookup x.1 = some x.2 :=
    StringMap.lookup_of_mem (h.mem_iff.mp (mem_sortedEntries.mp hx))
  rw [hkey,StringMap.lookup_of_mem (mem_sortedEntries.mp hy)] at hvalue
  exact Prod.ext hkey (Option.some.inj hvalue).symm

theorem matchMapToExpr_congr (h : a.entries.Perm b.entries) : matchMapToExpr L a = matchMapToExpr L b := by
  have hempty : a.entries.isEmpty = b.entries.isEmpty := by
    rw [Bool.eq_iff_iff,List.isEmpty_iff,List.isEmpty_iff,← List.length_eq_zero_iff,h.length_eq,
      List.length_eq_zero_iff]
  rw [matchMapToExpr,matchMapToExpr,hempty,sortedEntries_congr h]

theorem keyPart_of_mem {text : String} (h : matchMapToExpr L a = .ok text) {e : String × Yaml}
    (he : e ∈ a.entries) : ∃ part, KeyPart L e.1 e.2 part := by
  have hne : a.entries.isEmpty = false := by
    rw [List.isEmpty_eq_false_iff]
    exact List.ne_nil_of_mem he
  rw [matchMapToExpr,hne] at h
  obtain ⟨parts,hparts,-⟩ := map_eq_ok.mp h
  have hall : List.Forall₂ (fun e part => (∃ part, KeyPart L e.1 e.2 part) ∧
      keyValueToExpr L e.1 e.2 = .ok part) (sortedEntries a) parts :=
    (forall₂_of_mapM hparts).imp fun e part hpart => ⟨⟨part,keyPart_of_ok hpart⟩,hpart⟩
  exact ((List.forall₂_and_left _ _).mp hall).1 e (mem_sortedEntries.mpr he)

theorem SameMatch.perm (h : SameMatch a b) : a.entries.Perm b.entries := by
  rw [List.perm_ext_iff_of_nodup a.entries_nodup b.entries_nodup]
  intro e
  constructor
  · intro he
    exact StringMap.mem_of_lookup ((h e.1).symm.trans (StringMap.lookup_of_mem he))
  · intro he
    exact StringMap.mem_of_lookup ((h e.1).trans (StringMap.lookup_of_mem he))

theorem SameMatch.rulesConflict_iff_ne (h : SameMatch a b) :
    rulesConflict other a b = true ↔ a.entries ≠ [] := by
  rw [rulesConflict_iff]
  refine ⟨fun hconflict => hconflict.1,fun hne => ⟨hne,h.perm.length_eq,fun e he => ?_⟩⟩
  exact ⟨e.2,(h e.1).symm.trans (StringMap.lookup_of_mem he),rfl⟩

theorem perm_of_rulesConflict {text text' : String} (ha : matchMapToExpr L a = .ok text)
    (hb : matchMapToExpr L b = .ok text') (hpatterns : PatternsApart a b)
    (h : rulesConflict other a b = true) : a.entries.Perm b.entries := by
  obtain ⟨-,hlength,hall⟩ := rulesConflict_iff.mp h
  refine (a.entries_nodup.subperm fun e he => ?_).perm_of_length_le hlength.ge
  obtain ⟨vb,hvb,hsame⟩ := hall e he
  have hmem := StringMap.mem_of_lookup hvb
  obtain ⟨part,hpart⟩ := keyPart_of_mem ha he
  obtain ⟨part',hpart'⟩ := keyPart_of_mem hb hmem
  have hvalue : e.2 = vb :=
    hpart.eq_of_sprint hpart' (StringMap.lookup_of_mem he) hvb hpatterns hsame
  rwa [← hvalue] at hmem

theorem program_congr {rule rule' : PolicyRule} {cr cr' : CompiledRule} (h : compileRule L rule = .ok cr)
    (h' : compileRule L rule' = .ok cr') (hperm : rule.matchMap.entries.Perm rule'.matchMap.entries) :
    cr.program = cr'.program := by
  obtain ⟨text,ast,htext,hast,hprogram⟩ := compileRule_ok h
  obtain ⟨text',ast',htext',hast',hprogram'⟩ := compileRule_ok h'
  rw [matchMapToExpr_congr hperm,htext'] at htext
  cases htext
  rw [hast'] at hast
  cases hast
  exact Except.ok.inj (hprogram.symm.trans hprogram')

end Conflicts

section Pairs
variable {other : String → String} {rules : List PolicyRule} {i j : ℕ}

theorem mem_zipIdx_drop {rule : PolicyRule} {n : ℕ} :
    (rule,j) ∈ rules.zipIdx.drop n ↔ n ≤ j ∧ rules[j]? = some rule := by
  rw [List.mem_iff_getElem?]
  simp only [List.getElem?_drop,List.getElem?_zipIdx,Option.map_eq_some_iff,Prod.mk.injEq]
  constructor
  · rintro ⟨k,r,hr,rfl,rfl⟩
    exact ⟨by omega,by simpa using hr⟩
  · rintro ⟨hle,hr⟩
    refine ⟨j-n,rule,?_,rfl,by omega⟩
    rwa [Nat.add_sub_cancel' hle]

theorem warns_iff : Warns other rules i j ↔ i < j ∧ ∃ ri rj, rules[i]? = some ri ∧ rules[j]? = some rj ∧
    rulesConflict other ri.matchMap rj.matchMap = true := by
  unfold Warns lintWarnings
  simp only [List.mem_flatMap,List.mem_filterMap,Option.ite_none_right_eq_some,
    Option.some.injEq]
  constructor
  · rintro ⟨w,⟨⟨ri,i⟩,hi,⟨rj,j⟩,hj,hconflict,rfl⟩,rfl,rfl⟩
    obtain ⟨hlt,hrj⟩ := mem_zipIdx_drop.mp hj
    exact ⟨hlt,ri,rj,List.mem_zipIdx_iff_getElem?.mp hi,hrj,hconflict⟩
  · rintro ⟨hlt,ri,rj,hi,hj,hconflict⟩
    exact ⟨_,⟨(ri,i),List.mem_zipIdx_iff_getElem?.mpr hi,(rj,j),mem_zipIdx_drop.mpr ⟨hlt,hj⟩,
      hconflict,rfl⟩,rfl,rfl⟩

theorem warns_of_getElem? {ri rj : PolicyRule} (hij : i < j) (hi : rules[i]? = some ri)
    (hj : rules[j]? = some rj) :
    Warns other rules i j ↔ rulesConflict other ri.matchMap rj.matchMap = true := by
  rw [warns_iff]
  constructor
  · rintro ⟨-,ri',rj',hi',hj',hconflict⟩
    cases hi.symm.trans hi'
    cases hj.symm.trans hj'
    exact hconflict
  · exact fun hconflict => ⟨hij,ri,rj,hi,hj,hconflict⟩

end Pairs

section Shadowing
variable {L : Libraries} {other : String → String}

theorem compileRules_getElem? {k i : ℕ} {rules : List PolicyRule} {crs : List CompiledRule}
    {rule : PolicyRule} (h : compileRules L k rules = .ok crs) (hi : rules[i]? = some rule) :
    ∃ cr, crs[i]? = some cr ∧ compileRule L rule = .ok cr := by
  induction rules generalizing k i crs with
  | nil => cases hi
  | cons first rules ih =>
    rw [compileRules] at h
    cases hfirst : compileRule L first with
    | error e =>
      rw [hfirst] at h
      cases h
    | ok cr =>
      rw [hfirst] at h
      obtain ⟨rest,hrest,rfl⟩ := map_eq_ok.mp h
      cases i with
      | zero =>
        cases hi
        exact ⟨cr,rfl,hfirst⟩
      | succ i =>
        rw [List.getElem?_cons_succ] at hi ⊢
        exact ih hrest hi

theorem policyLint_ok {path : String} {cfg : PolicyConfig}
    (h : (policyLint L other path cfg).2 = .ok ()) :
    (policyLint L other path cfg).1 =
        "Lint: " ++ path ++ "\n\n" ++ lintReport L cfg (lintWarnings other cfg.rules) ∧
      ∃ e, newEvaluator L cfg = .ok e ∧ compileRules L 0 cfg.rules = .ok e.rules := by
  unfold policyLint at h ⊢
  cases hvalid : validateConfig L cfg with
  | error e =>
    rw [hvalid] at h
    cases h
  | ok u =>
    rw [hvalid] at h
    cases hnew : newEvaluator L cfg with
    | error e =>
      rw [hnew] at h
      cases h
    | ok e =>
      obtain ⟨rules,hrules,rfl⟩ := map_eq_ok.mp hnew
      exact ⟨rfl,_,rfl,hrules⟩

/-- For every policy that the command accepts: a warning is right if the two rules
have the same `ja3_in` or no pattern of either is empty or holds a space, and equal match maps
are warned of unless they are empty. -/
theorem lint_shadowing {path : String} {cfg : PolicyConfig}
    (h : (policyLint L other path cfg).2 = .ok ()) :
    (policyLint L other path cfg).1 =
        "Lint: " ++ path ++ "\n\n" ++ lintReport L cfg (lintWarnings other cfg.rules) ∧
      ∃ e, newEvaluator L cfg = .ok e ∧
        ∀ i j ri rj, i < j → cfg.rules[i]? = some ri → cfg.rules[j]? = some rj →
          ∃ ci cj, e.rules[i]? = some ci ∧ e.rules[j]? = some cj ∧
            (PatternsApart ri.matchMap rj.matchMap → Warns other cfg.rules i j →
              ∀ ctx, evalProgram L ctx cj = .ok (.bool true) → evalProgram L ctx ci = .ok (.bool true)) ∧
            (SameMatch ri.matchMap rj.matchMap →
              (Warns other cfg.rules i j ↔ ri.matchMap.entries ≠ [])) := by
  obtain ⟨hreport,e,hnew,hrules⟩ := policyLint_ok h
  refine ⟨hreport,e,hnew,?_⟩
  intro i j ri rj hij hi hj
  obtain ⟨ci,hci,hcompiled⟩ := compileRules_getElem? hrules hi
  obtain ⟨cj,hcj,hcompiled'⟩ := compileRules_getElem? hrules hj
  have hwarns : Warns other cfg.rules i j ↔ _ := warns_of_getElem? hij hi hj
  refine ⟨ci,cj,hci,hcj,?_,?_⟩
  · intro hpatterns hwarn ctx htrue
    obtain ⟨text,-,htext,-⟩ := compileRule_ok hcompiled
    obtain ⟨text',-,htext',-⟩ := compileRule_ok hcompiled'
    have hperm := perm_of_rulesConflict htext htext' hpatterns (hwarns.mp hwarn)
    rw [evalProgram] at htrue ⊢
    rwa [program_congr hcompiled hcompiled' hperm]
  · intro hsame
    rw [hwarns,hsame.rulesConflict_iff_ne]

def twoRules (a b : StringMap Yaml) : PolicyConfig where
  version := 1
  tokenTTL := ""
  default := "allow"
  rules := [⟨"first",a,"challenge"⟩,⟨"second",b,"deny"⟩]
  scoring := ⟨.empty,40,80⟩

def patterns (ss : List String) : StringMap Yaml := single ("ja3_in",.seq (ss.map .str))

/-- A warning that is right: the lists are the same, though their texts could be confused. -/
theorem lint_shadowing_patterns :
    ∃ e, newEvaluator textLibraries (twoRules (patterns ["a b","c"]) (patterns ["a b","c"])) = .ok e ∧
      ∃ ci cj, e.rules[0]? = some ci ∧ e.rules[1]? = some cj ∧
        Warns id (twoRules (patterns ["a b","c"]) (patterns ["a b","c"])).rules 0 1 ∧
        ∀ ctx, evalProgram textLibraries ctx cj = .ok (.bool true) →
          evalProgram textLibraries ctx ci = .ok (.bool true) := by
  have hlint : (policyLint textLibraries id "policy.yaml"
      (twoRules (patterns ["a b","c"]) (patterns ["a b","c"]))).2 = .ok () := rfl
  obtain ⟨-,e,hnew,hpairs⟩ := lint_shadowing hlint
  obtain ⟨ci,cj,hci,hcj,hsound,hcomplete⟩ := hpairs 0 1 _ _ Nat.zero_lt_one rfl rfl
  have hwarns := (hcomplete fun _ => rfl).mpr (List.cons_ne_nil _ _)
  exact ⟨e,hnew,ci,cj,hci,hcj,hwarns,hsound (.inl rfl) hwarns⟩

/-- `["a b"]` is printed like `["a","b"]`: the second rule holds where the first does not.
Two rules without conditions are not reported. -/
theorem lint_shadowing_fails :
    ((policyLint textLibraries id "policy.yaml" (twoRules (patterns ["a b"]) (patterns ["a","b"]))).2 = .ok () ∧
      Warns id (twoRules (patterns ["a b"]) (patterns ["a","b"])).rules 0 1 ∧
      ∃ e ci cj, newEvaluator textLibraries (twoRules (patterns ["a b"]) (patterns ["a","b"])) = .ok e ∧
        e.rules[0]? = some ci ∧ e.rules[1]? = some cj ∧
        evalProgram textLibraries {visitor with ja3 := "a"} cj = .ok (.bool true) ∧
        evalProgram textLibraries {visitor with ja3 := "a"} ci = .ok (.bool false)) ∧
    (policyLint textLibraries id "policy.yaml" (twoRules .empty .empty)).2 = .ok () ∧
      SameMatch .empty .empty ∧ ¬ Warns id (twoRules .empty .empty).rules 0 1 := by
  refine ⟨⟨rfl,?_,_,_,_,rfl,rfl,rfl,rfl,rfl⟩,rfl,fun _ => rfl,?_⟩
  · exact warns_iff.mpr ⟨Nat.zero_lt_one,_,_,rfl,rfl,by decide⟩
  · rintro ⟨w,hw,-⟩
    cases hw

end Shadowing

end Policy
end AntiScrapling
