import AntiScrapling.Cel
import AntiScrapling.Decision
import AntiScrapling.GoText
import Mathlib.Data.List.Sort

/-! Policies (`internal/policy`): loading checks, the compilation of match maps to
CEL, and the evaluation of the rules.  cel-go is a parameter for what it does with a
text and for its strict functions; the map `signals` and the function `matches_family`
are the program's own. -/
namespace AntiScrapling
namespace Policy

open UnicodeText GoText

section Types

/-- A value of a match map as the YAML decoder gives it; of the kinds that no match key
takes only the Go type is kept. -/
inductive Yaml
  | str (s : String)
  | bool (b : Bool)
  | seq (items : List Yaml)
  | other (goType : String)

/-- `%T`. -/
def Yaml.goType : Yaml → String
  | .str _ => "string"
  | .bool _ => "bool"
  | .seq _ => "[]interface \x7b\x7d"
  | .other t => t

structure PolicyRule where
  name : String
  matchMap : StringMap Yaml
  action : String

/-- The parts of `types.PolicyConfig` that are read here. -/
structure PolicyConfig where
  version : ℤ
  tokenTTL : String
  default : String
  rules : List PolicyRule
  scoring : ScoringConfig

/-- CEL values.  `signals` is the map of the signal scores; values of other kinds than
those the rules are given are kept as a text. -/
inductive Value
  | bool (b : Bool)
  | int (n : ℤ)
  | string (s : String)
  | list (items : List Value)
  | map (entries : List (String × Value))
  | signals (m : StringMap ℤ)
  | other (text : String)

def celValues : Cel.Values Value where
  ofBool := .bool
  toBool
    | .bool b => some b
    | _ => none
  ofList := .list
  elements
    | .list items => .ok items
    | .map entries => .ok (entries.map fun e => .string e.1)
    | .signals m => .ok (m.entries.map fun e => .string e.1)
    | _ => .error "no such overload"

/-- The libraries that the package uses. -/
structure Libraries where
  /-- `env.Compile`. -/
  compile : String → Except String (Cel.Expr Value)
  /-- `env.Program`. -/
  program : Cel.Expr Value → Except String (Cel.Expr Value)
  /-- The strict functions of CEL. -/
  call : Cel.Calls Value
  /-- The `%T` of a CEL result. -/
  goType : Value → String
  /-- `path.Match`, with `none` for a bad pattern. -/
  pathMatch : String → String → Option Bool
  /-- `time.ParseDuration`. -/
  parseDuration : String → Except String ℤ
  /-- `unicode.IsPrint`. -/
  isPrint : Char → Bool

end Types

variable (L : Libraries)

section Compiler

def matchesFamilyBinding (lhs rhs : Value) : Value :=
  match lhs,rhs with
  | .string ja3,.list patterns => .bool (patterns.any fun
    | .string pattern => L.pathMatch (trimPrefix pattern "@") ja3 == some true
    | _ => false)
  | _,_ => .bool false

def comparisonOps : List String := [">=","<=","!=",">","<","=="]

def parseScoreExpr (s : String) : Except String String :=
  match comparisonOps.find? fun op => op.toList <+: s.toList with
  | none => .error ("invalid score comparison " ++ quote L.isPrint s ++
      ": must start with an operator (>=, <=, !=, >, <, ==)")
  | some op =>
    let numStr := trimSpace (String.ofList (s.toList.drop op.length))
    match atoi L.isPrint numStr with
    | .error e => .error ("invalid number in score comparison " ++ quote L.isPrint s ++ ": " ++ e)
    | .ok _ => .ok ("score " ++ op ++ " " ++ numStr)

def stringItems : ℕ → List Yaml → Except String (List String)
  | _,[] => .ok []
  | i,.str s::items => (stringItems (i+1) items).map fun ss => s::ss
  | i,item::_ => .error ("element " ++ toString i ++ " is not a string, got " ++ item.goType)

def toStringSlice : Yaml → Except String (List String)
  | .seq items => stringItems 0 items
  | value => .error ("expected a list, got " ++ value.goType)

def joinQuoted (ss : List String) : String := String.intercalate ", " (ss.map (quote L.isPrint))

/-- A match key whose value is a string. -/
def stringKey (key : String) (value : Yaml) (hint : String) (f : String → Except String String) :
    Except String String :=
  match value with
  | .str s => f s
  | _ => .error ("\"" ++ key ++ "\" value must be a " ++ hint ++ ", got " ++ value.goType)

def keyValueToExpr (key : String) (value : Yaml) : Except String String :=
  if key = "expr" then stringKey key value "string" .ok
  else if key = "path" then
    stringKey key value "string" fun s => .ok ("request.path == " ++ quote L.isPrint s)
  else if key = "path_prefix" then
    stringKey key value "string" fun s => .ok ("request.path.startsWith(" ++ quote L.isPrint s ++ ")")
  else if key = "ja3_in" then
    match toStringSlice value with
    | .error e => .error ("\"ja3_in\" value: " ++ e)
    | .ok list => .ok ("ja3.matches_family([" ++ joinQuoted L list ++ "])")
  else if key = "score" then
    stringKey key value "quoted comparison string like \">=50\"" (parseScoreExpr L)
  else if key = "ip_category" then
    stringKey key value "string" fun s => .ok ("ip.category == " ++ quote L.isPrint s)
  else if key = "has_valid_token" then
    match value with
    | .bool b => .ok (if b then "has_valid_token" else "!has_valid_token")
    | _ => .error ("\"has_valid_token\" value must be a bool, got " ++ value.goType)
  else .error ("unknown match key " ++ quote L.isPrint key)

def sortedEntries (m : StringMap Yaml) : List (String × Yaml) :=
  m.entries.insertionSort fun a b => a.1 ≤ b.1

def matchMapToExpr (m : StringMap Yaml) : Except String String :=
  if m.entries.isEmpty then .ok "true"
  else ((sortedEntries m).mapM fun e => keyValueToExpr L e.1 e.2).map (String.intercalate " && ")

structure CompiledRule where
  rule : PolicyRule
  program : Cel.Expr Value

def compileRule (rule : PolicyRule) : Except String CompiledRule :=
  match matchMapToExpr L rule.matchMap with
  | .error e => .error ("match expression: " ++ e)
  | .ok expr =>
    match L.compile expr with
    | .error e => .error ("CEL compile " ++ quote L.isPrint expr ++ ": " ++ e)
    | .ok ast =>
      match L.program ast with
      | .error e => .error ("CEL program: " ++ e)
      | .ok program => .ok ⟨rule,program⟩

end Compiler

section Loader

def validActions : List String := ["allow","challenge","deny"]

/-- `rules[i] "name"`. -/
def ruleLabel (i : ℕ) (rule : PolicyRule) : String :=
  "rules[" ++ toString i ++ "] " ++ quote L.isPrint rule.name

def validateRules : ℕ → List PolicyRule → Except String Unit
  | _,[] => .ok ()
  | i,rule::rules =>
    if rule.action ∉ validActions then
      .error ("policy: " ++ ruleLabel L i rule ++ ": action " ++ quote L.isPrint rule.action ++
        " is invalid (must be \"allow\", \"challenge\", or \"deny\")")
    else
      match compileRule L rule with
      | .error e => .error ("policy: " ++ ruleLabel L i rule ++ ": " ++ e)
      | .ok _ => validateRules (i+1) rules

def checkDuration (text : String) : Except String Unit :=
  if text = "" then .ok () else (L.parseDuration text).map fun _ => ()

def validateConfig (cfg : PolicyConfig) : Except String Unit :=
  if cfg.version = 0 then .error "policy: missing required field \"version\""
  else if cfg.default ∉ validActions then
    .error ("policy: policy.default " ++ quote L.isPrint cfg.default ++
      " is invalid (must be \"allow\", \"challenge\", or \"deny\")")
  else
    match checkDuration L cfg.tokenTTL with
    | .error e => .error ("policy: token.ttl " ++ quote L.isPrint cfg.tokenTTL ++
        " is not a valid duration (e.g. \"24h\", \"30m\"): " ++ e)
    | .ok () => validateRules L 0 cfg.rules

end Loader

section Evaluator

structure RequestInfo where
  method : String
  path : String
  host : String
  userAgent : String

structure IPInfo where
  address : String
  category : String
  asn : String

structure EvaluationContext where
  request : RequestInfo
  ip : IPInfo
  ja3 : String
  ja4 : String
  score : ℤ
  hasValidToken : Bool
  signals : StringMap ℤ

structure Evaluator where
  config : PolicyConfig
  rules : List CompiledRule

def compileRules : ℕ → List PolicyRule → Except String (List CompiledRule)
  | _,[] => .ok []
  | i,rule::rules =>
    match compileRule L rule with
    | .error e => .error ("policy: compile " ++ ruleLabel L i rule ++ ": " ++ e)
    | .ok cr => (compileRules (i+1) rules).map fun crs => cr::crs

def newEvaluator (cfg : PolicyConfig) : Except String Evaluator :=
  (compileRules L 0 cfg.rules).map fun rules => ⟨cfg,rules⟩

def buildActivation (ctx : EvaluationContext) (name : String) : Option Value :=
  [("request",.map [("method",.string ctx.request.method),("path",.string ctx.request.path),
      ("host",.string ctx.request.host),("user_agent",.string ctx.request.userAgent)]),
    ("ip",.map [("address",.string ctx.ip.address),("category",.string ctx.ip.category),
      ("asn",.string ctx.ip.asn)]),
    ("ja3",.string ctx.ja3),
    ("ja4",.string ctx.ja4),
    ("score",.int ctx.score),
    ("has_valid_token",.bool ctx.hasValidToken),
    ("signals",Value.signals ctx.signals)].lookup name

/-- `signals[key]`: an absent key reads as `absent`, or is an error. -/
def indexSignals (absent : Option ℤ) (m : StringMap ℤ) (key : String) : Except String Value :=
  match m.lookup key,absent with
  | some n,_ => .ok (.int n)
  | none,some n => .ok (.int n)
  | none,none => .error ("no such key: " ++ key)

def calls (absent : Option ℤ) : Cel.Calls Value
  | "_[_]",[.signals m,.string key] => indexSignals absent m key
  | "_._",[.signals m,.string key] => indexSignals absent m key
  | "matches_family",[lhs,rhs] => .ok (matchesFamilyBinding L lhs rhs)
  | function,args => L.call function args

/-- `cr.Program.Eval`: indexing a map at an absent key is an error. -/
def evalProgram (ctx : EvaluationContext) (cr : CompiledRule) : Except String Value :=
  Cel.eval celValues (calls L none) (buildActivation ctx) cr.program

/-- The first rule that matches; the first rule that fails or is no bool ends the search. -/
def evaluateRules (ctx : EvaluationContext) : List CompiledRule → Except String (Option PolicyRule)
  | [] => .ok none
  | cr::rules =>
    match evalProgram L ctx cr with
    | .error e => .error ("policy: eval rule " ++ quote L.isPrint cr.rule.name ++ ": " ++ e)
    | .ok (.bool true) => .ok (some cr.rule)
    | .ok (.bool false) => evaluateRules ctx rules
    | .ok v => .error ("policy: rule " ++ quote L.isPrint cr.rule.name ++ " returned non-bool: " ++
        L.goType v)

/-- `Evaluate`: the action, and the rule it comes from. -/
def evaluate (e : Evaluator) (ctx : EvaluationContext) : Except String (String × Option PolicyRule) :=
  (evaluateRules L ctx e.rules).map fun
    | some rule => (rule.action,some rule)
    | none => (e.config.default,none)

end Evaluator

end Policy
end AntiScrapling
