import Mathlib.Data.List.Basic
import Mathlib.Tactic.Common

/-! The tags of an HTML text, read one character at a time.
Character references in attribute values are left as they stand. -/
namespace AntiScrapling
namespace HtmlTags

/-- A start or end tag; of two attributes with one name the first counts. -/
structure Tag where
  closing : Bool := false
  name : List Char := []
  attributes : List (List Char × List Char) := []
  deriving DecidableEq, Repr

/-- The states of the tokenizer, with the tag and the attribute under construction. -/
inductive Mode
  | data
  | tagOpen
  | endTagOpen
  | tagName (tag : Tag)
  | beforeAttribute (tag : Tag)
  | attributeName (tag : Tag) (name : List Char)
  | afterAttributeName (tag : Tag) (name : List Char)
  | beforeValue (tag : Tag) (name : List Char)
  | quotedValue (quote : Char) (tag : Tag) (name value : List Char)
  | unquotedValue (tag : Tag) (name value : List Char)
  | afterQuotedValue (tag : Tag)
  | selfClosing (tag : Tag)
  | markup (seen : List Char)
  | comment (dashes : ℕ)
  | commentBang
  | bogusComment
  | rawText (element : List Char)
  | rawTextOpen (element : List Char)
  | rawTextEnd (element seen : List Char)
  deriving DecidableEq, Repr

structure Lexer where
  mode : Mode := .data
  /-- The tags read so far. -/
  tags : List Tag := []
  deriving DecidableEq, Repr

def isBlank (c : Char) : Bool := c == '\t' || c == '\n' || c == '\x0c' || c == '\r' || c == ' '

/-- Elements whose content is not markup, for a page with scripting. -/
def isRawText (name : List Char) : Bool :=
  name ∈ ["title".toList,"textarea".toList,"style".toList,"script".toList,"xmp".toList,
    "iframe".toList,"noembed".toList,"noframes".toList,"noscript".toList]

def Tag.addAttribute (tag : Tag) (name value : List Char) : Tag :=
  if tag.attributes.any fun a => a.1 == name then tag
  else {tag with attributes := tag.attributes++[(name,value)]}

def Lexer.emit (l : Lexer) (tag : Tag) : Lexer where
  mode := if !tag.closing && isRawText tag.name then .rawText tag.name else .data
  tags := l.tags++[tag]

def Lexer.startAttribute (l : Lexer) (tag : Tag) (c : Char) : Lexer :=
  if isBlank c then {l with mode := .beforeAttribute tag}
  else if c = '/' then {l with mode := .selfClosing tag}
  else if c = '>' then l.emit tag
  else {l with mode := .attributeName tag [c.toLower]}

def step (l : Lexer) (c : Char) : Lexer :=
  match l.mode with
  | .data => if c = '<' then {l with mode := .tagOpen} else l
  | .tagOpen =>
    if c.isAlpha then {l with mode := .tagName {name := [c.toLower]}}
    else if c = '/' then {l with mode := .endTagOpen}
    else if c = '!' then {l with mode := .markup []}
    else if c = '?' then {l with mode := .bogusComment}
    else if c = '<' then l
    else {l with mode := .data}
  | .endTagOpen =>
    if c.isAlpha then {l with mode := .tagName {closing := true, name := [c.toLower]}}
    else if c = '>' then {l with mode := .data}
    else {l with mode := .bogusComment}
  | .tagName tag =>
    if isBlank c then {l with mode := .beforeAttribute tag}
    else if c = '/' then {l with mode := .selfClosing tag}
    else if c = '>' then l.emit tag
    else {l with mode := .tagName {tag with name := tag.name++[c.toLower]}}
  | .beforeAttribute tag => l.startAttribute tag c
  | .attributeName tag name =>
    if isBlank c then {l with mode := .afterAttributeName tag name}
    else if c = '/' then {l with mode := .selfClosing (tag.addAttribute name [])}
    else if c = '>' then l.emit (tag.addAttribute name [])
    else if c = '=' then {l with mode := .beforeValue tag name}
    else {l with mode := .attributeName tag (name++[c.toLower])}
  | .afterAttributeName tag name =>
    if isBlank c then l
    else if c = '=' then {l with mode := .beforeValue tag name}
    else l.startAttribute (tag.addAttribute name []) c
  | .beforeValue tag name =>
    if isBlank c then l
    else if c = '"' ∨ c = '\'' then {l with mode := .quotedValue c tag name []}
    else if c = '>' then l.emit (tag.addAttribute name [])
    else {l with mode := .unquotedValue tag name [c]}
  | .quotedValue quote tag name value =>
    if c = quote then {l with mode := .afterQuotedValue (tag.addAttribute name value)}
    else {l with mode := .quotedValue quote tag name (value++[c])}
  | .unquotedValue tag name value =>
    if isBlank c then {l with mode := .beforeAttribute (tag.addAttribute name value)}
    else if c = '>' then l.emit (tag.addAttribute name value)
    else {l with mode := .unquotedValue tag name (value++[c])}
  | .afterQuotedValue tag => l.startAttribute tag c
  | .selfClosing tag => if c = '>' then l.emit tag else l.startAttribute tag c
  | .markup seen =>
    if seen = ['-'] ∧ c = '-' then {l with mode := .comment 2}
    else if seen = [] ∧ c = '-' then {l with mode := .markup ['-']}
    else if c = '>' then {l with mode := .data}
    else {l with mode := .bogusComment}
  | .comment dashes =>
    if c = '-' then {l with mode := .comment (dashes+1)}
    else if c = '>' ∧ dashes ≥ 2 then {l with mode := .data}
    else if c = '!' ∧ dashes ≥ 2 then {l with mode := .commentBang}
    else {l with mode := .comment 0}
  | .commentBang =>
    if c = '-' then {l with mode := .comment 1}
    else if c = '>' then {l with mode := .data}
    else {l with mode := .comment 0}
  | .bogusComment => if c = '>' then {l with mode := .data} else l
  | .rawText element => if c = '<' then {l with mode := .rawTextOpen element} else l
  | .rawTextOpen element =>
    if c = '/' then {l with mode := .rawTextEnd element []}
    else if c = '<' then l
    else {l with mode := .rawText element}
  | .rawTextEnd element seen =>
    if c.isAlpha then {l with mode := .rawTextEnd element (seen++[c.toLower])}
    else if seen = element then
      if isBlank c then {l with mode := .beforeAttribute {closing := true, name := seen}}
      else if c = '/' then {l with mode := .selfClosing {closing := true, name := seen}}
      else if c = '>' then l.emit {closing := true, name := seen}
      else {l with mode := .rawText element}
    else if c = '<' then {l with mode := .rawTextOpen element}
    else {l with mode := .rawText element}

def lex (l : Lexer) (cs : List Char) : Lexer := cs.foldl step l

def tags (s : String) : List Tag := (lex {} s.toList).tags

def Tag.attribute (tag : Tag) (name : String) : Option (List Char) := tag.attributes.lookup name.toList

section Reading

@[simp] theorem lex_nil (l : Lexer) : lex l [] = l := rfl

theorem lex_append (l : Lexer) (xs ys : List Char) : lex l (xs++ys) = lex (lex l xs) ys :=
  List.foldl_append

theorem startAttribute_tags (l : Lexer) (tag : Tag) (c : Char) : l.tags <+: (l.startAttribute tag c).tags := by
  unfold Lexer.startAttribute Lexer.emit
  split_ifs <;> simp

theorem step_tags (l : Lexer) (c : Char) : l.tags <+: (step l c).tags := by
  unfold step
  split <;> (try split_ifs) <;> (try exact List.prefix_refl _) <;>
    (try exact startAttribute_tags _ _ _) <;> exact List.prefix_append _ _

theorem lex_tags (l : Lexer) (cs : List Char) : l.tags <+: (lex l cs).tags := by
  induction cs generalizing l with
  | nil => exact List.prefix_refl _
  | cons c cs ih => exact (step_tags l c).trans (ih (step l c))

def Lexer.after (ts : List Tag) (l : Lexer) : Lexer := ⟨l.mode,ts++l.tags⟩

theorem startAttribute_after (ts : List Tag) (l : Lexer) (tag : Tag) (c : Char) :
    (l.after ts).startAttribute tag c = (l.startAttribute tag c).after ts := by
  unfold Lexer.startAttribute Lexer.emit Lexer.after
  split_ifs <;> simp

theorem step_after (ts : List Tag) (l : Lexer) (c : Char) : step (l.after ts) c = (step l c).after ts := by
  have hstart := startAttribute_after ts l
  have hmode : (l.after ts).mode = l.mode := rfl
  have hemit (tag : Tag) : (l.after ts).emit tag = (l.emit tag).after ts := by
    simp [Lexer.emit,Lexer.after]
  unfold step
  rw [hmode]
  cases l.mode <;> simp only [hstart,hemit] <;> split_ifs <;> rfl

theorem lex_after (ts : List Tag) (l : Lexer) (cs : List Char) : lex (l.after ts) cs = (lex l cs).after ts := by
  induction cs generalizing l with
  | nil => rfl
  | cons c cs ih =>
    rw [lex,List.foldl_cons,step_after]
    exact ih (step l c)

theorem lex_data_tags (ts : List Tag) (cs : List Char) : (lex ⟨.data,ts⟩ cs).tags = ts++(lex {} cs).tags := by
  have hstart : (⟨.data,ts⟩ : Lexer) = Lexer.after ts {} := by simp [Lexer.after]
  rw [hstart,lex_after]
  rfl

/-- A quoted value ends at the first quote. -/
theorem lex_quotedValue (quote : Char) (tag : Tag) (name value : List Char) (ts : List Tag)
    {cs : List Char} (h : quote ∉ cs) :
    lex ⟨.quotedValue quote tag name value,ts⟩ cs = ⟨.quotedValue quote tag name (value++cs),ts⟩ := by
  induction cs generalizing value with
  | nil => simp
  | cons c cs ih =>
    have hc : c ≠ quote := fun he => h (he ▸ List.mem_cons_self)
    have hstep : step ⟨.quotedValue quote tag name value,ts⟩ c =
        ⟨.quotedValue quote tag name (value++[c]),ts⟩ := by simp [step,hc]
    rw [lex,List.foldl_cons,hstep]
    have := ih (value++[c]) fun hm => h (List.mem_cons_of_mem _ hm)
    rwa [List.append_assoc,List.singleton_append] at this

end Reading

section Building

def Mode.building : Mode → Option Tag
  | beforeAttribute tag => some tag
  | attributeName tag _ => some tag
  | afterAttributeName tag _ => some tag
  | beforeValue tag _ => some tag
  | quotedValue _ tag _ _ => some tag
  | unquotedValue tag _ _ => some tag
  | afterQuotedValue tag => some tag
  | selfClosing tag => some tag
  | _ => none

/-- The same tag, perhaps with more attributes at the end. -/
structure Tag.Extends (tag tag' : Tag) : Prop where
  closing_eq : tag'.closing = tag.closing
  name_eq : tag'.name = tag.name
  attributes_kept : tag.attributes <+: tag'.attributes

theorem Tag.Extends.refl (tag : Tag) : tag.Extends tag := ⟨rfl,rfl,List.prefix_refl _⟩

theorem Tag.Extends.trans {t₁ t₂ t₃ : Tag} (h : t₁.Extends t₂) (h' : t₂.Extends t₃) : t₁.Extends t₃ :=
  ⟨h'.1.trans h.1,h'.2.trans h.2,h.3.trans h'.3⟩

theorem Tag.extends_addAttribute (tag : Tag) (name value : List Char) :
    tag.Extends (tag.addAttribute name value) := by
  unfold Tag.addAttribute
  split_ifs
  · exact .refl tag
  · exact ⟨rfl,rfl,List.prefix_append _ _⟩

/-- What becomes of a tag under construction: it is still there, or it is the next tag. -/
def Lexer.Carries (ts : List Tag) (tag : Tag) (l : Lexer) : Prop :=
  ∃ tag', tag.Extends tag' ∧ (l.mode.building = some tag' ∧ l.tags = ts ∨ ts++[tag'] <+: l.tags)

theorem carries_emit (l : Lexer) {tag tag' : Tag} (h : tag.Extends tag') :
    (l.emit tag').Carries l.tags tag :=
  ⟨tag',h,.inr (List.prefix_refl _)⟩

theorem carries_startAttribute (l : Lexer) {tag tag' : Tag} (h : tag.Extends tag') (c : Char) :
    (l.startAttribute tag' c).Carries l.tags tag := by
  unfold Lexer.startAttribute
  split_ifs
  · exact ⟨tag',h,.inl ⟨rfl,rfl⟩⟩
  · exact ⟨tag',h,.inl ⟨rfl,rfl⟩⟩
  · exact carries_emit l h
  · exact ⟨tag',h,.inl ⟨rfl,rfl⟩⟩

theorem step_building {l : Lexer} {tag : Tag} (h : l.mode.building = some tag) (c : Char) :
    (step l c).Carries l.tags tag := by
  have hadd := Tag.extends_addAttribute tag
  have hsame := Tag.Extends.refl tag
  have hgo (mode : Mode) {tag' : Tag} (hmode : mode.building = some tag') (hext : tag.Extends tag') :
      Lexer.Carries l.tags tag {l with mode := mode} := ⟨tag',hext,.inl ⟨hmode,rfl⟩⟩
  obtain ⟨mode,ts⟩ := l
  unfold step
  cases mode with
  | beforeAttribute t =>
    cases h
    exact carries_startAttribute _ hsame c
  | attributeName t name =>
    cases h
    simp only
    split_ifs
    · exact hgo _ rfl hsame
    · exact hgo _ rfl (hadd name [])
    · exact carries_emit _ (hadd name [])
    · exact hgo _ rfl hsame
    · exact hgo _ rfl hsame
  | afterAttributeName t name =>
    cases h
    simp only
    split_ifs
    · exact hgo (.afterAttributeName tag name) rfl hsame
    · exact hgo _ rfl hsame
    · exact carries_startAttribute _ (hadd name []) c
  | beforeValue t name =>
    cases h
    simp only
    split_ifs
    · exact hgo (.beforeValue tag name) rfl hsame
    · exact hgo _ rfl hsame
    · exact carries_emit _ (hadd name [])
    · exact hgo _ rfl hsame
  | quotedValue quote t name value =>
    cases h
    simp only
    split_ifs
    · exact hgo _ rfl (hadd name value)
    · exact hgo _ rfl hsame
  | unquotedValue t name value =>
    cases h
    simp only
    split_ifs
    · exact hgo _ rfl (hadd name value)
    · exact carries_emit _ (hadd name value)
    · exact hgo _ rfl hsame
  | afterQuotedValue t =>
    cases h
    exact carries_startAttribute _ hsame c
  | selfClosing t =>
    cases h
    simp only
    split_ifs
    · exact carries_emit _ hsame
    · exact carries_startAttribute _ hsame c
  | _ => cases h

/-- The attributes that a tag has are not lost, whatever comes behind them. -/
theorem lex_building {l : Lexer} {tag : Tag} (h : l.mode.building = some tag) (cs : List Char) :
    (lex l cs).Carries l.tags tag := by
  induction cs generalizing l tag with
  | nil => exact ⟨tag,.refl tag,.inl ⟨h,rfl⟩⟩
  | cons c cs ih =>
    obtain ⟨tag₁,hext,⟨hmode,htags⟩ | hdone⟩ := step_building h c
    · obtain ⟨tag₂,hext₂,hcase⟩ := ih hmode
      rw [htags] at hcase
      exact ⟨tag₂,hext.trans hext₂,hcase⟩
    · exact ⟨tag₁,hext,.inr (hdone.trans (lex_tags (step l c) cs))⟩

end Building

end HtmlTags
end AntiScrapling
