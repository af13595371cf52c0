import AntiScrapling.GoText
import AntiScrapling.Ja3Strings
import AntiScrapling.Token

/-! The bindings of the command line (`cmd/antiscrapling-cli/cmd/token.go`): pairs
`key=value` with commas between them. -/
namespace AntiScrapling
namespace CliBindings

open UnicodeText GoText Token SeparatedText

section Parser

/-- `strings.Cut` at a character. -/
def cut (s : String) (sep : Char) : Option (String × String) :=
  if sep ∈ s.toList then
    some (String.ofList (s.toList.takeWhile (· ≠ sep)),String.ofList ((s.toList.dropWhile (· ≠ sep)).drop 1))
  else none

def setField (ctx : IssueContext) (v : String) : Field → IssueContext
  | .ip => {ctx with ip := v}
  | .ua => {ctx with ua := v}
  | .ja3 => {ctx with ja3 := v}
  | .ja4 => {ctx with ja4 := v}

def emptyContext : IssueContext := ⟨"","","","","",0⟩

variable (isPrint : Char → Bool)

def bindPair (st : List String × IssueContext) (pair : String) : Except String (List String × IssueContext) :=
  let pair := trimSpace pair
  if pair = "" then .ok st
  else
    match cut pair '=' with
    | none => .error ("invalid binding " ++ quote isPrint pair ++ ": expected key=value")
    | some (k,v) =>
      match Field.ofName k with
      | some f => .ok (st.1++[k],setField st.2 v f)
      | none => .error ("unknown binding key " ++ quote isPrint k ++ " (valid: ip, ua, ja3, ja4)")

def parseBindings (bindStr : String) : Except String (List String × IssueContext) :=
  if bindStr = "" then .ok ([],emptyContext)
  else ((bindStr.toList.splitOn ',').map String.ofList).foldlM (bindPair isPrint) ([],emptyContext)

end Parser

section RoundTrip

structure Binding where
  field : Field
  value : String
  deriving DecidableEq, Repr

def Binding.text (b : Binding) : String := b.field.name ++ "=" ++ b.value

def joinBindings (bs : List Binding) : String := ",".intercalate (bs.map Binding.text)

variable {isPrint : Char → Bool}

variable (isPrint) in
def RoundTrips (bs : List Binding) : Prop :=
  ∃ ctx, parseBindings isPrint (joinBindings bs) = .ok (bs.map fun b => b.field.name,ctx) ∧
    ∀ b ∈ bs, ctx.get b.field = b.value

theorem get_setField (ctx : IssueContext) (v : String) (f g : Field) :
    (setField ctx v f).get g = if g = f then v else ctx.get g := by
  cases f <;> cases g <;> rfl

theorem ofName_name (f : Field) : Field.ofName f.name = some f := by
  cases f <;> rfl

theorem without_name {c : Char} (hc : c ∉ ['i','p','u','a','j','3','4']) (f : Field) : Without c f.name := by
  have hchars : f.name.toList ⊆ ['i','p','u','a','j','3','4'] := by cases f <;> decide
  exact fun hmem => hc (hchars hmem)

theorem text_toList (b : Binding) : b.text.toList = b.field.name.toList++ '='::b.value.toList := by
  simp [Binding.text]

theorem Binding.text_ne_empty (b : Binding) : b.text ≠ "" := by
  intro hempty
  have hchars := congrArg String.toList hempty
  simp [text_toList] at hchars

theorem mem_of_cut {s k v : String} {sep c : Char} (h : cut s sep = some (k,v)) (hc : c ∈ v.toList) :
    c ∈ s.toList := by
  unfold cut at h
  split_ifs at h
  obtain ⟨-,rfl⟩ := Prod.mk.inj (Option.some.inj h)
  rw [String.toList_ofList] at hc
  exact (List.dropWhile_sublist _).mem (List.mem_of_mem_drop hc)

theorem cut_text (b : Binding) : cut b.text '=' = some (b.field.name,b.value) := by
  have hname : ∀ c ∈ b.field.name.toList, decide (c ≠ '=') = true := fun c hc =>
    decide_eq_true fun heq => without_name (by decide) b.field (heq ▸ hc)
  unfold cut
  rw [text_toList,if_pos (List.mem_append_right _ List.mem_cons_self),List.takeWhile_append_of_pos hname,
    List.dropWhile_append_of_pos hname]
  simp

theorem trimmed_text {b : Binding} (h : Trimmed b.value) : Trimmed b.text := by
  unfold Trimmed
  rw [text_toList]
  constructor
  · intro c hc
    obtain ⟨d,ds,hname,hd⟩ : ∃ d ds, b.field.name.toList = d::ds ∧ isSpace d = false := by
      cases b.field <;> exact ⟨_,_,rfl,rfl⟩
    rw [hname,List.cons_append,List.head?_cons,Option.mem_some_iff] at hc
    rwa [← hc]
  · intro c hc
    rw [List.getLast?_append,List.getLast?_cons,Option.some_or,Option.mem_some_iff] at hc
    cases hlast : b.value.toList.getLast? with
    | none =>
      rw [← hc,hlast]
      rfl
    | some d =>
      rw [← hc,hlast]
      exact h.2 d hlast

theorem bindPair_text {b : Binding} (h : Trimmed b.value) (st : List String × IssueContext) :
    bindPair isPrint st b.text = .ok (st.1++[b.field.name],setField st.2 b.value b.field) := by
  unfold bindPair
  simp only [trimSpace_eq_self (trimmed_text h),if_neg b.text_ne_empty,cut_text,ofName_name]

theorem bindPairs_texts {bs : List Binding} (h : ∀ b ∈ bs, Trimmed b.value) (st : List String × IssueContext) :
    (bs.map Binding.text).foldlM (bindPair isPrint) st =
      .ok (st.1++bs.map (fun b => b.field.name),bs.foldl (fun ctx b => setField ctx b.value b.field) st.2) := by
  induction bs generalizing st with
  | nil => simp [pure,Except.pure]
  | cons b bs ih =>
    rw [List.forall_mem_cons] at h
    rw [List.map_cons,List.foldlM_cons,bindPair_text h.1]
    refine (ih h.2 _).trans ?_
    rw [List.append_assoc]
    rfl

theorem get_foldl_setField {bs : List Binding} (ctx : IssueContext) (hdistinct : (bs.map Binding.field).Nodup) :
    (∀ b ∈ bs, (bs.foldl (fun ctx b => setField ctx b.value b.field) ctx).get b.field = b.value) ∧
    ∀ f ∉ bs.map Binding.field, (bs.foldl (fun ctx b => setField ctx b.value b.field) ctx).get f = ctx.get f := by
  induction bs generalizing ctx with
  | nil => simp
  | cons b bs ih =>
    rw [List.map_cons,List.nodup_cons] at hdistinct
    obtain ⟨hbound,hother⟩ := ih (setField ctx b.value b.field) hdistinct.2
    simp only [List.foldl_cons]
    refine ⟨?_,?_⟩
    · intro b' hb'
      rcases List.mem_cons.mp hb' with rfl | hb'
      · rw [hother b'.field hdistinct.1,get_setField,if_pos rfl]
      · exact hbound b' hb'
    · intro f hf
      rw [List.map_cons,List.mem_cons,not_or] at hf
      rw [hother f hf.2,get_setField,if_neg hf.1]

theorem roundTrips_of_without {bs : List Binding} (hdistinct : (bs.map Binding.field).Nodup)
    (htrim : ∀ b ∈ bs, Trimmed b.value) (hcomma : ∀ b ∈ bs, Without ',' b.value) : RoundTrips isPrint bs := by
  refine ⟨bs.foldl (fun ctx b => setField ctx b.value b.field) emptyContext,?_,
    (get_foldl_setField emptyContext hdistinct).1⟩
  by_cases hbs : bs = []
  · subst hbs
    rfl
  have htexts : ∀ t ∈ bs.map Binding.text, Without ',' t := by
    intro t ht
    obtain ⟨b,hb,rfl⟩ := List.mem_map.mp ht
    unfold Without
    rw [text_toList,List.mem_append,List.mem_cons,not_or,not_or]
    exact ⟨without_name (by decide) b.field,by decide,hcomma b hb⟩
  have hsplit := splitOn_join comma_toList (by simpa using hbs) htexts
  have hne : joinBindings bs ≠ "" := by
    intro hempty
    refine hbs (List.map_eq_nil_iff.mp (join_eq_empty hempty fun t ht => ?_))
    obtain ⟨b,-,rfl⟩ := List.mem_map.mp ht
    exact b.text_ne_empty
  unfold parseBindings
  rw [if_neg hne,joinBindings,hsplit,List.map_map]
  have hofList : String.ofList ∘ String.toList = id := by
    funext s
    exact String.ofList_toList
  rw [hofList,List.map_id,bindPairs_texts htrim]
  rfl

theorem bindPair_without {st st' : List String × IssueContext} {pair : String} (hpair : Without ',' pair)
    (hst : ∀ f, Without ',' (st.2.get f)) (h : bindPair isPrint st pair = .ok st') (f : Field) :
    Without ',' (st'.2.get f) := by
  unfold bindPair at h
  simp only at h
  split_ifs at h
  · cases h
    exact hst f
  split at h
  · cases h
  · next k v hcut =>
    split at h
    · next g _ =>
      cases h
      rw [get_setField]
      split_ifs
      · exact fun hmem => hpair (mem_of_mem_trimSpace (mem_of_cut hcut hmem))
      · exact hst f
    · cases h

theorem bindPairs_without {pairs : List String} {st st' : List String × IssueContext}
    (h : pairs.foldlM (bindPair isPrint) st = .ok st') (hpairs : ∀ pair ∈ pairs, Without ',' pair)
    (hst : ∀ f, Without ',' (st.2.get f)) (f : Field) : Without ',' (st'.2.get f) := by
  induction pairs generalizing st with
  | nil =>
    cases h
    exact hst f
  | cons pair pairs ih =>
    rw [List.forall_mem_cons] at hpairs
    rw [List.foldlM_cons] at h
    cases hpair : bindPair isPrint st pair with
    | error e =>
      rw [hpair] at h
      cases h
    | ok st₁ =>
      rw [hpair] at h
      exact ih h hpairs.2 (bindPair_without hpairs.1 hst hpair)

theorem parseBindings_without {bindStr : String} {keys : List String} {ctx : IssueContext}
    (h : parseBindings isPrint bindStr = .ok (keys,ctx)) (f : Field) : Without ',' (ctx.get f) := by
  have hempty : ∀ f, Without ',' (emptyContext.get f) := by
    intro f
    cases f <;> simp [Without,emptyContext,IssueContext.get]
  unfold parseBindings at h
  split_ifs at h
  · cases h
    exact hempty f
  · have hpairs : ∀ pair ∈ (bindStr.toList.splitOn ',').map String.ofList, Without ',' pair := by
      intro pair hpair
      obtain ⟨part,hpart,rfl⟩ := List.mem_map.mp hpair
      rw [Without,String.toList_ofList]
      exact notMem_of_mem_splitOn hpart
    exact bindPairs_without h hpairs hempty f

theorem comma_mem_ja3String (hello : ClientHello.Hello) : ',' ∈ (TlsFingerprint.ja3String hello).toList := by
  rw [TlsFingerprint.ja3String_eq_join,String.toList_intercalate,comma_toList]
  simp [TlsFingerprint.ja3Parts]

/-- Bindings with distinct keys and trimmed values round trip exactly if no value has a comma;
so with a JA3 string they never do. -/
theorem roundTrips_iff {bs : List Binding} (hdistinct : (bs.map Binding.field).Nodup)
    (htrim : ∀ b ∈ bs, Trimmed b.value) :
    (RoundTrips isPrint bs ↔ ∀ b ∈ bs, Without ',' b.value) ∧
    ∀ hello, (∃ b ∈ bs, b.value = TlsFingerprint.ja3String hello) → ¬ RoundTrips isPrint bs := by
  have hiff : RoundTrips isPrint bs ↔ ∀ b ∈ bs, Without ',' b.value := by
    constructor
    · rintro ⟨ctx,hparse,hget⟩ b hb
      rw [← hget b hb]
      exact parseBindings_without hparse b.field
    · exact roundTrips_of_without hdistinct htrim
  refine ⟨hiff,?_⟩
  rintro hello ⟨b,hb,hvalue⟩ h
  refine hiff.mp h b hb ?_
  rw [hvalue]
  exact comma_mem_ja3String hello

theorem roundTrips_iff_plain :
    RoundTrips Char.isAlphanum [⟨.ua,"a=b c"⟩,⟨.ip,"::1"⟩] ∧ ¬ RoundTrips Char.isAlphanum [⟨.ja4,"t13d,h2"⟩] := by
  have htrim (s : String) (h : trimSpace s = s) : Trimmed s := h ▸ trimmed_trimSpace s
  have hagent := htrim "a=b c" (by decide)
  have haddr := htrim "::1" (by decide)
  have hja4 := htrim "t13d,h2" (by decide)
  constructor
  · refine (roundTrips_iff (by decide) ?_).1.mpr ?_
    · simpa using ⟨hagent,haddr⟩
    · simp [Without]
  · refine fun h => (roundTrips_iff (by decide) (by simpa using hja4)).1.mp h ⟨.ja4,"t13d,h2"⟩ List.mem_cons_self ?_
    decide

def isASCIIPrint (c : Char) : Bool := decide (0x20 ≤ c.toNat ∧ c.toNat < 0x7f)

/-- The keys that are read, with the address and the user agent. -/
def readBack (bs : List Binding) : Except String (List String × String × String) :=
  (parseBindings isASCIIPrint (joinBindings bs)).map fun r => (r.1,r.2.ip,r.2.ua)

def plainHello : ClientHello.Hello where
  version := 0x0303
  random := []
  sessionID := []
  cipherSuites := [0x1301]
  compressionMethods := []

theorem not_roundTrips_of_readBack {bs : List Binding}
    (h : (readBack bs).map Prod.fst ≠ .ok (bs.map fun b => b.field.name)) : ¬ RoundTrips isASCIIPrint bs := by
  rintro ⟨ctx,hparse,-⟩
  refine h ?_
  rw [readBack,hparse]
  rfl

def commaBindings : List (List Binding) := [
  [⟨.ja3,TlsFingerprint.ja3String plainHello⟩],
  [⟨.ip,"1.2.3.4"⟩,⟨.ua,"Mozilla/5.0 AppleWebKit/537.36 (KHTML, like Gecko)"⟩],
  [⟨.ua,"curl,ip=10.0.0.1"⟩]]

/-- A JA3 string is refused at its second part and a user agent at its comma, and what follows
a comma can be another binding. -/
theorem comma_bindings_fail :
    (∀ bs ∈ commaBindings, (bs.map Binding.field).Nodup ∧ (∀ b ∈ bs, trimSpace b.value = b.value) ∧
      ¬ RoundTrips isASCIIPrint bs) ∧
    commaBindings.map readBack = [
      .error "invalid binding \"4865\": expected key=value",
      .error "invalid binding \"like Gecko)\": expected key=value",
      .ok (["ua","ip"],"10.0.0.1","curl")] := by
  have hfails : ∀ bs ∈ commaBindings, (bs.map Binding.field).Nodup ∧ (∀ b ∈ bs, trimSpace b.value = b.value) ∧
      (readBack bs).map Prod.fst ≠ .ok (bs.map fun b => b.field.name) := by
    decide +kernel
  refine ⟨fun bs hbs => ?_,by decide +kernel⟩
  obtain ⟨hdistinct,htrim,hread⟩ := hfails bs hbs
  exact ⟨hdistinct,htrim,not_roundTrips_of_readBack hread⟩

end RoundTrip

end CliBindings
end AntiScrapling
