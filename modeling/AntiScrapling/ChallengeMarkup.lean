import AntiScrapling.ChallengeClient

/-! The origin of a challenge in the markup of its page. The page carries it in a quoted
attribute value as it came, so it is read back as long as no quote ends the value early
and nothing in it is taken for a character reference; with a quote it is never read back. -/
namespace AntiScrapling
namespace Challenge

open Token HtmlTags

section Reading

/-- What a tokenizer makes of an attribute value: character references are replaced, line
ends become one form and NUL a replacement character. The value never gets longer. -/
structure ValueDecoder where
  decode : List Char → List Char
  length_le : ∀ value, (decode value).length ≤ value.length

def originOf (origin : String) : String := if origin = "" then "/" else origin

/-- A tag without the value of the origin. -/
def withoutOrigin (tag : Tag) : Tag :=
  {tag with attributes := tag.attributes.map fun a =>
    if a.1 = "data-origin".toList then (a.1,[]) else a}

def challengeAttributes : List (List Char) :=
  ["name".toList,"data-id".toList,"data-difficulty".toList,"data-origin".toList]

/-- The page has the tags that it has for the origin `/`, and the challenge tag has its
four attributes with the origin in the last one. -/
structure FaithfulPage (D : ValueDecoder) (st : State) (id origin : String) (now : Time) : Prop where
  same_tags : (tags (handleChallenge st id origin now).2).map withoutOrigin =
    (tags (handleChallenge st id "/" now).2).map withoutOrigin
  origin_read : ∃ tag, challengeMeta (handleChallenge st id origin now).2 = some tag ∧
    tag.attributes.map Prod.fst = challengeAttributes ∧
    (tag.attribute "data-origin").map D.decode = some (originOf origin).toList

end Reading

section Injection
variable {st : State} {id : String} (now : Time)

theorem quote_mem_originOf {origin : String} : '"' ∈ (originOf origin).toList ↔ '"' ∈ origin.toList := by
  unfold originOf
  split_ifs with h
  · subst h
    decide
  · rfl

theorem readTag_origin (id d origin : List Char) :
    (readTag id d origin).attributes.map Prod.fst = challengeAttributes ∧
      (readTag id d origin).attribute "data-origin" = some origin := ⟨rfl,rfl⟩

def isChallengeMeta (tag : Tag) : Bool :=
  !tag.closing && tag.name == "meta".toList && tag.attribute "name" == some "__as_challenge".toList

theorem challengeMeta_eq (page : String) : challengeMeta page = (tags page).find? isChallengeMeta := rfl

theorem extends_readTag {id d origin : List Char} {tag : Tag} (h : (readTag id d origin).Extends tag) :
    isChallengeMeta tag = true ∧ tag.attribute "data-origin" = some origin := by
  obtain ⟨closing,name,attributes⟩ := tag
  obtain ⟨rfl,rfl,more,rfl⟩ := h
  exact ⟨rfl,rfl⟩

theorem challengeMeta_quoted {pre post : List Char} (hid : '"' ∉ id.toList) (hpre : '"' ∉ pre)
    {origin : String} (horigin : (originOf origin).toList = pre++ '"'::post) {tag : Tag}
    (htag : challengeMeta (handleChallenge st id origin now).2 = some tag) :
    tag.attribute "data-origin" = some pre := by
  have hpage : tags (handleChallenge st id origin now).2 = (lex ⟨.afterQuotedValue (readTag id.toList
      (toString st.issuer.powDifficulty).toList pre),headTags⟩
        (post++['"','>']++challengeHTMLTail.flatMap String.toList)).tags := by
    have hmeta := lex_metaTag_origin st.issuer.powDifficulty (originOf origin) hid
    rw [horigin,List.append_assoc,lex_append,lex_quotedValue _ _ _ _ _ hpre] at hmeta
    rw [tags,page_chars,lex_append,lex_append,lex_head,← originOf,hmeta,← lex_append]
    rfl
  have hnone : headTags.find? isChallengeMeta = none := rfl
  rw [challengeMeta_eq,hpage] at htag
  obtain ⟨tag',hext,⟨-,hsame⟩ | ⟨more,hmore⟩⟩ := lex_building (l:=⟨.afterQuotedValue (readTag id.toList
    (toString st.issuer.powDifficulty).toList pre),headTags⟩) rfl
      (post++['"','>']++challengeHTMLTail.flatMap String.toList)
  · rw [hsame,hnone] at htag
    cases htag
  · obtain ⟨hfound,hattribute⟩ := extends_readTag hext
    rw [← hmore,List.append_assoc,List.find?_append,hnone,Option.none_or,List.singleton_append,
      List.find?_cons_of_pos hfound] at htag
    rw [← Option.some.inj htag,hattribute]

/-- The page is faithful exactly if the origin has no quote and is its own decoded value. -/
theorem faithfulPage_iff (D : ValueDecoder) (hid : '"' ∉ id.toList) (origin : String) :
    FaithfulPage D st id origin now ↔
      '"' ∉ origin.toList ∧ D.decode (originOf origin).toList = (originOf origin).toList := by
  constructor
  · rintro ⟨-,tag,htag,-,hdecode⟩
    by_cases hquote : '"' ∈ origin.toList
    · obtain ⟨pre,post,horigin,hpre⟩ := List.eq_append_cons_of_mem (quote_mem_originOf.mpr hquote)
      rw [challengeMeta_quoted now hid hpre horigin htag,Option.map_some,horigin] at hdecode
      have hlen := D.length_le pre
      rw [Option.some.inj hdecode,List.length_append,List.length_cons] at hlen
      omega
    · refine ⟨hquote,?_⟩
      rw [challengeMeta_page now hid hquote] at htag
      rw [← Option.some.inj htag,(readTag_origin _ _ _).2] at hdecode
      exact Option.some.inj hdecode
  · rintro ⟨hquote,hdecode⟩
    refine ⟨?_,_,challengeMeta_page now hid hquote,(readTag_origin _ _ _).1,?_⟩
    · rw [tags_page now hid hquote,tags_page now hid (by decide : '"' ∉ "/".toList)]
      simp only [List.map_append]
      rfl
    · rw [(readTag_origin _ _ _).2]
      exact congrArg some hdecode

end Injection

section Samples

/-- Nothing is decoded. -/
def plainDecoder : ValueDecoder := ⟨id,fun _ => Nat.le_refl _⟩

theorem faithfulPage_shop :
    FaithfulPage plainDecoder (Ledger.start 4 sampleStart).state sampleID "/shop?page=2" sampleStart :=
  (faithfulPage_iff sampleStart plainDecoder (by decide) "/shop?page=2").mpr ⟨by decide,rfl⟩

def samplePage (origin : String) : String :=
  (handleChallenge (Ledger.start 4 sampleStart).state sampleID origin sampleStart).2

def scriptOrigin : String := "\"><script>alert(1)</script>"

theorem lex_scriptOrigin :
    lex ⟨.data,headTags⟩ (metaTag sampleID (Ledger.start 4 sampleStart).state.issuer.powDifficulty
      scriptOrigin).toList = ⟨.data,headTags++[readTag sampleID.toList ['4'] [],{name := "script".toList},
        {closing := true, name := "script".toList}]⟩ := by
  rw [lex_metaTag_origin _ _ (by decide)]
  decide +kernel

/-- The origin brings a script of its own into the page. -/
theorem script_injected :
    (∃ rest : List Tag,
      tags (samplePage "/") = headTags++[readTag sampleID.toList ['4'] ['/']]++rest ∧
      tags (samplePage scriptOrigin) = headTags++[readTag sampleID.toList ['4'] [],
        {name := "script".toList},{closing := true, name := "script".toList}]++rest) ∧
    (tags (samplePage scriptOrigin)).map withoutOrigin ≠ (tags (samplePage "/")).map withoutOrigin := by
  have hplain : tags (samplePage "/") = headTags++[readTag sampleID.toList ['4'] ['/']]++
      (lex {} (challengeHTMLTail.flatMap String.toList)).tags :=
    tags_page sampleStart (by decide) (by decide)
  have hscript : tags (samplePage scriptOrigin) = headTags++[readTag sampleID.toList ['4'] [],
      {name := "script".toList},{closing := true, name := "script".toList}]++
      (lex {} (challengeHTMLTail.flatMap String.toList)).tags := by
    rw [samplePage,tags,page_chars,lex_append,lex_append,lex_head,if_neg (by decide),lex_scriptOrigin,
      lex_data_tags]
  refine ⟨⟨_,hplain,hscript⟩,fun h => ?_⟩
  have hlen := congrArg List.length h
  rw [hplain,hscript] at hlen
  simp only [List.length_map,List.length_append,List.length_cons,List.length_nil] at hlen
  omega

end Samples

end Challenge
end AntiScrapling
