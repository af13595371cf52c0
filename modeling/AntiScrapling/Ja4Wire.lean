import AntiScrapling.ClientHelloWire
import AntiScrapling.ListEdits
import AntiScrapling.SortedLists
import AntiScrapling.TlsFingerprint
import Mathlib.Data.Multiset.Defs

/-! JA4 on the wire. Every byte string that the parser accepts is a framed message with
known parts; the parts can be reordered and GREASE can come and go among them, and the
fingerprint of the new bytes is the old one. -/
namespace AntiScrapling
namespace TlsFingerprint

open CheckedRun ByteCodec ClientHello ListEdits

section Framing

/-- How a message is sent: alone or in a record, with bytes behind it that are not read. -/
inductive Framing
  | message (post : Bytes)
  | record (major minor : UInt8) (inner post : Bytes)

namespace Framing

def wrap : Framing → Bytes → Bytes
  | message post, body => handshakeMessage body++post
  | record major minor inner post, body => tlsRecord major minor (handshakeMessage body++inner)++post

def Fits : Framing → Bytes → Prop
  | message _, _ => True
  | record _ _ inner _, body => (handshakeMessage body++inner).length < 65536

end Framing

theorem clientHelloBody_wrap {f : Framing} {body : Bytes} (hlen : body.length < 16777216)
    (hfits : f.Fits body) : clientHelloBody (f.wrap body) = .ok body := by
  cases f with
  | message post => exact clientHelloBody_message post hlen
  | record major minor inner post =>
    unfold Framing.wrap
    rw [clientHelloBody_tlsRecord major minor post hfits]
    exact handshakeBody_message inner hlen

theorem exists_handshakeMessage {handshake body : Bytes} (hok : handshakeBody handshake = .ok body) :
    ∃ post, handshake = handshakeMessage body++post := by
  obtain ⟨b₁,b₂,b₃,rest,rfl,hlen,rfl⟩ := handshakeBody_eq_ok hok
  refine ⟨rest.drop (handshakeLength b₁ b₂ b₃),?_⟩
  rw [handshakeMessage_eq (by rw [List.length_take,Nat.min_eq_left hlen])]
  simp only [List.cons_append,List.take_append_drop]

theorem exists_framing {raw body : Bytes} (hok : clientHelloBody raw = .ok body) :
    ∃ f : Framing, f.Fits body ∧ f.wrap body = raw := by
  rcases clientHelloBody_eq_ok hok with ⟨-,hmessage⟩ | ⟨major,minor,hi,lo,rest,rfl,hlen,hmessage⟩
  · obtain ⟨post,rfl⟩ := exists_handshakeMessage hmessage
    exact ⟨.message post,trivial,rfl⟩
  · obtain ⟨inner,hpayload⟩ := exists_handshakeMessage hmessage
    have hn : (rest.take (recordLength hi lo)).length = recordLength hi lo := by
      rw [List.length_take,Nat.min_eq_left hlen]
    have hhi := hi.toNat_lt
    have hlo := lo.toNat_lt
    refine ⟨.record major minor inner (rest.drop (recordLength hi lo)),?_,?_⟩
    · rw [Framing.Fits,← hpayload,hn,recordLength]
      omega
    · rw [Framing.wrap,← hpayload,tlsRecord_eq hn]
      simp only [List.cons_append,List.take_append_drop]

end Framing

section Sent

/-- The parts of an accepted byte string. The block of extensions may be missing. -/
structure Sent where
  framing : Framing
  version : UInt16
  random : Bytes
  sessionID : Bytes
  cipherSuites : List UInt16
  compressionMethods : Bytes
  extensions : Option (List Extension)

namespace Sent

def hello (w : Sent) : Hello where
  version := w.version
  random := w.random
  sessionID := w.sessionID
  cipherSuites := w.cipherSuites
  compressionMethods := w.compressionMethods
  extensions := w.extensions.getD []

def body (w : Sent) : Bytes := encodeFields w.hello++(w.extensions.map encodeExtensions).getD []

def bytes (w : Sent) : Bytes := w.framing.wrap w.body

structure Fits (w : Sent) : Prop where
  hello_fits : w.hello.Fits
  framing_fits : w.framing.Fits w.body

def parsed (w : Sent) : Hello := w.hello.extensions.foldl Hello.push w.hello.fields

theorem isBody (w : Sent) : w.hello.IsBody w.body := by
  unfold Hello.IsBody body hello
  cases w.extensions with
  | none => exact .inr ⟨rfl,by simp [encodeFields]⟩
  | some es => exact .inl rfl

theorem parseClientHello_bytes {w : Sent} (h : w.Fits) : parseClientHello w.bytes = .ok w.parsed :=
  have hlen := isBody_length h.hello_fits.toFieldsFit h.hello_fits.extensions_fit w.isBody
  parseClientHello_of_body h.hello_fits.toFieldsFit h.hello_fits.extension_fits
    h.hello_fits.extensions_fit (clientHelloBody_wrap hlen h.framing_fits) w.isBody

theorem exists_sent {raw : Bytes} {h : Hello} (hok : parseClientHello raw = .ok h) :
    ∃ w : Sent, w.Fits ∧ w.bytes = raw := by
  obtain ⟨body,hbody,hfits,his⟩ := parseClientHello_eq_ok hok
  obtain ⟨f,hf,rfl⟩ := exists_framing hbody
  have hparts (es : Option (List Extension)) (hes : es.getD [] = h.extensions) :
      (⟨f,h.version,h.random,h.sessionID,h.cipherSuites,h.compressionMethods,es⟩ : Sent).hello.Fits :=
    ⟨⟨hfits.random_length,hfits.sessionID_fits,hfits.cipherSuites_fit,hfits.compression_fits⟩,
      by simpa only [hello,hes] using hfits.extension_fits,
      by simpa only [hello,hes] using hfits.extensions_fit⟩
  rcases his with rfl | ⟨hnil,rfl⟩
  · exact ⟨_,⟨hparts (some h.extensions) rfl,hf⟩,rfl⟩
  · have hbytes : (⟨f,h.version,h.random,h.sessionID,h.cipherSuites,h.compressionMethods,none⟩ :
        Sent).body = encodeFields h := List.append_nil _
    exact ⟨_,⟨hparts none hnil.symm,hbytes ▸ hf⟩,congrArg f.wrap hbytes⟩

theorem parsed_extensions (w : Sent) : w.parsed.extensions = w.hello.extensions :=
  foldl_push_extensions w.hello.extensions w.hello.fields

theorem parsed_version (w : Sent) : w.parsed.version = w.version :=
  congrArg Hello.version (foldl_push_fields w.hello.extensions w.hello.fields)

theorem parsed_cipherSuites (w : Sent) : w.parsed.cipherSuites = w.cipherSuites :=
  congrArg Hello.cipherSuites (foldl_push_fields w.hello.extensions w.hello.fields)

end Sent

end Sent

section Edits

/-- One change of the parts: the ciphers or the extensions change places, or a GREASE value
comes or goes among the ciphers, the extension types or the listed versions. -/
inductive Edit : Sent → Sent → Prop
  | ciphers (w : Sent) {cs : List UInt16} (h : ListEdits.Edit isGREASE w.cipherSuites cs) :
      Edit w {w with cipherSuites := cs}
  | extensions (w : Sent) (es : Option (List Extension))
      (h : ListEdits.Edit (fun e => isGREASE e.type) (w.extensions.getD []) (es.getD [])) :
      Edit w {w with extensions := es}
  | versions (w : Sent) (pre post : List Extension) {vs vs' : List UInt16} (rest : Bytes)
      (hw : w.extensions = some (pre++⟨43,encodeVersions vs++rest⟩::post))
      (hvs : 2*vs.length < 256) (hvs' : 2*vs'.length < 256)
      (h : Inserted isGREASE vs vs' ∨ Inserted isGREASE vs' vs) :
      Edit w {w with extensions := some (pre++⟨43,encodeVersions vs'++rest⟩::post)}

/-- What JA4 sees of one extension: of the versions those that are no GREASE. -/
def extensionTrait (e : Extension) : UInt16 × Bytes × List UInt16 :=
  if e.type = 43 then (43,[],filterGREASE (valueOf [] (parseSupportedVersions e.data)))
  else (e.type,e.data,[])

structure Traits where
  version : UInt16
  ciphers : Multiset UInt16
  extensions : Multiset (UInt16 × Bytes × List UInt16)

namespace Sent

/-- The extensions whose types are no GREASE. -/
def shown (w : Sent) : List Extension := kept (fun e => isGREASE e.type) w.hello.extensions

def traits (w : Sent) : Traits :=
  ⟨w.version,kept isGREASE w.cipherSuites,w.shown.map extensionTrait⟩

end Sent

theorem extensionTrait_versions {vs : List UInt16} (h : 2*vs.length < 256) (rest : Bytes) :
    extensionTrait ⟨43,encodeVersions vs++rest⟩ = (43,[],filterGREASE vs) := by
  rw [extensionTrait,if_pos rfl,parseSupportedVersions_append h]
  rfl

theorem Edit.traits_eq {w w' : Sent} (h : Edit w w') : w'.traits = w.traits := by
  cases h with
  | ciphers h =>
    simp only [Sent.traits,Sent.shown,Sent.hello,Traits.mk.injEq,true_and,and_true]
    exact Multiset.coe_eq_coe.mpr h.kept_perm.symm
  | extensions es h =>
    simp only [Sent.traits,Traits.mk.injEq,true_and]
    exact Multiset.coe_eq_coe.mpr (h.kept_perm.symm.map extensionTrait)
  | versions pre post rest hw hvs hvs' h =>
    rename_i vs vs'
    have hkept : filterGREASE vs' = filterGREASE vs := by
      rcases h with h | h
      · exact h.kept_eq.symm
      · exact h.kept_eq
    have hgrease : isGREASE 43 = false := by decide
    have hshow (data : Bytes) : kept (fun e : Extension => isGREASE e.type) (⟨43,data⟩::post) =
        ⟨43,data⟩::kept (fun e => isGREASE e.type) post :=
      kept_cons_of_neg (x:=⟨43,data⟩) hgrease post
    simp only [Sent.traits,Sent.shown,Sent.hello,hw,Option.getD_some,kept_append,hshow,List.map_append,
      List.map_cons,extensionTrait_versions hvs,extensionTrait_versions hvs',hkept]

theorem traits_of_edits {w w' : Sent} (h : Relation.ReflTransGen Edit w w') : w'.traits = w.traits := by
  induction h with
  | refl => rfl
  | tail _ hstep ih => rw [hstep.traits_eq,ih]

end Edits

section TypedFields

theorem foldl_push_cases {α : Type} {g : Hello → List α} {t : UInt16} {parse : Bytes → Run (List α)}
    (hpush : ∀ hello e, g (Hello.push hello e) =
      if e.type = t then valueOf [] (parse e.data) else g hello)
    (es : List Extension) (hello : Hello) :
    (∃ e ∈ es, e.type = t ∧ g (es.foldl Hello.push hello) = valueOf [] (parse e.data)) ∨
      (∀ e ∈ es, e.type ≠ t) ∧ g (es.foldl Hello.push hello) = g hello := by
  induction es generalizing hello with
  | nil => exact .inr ⟨by simp,rfl⟩
  | cons e es ih =>
    rw [List.foldl_cons]
    rcases ih (hello.push e) with ⟨e',he',htype,hvalue⟩ | ⟨hnone,hvalue⟩
    · exact .inl ⟨e',List.mem_cons_of_mem e he',htype,hvalue⟩
    rw [hvalue,hpush]
    by_cases he : e.type = t
    · exact .inl ⟨e,List.mem_cons_self,he,if_pos he⟩
    · exact .inr ⟨List.forall_mem_cons.mpr ⟨he,hnone⟩,if_neg he⟩

theorem extensionTrait_type (e : Extension) : (extensionTrait e).1 = e.type := by
  unfold extensionTrait
  split_ifs with h
  · exact h.symm
  · rfl

theorem extensionTrait_data {e e' : Extension} (h : extensionTrait e' = extensionTrait e)
    (htype : e.type ≠ 43) : e'.data = e.data := by
  have htype' : e'.type ≠ 43 := by rwa [← extensionTrait_type,h,extensionTrait_type]
  simp only [extensionTrait,if_neg htype,if_neg htype',Prod.mk.injEq] at h
  exact h.2.1

variable {w w' : Sent}

theorem traits_perm (h : w'.traits = w.traits) :
    (w'.shown.map extensionTrait).Perm (w.shown.map extensionTrait) :=
  Multiset.coe_eq_coe.mp (congrArg Traits.extensions h)

theorem shown_types_perm (h : w'.traits = w.traits) :
    (w'.shown.map Extension.type).Perm (w.shown.map Extension.type) := by
  have hmap (es : List Extension) : (es.map extensionTrait).map Prod.fst = es.map Extension.type := by
    simp [extensionTrait_type]
  rw [← hmap,← hmap]
  exact (traits_perm h).map Prod.fst

theorem exists_shown (h : w'.traits = w.traits) {e : Extension} (he : e ∈ w.shown) :
    ∃ e' ∈ w'.shown, extensionTrait e' = extensionTrait e :=
  List.mem_map.mp ((traits_perm h).mem_iff.mpr (List.mem_map_of_mem he))

theorem mem_shown {e : Extension} (he : e ∈ w.hello.extensions) (htype : isGREASE e.type = false) :
    e ∈ w.shown :=
  List.mem_filter.mpr ⟨he,by simp [htype]⟩

/-- Two messages with the same traits agree on a field as far as the traits of the
extension that sets it tell. -/
theorem field_of_traits {α β : Type} {g : Hello → List α} {t : UInt16} {parse : Bytes → Run (List α)}
    (view : List α → β)
    (hpush : ∀ hello e, g (Hello.push hello e) =
      if e.type = t then valueOf [] (parse e.data) else g hello)
    (hgrease : isGREASE t = false)
    (hview : ∀ e e', e.type = t → extensionTrait e' = extensionTrait e →
      view (valueOf [] (parse e'.data)) = view (valueOf [] (parse e.data)))
    (hstart : g w'.hello.fields = g w.hello.fields) (h : w'.traits = w.traits)
    (hdistinct : (w.shown.map Extension.type).Nodup) :
    view (g w'.parsed) = view (g w.parsed) := by
  have hdistinct' := (shown_types_perm h).nodup_iff.mpr hdistinct
  rcases foldl_push_cases hpush w.hello.extensions w.hello.fields with ⟨e,he,htype,hvalue⟩ | ⟨hnone,hvalue⟩
  · obtain ⟨e₁,he₁,htrait⟩ := exists_shown h (mem_shown he (htype ▸ hgrease))
    have htype₁ : e₁.type = t := by rw [← extensionTrait_type,htrait,extensionTrait_type,htype]
    rcases foldl_push_cases hpush w'.hello.extensions w'.hello.fields with
      ⟨e',he',htype',hvalue'⟩ | ⟨hnone',-⟩
    · have hsame : e' = e₁ := List.inj_on_of_nodup_map hdistinct' (mem_shown he' (htype' ▸ hgrease)) he₁
        (htype'.trans htype₁.symm)
      rw [Sent.parsed,Sent.parsed,hvalue,hvalue',hsame]
      exact hview e e₁ htype htrait
    · exact absurd htype₁ (hnone' e₁ (List.mem_filter.mp he₁).1)
  · rcases foldl_push_cases hpush w'.hello.extensions w'.hello.fields with
      ⟨e',he',htype',-⟩ | ⟨-,hvalue'⟩
    · obtain ⟨e₁,he₁,htrait⟩ := exists_shown h.symm (mem_shown he' (htype' ▸ hgrease))
      refine absurd ?_ (hnone e₁ (List.mem_filter.mp he₁).1)
      rw [← extensionTrait_type,htrait,extensionTrait_type,htype']
    · rw [Sent.parsed,Sent.parsed,hvalue,hvalue',hstart]

theorem plain_field_of_traits {α : Type} {g : Hello → List α} {t : UInt16} {parse : Bytes → Run (List α)}
    (hpush : ∀ hello e, g (Hello.push hello e) =
      if e.type = t then valueOf [] (parse e.data) else g hello)
    (hgrease : isGREASE t = false) (ht : t ≠ 43) (hstart : g w'.hello.fields = g w.hello.fields)
    (h : w'.traits = w.traits) (hdistinct : (w.shown.map Extension.type).Nodup) :
    g w'.parsed = g w.parsed :=
  field_of_traits id hpush hgrease
    (fun e e' htype htrait => by rw [extensionTrait_data htrait (htype ▸ ht)]) hstart h hdistinct

theorem versions_of_traits (h : w'.traits = w.traits) (hdistinct : (w.shown.map Extension.type).Nodup) :
    filterGREASE w'.parsed.supportedVersions = filterGREASE w.parsed.supportedVersions := by
  refine field_of_traits filterGREASE push_supportedVersions (by decide) (fun e e' htype htrait => ?_)
    rfl h hdistinct
  have htype' : e'.type = 43 := by rw [← extensionTrait_type,htrait,extensionTrait_type,htype]
  simp only [extensionTrait,if_pos htype,if_pos htype',Prod.mk.injEq,true_and] at htrait
  exact htrait

end TypedFields

section Fingerprint
variable (sha256 : Bytes → Bytes)

theorem sortedUint16s_perm {xs ys : List UInt16} (h : xs.Perm ys) : sortedUint16s xs = sortedUint16s ys :=
  SortedLists.insertionSort_congr h

theorem maxTLSVersion_eq (hello : Hello) :
    maxTLSVersion hello = (filterGREASE hello.supportedVersions).foldl
      (fun best v => if v > best then v else best) hello.version := by
  unfold maxTLSVersion filterGREASE
  rw [List.foldl_filter]
  congr 1
  funext best v
  cases isGREASE v <;> rfl

theorem filterJA4Ciphers_eq (cs : List UInt16) :
    filterJA4Ciphers cs = (kept isGREASE cs).filter fun v => v != tlsEmptyRenegotiationInfoSCSV := by
  unfold filterJA4Ciphers kept
  rw [List.filter_filter]
  congr 1
  funext v
  cases isGREASE v <;> simp [bne]

theorem filterGREASE_extensionIDs (w : Sent) :
    filterGREASE (extensionIDs w.parsed.extensions) = w.shown.map Extension.type := by
  rw [Sent.parsed_extensions]
  exact List.filter_map

theorem ja4String_of_traits {w w' : Sent} (h : w'.traits = w.traits)
    (hdistinct : (w.shown.map Extension.type).Nodup) :
    ja4String sha256 w'.parsed = ja4String sha256 w.parsed := by
  have hversion : maxTLSVersion w'.parsed = maxTLSVersion w.parsed := by
    have hlegacy : w'.version = w.version := congrArg Traits.version h
    rw [maxTLSVersion_eq,maxTLSVersion_eq,versions_of_traits h hdistinct,Sent.parsed_version,
      Sent.parsed_version,hlegacy]
  have hsni : w'.parsed.serverName = w.parsed.serverName :=
    plain_field_of_traits push_serverName (by decide) (by decide) rfl h hdistinct
  have halpn : w'.parsed.supportedProtos = w.parsed.supportedProtos :=
    plain_field_of_traits push_supportedProtos (by decide) (by decide) rfl h hdistinct
  have hsignatures : w'.parsed.signatureAlgorithms = w.parsed.signatureAlgorithms :=
    plain_field_of_traits push_signatureAlgorithms (by decide) (by decide) rfl h hdistinct
  have hciphers : (filterJA4Ciphers w'.parsed.cipherSuites).Perm
      (filterJA4Ciphers w.parsed.cipherSuites) := by
    rw [filterJA4Ciphers_eq,filterJA4Ciphers_eq,Sent.parsed_cipherSuites,Sent.parsed_cipherSuites]
    exact (Multiset.coe_eq_coe.mp (congrArg Traits.ciphers h)).filter _
  have htypes := shown_types_perm h
  unfold ja4String ja4SNIType ja4ExtensionHashInput
  simp only [filterGREASE_extensionIDs,hversion,hsni,halpn,hsignatures,hciphers.length_eq,
    htypes.length_eq,sortedUint16s_perm hciphers,sortedUint16s_perm (htypes.filter _)]

def ja4FromRaw (raw : Bytes) : Run Bytes := do
  let hello ← parseClientHello raw
  .ok (ja4String sha256 hello)

/-- Every accepted byte string is the bytes of some parts, and whatever changes of places
and GREASE lead to parts that fit their lengths again, the new bytes are accepted with the
same fingerprint. -/
theorem ja4FromRaw_of_edits {raw : Bytes} {hello : Hello} (hok : parseClientHello raw = .ok hello)
    (hdistinct : (extensionIDs hello.extensions).Nodup) :
    (∃ w : Sent, w.Fits ∧ w.bytes = raw) ∧
    ∃ ja4, ja4FromRaw sha256 raw = .ok ja4 ∧
      ∀ w w' : Sent, w.Fits → w.bytes = raw → Relation.ReflTransGen Edit w w' → w'.Fits →
        ja4FromRaw sha256 w'.bytes = .ok ja4 := by
  refine ⟨Sent.exists_sent hok,ja4String sha256 hello,by rw [ja4FromRaw,hok]; rfl,?_⟩
  intro w w' hfits hbytes hedits hfits'
  have hparsed : w.parsed = hello := by
    have h := Sent.parseClientHello_bytes hfits
    rw [hbytes,hok] at h
    exact (Except.ok.inj h).symm
  have hshown : (w.shown.map Extension.type).Nodup := by
    rw [← hparsed,Sent.parsed_extensions] at hdistinct
    exact hdistinct.sublist (List.filter_sublist.map _)
  rw [ja4FromRaw,Sent.parseClientHello_bytes hfits',← hparsed,
    ← ja4String_of_traits sha256 (traits_of_edits hedits) hshown]
  rfl

/-- A record with two ciphers, a server name and a list of versions. -/
def plainSent : Sent where
  framing := .record 3 1 [] []
  version := 0x0303
  random := List.replicate 32 7
  sessionID := []
  cipherSuites := [0x1301,0x1302]
  compressionMethods := [0]
  extensions := some [⟨0,encodeServerNames [(0,[97])]⟩,⟨43,encodeVersions [0x0304]⟩]

/-- The same client with its extensions in another order and GREASE in all three places. -/
def greasedSent : Sent :=
  {plainSent with
    cipherSuites := [0x2a2a,0x1302,0x1301]
    extensions := some [⟨0x1a1a,[]⟩,⟨43,encodeVersions [0x3a3a,0x0304]⟩,⟨0,encodeServerNames [(0,[97])]⟩]}

theorem plainSent_fits : plainSent.Fits :=
  ⟨⟨⟨by decide,by decide,by decide,by decide⟩,by decide,by decide⟩,(by decide : List.length _ < 65536)⟩

theorem greasedSent_fits : greasedSent.Fits :=
  ⟨⟨⟨by decide,by decide,by decide,by decide⟩,by decide,by decide⟩,(by decide : List.length _ < 65536)⟩

theorem plainSent_edits : Relation.ReflTransGen Edit plainSent greasedSent :=
  .head (.ciphers _ (.permute (List.Perm.swap 0x1302 0x1301 []))) <|
  .head (.ciphers _ (.insert (.intro [] [0x1302,0x1301] (x:=0x2a2a) (by decide)))) <|
  .head (.extensions _ (some [_,_]) (.permute (List.Perm.swap _ _ []))) <|
  .head (.extensions _ (some [_,_,_]) (.insert (.intro [] [_,_] (x:=⟨0x1a1a,[]⟩) (by decide)))) <|
  .single (.versions _ [_] [_] [] rfl (by decide) (by decide)
    (.inl (.intro [] [0x0304] (x:=0x3a3a) (by decide))))

theorem ja4FromRaw_of_edits_plain :
    ∃ ja4, ja4FromRaw id plainSent.bytes = .ok ja4 ∧ ja4FromRaw id greasedSent.bytes = .ok ja4 := by
  have hok := Sent.parseClientHello_bytes plainSent_fits
  have hdistinct : (extensionIDs plainSent.parsed.extensions).Nodup := by
    rw [Sent.parsed_extensions]
    decide
  obtain ⟨-,ja4,hplain,hgreased⟩ := ja4FromRaw_of_edits id hok hdistinct
  exact ⟨ja4,hplain,hgreased plainSent greasedSent plainSent_fits rfl plainSent_edits greasedSent_fits⟩

end Fingerprint

end TlsFingerprint
end AntiScrapling
