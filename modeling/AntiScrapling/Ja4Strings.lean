import AntiScrapling.ClientHelloWire
import AntiScrapling.Ja3Strings

/-! The sections of a JA4 string: how wide they are, and what can be read back from them. -/
namespace AntiScrapling
namespace TlsFingerprint

open ByteCodec ClientHello SeparatedText UnicodeText GoText

section Counts

theorem twoDigits_ascii (n : ℕ) : ∀ c ∈ (twoDigits n).toList, c.isDigit = true := by
  have hdigits : ∀ c ∈ (toString n).toList, c.isDigit = true := by
    intro c hc
    rw [Nat.toString_eq_repr,Nat.toList_repr] at hc
    exact Nat.isDigit_of_mem_toDigits (by decide) (by decide) hc
  unfold twoDigits
  split_ifs
  · intro c hc
    rw [String.toList_append,List.mem_append] at hc
    rcases hc with hzero | hc
    · rw [List.mem_singleton.mp hzero]
      decide
    · exact hdigits c hc
  · exact hdigits

theorem ofDigitChars_twoDigits (n : ℕ) : Nat.ofDigitChars 10 (twoDigits n).toList 0 = n := by
  have hvalue : Nat.ofDigitChars 10 (toString n).toList 0 = n := by
    rw [Nat.toString_eq_repr,Nat.toList_repr]
    exact Nat.ofDigitChars_toDigits (by decide) (by decide)
  unfold twoDigits
  split_ifs
  · rw [String.toList_append]
    exact hvalue
  · exact hvalue

theorem twoDigits_inj {m n : ℕ} (h : twoDigits m = twoDigits n) : m = n := by
  rw [← ofDigitChars_twoDigits m,h,ofDigitChars_twoDigits]

theorem twoDigits_length (n : ℕ) :
    2 ≤ (twoDigits n).toList.length ∧ ((twoDigits n).toList.length ≤ 2 ↔ n < 100) := by
  have hlength : (toString n).toList.length = (Nat.toDigits 10 n).length := by
    rw [Nat.toString_eq_repr,Nat.toList_repr]
  have hone := Nat.length_toDigits_le_iff (b:=10) (n:=n) (k:=1) (by decide) (by decide)
  have htwo := Nat.length_toDigits_le_iff (b:=10) (n:=n) (k:=2) (by decide) (by decide)
  have hpos := List.length_pos_of_ne_nil (Nat.toDigits_ne_nil (n:=n) (b:=10))
  unfold twoDigits
  split_ifs with hn
  · rw [String.toList_append,List.length_append,hlength]
    have hzero : "0".toList.length = 1 := rfl
    omega
  · rw [hlength]
    omega

def countBytes (n : ℕ) : Bytes := utf8 (twoDigits n)

theorem countBytes_length (n : ℕ) : 2 ≤ (countBytes n).length ∧ ((countBytes n).length ≤ 2 ↔ n < 100) := by
  have hascii : ∀ c ∈ (twoDigits n).toList, c.toNat < 128 := by
    intro c hc
    have hdigit := twoDigits_ascii n c hc
    rw [Char.isDigit,Bool.and_eq_true,decide_eq_true_eq,decide_eq_true_eq] at hdigit
    have := hdigit.2
    exact Nat.lt_of_le_of_lt (UInt32.le_iff_toNat_le.mp this) (by decide)
  rw [countBytes,utf8_ascii hascii,List.length_map]
  exact twoDigits_length n

theorem countBytes_inj {m n : ℕ} (h : countBytes m = countBytes n) : m = n :=
  twoDigits_inj (utf8_injective h)

end Counts

section Sections

def isLowerHex (b : UInt8) : Bool := decide (48 ≤ b.toNat ∧ b.toNat ≤ 57 ∨ 97 ≤ b.toNat ∧ b.toNat ≤ 102)

structure IsHash (b : Bytes) : Prop where
  length : b.length = 12
  digits : ∀ x ∈ b, isLowerHex x = true

/-- The sections of the FoxIO format without the two counts. -/
structure Ja4Sections where
  version : Bytes
  sni : Bool
  alpn : Bytes
  cipherHash : Bytes
  extensionHash : Bytes
  version_length : version.length = 2
  alpn_length : alpn.length = 2
  cipherHash_digits : IsHash cipherHash
  extensionHash_digits : IsHash extensionHash

namespace Ja4Sections

def head (s : Ja4Sections) (ciphers extensions : ℕ) : Bytes :=
  utf8 "t"++(s.version++(utf8 (if s.sni then "d" else "i")++(countBytes ciphers++
    (countBytes extensions++s.alpn))))

def text (s : Ja4Sections) (ciphers extensions : ℕ) : Bytes :=
  s.head ciphers extensions++(utf8 "_"++(s.cipherHash++(utf8 "_"++s.extensionHash)))

theorem text_inj {s s' : Ja4Sections} {c e c' e' : ℕ} (h : s.text c e = s'.text c' e') :
    s.head c e = s'.head c' e' ∧ s.cipherHash = s'.cipherHash ∧ s.extensionHash = s'.extensionHash := by
  have h₁ := s.cipherHash_digits.length
  have h₂ := s.extensionHash_digits.length
  have h₁' := s'.cipherHash_digits.length
  have h₂' := s'.extensionHash_digits.length
  obtain ⟨hhead,hrest⟩ := List.append_inj' h (by simp only [List.length_append,h₁,h₂,h₁',h₂'])
  have hrest := List.append_cancel_left hrest
  obtain ⟨hcipher,hrest⟩ := List.append_inj hrest (h₁.trans h₁'.symm)
  exact ⟨hhead,hcipher,List.append_cancel_left hrest⟩

theorem flag_length (b : Bool) : (utf8 (if b then "d" else "i")).length = 1 := by cases b <;> decide

theorem counts_of_head {s s' : Ja4Sections} {c e c' e' : ℕ} (h : s.head c e = s'.head c' e') :
    countBytes c++(countBytes e++s.alpn) = countBytes c'++(countBytes e'++s'.alpn) := by
  have h := List.append_cancel_left h
  obtain ⟨-,h⟩ := List.append_inj h (s.version_length.trans s'.version_length.symm)
  obtain ⟨-,h⟩ := List.append_inj h ((flag_length s.sni).trans (flag_length s'.sni).symm)
  exact h

theorem extensions_of_head {s s' : Ja4Sections} {c e e' : ℕ} (h : s.head c e = s'.head c e') : e = e' := by
  have hrest := List.append_cancel_left (counts_of_head h)
  exact countBytes_inj (List.append_inj' hrest (s.alpn_length.trans s'.alpn_length.symm)).1

theorem counts_eq {s s' : Ja4Sections} {c e c' e' : ℕ} (h : s.head c e = s'.head c' e') (hc : c' < 100)
    (he : e' < 100) : c = c' ∧ e = e' := by
  have hcounts := counts_of_head h
  have hlength := congrArg List.length hcounts
  simp only [List.length_append,s.alpn_length,s'.alpn_length] at hlength
  have h₁ := countBytes_length c
  have h₂ := countBytes_length e
  have h₁' := countBytes_length c'
  have h₂' := countBytes_length e'
  have hsame : (countBytes c).length = (countBytes c').length := by omega
  obtain ⟨hfirst,-⟩ := List.append_inj hcounts hsame
  obtain rfl := countBytes_inj hfirst
  exact ⟨rfl,extensions_of_head h⟩

end Ja4Sections

end Sections

section Layout

theorem hexDigit_lower (n : ℕ) :
    (hexDigit n).toNat < 128 ∧ isLowerHex (UInt8.ofNat (hexDigit n).toNat) = true := by
  have hall : ∀ i : Fin 16, (hexDigit i).toNat < 128 ∧
      isLowerHex (UInt8.ofNat (hexDigit i).toNat) = true := by decide
  obtain ⟨i,hi⟩ := exists_hexDigit n
  rw [hi]
  exact hall i

theorem hexOfBytes_length (b : Bytes) : (hexOfBytes b).toList.length = 2*b.length := by
  rw [hexOfBytes,String.toList_ofList]
  induction b with
  | nil => rfl
  | cons x b ih =>
    rw [List.flatMap_cons,List.length_append,ih,List.length_cons]
    have hbyte : (hex 2 x.toNat).length = 2 := rfl
    omega

theorem ja4ALPN_length (protocols : List Bytes) : (ja4ALPN protocols).length = 2 := by
  unfold ja4ALPN
  split
  · rfl
  · decide

theorem ja4TLSVersion_length (v : UInt16) : (utf8 (ja4TLSVersion v)).length = 2 := by
  unfold ja4TLSVersion
  split_ifs <;> decide

def cipherInput (hello : Hello) : String :=
  joinUint16s (sortedUint16s (filterJA4Ciphers hello.cipherSuites)) ","

def extensionInput (hello : Hello) : String :=
  ja4ExtensionHashInput (filterGREASE (extensionIDs hello.extensions)) hello.signatureAlgorithms

/-- The layout of the FoxIO format: a prefix of ten bytes with the counts of what is no
GREASE, at most 99, and two hashes of twelve digits. -/
def FixedWidth (sha256 : Bytes → Bytes) (hello : Hello) : Prop :=
  ∃ s : Ja4Sections, ja4String sha256 hello =
    s.text (min 99 (filterGREASE hello.cipherSuites).length)
      (min 99 (filterGREASE (extensionIDs hello.extensions)).length)

variable {sha256 : Bytes → Bytes} (hsha : ∀ b, (sha256 b).length = 32)
include hsha

theorem isHash_truncated (s : String) : IsHash (utf8 (sha256Truncated12 sha256 s)) := by
  have hdigits : ∀ c ∈ (sha256Truncated12 sha256 s).toList, ∃ n, c = hexDigit n := by
    intro c hc
    rw [sha256Truncated12,String.toList_ofList] at hc
    exact mem_hexOfBytes (List.mem_of_mem_take hc)
  have hascii : ∀ c ∈ (sha256Truncated12 sha256 s).toList, c.toNat < 128 := by
    intro c hc
    obtain ⟨n,rfl⟩ := hdigits c hc
    exact (hexDigit_lower n).1
  rw [utf8_ascii hascii]
  constructor
  · rw [List.length_map,sha256Truncated12,String.toList_ofList,List.length_take,hexOfBytes_length,hsha]
    rfl
  · intro x hx
    obtain ⟨c,hc,rfl⟩ := List.mem_map.mp hx
    obtain ⟨n,rfl⟩ := hdigits c hc
    exact (hexDigit_lower n).2

def ja4Sections (hello : Hello) : Ja4Sections where
  version := utf8 (ja4TLSVersion (maxTLSVersion hello))
  sni := decide (hello.serverName ≠ [])
  alpn := ja4ALPN hello.supportedProtos
  cipherHash := utf8 (sha256Truncated12 sha256 (cipherInput hello))
  extensionHash := utf8 (sha256Truncated12 sha256 (extensionInput hello))
  version_length := ja4TLSVersion_length _
  alpn_length := ja4ALPN_length _
  cipherHash_digits := isHash_truncated hsha _
  extensionHash_digits := isHash_truncated hsha _

theorem ja4Sections_cipherHash (hello : Hello) :
    (ja4Sections hsha hello).cipherHash = utf8 (sha256Truncated12 sha256 (cipherInput hello)) := by
  simp only [ja4Sections]

theorem ja4Sections_extensionHash (hello : Hello) :
    (ja4Sections hsha hello).extensionHash = utf8 (sha256Truncated12 sha256 (extensionInput hello)) := by
  simp only [ja4Sections]

theorem ja4String_eq_text (hello : Hello) : ja4String sha256 hello =
    (ja4Sections hsha hello).text (filterJA4Ciphers hello.cipherSuites).length
      (filterGREASE (extensionIDs hello.extensions)).length := by
  have hsni : utf8 (if (ja4Sections hsha hello).sni then "d" else "i") = utf8 (ja4SNIType hello) := by
    unfold ja4SNIType
    by_cases hname : hello.serverName = [] <;> simp [ja4Sections,hname]
  unfold ja4String Ja4Sections.text Ja4Sections.head
  rw [hsni]
  simp only [ja4Sections,cipherInput,extensionInput,countBytes,utf8_append,List.append_assoc]

theorem fixedWidth_of_counts {hello : Hello}
    (hciphers : (filterJA4Ciphers hello.cipherSuites).length = min 99 (filterGREASE hello.cipherSuites).length)
    (hextensions : (filterGREASE (extensionIDs hello.extensions)).length ≤ 99) :
    FixedWidth sha256 hello := by
  refine ⟨ja4Sections hsha hello,?_⟩
  rw [ja4String_eq_text hsha,hciphers,Nat.min_eq_right hextensions]

theorem counts_of_fixedWidth {hello : Hello} (h : FixedWidth sha256 hello) :
    (filterJA4Ciphers hello.cipherSuites).length = min 99 (filterGREASE hello.cipherSuites).length ∧
      (filterGREASE (extensionIDs hello.extensions)).length ≤ 99 := by
  obtain ⟨s,hs⟩ := h
  rw [ja4String_eq_text hsha] at hs
  obtain ⟨hc,he⟩ := Ja4Sections.counts_eq (Ja4Sections.text_inj hs).1
    (Nat.lt_succ_of_le (Nat.min_le_left _ _)) (Nat.lt_succ_of_le (Nat.min_le_left _ _))
  exact ⟨hc,he ▸ Nat.min_le_left _ _⟩

omit hsha in
theorem filterJA4Ciphers_eq_filterGREASE {suites : List UInt16} (h : 0x00ff ∉ suites) :
    filterJA4Ciphers suites = filterGREASE suites := by
  refine List.filter_congr fun v hv => ?_
  have hne : (v == tlsEmptyRenegotiationInfoSCSV) = false := beq_false_of_ne fun heq => h (by rwa [heq] at hv)
  rw [hne,Bool.or_false]

/-- The layout is kept exactly where the counts need no cap and leave nothing out.  The cipher
suites are counted without the renegotiation marker; in a hello without it, the layout is kept
exactly if there are at most 99 cipher suites and extensions. -/
theorem fixedWidth_iff (hello : Hello) :
    (FixedWidth sha256 hello ↔
      (filterJA4Ciphers hello.cipherSuites).length = min 99 (filterGREASE hello.cipherSuites).length ∧
        (filterGREASE (extensionIDs hello.extensions)).length ≤ 99) ∧
    (0x00ff ∉ hello.cipherSuites → (FixedWidth sha256 hello ↔
      (filterGREASE hello.cipherSuites).length ≤ 99 ∧
        (filterGREASE (extensionIDs hello.extensions)).length ≤ 99)) := by
  have hiff : FixedWidth sha256 hello ↔
      (filterJA4Ciphers hello.cipherSuites).length = min 99 (filterGREASE hello.cipherSuites).length ∧
        (filterGREASE (extensionIDs hello.extensions)).length ≤ 99 :=
    ⟨counts_of_fixedWidth hsha,fun h => fixedWidth_of_counts hsha h.1 h.2⟩
  refine ⟨hiff,fun hmarker => ?_⟩
  rw [hiff,filterJA4Ciphers_eq_filterGREASE hmarker,eq_comm,min_eq_right_iff]

end Layout

section Samples

/-- SHA-256 on the inputs of the samples, and something of its length elsewhere. -/
def sectionSHA256 (b : Bytes) : Bytes :=
  if b = utf8 "4865" then
    [103,233,18,227,226,181,50,102,244,214,161,88,222,7,180,119,
      22,77,139,16,54,255,8,228,255,51,235,55,74,193,2,196]
  else if b = utf8 "13,1027" then
    [35,244,56,177,72,143,58,86,145,73,161,192,49,93,42,33,
      144,21,60,217,78,172,185,21,181,167,230,135,31,169,152,84]
  else List.replicate 32 0

theorem sectionSHA256_length (b : Bytes) : (sectionSHA256 b).length = 32 := by
  unfold sectionSHA256
  split_ifs <;> rfl

def helloOf (cipherSuites : List UInt16) (extensions : List Extension) : Hello where
  version := 0x0303
  random := List.replicate 32 7
  sessionID := []
  cipherSuites := cipherSuites
  compressionMethods := [0]
  extensions := extensions

theorem fixedWidth_sample : FixedWidth sectionSHA256 (helloOf [0x0a0a,0x1301] [⟨13,[]⟩]) :=
  ((fixedWidth_iff sectionSHA256_length _).2 (by decide)).mpr (by decide)

/-- A hundred cipher suites are counted with three digits. -/
theorem count_not_as_documented :
    ¬ FixedWidth sectionSHA256 (helloOf ((List.range 100).map UInt16.ofNat) []) := fun h =>
  absurd (counts_of_fixedWidth sectionSHA256_length h).1 (by decide +kernel)

/-- The renegotiation marker is no cipher suite of the count. -/
example : ¬ FixedWidth sectionSHA256 (helloOf [0x1301,0x00ff] []) := fun h =>
  absurd (counts_of_fixedWidth sectionSHA256_length h).1 (by decide)

end Samples

section Parts

def hashedExtensions (hello : Hello) : List UInt16 :=
  sortedUint16s ((filterGREASE (extensionIDs hello.extensions)).filter fun e => !(e == 0 || e == 16))

/-- The number of server name and ALPN extensions, which are counted but not hashed. -/
def unhashedCount (hello : Hello) : ℕ :=
  (filterGREASE (extensionIDs hello.extensions)).countP fun e => e == 0 || e == 16

theorem sortedUint16s_length (vs : List UInt16) : (sortedUint16s vs).length = vs.length :=
  (List.perm_insertionSort _ vs).length_eq

theorem hashedExtensions_length (hello : Hello) :
    unhashedCount hello+(hashedExtensions hello).length =
      (filterGREASE (extensionIDs hello.extensions)).length := by
  have hnot : (fun e : UInt16 => !(e == 0 || e == 16)) = fun e => decide ¬ (e == 0 || e == 16) = true := by
    funext e
    cases e == 0 || e == 16 <;> rfl
  rw [hashedExtensions,sortedUint16s_length,unhashedCount,← List.countP_eq_length_filter,hnot]
  exact (List.length_eq_countP_add_countP _).symm

theorem extensionInput_eq (hello : Hello) :
    extensionInput hello = joinUint16s (hashedExtensions hello++hello.signatureAlgorithms) "," := rfl

theorem extensionInput_eq_iff {h h' : Hello} : extensionInput h = extensionInput h' ↔
    hashedExtensions h++h.signatureAlgorithms = hashedExtensions h'++h'.signatureAlgorithms := by
  rw [extensionInput_eq,extensionInput_eq]
  exact joinUint16s_inj comma_toList (by decide)

def TellsApart (sha256 : Bytes → Bytes) (s t : String) : Prop :=
  sha256Truncated12 sha256 s = sha256Truncated12 sha256 t → s = t

variable {sha256 : Bytes → Bytes} (hsha : ∀ b, (sha256 b).length = 32)
include hsha

theorem ciphers_of_ja4 {h h' : Hello} (heq : ja4String sha256 h = ja4String sha256 h')
    (hciphers : TellsApart sha256 (cipherInput h) (cipherInput h')) :
    sortedUint16s (filterJA4Ciphers h.cipherSuites) = sortedUint16s (filterJA4Ciphers h'.cipherSuites) := by
  rw [ja4String_eq_text hsha,ja4String_eq_text hsha] at heq
  have hhash := (Ja4Sections.text_inj heq).2.1
  rw [ja4Sections_cipherHash,ja4Sections_cipherHash] at hhash
  have hinput := hciphers (utf8_injective hhash)
  exact (joinUint16s_inj comma_toList (by decide)).mp hinput

theorem extensions_of_ja4 {h h' : Hello} (heq : ja4String sha256 h = ja4String sha256 h')
    (hextensions : TellsApart sha256 (extensionInput h) (extensionInput h')) :
    hashedExtensions h++h.signatureAlgorithms = hashedExtensions h'++h'.signatureAlgorithms := by
  rw [ja4String_eq_text hsha,ja4String_eq_text hsha] at heq
  have hhash := (Ja4Sections.text_inj heq).2.2
  rw [ja4Sections_extensionHash,ja4Sections_extensionHash] at hhash
  exact extensionInput_eq_iff.mp (hextensions (utf8_injective hhash))

theorem extensionCount_of_ja4 {h h' : Hello} (heq : ja4String sha256 h = ja4String sha256 h')
    (hciphers : TellsApart sha256 (cipherInput h) (cipherInput h')) :
    (filterGREASE (extensionIDs h.extensions)).length =
      (filterGREASE (extensionIDs h'.extensions)).length := by
  have hcount := congrArg List.length (ciphers_of_ja4 hsha heq hciphers)
  rw [sortedUint16s_length,sortedUint16s_length] at hcount
  rw [ja4String_eq_text hsha,ja4String_eq_text hsha,hcount] at heq
  exact Ja4Sections.extensions_of_head (Ja4Sections.text_inj heq).1

/-- Equal JA4 strings come from equal cipher suites; and from equal extension types and
signature algorithms exactly if both sides have equally many extensions that are counted
but not hashed. -/
theorem ja4_parts_apart_iff {h h' : Hello} (heq : ja4String sha256 h = ja4String sha256 h')
    (hciphers : TellsApart sha256 (cipherInput h) (cipherInput h'))
    (hextensions : TellsApart sha256 (extensionInput h) (extensionInput h')) :
    sortedUint16s (filterJA4Ciphers h.cipherSuites) = sortedUint16s (filterJA4Ciphers h'.cipherSuites) ∧
    (hashedExtensions h = hashedExtensions h' ∧ h.signatureAlgorithms = h'.signatureAlgorithms ↔
      unhashedCount h = unhashedCount h') := by
  have hjoined := extensions_of_ja4 hsha heq hextensions
  have hcount := extensionCount_of_ja4 hsha heq hciphers
  have hlength := hashedExtensions_length h
  have hlength' := hashedExtensions_length h'
  refine ⟨ciphers_of_ja4 hsha heq hciphers,?_⟩
  constructor
  · rintro ⟨hhashed,-⟩
    rw [hhashed] at hlength
    omega
  · intro hunhashed
    exact List.append_inj hjoined (by omega)

end Parts

section PartSamples

def plainHello : Hello := {helloOf [0x1301] [⟨13,[]⟩] with signatureAlgorithms := [1027]}

def greasedHello : Hello := {helloOf [0x1301] [⟨0x0a0a,[]⟩,⟨13,[]⟩] with signatureAlgorithms := [1027]}

/-- With and without a GREASE extension. -/
theorem ja4_parts_apart_sample : hashedExtensions greasedHello = hashedExtensions plainHello := by
  have hja4 : ja4String sectionSHA256 greasedHello = ja4String sectionSHA256 plainHello := by decide +kernel
  have hinput : extensionInput greasedHello = extensionInput plainHello :=
    extensionInput_eq_iff.mpr (by decide)
  exact ((ja4_parts_apart_iff sectionSHA256_length hja4 (fun _ => rfl) fun _ => hinput).2.mpr (by decide)).1

def namedHello : Hello :=
  {helloOf [0x1301] [⟨0,[]⟩,⟨13,encodeUint16Vector [1027]⟩] with signatureAlgorithms := [1027]}

def unnamedHello : Hello := helloOf [0x1301] [⟨13,[]⟩,⟨1027,[]⟩]

/-- The signature algorithm of one client is the last extension of the other, which sends no
server name. -/
theorem parts_run_together :
    parseClientHello (handshakeMessage (encodeBody namedHello)) = .ok namedHello ∧
    parseClientHello (handshakeMessage (encodeBody unnamedHello)) = .ok unnamedHello ∧
    ja4String sectionSHA256 namedHello = ja4String sectionSHA256 unnamedHello ∧
    TellsApart sectionSHA256 (cipherInput namedHello) (cipherInput unnamedHello) ∧
    TellsApart sectionSHA256 (extensionInput namedHello) (extensionInput unnamedHello) ∧
    hashedExtensions namedHello = [13] ∧ namedHello.signatureAlgorithms = [1027] ∧
    hashedExtensions unnamedHello = [13,1027] ∧ unnamedHello.signatureAlgorithms = [] := by
  have hinput : extensionInput namedHello = extensionInput unnamedHello :=
    extensionInput_eq_iff.mpr (by decide)
  exact ⟨by decide +kernel,by decide +kernel,by decide +kernel,fun _ => rfl,fun _ => hinput,by decide,rfl,
    by decide,rfl⟩

end PartSamples

end TlsFingerprint
end AntiScrapling
