import AntiScrapling.GoText
import Mathlib.Data.List.Flatten

/-! `strings.TrimSpace` of a byte string that need not be UTF-8: the encodings of white space are
taken off both ends. -/
namespace AntiScrapling
namespace TrimBytes

open UnicodeText GoText

section Words
variable {α : Type} [DecidableEq α] {words : List (List α)}

/-- Drop words from the front, at most `n` of them. -/
def dropWords (words : List (List α)) : ℕ → List α → List α
  | 0,xs => xs
  | n+1,xs =>
    match words.find? fun w => w.isPrefixOf xs with
    | none => xs
    | some w => dropWords words n (xs.drop w.length)

/-- No word begins with another one. -/
def PrefixFree (words : List (List α)) : Prop := ∀ v ∈ words, ∀ w ∈ words, v <+: w → v = w

instance : Decidable (PrefixFree words) := by
  unfold PrefixFree
  infer_instance

theorem dropWords_of_stop {xs : List α} (h : ∀ w ∈ words, ¬ w <+: xs) (n : ℕ) : dropWords words n xs = xs := by
  cases n with
  | zero => rfl
  | succ n =>
    have hnone : words.find? (fun w => w.isPrefixOf xs) = none := by
      rw [List.find?_eq_none]
      simpa using h
    rw [dropWords,hnone]

theorem dropWords_flatten (hfree : PrefixFree words) {ws : List (List α)} (hws : ∀ w ∈ ws, w ∈ words)
    {xs : List α} (hstop : ∀ w ∈ words, ¬ w <+: xs) {n : ℕ} (hn : ws.length ≤ n) :
    dropWords words n (ws.flatten++xs) = xs := by
  induction ws generalizing n with
  | nil => exact dropWords_of_stop hstop n
  | cons w ws ih =>
    rw [List.forall_mem_cons] at hws
    obtain ⟨n,rfl⟩ : ∃ m, n = m+1 := ⟨n-1,by rw [List.length_cons] at hn; omega⟩
    have hw : w <+: w++(ws.flatten++xs) := List.prefix_append _ _
    rw [List.flatten_cons,List.append_assoc,dropWords]
    -- the word that is found is the one that stands there
    cases hfind : words.find? fun v => v.isPrefixOf (w++(ws.flatten++xs)) with
    | none =>
      rw [List.find?_eq_none] at hfind
      exact absurd hw (by simpa using hfind w hws.1)
    | some v =>
      have hv : v <+: w++(ws.flatten++xs) := by simpa using List.find?_some hfind
      have hmem : v ∈ words := List.mem_of_find?_eq_some hfind
      obtain rfl : v = w := by
        rcases List.prefix_or_prefix_of_prefix hv hw with h | h
        · exact hfree v hmem w hws.1 h
        · exact (hfree w hws.1 v hmem h).symm
      simp only [List.drop_left]
      exact ih hws.2 (by rw [List.length_cons] at hn; omega)

end Words

section Encodings

def spaces : List Char := [0x09,0x0A,0x0B,0x0C,0x0D,0x20,0x85,0xA0,0x1680,0x2000,0x2001,0x2002,0x2003,0x2004,
  0x2005,0x2006,0x2007,0x2008,0x2009,0x200A,0x2028,0x2029,0x202F,0x205F,0x3000].map Char.ofNat

theorem mem_spaces {c : Char} (h : isSpace c = true) : c ∈ spaces := by
  have hcode : c.toNat ∈ [0x09,0x0A,0x0B,0x0C,0x0D,0x20,0x85,0xA0,0x1680,0x2000,0x2001,0x2002,0x2003,0x2004,
      0x2005,0x2006,0x2007,0x2008,0x2009,0x200A,0x2028,0x2029,0x202F,0x205F,0x3000] := by
    simp only [isSpace,Bool.or_eq_true,Bool.and_eq_true,decide_eq_true_eq,beq_iff_eq] at h
    simp only [List.mem_cons,List.not_mem_nil,or_false]
    omega
  exact List.mem_map.mpr ⟨c.toNat,hcode,Char.ofNat_toNat c⟩

theorem isSpace_of_mem {c : Char} (h : c ∈ spaces) : isSpace c = true := by
  have hall : spaces.all isSpace = true := by decide
  exact List.all_eq_true.mp hall c h

def spaceBytes : List (List UInt8) := spaces.map String.utf8EncodeChar

def spaceBytesBack : List (List UInt8) := spaceBytes.map List.reverse

theorem spaceBytes_prefixFree : PrefixFree spaceBytes := by decide +kernel

theorem spaceBytesBack_prefixFree : PrefixFree spaceBytesBack := by decide +kernel

def trimSpaceBytes (bs : List UInt8) : List UInt8 :=
  let front := dropWords spaceBytes bs.length bs
  (dropWords spaceBytesBack front.length front.reverse).reverse

end Encodings

section Surrounded

theorem utf8_eq_flatten (s : String) : utf8 s = (s.toList.map String.utf8EncodeChar).flatten := by
  rw [← List.flatMap_def,← utf8_ofList,String.ofList_toList]

theorem length_le_utf8 (s : String) : s.toList.length ≤ (utf8 s).length := by
  rw [utf8_eq_flatten,List.length_flatten,List.map_map]
  induction s.toList with
  | nil => simp
  | cons c cs ih =>
    have hpos : 0 < (String.utf8EncodeChar c).length := List.length_pos_iff.mpr (String.utf8EncodeChar_ne_nil)
    simp only [List.map_cons,List.sum_cons,List.length_cons,Function.comp]
    omega

theorem trimSpaceBytes_surrounded {left right : String} {core : List UInt8}
    (hleft : ∀ c ∈ left.toList, isSpace c = true) (hright : ∀ c ∈ right.toList, isSpace c = true)
    (hfront : ∀ c, isSpace c = true → ¬ String.utf8EncodeChar c <+: core++utf8 right)
    (hback : ∀ c, isSpace c = true → ¬ String.utf8EncodeChar c <:+ core) :
    trimSpaceBytes (utf8 left++core++utf8 right) = core := by
  have hwords (s : String) (hs : ∀ c ∈ s.toList, isSpace c = true) :
      ∀ w ∈ s.toList.map String.utf8EncodeChar, w ∈ spaceBytes := by
    intro w hw
    obtain ⟨c,hc,rfl⟩ := List.mem_map.mp hw
    exact List.mem_map_of_mem (mem_spaces (hs c hc))
  have hdrop : dropWords spaceBytes (utf8 left++core++utf8 right).length (utf8 left++core++utf8 right) =
      core++utf8 right := by
    have hn : (left.toList.map String.utf8EncodeChar).length ≤ (utf8 left++core++utf8 right).length := by
      have := length_le_utf8 left
      simp only [List.length_map,List.length_append]
      omega
    rw [List.append_assoc,utf8_eq_flatten left] at *
    refine dropWords_flatten spaceBytes_prefixFree (hwords left hleft) ?_ hn
    intro w hw
    obtain ⟨c,hc,rfl⟩ := List.mem_map.mp hw
    exact hfront c (isSpace_of_mem hc)
  have hrev : (core++utf8 right).reverse =
      ((right.toList.map String.utf8EncodeChar).reverse.map List.reverse).flatten++core.reverse := by
    rw [List.reverse_append,utf8_eq_flatten right,List.reverse_flatten,List.map_reverse]
  have hn : ((right.toList.map String.utf8EncodeChar).reverse.map List.reverse).length ≤
      (core++utf8 right).length := by
    have := length_le_utf8 right
    simp only [List.length_map,List.length_reverse,List.length_append]
    omega
  unfold trimSpaceBytes
  simp only [hdrop]
  rw [hrev,dropWords_flatten spaceBytesBack_prefixFree ?_ ?_ hn,List.reverse_reverse]
  · intro w hw
    obtain ⟨v,hv,rfl⟩ := List.mem_map.mp hw
    exact List.mem_map_of_mem (hwords right hright v (List.mem_reverse.mp hv))
  · intro w hw
    obtain ⟨v,hv,rfl⟩ := List.mem_map.mp hw
    obtain ⟨c,hc,rfl⟩ := List.mem_map.mp hv
    rw [List.reverse_prefix]
    exact hback c (isSpace_of_mem hc)

theorem encode_prefix_inj {c d : Char} {rest : List UInt8}
    (h : String.utf8EncodeChar c <+: String.utf8EncodeChar d++rest) : c = d := by
  obtain ⟨tail,htail⟩ := h
  have hc : ((String.utf8EncodeChar c).toByteArray++tail.toByteArray).utf8DecodeChar? 0 = some c :=
    ByteArray.utf8DecodeChar?_utf8EncodeChar_append
  have hd : ((String.utf8EncodeChar d).toByteArray++rest.toByteArray).utf8DecodeChar? 0 = some d :=
    ByteArray.utf8DecodeChar?_utf8EncodeChar_append
  rw [← List.toByteArray_append,htail,List.toByteArray_append,hd] at hc
  exact (Option.some.inj hc).symm

theorem encode_suffix_length {c d : Char} (h : String.utf8EncodeChar c <:+ String.utf8EncodeChar d) :
    (String.utf8EncodeChar c).length = (String.utf8EncodeChar d).length := by
  obtain ⟨pre,hpre⟩ := h
  have hpos : 0 < (String.utf8EncodeChar c).length := List.length_pos_iff.mpr String.utf8EncodeChar_ne_nil
  have hlength : pre.length+(String.utf8EncodeChar c).length = (String.utf8EncodeChar d).length := by
    rw [← hpre,List.length_append]
  have hlt : pre.length < (String.utf8EncodeChar d).length := by omega
  have hbyte : (String.utf8EncodeChar d)[pre.length] = (String.utf8EncodeChar c)[0] := by
    simp [← hpre]
  have hfirst : ((String.utf8EncodeChar d)[pre.length]).IsUTF8FirstByte := by
    rw [hbyte]
    exact UInt8.isUTF8FirstByte_getElem_utf8EncodeChar.mpr rfl
  have hzero := UInt8.isUTF8FirstByte_getElem_utf8EncodeChar.mp hfirst
  omega

theorem encode_suffix_inj {c d : Char} {pre : List UInt8}
    (h : String.utf8EncodeChar c <:+ pre++String.utf8EncodeChar d) : c = d := by
  have hd : String.utf8EncodeChar d <:+ pre++String.utf8EncodeChar d := List.suffix_append _ _
  have heq : String.utf8EncodeChar c = String.utf8EncodeChar d := by
    rcases List.suffix_or_suffix_of_suffix h hd with hcd | hdc
    · exact hcd.eq_of_length (encode_suffix_length hcd)
    · exact (hdc.eq_of_length (encode_suffix_length hdc)).symm
  have hprefix : String.utf8EncodeChar c <+: String.utf8EncodeChar d++[] := by rw [List.append_nil,heq]
  exact encode_prefix_inj hprefix

theorem exists_trim (s : String) : ∃ left right, s = left ++ trimSpace s ++ right ∧
    (∀ c ∈ left.toList, isSpace c = true) ∧ ∀ c ∈ right.toList, isSpace c = true := by
  refine ⟨String.ofList (s.toList.takeWhile isSpace),
    String.ofList ((s.toList.dropWhile isSpace).reverse.takeWhile isSpace).reverse,?_,?_,?_⟩
  · apply String.toList_injective
    simp only [trimSpace,String.toList_append,String.toList_ofList]
    rw [List.append_assoc,← List.reverse_append,List.takeWhile_append_dropWhile,List.reverse_reverse,
      List.takeWhile_append_dropWhile]
  · intro c hc
    rw [String.toList_ofList] at hc
    exact List.mem_takeWhile_imp hc
  · intro c hc
    rw [String.toList_ofList,List.mem_reverse] at hc
    exact List.mem_takeWhile_imp hc

theorem trimSpaceBytes_spaces {s : String} (h : ∀ c ∈ s.toList, isSpace c = true) :
    trimSpaceBytes (utf8 s) = [] := by
  have hempty : trimSpaceBytes (utf8 s++[]++utf8 "") = [] := by
    refine trimSpaceBytes_surrounded h (by simp) (fun c _ hc => ?_) fun c _ hc => ?_
    · simp [utf8] at hc
    · simp at hc
  simpa [utf8] using hempty

theorem not_space_prefix {s : String} (hne : s ≠ "") (h : Trimmed s) (rest : List UInt8) {c : Char}
    (hc : isSpace c = true) : ¬ String.utf8EncodeChar c <+: utf8 s++rest := by
  intro hprefix
  obtain ⟨first,tail,hcons⟩ : ∃ first tail, s.toList = first::tail :=
    List.exists_cons_of_ne_nil fun hnil => hne (String.toList_injective (by simpa using hnil))
  rw [utf8_eq_flatten,hcons,List.map_cons,List.flatten_cons,List.append_assoc] at hprefix
  rw [encode_prefix_inj hprefix,h.1 first (by rw [hcons]; rfl)] at hc
  cases hc

theorem not_space_suffix {s : String} (hne : s ≠ "") (h : Trimmed s) (pre : List UInt8) {c : Char}
    (hc : isSpace c = true) : ¬ String.utf8EncodeChar c <:+ pre++utf8 s := by
  intro hsuffix
  rcases List.eq_nil_or_concat s.toList with hnil | ⟨front,last,hconcat⟩
  · exact hne (String.toList_injective (by simpa using hnil))
  · rw [utf8_eq_flatten,hconcat,List.concat_eq_append,List.map_append,List.flatten_append,List.map_singleton,
      List.flatten_singleton,← List.append_assoc] at hsuffix
    rw [encode_suffix_inj hsuffix,h.2 last (by simp [hconcat])] at hc
    cases hc

/-- On a text this is `trimSpace`. -/
theorem trimSpaceBytes_utf8 (s : String) : trimSpaceBytes (utf8 s) = utf8 (trimSpace s) := by
  obtain ⟨left,right,hs,hleft,hright⟩ := exists_trim s
  have htrimmed := trimmed_trimSpace s
  by_cases hblank : trimSpace s = ""
  · have hspaces : ∀ c ∈ s.toList, isSpace c = true := by
      intro c hc
      rw [hs,hblank] at hc
      simp only [String.toList_append,String.toList_empty,List.append_nil,List.mem_append] at hc
      exact hc.elim (hleft c) (hright c)
    rw [trimSpaceBytes_spaces hspaces,hblank]
    rfl
  · have hbytes : utf8 s = utf8 left++utf8 (trimSpace s)++utf8 right := by
      rw [← utf8_append,← utf8_append,← hs]
    have hback : ∀ c, isSpace c = true → ¬ String.utf8EncodeChar c <:+ utf8 (trimSpace s) := by
      intro c hc
      rw [← List.nil_append (utf8 (trimSpace s))]
      exact not_space_suffix hblank htrimmed [] hc
    rw [hbytes]
    exact trimSpaceBytes_surrounded hleft hright (fun _ => not_space_prefix hblank htrimmed _) hback

end Surrounded

end TrimBytes
end AntiScrapling
