import Mathlib.Algebra.Group.Nat.Defs
import Mathlib.Algebra.Ring.Int.Defs
import Mathlib.Data.List.Infix
import Mathlib.Data.List.TakeWhile
import Mathlib.Tactic.Common

/-! Text as sequences of Unicode characters, with the simple case mappings of Unicode 15.
The two tables list runs of code points that are shifted by one amount. -/
namespace AntiScrapling
namespace UnicodeText

/-- The code points `lo`, `lo+step`, … up to `hi`, all shifted by `shift`. -/
structure CaseRange where
  lo : ℕ
  hi : ℕ
  step : ℕ
  shift : ℤ

def CaseRange.apply (r : CaseRange) (n : ℕ) : Option ℕ :=
  if r.lo ≤ n ∧ n ≤ r.hi ∧ (n-r.lo)%r.step = 0 then some ((n : ℤ)+r.shift).toNat else none

def lowerRanges : List CaseRange :=
  [⟨0x41,0x5A,1,32⟩,⟨0xC0,0xD6,1,32⟩,⟨0xD8,0xDE,1,32⟩,⟨0x100,0x12E,2,1⟩,⟨0x130,0x130,1,-199⟩,
   ⟨0x132,0x136,2,1⟩,⟨0x139,0x147,2,1⟩,⟨0x14A,0x176,2,1⟩,⟨0x178,0x178,1,-121⟩,⟨0x179,0x17D,2,1⟩,
   ⟨0x181,0x181,1,210⟩,⟨0x182,0x184,2,1⟩,⟨0x186,0x186,1,206⟩,⟨0x187,0x187,1,1⟩,
   ⟨0x189,0x18A,1,205⟩,⟨0x18B,0x18B,1,1⟩,⟨0x18E,0x18E,1,79⟩,⟨0x18F,0x18F,1,202⟩,
   ⟨0x190,0x190,1,203⟩,⟨0x191,0x191,1,1⟩,⟨0x193,0x193,1,205⟩,⟨0x194,0x194,1,207⟩,
   ⟨0x196,0x196,1,211⟩,⟨0x197,0x197,1,209⟩,⟨0x198,0x198,1,1⟩,⟨0x19C,0x19C,1,211⟩,
   ⟨0x19D,0x19D,1,213⟩,⟨0x19F,0x19F,1,214⟩,⟨0x1A0,0x1A4,2,1⟩,⟨0x1A6,0x1A6,1,218⟩,
   ⟨0x1A7,0x1A7,1,1⟩,⟨0x1A9,0x1A9,1,218⟩,⟨0x1AC,0x1AC,1,1⟩,⟨0x1AE,0x1AE,1,218⟩,⟨0x1AF,0x1AF,1,1⟩,
   ⟨0x1B1,0x1B2,1,217⟩,⟨0x1B3,0x1B5,2,1⟩,⟨0x1B7,0x1B7,1,219⟩,⟨0x1B8,0x1B8,1,1⟩,⟨0x1BC,0x1BC,1,1⟩,
   ⟨0x1C4,0x1C4,1,2⟩,⟨0x1C5,0x1C5,1,1⟩,⟨0x1C7,0x1C7,1,2⟩,⟨0x1C8,0x1C8,1,1⟩,⟨0x1CA,0x1CA,1,2⟩,
   ⟨0x1CB,0x1DB,2,1⟩,⟨0x1DE,0x1EE,2,1⟩,⟨0x1F1,0x1F1,1,2⟩,⟨0x1F2,0x1F4,2,1⟩,⟨0x1F6,0x1F6,1,-97⟩,
   ⟨0x1F7,0x1F7,1,-56⟩,⟨0x1F8,0x21E,2,1⟩,⟨0x220,0x220,1,-130⟩,⟨0x222,0x232,2,1⟩,
   ⟨0x23A,0x23A,1,10795⟩,⟨0x23B,0x23B,1,1⟩,⟨0x23D,0x23D,1,-163⟩,⟨0x23E,0x23E,1,10792⟩,
   ⟨0x241,0x241,1,1⟩,⟨0x243,0x243,1,-195⟩,⟨0x244,0x244,1,69⟩,⟨0x245,0x245,1,71⟩,⟨0x246,0x24E,2,1⟩,
   ⟨0x370,0x372,2,1⟩,⟨0x376,0x376,1,1⟩,⟨0x37F,0x37F,1,116⟩,⟨0x386,0x386,1,38⟩,⟨0x388,0x38A,1,37⟩,
   ⟨0x38C,0x38C,1,64⟩,⟨0x38E,0x38F,1,63⟩,⟨0x391,0x3A1,1,32⟩,⟨0x3A3,0x3AB,1,32⟩,⟨0x3CF,0x3CF,1,8⟩,
   ⟨0x3D8,0x3EE,2,1⟩,⟨0x3F4,0x3F4,1,-60⟩,⟨0x3F7,0x3F7,1,1⟩,⟨0x3F9,0x3F9,1,-7⟩,⟨0x3FA,0x3FA,1,1⟩,
   ⟨0x3FD,0x3FF,1,-130⟩,⟨0x400,0x40F,1,80⟩,⟨0x410,0x42F,1,32⟩,⟨0x460,0x480,2,1⟩,⟨0x48A,0x4BE,2,1⟩,
   ⟨0x4C0,0x4C0,1,15⟩,⟨0x4C1,0x4CD,2,1⟩,⟨0x4D0,0x52E,2,1⟩,⟨0x531,0x556,1,48⟩,
   ⟨0x10A0,0x10C5,1,7264⟩,⟨0x10C7,0x10C7,1,7264⟩,⟨0x10CD,0x10CD,1,7264⟩,⟨0x13A0,0x13EF,1,38864⟩,
   ⟨0x13F0,0x13F5,1,8⟩,⟨0x1C90,0x1CBA,1,-3008⟩,⟨0x1CBD,0x1CBF,1,-3008⟩,⟨0x1E00,0x1E94,2,1⟩,
   ⟨0x1E9E,0x1E9E,1,-7615⟩,⟨0x1EA0,0x1EFE,2,1⟩,⟨0x1F08,0x1F0F,1,-8⟩,⟨0x1F18,0x1F1D,1,-8⟩,
   ⟨0x1F28,0x1F2F,1,-8⟩,⟨0x1F38,0x1F3F,1,-8⟩,⟨0x1F48,0x1F4D,1,-8⟩,⟨0x1F59,0x1F5F,2,-8⟩,
   ⟨0x1F68,0x1F6F,1,-8⟩,⟨0x1F88,0x1F8F,1,-8⟩,⟨0x1F98,0x1F9F,1,-8⟩,⟨0x1FA8,0x1FAF,1,-8⟩,
   ⟨0x1FB8,0x1FB9,1,-8⟩,⟨0x1FBA,0x1FBB,1,-74⟩,⟨0x1FBC,0x1FBC,1,-9⟩,⟨0x1FC8,0x1FCB,1,-86⟩,
   ⟨0x1FCC,0x1FCC,1,-9⟩,⟨0x1FD8,0x1FD9,1,-8⟩,⟨0x1FDA,0x1FDB,1,-100⟩,⟨0x1FE8,0x1FE9,1,-8⟩,
   ⟨0x1FEA,0x1FEB,1,-112⟩,⟨0x1FEC,0x1FEC,1,-7⟩,⟨0x1FF8,0x1FF9,1,-128⟩,⟨0x1FFA,0x1FFB,1,-126⟩,
   ⟨0x1FFC,0x1FFC,1,-9⟩,⟨0x2126,0x2126,1,-7517⟩,⟨0x212A,0x212A,1,-8383⟩,⟨0x212B,0x212B,1,-8262⟩,
   ⟨0x2132,0x2132,1,28⟩,⟨0x2160,0x216F,1,16⟩,⟨0x2183,0x2183,1,1⟩,⟨0x24B6,0x24CF,1,26⟩,
   ⟨0x2C00,0x2C2F,1,48⟩,⟨0x2C60,0x2C60,1,1⟩,⟨0x2C62,0x2C62,1,-10743⟩,⟨0x2C63,0x2C63,1,-3814⟩,
   ⟨0x2C64,0x2C64,1,-10727⟩,⟨0x2C67,0x2C6B,2,1⟩,⟨0x2C6D,0x2C6D,1,-10780⟩,⟨0x2C6E,0x2C6E,1,-10749⟩,
   ⟨0x2C6F,0x2C6F,1,-10783⟩,⟨0x2C70,0x2C70,1,-10782⟩,⟨0x2C72,0x2C72,1,1⟩,⟨0x2C75,0x2C75,1,1⟩,
   ⟨0x2C7E,0x2C7F,1,-10815⟩,⟨0x2C80,0x2CE2,2,1⟩,⟨0x2CEB,0x2CED,2,1⟩,⟨0x2CF2,0x2CF2,1,1⟩,
   ⟨0xA640,0xA66C,2,1⟩,⟨0xA680,0xA69A,2,1⟩,⟨0xA722,0xA72E,2,1⟩,⟨0xA732,0xA76E,2,1⟩,
   ⟨0xA779,0xA77B,2,1⟩,⟨0xA77D,0xA77D,1,-35332⟩,⟨0xA77E,0xA786,2,1⟩,⟨0xA78B,0xA78B,1,1⟩,
   ⟨0xA78D,0xA78D,1,-42280⟩,⟨0xA790,0xA792,2,1⟩,⟨0xA796,0xA7A8,2,1⟩,⟨0xA7AA,0xA7AA,1,-42308⟩,
   ⟨0xA7AB,0xA7AB,1,-42319⟩,⟨0xA7AC,0xA7AC,1,-42315⟩,⟨0xA7AD,0xA7AD,1,-42305⟩,
   ⟨0xA7AE,0xA7AE,1,-42308⟩,⟨0xA7B0,0xA7B0,1,-42258⟩,⟨0xA7B1,0xA7B1,1,-42282⟩,
   ⟨0xA7B2,0xA7B2,1,-42261⟩,⟨0xA7B3,0xA7B3,1,928⟩,⟨0xA7B4,0xA7C2,2,1⟩,⟨0xA7C4,0xA7C4,1,-48⟩,
   ⟨0xA7C5,0xA7C5,1,-42307⟩,⟨0xA7C6,0xA7C6,1,-35384⟩,⟨0xA7C7,0xA7C9,2,1⟩,⟨0xA7D0,0xA7D0,1,1⟩,
   ⟨0xA7D6,0xA7D8,2,1⟩,⟨0xA7F5,0xA7F5,1,1⟩,⟨0xFF21,0xFF3A,1,32⟩,⟨0x10400,0x10427,1,40⟩,
   ⟨0x104B0,0x104D3,1,40⟩,⟨0x10570,0x10594,2,39⟩,⟨0x10571,0x10579,2,39⟩,⟨0x1057D,0x10589,2,39⟩,
   ⟨0x1058D,0x10591,2,39⟩,⟨0x10595,0x10595,1,39⟩,⟨0x10C80,0x10CB2,1,64⟩,⟨0x118A0,0x118BF,1,32⟩,
   ⟨0x16E40,0x16E5F,1,32⟩,⟨0x1E900,0x1E921,1,34⟩]

/-- Characters whose simple case folding is not their lowercase mapping. -/
def foldRanges : List CaseRange :=
  [⟨0xB5,0xB5,1,775⟩,⟨0x130,0x130,1,0⟩,⟨0x17F,0x17F,1,-268⟩,⟨0x345,0x345,1,116⟩,⟨0x3C2,0x3C2,1,1⟩,
   ⟨0x3D0,0x3D0,1,-30⟩,⟨0x3D1,0x3D1,1,-25⟩,⟨0x3D5,0x3D5,1,-15⟩,⟨0x3D6,0x3D6,1,-22⟩,
   ⟨0x3F0,0x3F0,1,-54⟩,⟨0x3F1,0x3F1,1,-48⟩,⟨0x3F5,0x3F5,1,-64⟩,⟨0x13A0,0x13F5,1,0⟩,
   ⟨0x13F8,0x13FD,1,-8⟩,⟨0x1C80,0x1C80,1,-6222⟩,⟨0x1C81,0x1C81,1,-6221⟩,⟨0x1C82,0x1C82,1,-6212⟩,
   ⟨0x1C83,0x1C84,1,-6210⟩,⟨0x1C85,0x1C85,1,-6211⟩,⟨0x1C86,0x1C86,1,-6204⟩,
   ⟨0x1C87,0x1C87,1,-6180⟩,⟨0x1C88,0x1C88,1,35267⟩,⟨0x1E9B,0x1E9B,1,-58⟩,⟨0x1FBE,0x1FBE,1,-7173⟩,
   ⟨0xAB70,0xABBF,1,-38864⟩]

def mapRune (ranges : List CaseRange) (c : Char) : Option Char :=
  (ranges.findSome? fun r => r.apply c.toNat).map Char.ofNat

def toLowerRune (c : Char) : Char :=
  if c.toNat < 0x80 then c.toLower else (mapRune lowerRanges c).getD c

/-- The representative of a character under simple case folding. -/
def simpleFold (c : Char) : Char :=
  if c.toNat < 0x80 then c.toLower else (mapRune foldRanges c).getD (toLowerRune c)

def utf8 (s : String) : List UInt8 := s.toUTF8.data.toList

def toLower (s : String) : String := String.ofList (s.toList.map toLowerRune)

section AsciiCase

theorem toLower_of_ge {c : Char} (h : ¬ c.toNat < 0x80) : c.toLower = c := by
  unfold Char.toLower
  split_ifs with hc
  · have hle : c.toNat ≤ 90 := UInt32.le_iff_toNat_le.mp hc.2
    omega
  · rfl

theorem toLower_lt {c : Char} (h : c.toNat < 0x80) : c.toLower.toNat < 0x80 := by
  have hall : ∀ i : Fin 128, (Char.ofNat i).toLower.toNat < 0x80 := by decide
  have hc : Char.ofNat c.toNat = c := Char.ofNat_toNat c
  simpa only [hc] using hall ⟨c.toNat,h⟩

theorem toLower_lt_iff {c : Char} : c.toLower.toNat < 0x80 ↔ c.toNat < 0x80 := by
  constructor
  · intro h
    by_contra hc
    rw [toLower_of_ge hc] at h
    exact hc h
  · exact toLower_lt

theorem toLowerRune_congr {c d : Char} (h : c.toLower = d.toLower) : toLowerRune c = toLowerRune d := by
  by_cases hc : c.toNat < 0x80
  · have hd : d.toNat < 0x80 := toLower_lt_iff.mp (h ▸ toLower_lt hc)
    rw [toLowerRune,toLowerRune,if_pos hc,if_pos hd,h]
  · have hd : ¬ d.toNat < 0x80 := fun hd => hc (toLower_lt_iff.mp (h ▸ toLower_lt hd))
    rw [toLower_of_ge hc,toLower_of_ge hd] at h
    rw [h]

/-- Texts that differ in the case of ASCII letters only have one lowercase form. -/
theorem toLower_congr {s t : String} (h : s.toList.map Char.toLower = t.toList.map Char.toLower) :
    toLower s = toLower t := by
  unfold toLower
  congr 1
  generalize s.toList = cs at h ⊢
  generalize t.toList = ds at h ⊢
  induction cs generalizing ds with
  | nil =>
    cases ds with
    | nil => rfl
    | cons d ds => cases h
  | cons c cs ih =>
    cases ds with
    | nil => cases h
    | cons d ds =>
      obtain ⟨hhead,htail⟩ := List.cons.inj h
      rw [List.map_cons,List.map_cons,toLowerRune_congr hhead,ih ds htail]

end AsciiCase

def equalFold (s t : String) : Bool := s.toList.map simpleFold == t.toList.map simpleFold

/-- `sub` occurs somewhere in `s`. -/
def contains (s sub : String) : Bool := decide (sub.toList <:+: s.toList)

section Runes

def runeError : Char := Char.ofNat 0xFFFD

/-- The number of bytes that a first byte announces, or zero if it cannot be one. -/
def sequenceLength (b : UInt8) : ℕ :=
  let n := b.toNat
  if n < 0x80 then 1
  else if 0xC2 ≤ n ∧ n ≤ 0xDF then 2
  else if 0xE0 ≤ n ∧ n ≤ 0xEF then 3
  else if 0xF0 ≤ n ∧ n ≤ 0xF4 then 4
  else 0

def isContinuation (b : UInt8) : Bool := decide (0x80 ≤ b.toNat ∧ b.toNat ≤ 0xBF)

/-- The second byte excludes overlong forms, surrogates and what is above the last plane. -/
def isSecond (b c : UInt8) : Bool :=
  isContinuation c && match b with
    | 0xE0 => decide (0xA0 ≤ c.toNat)
    | 0xED => decide (c.toNat ≤ 0x9F)
    | 0xF0 => decide (0x90 ≤ c.toNat)
    | 0xF4 => decide (c.toNat ≤ 0x8F)
    | _ => true

/-- The first character of a byte string and the number of its bytes. -/
def decodeRune (b : UInt8) (rest : List UInt8) : Char × ℕ :=
  match sequenceLength b, rest with
  | 1,_ => (Char.ofNat b.toNat,1)
  | 2,c::_ =>
    if isSecond b c then (Char.ofNat (b.toNat%32*64+c.toNat%64),2) else (runeError,1)
  | 3,c::d::_ =>
    if isSecond b c && isContinuation d then
      (Char.ofNat ((b.toNat%16*64+c.toNat%64)*64+d.toNat%64),3)
    else (runeError,1)
  | 4,c::d::e::_ =>
    if isSecond b c && isContinuation d && isContinuation e then
      (Char.ofNat (((b.toNat%8*64+c.toNat%64)*64+d.toNat%64)*64+e.toNat%64),4)
    else (runeError,1)
  | _,_ => (runeError,1)

def decodeRunes : ℕ → List UInt8 → List Char
  | 0,_ => []
  | _+1,[] => []
  | n+1,b::rest =>
    let (c,size) := decodeRune b rest
    c::decodeRunes n (rest.drop (size-1))

/-- The text of a byte string; a byte that starts no character is replaced. -/
def runes (bs : List UInt8) : String := String.ofList (decodeRunes bs.length bs)

theorem decodeRunes_length_le (n : ℕ) (bs : List UInt8) : (decodeRunes n bs).length ≤ bs.length := by
  induction n generalizing bs with
  | zero => simp [decodeRunes]
  | succ n ih =>
    cases bs with
    | nil => simp [decodeRunes]
    | cons b rest =>
      have h := ih (rest.drop ((decodeRune b rest).2-1))
      rw [List.length_drop] at h
      simp only [decodeRunes,List.length_cons]
      omega

theorem runes_length_le (bs : List UInt8) : (runes bs).toList.length ≤ bs.length := by
  rw [runes,String.toList_ofList]
  exact decodeRunes_length_le bs.length bs

/-- ASCII bytes are read one by one. -/
theorem runes_length_ascii {bs : List UInt8} (h : ∀ b ∈ bs, b.toNat < 128) :
    (runes bs).toList.length = bs.length := by
  rw [runes,String.toList_ofList]
  induction bs with
  | nil => rfl
  | cons b bs ih =>
    have hb : decodeRune b bs = (Char.ofNat b.toNat,1) := by
      have hone : sequenceLength b = 1 := if_pos (h b (by simp))
      simp [decodeRune,hone]
    simp only [List.length_cons,decodeRunes,hb]
    rw [Nat.sub_self,List.drop_zero,ih fun x hx => h x (by simp [hx])]

end Runes

def isSpace (c : Char) : Bool :=
  let n := c.toNat
  (0x09 ≤ n && n ≤ 0x0D) || n == 0x20 || n == 0x85 || n == 0xA0 || n == 0x1680 ||
    (0x2000 ≤ n && n ≤ 0x200A) || n == 0x2028 || n == 0x2029 || n == 0x202F || n == 0x205F ||
    n == 0x3000

def trimSpace (s : String) : String :=
  String.ofList (((s.toList.dropWhile isSpace).reverse.dropWhile isSpace).reverse)

section Trimming

/-- No white space at either end. -/
def Trimmed (s : String) : Prop :=
  (∀ c ∈ s.toList.head?, isSpace c = false) ∧ ∀ c ∈ s.toList.getLast?, isSpace c = false

theorem trimmed_of_forall {s : String} (h : ∀ c ∈ s.toList, isSpace c = false) : Trimmed s :=
  ⟨fun c hc => h c (List.mem_of_mem_head? hc),fun c hc => h c (List.mem_of_mem_getLast? hc)⟩

theorem head?_dropWhile {cs : List Char} {c : Char} (h : c ∈ (cs.dropWhile isSpace).head?) :
    isSpace c = false := by
  have hnot := List.head?_dropWhile_not isSpace cs
  rwa [Option.mem_def.mp h] at hnot

theorem dropWhile_eq_self {cs : List Char} (h : ∀ c ∈ cs.head?, isSpace c = false) :
    cs.dropWhile isSpace = cs := by
  cases cs with
  | nil => rfl
  | cons c cs => rw [List.dropWhile_cons_of_neg (by simpa using h c rfl)]

theorem trimmed_trimSpace (s : String) : Trimmed (trimSpace s) := by
  unfold Trimmed trimSpace
  simp only [String.toList_ofList,List.head?_reverse,List.getLast?_reverse]
  refine ⟨fun c hc => ?_,fun c hc => head?_dropWhile hc⟩
  -- what is left ends where the reversed text ends
  obtain ⟨pre,hpre⟩ : (s.toList.dropWhile isSpace).reverse.dropWhile isSpace <:+ _ := List.dropWhile_suffix isSpace
  have hlast : c ∈ (s.toList.dropWhile isSpace).reverse.getLast? := by
    rw [← hpre,List.getLast?_append,Option.mem_def.mp hc]
    rfl
  rw [List.getLast?_reverse] at hlast
  exact head?_dropWhile hlast

theorem trimSpace_surrounded {s left right : String} (h : Trimmed s)
    (hleft : ∀ c ∈ left.toList, isSpace c = true) (hright : ∀ c ∈ right.toList, isSpace c = true) :
    trimSpace (left ++ s ++ right) = s := by
  have hdrop : (left.toList++(s.toList++right.toList)).dropWhile isSpace =
      if s.toList = [] then [] else s.toList++right.toList := by
    rw [List.dropWhile_append_of_pos hleft]
    split_ifs with hs
    · rw [hs,List.nil_append,List.dropWhile_eq_nil_iff]
      exact hright
    · refine dropWhile_eq_self fun c hc => h.1 c ?_
      rwa [List.head?_append_of_ne_nil _ hs] at hc
  unfold trimSpace
  rw [String.toList_append,String.toList_append,List.append_assoc,hdrop]
  split_ifs with hs
  · rw [← String.ofList_toList (s := s),hs]
    rfl
  · have hend : s.toList.reverse.dropWhile isSpace = s.toList.reverse :=
      dropWhile_eq_self fun c hc => h.2 c (by rwa [List.head?_reverse] at hc)
    rw [List.reverse_append,List.dropWhile_append_of_pos fun c hc => hright c (List.mem_reverse.mp hc),hend,
      List.reverse_reverse,String.ofList_toList]

theorem trimSpace_eq_self {s : String} (h : Trimmed s) : trimSpace s = s := by
  have hself : trimSpace ("" ++ s ++ "") = s := trimSpace_surrounded h (by simp) (by simp)
  simpa using hself

theorem mem_of_mem_trimSpace {s : String} {c : Char} (h : c ∈ (trimSpace s).toList) : c ∈ s.toList := by
  rw [trimSpace,String.toList_ofList,List.mem_reverse] at h
  have hfront := (List.dropWhile_sublist isSpace).mem h
  exact (List.dropWhile_sublist isSpace).mem (List.mem_reverse.mp hfront)

theorem trimSpace_trimSpace (s : String) : trimSpace (trimSpace s) = trimSpace s :=
  trimSpace_eq_self (trimmed_trimSpace s)

end Trimming

def textOf (lines : List String) : String := String.ofList (lines.flatMap String.toList)

section Replacement

/-- Replace every occurrence of a text that is not empty, from left to right. -/
def replaceAllChars (old new : List Char) : ℕ → List Char → List Char
  | 0,cs => cs
  | _+1,[] => []
  | n+1,c::cs =>
    if old.isPrefixOf (c::cs) then new++replaceAllChars old new n ((c::cs).drop old.length)
    else c::replaceAllChars old new n cs

def replaceAll (s old new : String) : String :=
  String.ofList (replaceAllChars old.toList new.toList s.toList.length s.toList)

/-- No occurrence of `old` in `cs++rest` starts inside `cs`. -/
def absentBefore (old : List Char) : List Char → List Char → Bool
  | [],_ => true
  | c::cs,rest => !old.isPrefixOf (c::(cs++rest)) && absentBefore old cs rest

theorem replaceAllChars_absent (old new : List Char) (n : ℕ) (cs : List Char)
    (h : absentBefore old cs [] = true) : replaceAllChars old new n cs = cs := by
  induction cs generalizing n with
  | nil => cases n <;> rfl
  | cons c cs ih =>
    cases n with
    | zero => rfl
    | succ n =>
      simp only [absentBefore,List.append_nil,Bool.and_eq_true,Bool.not_eq_true'] at h
      simp only [replaceAllChars,h.1,Bool.false_eq_true,if_false,ih n h.2]

/-- A text that occurs once is replaced there. -/
theorem replaceAllChars_once (old new pre post : List Char) (n : ℕ) (hold : old ≠ [])
    (hpre : absentBefore old pre (old++post) = true) (hpost : absentBefore old post [] = true)
    (hn : pre.length < n) :
    replaceAllChars old new n (pre++old++post) = pre++new++post := by
  induction pre generalizing n with
  | nil =>
    cases n with
    | zero => simp at hn
    | succ n =>
      obtain ⟨c,old',rfl⟩ := List.exists_cons_of_ne_nil hold
      have hp : (c::old').isPrefixOf (c::(old'++post)) = true :=
        List.isPrefixOf_iff_prefix.mpr ⟨post,rfl⟩
      have hd : (c::(old'++post)).drop (c::old').length = post := by simp
      simp only [List.nil_append,List.cons_append,replaceAllChars,hp,if_true,hd]
      rw [replaceAllChars_absent _ _ _ _ hpost]
  | cons c pre ih =>
    cases n with
    | zero => simp at hn
    | succ n =>
      simp only [absentBefore,Bool.and_eq_true,Bool.not_eq_true'] at hpre
      rw [← List.append_assoc] at hpre
      simp only [List.cons_append,replaceAllChars,hpre.1,Bool.false_eq_true,if_false]
      rw [ih n (by simpa using hpre.2) (by simpa using hn)]

end Replacement

end UnicodeText
end AntiScrapling
