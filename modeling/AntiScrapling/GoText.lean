import AntiScrapling.UnicodeText

/-! Texts as Go's `strconv`, `strings` and `fmt` write and read them.  Which characters
are printable is a parameter. -/
namespace AntiScrapling
namespace GoText

open UnicodeText

def hexDigit (n : ℕ) : Char := "0123456789abcdef".toList.getD (n%16) '0'

/-- The last `width` hexadecimal digits of a number. -/
def hex (width n : ℕ) : List Char := (List.range width).reverse.map fun i => hexDigit (n/16^i)

/-- `%x` of a byte string. -/
def hexOfBytes (bs : List UInt8) : String := String.ofList (bs.flatMap fun b => hex 2 b.toNat)

theorem hexDigit_mod (n : ℕ) : hexDigit (n%16) = hexDigit n := by
  simp [hexDigit]

/-- There are sixteen digits. -/
theorem exists_hexDigit (n : ℕ) : ∃ i : Fin 16, hexDigit n = hexDigit i :=
  ⟨⟨n%16,Nat.mod_lt n (by decide)⟩,(hexDigit_mod n).symm⟩

theorem hexDigit_inj {m n : ℕ} (h : hexDigit m = hexDigit n) : m%16 = n%16 := by
  have hinj : ∀ i j : Fin 16, hexDigit i = hexDigit j → i = j := by decide
  have := hinj ⟨m%16,Nat.mod_lt _ (by decide)⟩ ⟨n%16,Nat.mod_lt _ (by decide)⟩
    (by simpa only [hexDigit_mod] using h)
  exact Fin.mk.inj this

theorem hex_byte_inj {a b : UInt8} (h : hex 2 a.toNat = hex 2 b.toNat) : a = b := by
  simp only [hex,List.range,List.range.loop,List.reverse_cons,List.reverse_nil,List.nil_append,
    List.map_cons,List.map_nil,List.cons_append,List.cons.injEq] at h
  have hhigh := hexDigit_inj h.1
  have hlow := hexDigit_inj h.2.1
  have ha := a.toNat_lt
  have hb := b.toNat_lt
  apply UInt8.toNat_inj.mp
  omega

theorem hexOfBytes_injective : Function.Injective hexOfBytes := by
  intro a b h
  have hchars := String.ofList_injective h
  induction a generalizing b with
  | nil =>
    cases b with
    | nil => rfl
    | cons y ys => simp [hex] at hchars
  | cons x xs ih =>
    cases b with
    | nil => simp [hex] at hchars
    | cons y ys =>
      rw [List.flatMap_cons,List.flatMap_cons] at hchars
      obtain ⟨hx,hxs⟩ := List.append_inj hchars (by simp [hex])
      rw [hex_byte_inj hx,ih (congrArg String.ofList hxs) hxs]

theorem mem_hexOfBytes {bs : List UInt8} {c : Char} (h : c ∈ (hexOfBytes bs).toList) : ∃ n, c = hexDigit n := by
  rw [hexOfBytes,String.toList_ofList] at h
  obtain ⟨b,-,hb⟩ := List.mem_flatMap.mp h
  obtain ⟨i,-,rfl⟩ := List.mem_map.mp hb
  exact ⟨_,rfl⟩

theorem utf8_injective : Function.Injective utf8 := by
  intro s t h
  have hdata : s.toUTF8.data = t.toUTF8.data := Array.toList_inj.mp h
  exact String.toByteArray_inj.mp (ByteArray.ext hdata)

theorem utf8_append (s t : String) : utf8 (s ++ t) = utf8 s++utf8 t := by
  have h : (s ++ t).toUTF8 = s.toUTF8 ++ t.toUTF8 := String.toByteArray_append
  rw [utf8,h,ByteArray.toList_data_append]
  rfl

theorem utf8_ofList (cs : List Char) : utf8 (String.ofList cs) = cs.flatMap String.utf8EncodeChar := by
  have h : (String.ofList cs).toUTF8 = cs.utf8Encode := String.toByteArray_ofList
  rw [utf8,h,List.utf8Encode]
  simp

theorem mem_utf8 {b : UInt8} {s : String} : b ∈ utf8 s ↔ ∃ c ∈ s.toList, b ∈ String.utf8EncodeChar c := by
  rw [← String.ofList_toList (s:=s),utf8_ofList,String.toList_ofList,List.mem_flatMap]

/-- ASCII characters are written as one byte each. -/
theorem utf8_ascii {s : String} (h : ∀ c ∈ s.toList, c.toNat < 128) :
    utf8 s = s.toList.map fun c => UInt8.ofNat c.toNat := by
  have hchar : ∀ c ∈ s.toList, String.utf8EncodeChar c = [UInt8.ofNat c.toNat] := by
    intro c hc
    exact if_pos (Nat.le_of_lt_succ (h c hc))
  rw [← String.ofList_toList (s:=s),utf8_ofList,String.toList_ofList]
  generalize s.toList = cs at hchar
  induction cs with
  | nil => rfl
  | cons c cs ih =>
    rw [List.forall_mem_cons] at hchar
    rw [List.flatMap_cons,hchar.1,ih hchar.2]
    rfl

section Quoting
variable (isPrint : Char → Bool)

def escapeChar (c : Char) : List Char :=
  if c = '"' ∨ c = '\\' then ['\\',c]
  else if isPrint c then [c]
  else if c = '\x07' then ['\\','a']
  else if c = '\x08' then ['\\','b']
  else if c = '\x0c' then ['\\','f']
  else if c = '\n' then ['\\','n']
  else if c = '\r' then ['\\','r']
  else if c = '\t' then ['\\','t']
  else if c = '\x0b' then ['\\','v']
  else if c < ' ' ∨ c = '\x7f' then ['\\','x']++hex 2 c.toNat
  else if c.toNat < 0x10000 then ['\\','u']++hex 4 c.toNat
  else ['\\','U']++hex 8 c.toNat

/-- `strconv.Quote`. -/
def quote (s : String) : String := String.ofList (['"']++s.toList.flatMap (escapeChar isPrint)++['"'])

/-- The digits of a number below `2^64`, read after a value `n`. -/
def uintOfDigits : ℕ → List Char → Except String ℕ
  | n,[] => .ok n
  | n,c::cs =>
    if !c.isDigit then .error "invalid syntax"
    else if 10*n+(c.toNat - '0'.toNat) ≥ 2^64 then .error "value out of range"
    else uintOfDigits (10*n+(c.toNat - '0'.toNat)) cs

def signedInt (negative : Bool) (digits : List Char) : Except String ℤ :=
  if digits.isEmpty then .error "invalid syntax"
  else
    match uintOfDigits 0 digits with
    | .error e => .error e
    | .ok n =>
      if negative then if n > 2^63 then .error "value out of range" else .ok (-n)
      else if n ≥ 2^63 then .error "value out of range" else .ok n

/-- `strconv.Atoi` for 64-bit integers. -/
def atoi (s : String) : Except String ℤ :=
  let result := match s.toList with
    | '-'::digits => signedInt true digits
    | '+'::digits => signedInt false digits
    | digits => signedInt false digits
  match result with
  | .ok n => .ok n
  | .error e => .error ("strconv.Atoi: parsing " ++ quote isPrint s ++ ": " ++ e)

end Quoting

/-- `strings.TrimPrefix`. -/
def trimPrefix (s pre : String) : String :=
  if pre.toList <+: s.toList then String.ofList (s.toList.drop pre.length) else s

end GoText
end AntiScrapling
