import Mathlib.Data.List.Basic
import Mathlib.Tactic.Common

/-! Textual IP addresses as Go's `net.ParseIP` reads them.  An address has 128 bits; an
IPv4 address is mapped into them. -/
namespace AntiScrapling
namespace IpAddress

abbrev IP := BitVec 128

section Parsing

/-- The pieces of a text between the places of a character. -/
def splitOn (sep : Char) : List Char → List (List Char)
  | [] => [[]]
  | c::cs =>
    if c = sep then []::splitOn sep cs
    else
      match splitOn sep cs with
      | [] => [[c]]
      | piece::pieces => (c::piece)::pieces

/-- One decimal field: no leading zero, at most 255. -/
def octet (cs : List Char) : Option ℕ :=
  let n := cs.foldl (fun n c => 10*n+(c.toNat - '0'.toNat)) 0
  if cs.isEmpty || !cs.all Char.isDigit || (cs.length > 1 && cs.head? == some '0') || n > 255 then none
  else some n

def parseIPv4 (cs : List Char) : Option (BitVec 32) :=
  match (splitOn '.' cs).mapM octet with
  | some [a,b,c,d] => some (BitVec.ofNat 32 (((a*256+b)*256+c)*256+d))
  | _ => none

def hexValue (c : Char) : Option ℕ :=
  if '0' ≤ c ∧ c ≤ '9' then some (c.toNat - '0'.toNat)
  else if 'a' ≤ c ∧ c ≤ 'f' then some (c.toNat - 'a'.toNat+10)
  else if 'A' ≤ c ∧ c ≤ 'F' then some (c.toNat - 'A'.toNat+10)
  else none

/-- The groups of 16 bits, and the place of `::` among them; at most `fuel` more groups. -/
def readGroups : ℕ → List ℕ → Option ℕ → List Char → Option (List ℕ × Option ℕ)
  | 0,_,_,_ => none
  | fuel+1,groups,ellipsis,cs =>
    let digits := cs.takeWhile fun c => (hexValue c).isSome
    let rest := cs.dropWhile fun c => (hexValue c).isSome
    if digits.isEmpty || digits.length > 4 then none
    else if rest.head? = some '.' then
      if (ellipsis = none ∧ groups.length ≠ 6) ∨ groups.length+2 > 8 then none
      else (parseIPv4 cs).map fun v => (groups++[v.toNat/65536,v.toNat%65536],ellipsis)
    else
      let groups := groups++[digits.foldl (fun n c => 16*n+(hexValue c).getD 0) 0]
      match rest with
      | [] => some (groups,ellipsis)
      | [':'] => none
      | ':' :: ':' :: rest =>
        if ellipsis.isSome then none
        else if rest.isEmpty then some (groups,some groups.length)
        else readGroups fuel groups (some groups.length) rest
      | ':'::rest => readGroups fuel groups ellipsis rest
      | _ => none

/-- Put zeros at the place of `::`, which stands for at least one group. -/
def expand : List ℕ × Option ℕ → Option (List ℕ)
  | (groups,none) => if groups.length = 8 then some groups else none
  | (groups,some i) =>
    if groups.length < 8 then some (groups.take i++List.replicate (8-groups.length) 0++groups.drop i)
    else none

def ofGroups (groups : List ℕ) : IP := BitVec.ofNat 128 (groups.foldl (fun n g => 65536*n+g) 0)

def parseIPv6 (cs : List Char) : Option IP :=
  let groups := match cs with
    | [':',':'] => some ([],some 0)
    | ':' :: ':' :: rest => readGroups 8 [] (some 0) rest
    | _ => readGroups 8 [] none cs
  (groups.bind expand).map ofGroups

def ofIPv4 (v : BitVec 32) : IP := 0xffff00000000#128 ||| v.zeroExtend 128

/-- `net.ParseIP`; addresses with a zone are refused. -/
def parseIP (s : String) : Option IP :=
  let cs := s.toList
  if '%' ∈ cs then none
  else
    match cs.find? fun c => c = '.' ∨ c = ':' with
    | some '.' => (parseIPv4 cs).map ofIPv4
    | some _ => parseIPv6 cs
    | none => none

end Parsing

section Kinds
variable (ip : IP)

def to4 : Option (BitVec 32) := if ip >>> 32 = 0xffff#128 then some (ip.truncate 32) else none

def isLoopback : Bool :=
  match to4 ip with
  | some v => v >>> 24 = 127#32
  | none => ip = 1#128

def isPrivate : Bool :=
  match to4 ip with
  | some v => v >>> 24 = 10#32 || v >>> 20 = 0xac1#32 || v >>> 16 = 0xc0a8#32
  | none => ip >>> 121 = 0x7e#128

def isLinkLocalUnicast : Bool :=
  match to4 ip with
  | some v => v >>> 16 = 0xa9fe#32
  | none => ip >>> 118 = 0x3fa#128

end Kinds

end IpAddress
end AntiScrapling
