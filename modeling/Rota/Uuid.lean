import Rota.Text.Reader

/-!
Identifiers of 128 bits. They are read from 32 hexadecimal digits in either case, bare or with the
usual hyphens; the hyphenated form may stand in braces or after `urn:uuid:`, in any letter case; or
from sixteen bytes. They are written in lower case with hyphens, and ordered as numbers.
-/

namespace Rota

structure Uuid where
  bits : BitVec 128
  deriving DecidableEq

namespace Uuid

instance : Inhabited Uuid := ⟨⟨0⟩⟩

def ofNat (n : Nat) : Uuid := ⟨BitVec.ofNat 128 n⟩

def toNat (id : Uuid) : Nat := id.bits.toNat

/-- An identifier of version 7: 48 bits of the time in milliseconds since the start of 1970, and 74
bits from elsewhere. -/
def ofTime (milliseconds other : Nat) : Uuid :=
  let bit := Nat.pow 2
  ofNat (milliseconds % bit 48 * bit 80 + 7 * bit 76 + other / bit 62 % bit 12 * bit 64
    + bit 63 + other % bit 62)

def ofHyphenated? (cs : List Char) : Option Uuid :=
  if cs.length = 36 ∧ cs[8]? = some '-' ∧ cs[13]? = some '-' ∧ cs[18]? = some '-' ∧
      cs[23]? = some '-' then
    (Text.hexNumber? (cs.take 8 ++ (cs.drop 9).take 4 ++ (cs.drop 14).take 4 ++
      (cs.drop 19).take 4 ++ cs.drop 24)).map ofNat
  else none

def ofText? (s : String) : Option Uuid :=
  let cs := s.toList
  if cs.length = 32 then (Text.hexNumber? cs).map ofNat
  else if cs.length = 36 then ofHyphenated? cs
  else if cs.length = 38 ∧ cs.head? = some '\x7b' ∧ cs.getLast? = some '\x7d' then
    ofHyphenated? ((cs.drop 1).take 36)
  else if cs.length = 45 ∧ (cs.take 9).map Char.toLower = "urn:uuid:".toList then
    ofHyphenated? (cs.drop 9)
  else none

/-- The first sixteen of some numbers as bytes, most significant first. -/
def ofBytes? (numbers : List (Option Int)) : Option Uuid := do
  let bytes ← (numbers.take 16).mapM fun byte => do
    let n ← byte
    if 0 ≤ n ∧ n < 256 then some n.toNat else none
  if bytes.length = 16 then return ofNat (bytes.foldl (fun n byte => n * 256 + byte) 0) else none

def digits (id : Uuid) : List Char :=
  let written := Nat.toDigits 16 id.toNat
  List.replicate (32 - written.length) '0' ++ written

def toText (id : Uuid) : String :=
  let d := id.digits
  String.ofList (d.take 8 ++ '-' :: (d.drop 8).take 4 ++ '-' :: (d.drop 12).take 4 ++
    '-' :: (d.drop 16).take 4 ++ '-' :: d.drop 20)

instance : ToString Uuid := ⟨toText⟩

def short (id : Uuid) : String := String.ofList (id.digits.take 8)

end Uuid
end Rota
