import Rota.Calendar.Date
import Rota.Text.Reader

/-!
The written form of a date: year, month and day with hyphens between. Years 0 to 9999 have four
digits and no sign, all others a sign and at least four digits. Reading is more generous: white
space may stand before each number and each hyphen, months and days may have one digit, an unsigned
year one to four, and a signed year any number.
-/

namespace Rota

def yearText (year : Int) : String :=
  if 0 ≤ year ∧ year ≤ 9999 then Text.padded 4 year.toNat
  else if year < 0 then "-" ++ Text.padded 4 (-year).toNat
  else "+" ++ Text.padded 4 year.toNat

namespace Date

def toText (date : Date) : String :=
  yearText date.year ++ "-" ++ Text.padded 2 date.month ++ "-" ++ Text.padded 2 date.day

instance : ToString Date := ⟨toText⟩

open Text in
def readYear : Reader Int := fun cs =>
  match trimStart cs with
  | '-' :: rest => (longNumber rest).map fun (n, rest) => (-(n : Int), rest)
  | '+' :: rest => (longNumber rest).map fun (n, rest) => ((n : Int), rest)
  | rest => (Text.number 4 rest).map fun (n, rest) => ((n : Int), rest)

open Text in
def readPart : Reader Nat := fun cs => do
  let (_, cs) ← literal '-' (trimStart cs)
  Text.number 2 (trimStart cs)

def readParts : Text.Reader (Int × Nat × Nat) := fun cs => do
  let (year, cs) ← readYear cs
  let (month, cs) ← readPart cs
  let (day, cs) ← readPart cs
  return ((year, month, day), cs)

def ofText? (s : String) : Option Date := do
  let ((year, month, day), rest) ← readParts s.toList
  if Text.trimStart rest = [] then ofYmd? year month day else none

end Date
end Rota
