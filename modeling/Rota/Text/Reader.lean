import Rota.Text.Blank

/-!
Reading from the front of a character list. A reader takes what it needs and returns the rest, or
refuses. Numbers are read from ASCII digits only.
-/

namespace Rota.Text

abbrev Reader (α : Type) := List Char → Option (α × List Char)

def digitValue? (c : Char) : Option Nat :=
  if '0' ≤ c ∧ c ≤ '9' then some (c.toNat - '0'.toNat) else none

def isDigit (c : Char) : Bool := (digitValue? c).isSome

/-- Takes at most `limit` digits: how many there were, the number they write, and the rest. -/
def takeDigits (limit count value : Nat) : List Char → Nat × Nat × List Char
  | [] => (count, value, [])
  | c :: rest =>
    match limit, digitValue? c with
    | limit + 1, some d => takeDigits limit (count + 1) (value * 10 + d) rest
    | _, _ => (count, value, c :: rest)

def number (limit : Nat) : Reader Nat := fun cs =>
  match takeDigits limit 0 0 cs with
  | (0, _, _) => none
  | (_, value, rest) => some (value, rest)

def longNumber : Reader Nat := fun cs => number cs.length cs

def literal (c : Char) : Reader Unit
  | [] => none
  | d :: rest => if d = c then some ((), rest) else none

def digitsValue (digits : List Char) : Nat :=
  digits.foldl (fun n c => n * 10 + (digitValue? c).getD 0) 0

def readExponent : Reader (Option Int) := fun cs =>
  match cs with
  | c :: rest =>
    if c = 'e' ∨ c = 'E' then
      let (negative, rest) := match rest with
        | '-' :: rest => (true, rest)
        | '+' :: rest => (false, rest)
        | rest => (false, rest)
      match rest.takeWhile isDigit with
      | [] => none
      | digits =>
        let n : Int := digitsValue digits
        some (some (if negative then -n else n), rest.dropWhile isDigit)
    else some (none, cs)
  | [] => some (none, [])

def hexValue? (c : Char) : Option Nat :=
  if '0' ≤ c ∧ c ≤ '9' then some (c.toNat - '0'.toNat)
  else if 'a' ≤ c ∧ c ≤ 'f' then some (c.toNat - 'a'.toNat + 10)
  else if 'A' ≤ c ∧ c ≤ 'F' then some (c.toNat - 'A'.toNat + 10)
  else none

def hexNumber? (cs : List Char) : Option Nat :=
  cs.foldlM (fun value c => (hexValue? c).map (value * 16 + ·)) 0

def padded (width n : Nat) : String :=
  let digits := (Nat.toDigits 10 n)
  String.ofList (List.replicate (width - digits.length) '0' ++ digits)

end Rota.Text
