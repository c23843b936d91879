import Rota.Json.Basic
import Rota.Amount.Shortest
import Rota.Amount.Stepwise
import Rota.Text.Reader

/-!
Structured data as JSON text. The reader is strict: no comments, no trailing commas, no control
characters inside strings, no half of a surrogate pair, at most 127 levels of nesting. A number
without point or exponent that fits 64 bits is whole, every other one an amount: of its digits those
count that fit 64 bits. Of members with one name the last counts.
-/

namespace Rota.Json

open Text

def isSpace (c : Char) : Bool := c == ' ' || c == '\n' || c == '\t' || c == '\r'

def skipSpace (cs : List Char) : List Char := cs.dropWhile isSpace

def readHex4 : Reader Nat
  | a :: b :: c :: d :: rest => do
    return ((← hexNumber? [a, b, c, d]), rest)
  | _ => none

def readEscape : Reader Char
  | '"' :: rest => some ('"', rest)
  | '\\' :: rest => some ('\\', rest)
  | '/' :: rest => some ('/', rest)
  | 'b' :: rest => some ('\x08', rest)
  | 'f' :: rest => some ('\x0c', rest)
  | 'n' :: rest => some ('\n', rest)
  | 'r' :: rest => some ('\r', rest)
  | 't' :: rest => some ('\t', rest)
  | 'u' :: rest => do
    let (high, rest) ← readHex4 rest
    if 0xD800 ≤ high ∧ high < 0xDC00 then
      match rest with
      | '\\' :: 'u' :: rest => do
        let (low, rest) ← readHex4 rest
        if 0xDC00 ≤ low ∧ low < 0xE000 then
          return (Char.ofNat (0x10000 + (high - 0xD800) * 0x400 + (low - 0xDC00)), rest)
        else none
      | _ => none
    else if 0xDC00 ≤ high ∧ high < 0xE000 then none
    else return (Char.ofNat high, rest)
  | _ => none

def readStringFrom : Nat → List Char → Reader (List Char)
  | 0, _, _ => none
  | _ + 1, _, [] => none
  | _ + 1, taken, '"' :: rest => some (taken.reverse, rest)
  | fuel + 1, taken, '\\' :: rest => do
    let (c, rest) ← readEscape rest
    readStringFrom fuel (c :: taken) rest
  | fuel + 1, taken, c :: rest =>
    if c.toNat < 0x20 then none else readStringFrom fuel (c :: taken) rest

def readString : Reader String := fun cs => do
  let (taken, rest) ← readStringFrom (cs.length + 1) [] cs
  return (String.ofList taken, rest)

def readWhole : Reader (List Char) := fun cs =>
  match cs with
  | '0' :: rest => some (['0'], rest)
  | _ =>
    match cs.takeWhile isDigit with
    | [] => none
    | digits => some (digits, cs.dropWhile isDigit)

def readDecimals : Reader (Option (List Char))
  | '.' :: rest =>
    match rest.takeWhile isDigit with
    | [] => none
    | digits => some (some digits, rest.dropWhile isDigit)
  | cs => some (none, cs)

/-- Puts digits after a number as long as it stays within 64 bits. Gives the number and how many
digits are left. -/
def append (n : Nat) : List Char → Nat × Nat
  | [] => (n, 0)
  | c :: rest =>
    let longer := n * 10 + (digitValue? c).getD 0
    if longer < Nat.pow 2 64 then append longer rest else (n, rest.length + 1)

/-- The amount that a number with a point or an exponent has, or one that is too long to be whole.
Digits of the whole part that are left out still count for the power of ten. -/
def amountOf? (negative : Bool) (whole decimals : List Char) (exponent : Int) : Option Amount :=
  let (digits, above) := append 0 whole
  let (digits, below) := append digits decimals
  Amount.ofSteps? negative digits (exponent + above - (decimals.length - below))

def readNumber (negative : Bool) : Reader Json := fun cs => do
  let (whole, cs) ← readWhole cs
  let (decimals, cs) ← readDecimals cs
  let (exponent, cs) ← readExponent cs
  let value := digitsValue whole
  let fits := if negative then 0 < value && value ≤ Nat.pow 2 63 else value < Nat.pow 2 64
  if decimals.isNone && exponent.isNone && fits then
    return (.int (if negative then -(value : Int) else value), cs)
  else return (.amount (← amountOf? negative whole (decimals.getD []) (exponent.getD 0)), cs)

def keyword (word : List Char) (value : Json) : Reader Json := fun cs =>
  if cs.take word.length = word then some (value, cs.drop word.length) else none

def setMember (members : List (String × Json)) (name : String) (value : Json) :
    List (String × Json) :=
  members.filter (fun entry => entry.1 != name) ++ [(name, value)]

mutual

/-- A value at most `depth` levels deep; `fuel` bounds the number of values and separators. -/
def readValue : Nat → Nat → Reader Json
  | 0, _, _ => none
  | fuel + 1, depth, cs =>
    match skipSpace cs with
    | '"' :: rest => do
      let (s, rest) ← readString rest
      return (.text s, rest)
    | '[' :: rest =>
      if depth = 0 then none
      else match skipSpace rest with
        | ']' :: rest => some (.list [], rest)
        | rest => readItems fuel (depth - 1) [] rest
    | '\x7b' :: rest =>
      if depth = 0 then none
      else match skipSpace rest with
        | '\x7d' :: rest => some (.object [], rest)
        | rest => readMembers fuel (depth - 1) [] rest
    | 'n' :: rest => keyword ['u', 'l', 'l'] .null rest
    | 't' :: rest => keyword ['r', 'u', 'e'] (.bool true) rest
    | 'f' :: rest => keyword ['a', 'l', 's', 'e'] (.bool false) rest
    | '-' :: rest => readNumber true rest
    | rest => readNumber false rest

def readItems : Nat → Nat → List Json → Reader Json
  | 0, _, _, _ => none
  | fuel + 1, depth, items, cs => do
    let (item, cs) ← readValue fuel depth cs
    match skipSpace cs with
    | ',' :: rest => readItems fuel depth (item :: items) rest
    | ']' :: rest => some (.list (item :: items).reverse, rest)
    | _ => none

def readMembers : Nat → Nat → List (String × Json) → Reader Json
  | 0, _, _, _ => none
  | fuel + 1, depth, members, cs =>
    match skipSpace cs with
    | '"' :: rest => do
      let (name, rest) ← readString rest
      match skipSpace rest with
      | ':' :: rest => do
        let (value, rest) ← readValue fuel depth rest
        let members := setMember members name value
        match skipSpace rest with
        | ',' :: rest => readMembers fuel depth members rest
        | '\x7d' :: rest => some (.object members, rest)
        | _ => none
      | _ => none
    | _ => none

end

def ofText? (s : String) : Option Json := do
  let cs := s.toList
  let (value, rest) ← readValue (2 * cs.length + 2) 127 cs
  if (skipSpace rest).isEmpty then some value else none

def hexDigit (n : Nat) : Char := if n < 10 then Char.ofNat (48 + n) else Char.ofNat (87 + n)

def escapeChar (c : Char) : List Char :=
  if c = '"' then ['\\', '"']
  else if c = '\\' then ['\\', '\\']
  else if c = '\n' then ['\\', 'n']
  else if c = '\r' then ['\\', 'r']
  else if c = '\t' then ['\\', 't']
  else if c.toNat < 0x20 then
    ['\\', 'u', '0', '0', hexDigit (c.toNat / 16), hexDigit (c.toNat % 16)]
  else [c]

def quoted (s : String) : List Char := '"' :: s.toList.flatMap escapeChar ++ ['"']

mutual

/-- The text of a value before what is to follow it. An infinite amount has no JSON form and is
written as null. -/
def writeBefore (rest : List Char) : Json → List Char
  | null => "null".toList ++ rest
  | bool value => (if value then "true" else "false").toList ++ rest
  | int value => (toString value).toList ++ rest
  | amount value => (value.toText?.getD "null").toList ++ rest
  | text value => quoted value ++ rest
  | list items => '[' :: writeItems (']' :: rest) true items
  | object members => '\x7b' :: writeMembers ('\x7d' :: rest) true members

def writeItems (rest : List Char) (isFirst : Bool) : List Json → List Char
  | [] => rest
  | item :: items =>
    let tail := writeBefore (writeItems rest false items) item
    if isFirst then tail else ',' :: tail

def writeMembers (rest : List Char) (isFirst : Bool) : List (String × Json) → List Char
  | [] => rest
  | (name, value) :: members =>
    let tail := quoted name ++ ':' :: writeBefore (writeMembers rest false members) value
    if isFirst then tail else ',' :: tail

end

def toText (json : Json) : String := String.ofList (writeBefore [] json)

end Rota.Json
