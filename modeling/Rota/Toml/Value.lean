import Rota.Amount.Basic
import Rota.Calendar.Date
import Rota.Toml.Table
import Rota.Toml.Text

/-!
The values of a TOML document. Only strings, whole numbers and lists of these come to settings; the
other kinds are read to tell whether the document is one.
-/

namespace Rota.Toml

open Text

def moreDigits (isOne : Char → Bool) : List Char → List Char × List Char
  | [] => ([], [])
  | c :: rest =>
    if c = '_' then
      match rest with
      | d :: rest =>
        if isOne d then
          let (digits, rest) := moreDigits isOne rest
          (d :: digits, rest)
        else ([], c :: d :: rest)
      | [] => ([], [c])
    else if isOne c then
      let (digits, rest) := moreDigits isOne rest
      (c :: digits, rest)
    else ([], c :: rest)

def readDigits (isOne : Char → Bool) : Reader (List Char)
  | c :: rest =>
    if isOne c then
      let (digits, rest) := moreDigits isOne rest
      some (c :: digits, rest)
    else none
  | [] => none

def digitsInBase (base : Nat) (digits : List Char) : Nat :=
  digits.foldl (fun n c => n * base + (hexValue? c).getD 0) 0

def whole? (n : Int) : Option Setting :=
  if -Nat.pow 2 63 ≤ n ∧ n < Nat.pow 2 63 then some (.number n) else none

def readInBase (base : Nat) : Reader Setting := fun cs => do
  let (digits, rest) ← readDigits (fun c => (hexValue? c).any (· < base)) cs
  return (← whole? (digitsInBase base digits), rest)

/-- The digits of the whole part; only zero itself begins with zero. -/
def readWholePart : Reader (List Char)
  | '0' :: rest => some (['0'], rest)
  | cs => readDigits isDigit cs

def readFractionPart : Reader (Option (List Char))
  | '.' :: rest => (readDigits isDigit rest).map fun (digits, rest) => (some digits, rest)
  | cs => some (none, cs)

def readExponentPart : Reader (Option Int)
  | c :: rest =>
    if c = 'e' ∨ c = 'E' then
      let (negative, rest) := match rest with
        | '-' :: rest => (true, rest)
        | '+' :: rest => (false, rest)
        | rest => (false, rest)
      (readDigits isDigit rest).map fun (digits, rest) =>
        let n : Int := digitsValue digits
        (some (if negative then -n else n), rest)
    else some (none, c :: rest)
  | [] => some (none, [])

def readUnsigned (negative : Bool) : Reader Setting
  | 'i' :: 'n' :: 'f' :: rest => some (.other, rest)
  | 'n' :: 'a' :: 'n' :: rest => some (.other, rest)
  | cs => do
    let (whole, cs) ← readWholePart cs
    let (fraction, cs) ← readFractionPart cs
    let (exponent, cs) ← readExponentPart cs
    if fraction.isNone && exponent.isNone then
      let n : Int := digitsValue whole
      return (← whole? (if negative then -n else n), cs)
    else
      let decimals := fraction.getD []
      let _ ← Amount.ofDecimal? negative (digitsValue (whole ++ decimals))
        (exponent.getD 0 - decimals.length)
      return (.other, cs)

def readNumber : Reader Setting
  | '0' :: 'x' :: rest => readInBase 16 rest
  | '0' :: 'o' :: rest => readInBase 8 rest
  | '0' :: 'b' :: rest => readInBase 2 rest
  | '+' :: rest => readUnsigned false rest
  | '-' :: rest => readUnsigned true rest
  | cs => readUnsigned false cs

def fixedDigits (count : Nat) : Reader Nat := fun cs =>
  let digits := cs.take count
  if digits.length = count ∧ digits.all isDigit then some (digitsValue digits, cs.drop count)
  else none

def readDay : Reader Unit := fun cs => do
  let (year, cs) ← fixedDigits 4 cs
  let (_, cs) ← literal '-' cs
  let (month, cs) ← fixedDigits 2 cs
  let (_, cs) ← literal '-' cs
  let (day, cs) ← fixedDigits 2 cs
  let _ ← Date.ofYmd? year month day
  return ((), cs)

def readHourMinute : Reader Unit := fun cs => do
  let (hour, cs) ← fixedDigits 2 cs
  let (_, cs) ← literal ':' cs
  let (minute, cs) ← fixedDigits 2 cs
  if hour ≤ 23 ∧ minute ≤ 59 then some ((), cs) else none

def readTime : Reader Unit := fun cs => do
  let (_, cs) ← readHourMinute cs
  let (_, cs) ← literal ':' cs
  let (second, cs) ← fixedDigits 2 cs
  if 60 < second then none
  else
    match cs with
    | '.' :: rest =>
      match rest.takeWhile isDigit with
      | [] => some ((), cs)
      | _ => some ((), rest.dropWhile isDigit)
    | _ => some ((), cs)

def skipOffset (cs : List Char) : List Char :=
  match cs with
  | 'Z' :: rest | 'z' :: rest => rest
  | '+' :: rest | '-' :: rest =>
    match readHourMinute rest with
    | some (_, rest) => rest
    | none => cs
  | _ => cs

def readMoment : Reader Setting := fun cs =>
  match readDay cs with
  | none => (readTime cs).map fun (_, rest) => (.other, rest)
  | some (_, rest) =>
    match rest with
    | c :: inner =>
      match if c = 'T' ∨ c = 't' ∨ c = ' ' then readTime inner else none with
      | some (_, rest) => some (.other, skipOffset rest)
      | none => some (.other, rest)
    | [] => some (.other, [])

def readPlain : Reader Setting
  | 't' :: 'r' :: 'u' :: 'e' :: rest => some (.other, rest)
  | 'f' :: 'a' :: 'l' :: 's' :: 'e' :: rest => some (.other, rest)
  | cs =>
    match readMoment cs with
    | some found => some found
    | none => readNumber cs

mutual

/-- A value that holds at most `depth` levels of lists and tables; the first number bounds the
steps. -/
def readValue : Nat → Nat → Reader Setting
  | 0, _, _ => none
  | fuel + 1, depth, cs =>
    match cs with
    | '[' :: rest =>
      if depth = 0 then none
      else (readItems fuel (depth - 1) rest).map fun (items, rest) => (.list items, rest)
    | '\x7b' :: rest =>
      if depth = 0 then none
      else
        match skipSpace rest with
        | '\x7d' :: rest => some (.other, rest)
        | rest => (readInline fuel (depth - 1) [] rest).map fun (_, rest) => (.other, rest)
    | '"' :: _ | '\'' :: _ => (readString cs).map fun (text, rest) => (.text text, rest)
    | _ => readPlain cs

def readItems : Nat → Nat → Reader (List (Option Int))
  | 0, _, _ => none
  | fuel + 1, depth, cs =>
    match skipFiller (cs.length + 1) cs with
    | ']' :: rest => some ([], rest)
    | cs => do
      let (item, cs) ← readValue fuel depth cs
      match skipFiller (cs.length + 1) cs with
      | ',' :: rest =>
        let (items, rest) ← readItems fuel depth rest
        return (item.number? :: items, rest)
      | ']' :: rest => return ([item.number?], rest)
      | _ => none

def readInline : Nat → Nat → Members → Reader Members
  | 0, _, _, _ => none
  | fuel + 1, depth, members, cs => do
    let (key, cs) ← readKey (skipSpace cs)
    let (_, cs) ← literal '=' (skipSpace cs)
    let (setting, cs) ← readValue fuel depth (skipSpace cs)
    let members ← members.insert setting key
    match skipSpace cs with
    | ',' :: rest => readInline fuel depth members rest
    | '\x7d' :: rest => return (members, rest)
    | _ => none

end

end Rota.Toml
