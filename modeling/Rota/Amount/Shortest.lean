import Rota.Amount.Basic

/-!
The written form of an amount: the fewest decimal digits that read back as the same amount, and of
those the nearest to it.
-/

namespace Rota.Amount

/-- The numbers that round to an amount are those between `low` and `high` times `unit`, with the
ends when `closed`. The amount itself is `mid` times `unit`. -/
structure Interval where
  low : Nat
  mid : Nat
  high : Nat
  closed : Bool
  unit : Int

/-- Below a power of two the neighbours are twice as near. -/
def interval (x : Amount) : Interval :=
  let m := x.significand
  if x.fractionField = 0 ∧ 1 < x.exponentField then
    ⟨4 * m - 1, 4 * m, 4 * m + 2, m % 2 = 0, x.scale - 2⟩
  else ⟨4 * m - 2, 4 * m, 4 * m + 2, m % 2 = 0, x.scale - 2⟩

def compared (n : Nat) (unit : Int) (k : Nat) (place : Int) : Nat × Nat :=
  (n * Nat.pow 2 unit.toNat * Nat.pow 10 (-place).toNat,
    k * Nat.pow 10 place.toNat * Nat.pow 2 (-unit).toNat)

def Interval.contains (i : Interval) (k : Nat) (place : Int) : Bool :=
  let (low, here) := compared i.low i.unit k place
  let (high, there) := compared i.high i.unit k place
  if i.closed then low ≤ here && there ≤ high else low < here && there < high

def Interval.below (i : Interval) (place : Int) : Nat :=
  let (whole, one) := compared i.mid i.unit 1 place
  whole / one

/-- Of the two multiples around the amount, the one inside the interval; if both are, the nearer. -/
def Interval.pick? (i : Interval) (place : Int) : Option Nat :=
  let k := i.below place
  match i.contains k place, i.contains (k + 1) place with
  | true, false => some k
  | false, true => some (k + 1)
  | false, false => none
  | true, true =>
    let (whole, one) := compared i.mid i.unit 1 place
    let twice := 2 * (whole % one)
    if twice < one then some k else if one < twice then some (k + 1)
    else some (if k % 2 = 0 then k else k + 1)

def search (i : Interval) : Nat → Int → Option (Nat × Int)
  | 0, _ => none
  | fuel + 1, place =>
    match i.pick? place with
    | some 0 => search i fuel (place - 1)
    | some k => some (k, place)
    | none => search i fuel (place - 1)

def topPlace (i : Interval) : Int :=
  let log : Int := (Nat.log2 i.mid : Int) + i.unit
  log * 30103 / 100000 + 2

def shortest (x : Amount) : Nat × Int :=
  let i := x.interval
  (search i 30 (topPlace i)).getD (0, 0)

/-- Digits are written around a point while its place is above -5 and at most 16, and with an
exponent beyond. A whole number keeps one zero after the point. -/
def decimalText (digits : Nat) (exponent : Int) : String :=
  let text := Nat.toDigits 10 digits
  let place : Int := text.length + exponent
  if 0 ≤ exponent ∧ place ≤ 16 then
    String.ofList (text ++ List.replicate exponent.toNat '0') ++ ".0"
  else if 0 < place ∧ place ≤ 16 then
    String.ofList (text.take place.toNat ++ '.' :: text.drop place.toNat)
  else if -5 < place ∧ place ≤ 0 then
    "0." ++ String.ofList (List.replicate (-place).toNat '0' ++ text)
  else
    let fraction := if text.length = 1 then [] else '.' :: text.drop 1
    String.ofList (text.take 1 ++ fraction) ++ "e" ++ toString (place - 1)

def toText? (x : Amount) : Option String :=
  if !x.isFinite then none
  else
    let sign := if x.isNegative then "-" else ""
    if x.significand = 0 then some (sign ++ "0.0")
    else
      let (digits, exponent) := x.shortest
      some (sign ++ decimalText digits exponent)

end Rota.Amount
