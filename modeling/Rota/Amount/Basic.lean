/-!
Prices and hours: binary floating-point numbers of 64 bits, kept as their bit pattern, so that two
amounts are equal when they are the same number written the same way. A decimal is read as the
nearest amount; of two equally near the one with the even significand.
-/

namespace Rota

structure Amount where
  bits : UInt64
  deriving DecidableEq, Repr

namespace Amount

def isNegative (x : Amount) : Bool := Nat.pow 2 63 ≤ x.bits.toNat

def exponentField (x : Amount) : Nat := x.bits.toNat / Nat.pow 2 52 % Nat.pow 2 11

def fractionField (x : Amount) : Nat := x.bits.toNat % Nat.pow 2 52

def isFinite (x : Amount) : Bool := x.exponentField ≠ 2047

def isNaN (x : Amount) : Bool := x.exponentField == 2047 && x.fractionField != 0

/-- A finite amount is its significand times 2 to its scale, up to sign. -/
def significand (x : Amount) : Nat :=
  if x.exponentField = 0 then x.fractionField else x.fractionField + Nat.pow 2 52

def scale (x : Amount) : Int :=
  if x.exponentField = 0 then -1074 else (x.exponentField : Int) - 1075

/-- The quotient rounded to the nearest integer, a half to the even one. -/
def roundDiv (num den : Nat) : Nat :=
  let quotient := num / den
  let twice := 2 * (num % den)
  if twice < den then quotient
  else if den < twice then quotient + 1
  else quotient + quotient % 2

def scaled (num den : Nat) (shift : Int) : Nat × Nat :=
  if 0 ≤ shift then (num * Nat.pow 2 shift.toNat, den) else (num, den * Nat.pow 2 (-shift).toNat)

def pack (negative : Bool) (field fraction : Nat) : Amount :=
  ⟨UInt64.ofNat ((if negative then Nat.pow 2 63 else 0) + field * Nat.pow 2 52 + fraction)⟩

/-- The scale of the amounts around `num / den`: their significands have 53 bits, or fewer at the
smallest scale. -/
def scaleFor (num den : Nat) : Int :=
  let guess : Int := (Nat.log2 num : Int) - (Nat.log2 den : Int) - 52
  let (n, d) := scaled num den (-guess)
  let exact := if n / d < Nat.pow 2 52 then guess - 1 else guess
  max (-1074) exact

/-- The amount nearest to `num / den`, or none when that is past the largest. -/
def ofRatio? (negative : Bool) (num den : Nat) : Option Amount :=
  if num = 0 then some (pack negative 0 0)
  else
    let scale := scaleFor num den
    let (n, d) := scaled num den (-scale)
    let rounded := roundDiv n d
    let (rounded, scale) :=
      if rounded = Nat.pow 2 53 then (Nat.pow 2 52, scale + 1) else (rounded, scale)
    if rounded < Nat.pow 2 52 then some (pack negative 0 rounded)
    else if 971 < scale then none
    else some (pack negative (scale + 1075).toNat (rounded - Nat.pow 2 52))

def ofDecimal? (negative : Bool) (digits : Nat) (exponent : Int) : Option Amount :=
  if digits = 0 ∨ exponent + (Nat.log2 digits : Int) < -1500 then some (pack negative 0 0)
  else if 400 < exponent then none
  else if 0 ≤ exponent then ofRatio? negative (digits * Nat.pow 10 exponent.toNat) 1
  else ofRatio? negative digits (Nat.pow 10 (-exponent).toNat)

def infinity (negative : Bool) : Amount := pack negative 2047 0

def notANumber : Amount := pack false 2047 (Nat.pow 2 51)

end Amount
end Rota
