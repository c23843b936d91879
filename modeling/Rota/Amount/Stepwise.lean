import Rota.Amount.Basic

/-!
Decimals worked out in amounts. The digits become an amount, and so does the power of ten; then one
is multiplied or divided by the other. Every step rounds, so what comes out need not be the amount
nearest to the decimal. A power too small for one amount is divided out in several steps.
-/

namespace Rota.Amount

def magnitude (x : Amount) : Nat × Nat := scaled x.significand 1 x.scale

def times? (x y : Amount) : Option Amount :=
  let (n, d) := x.magnitude
  let (k, e) := y.magnitude
  ofRatio? (x.isNegative != y.isNegative) (n * k) (d * e)

def over? (x y : Amount) : Option Amount :=
  let (n, d) := x.magnitude
  let (k, e) := y.magnitude
  if k = 0 then none else ofRatio? (x.isNegative != y.isNegative) (n * e) (d * k)

def largestPower : Nat := 308

def tenTo? (n : Nat) : Option Amount := ofDecimal? false 1 n

def overTenTo? (x : Amount) (n : Nat) : Option Amount := do
  if n ≤ largestPower then x.over? (← tenTo? n)
  else if x.significand = 0 then return x
  else overTenTo? (← x.over? (← tenTo? largestPower)) (n - largestPower)
termination_by n
decreasing_by simp_all [largestPower]; omega

def ofSteps? (negative : Bool) (digits : Nat) (exponent : Int) : Option Amount := do
  let x ← ofDecimal? negative digits 0
  if exponent < 0 then x.overTenTo? exponent.natAbs
  else if exponent.natAbs ≤ largestPower then x.times? (← tenTo? exponent.natAbs)
  else if digits = 0 then return x
  else none

end Rota.Amount
