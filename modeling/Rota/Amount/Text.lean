import Rota.Amount.Basic
import Rota.Text.Reader

/-!
Reading an amount from a text: a sign, digits with or without a point, an exponent, or one of the
words for what is no number. A value past the largest amount is infinite.
-/

namespace Rota.Amount

open Text

def ofWord? (negative : Bool) (word : String) : Option Amount :=
  match word with
  | "inf" | "infinity" => some (infinity negative)
  | "nan" => some notANumber
  | _ => none

def ofDigits? (negative : Bool) (cs : List Char) : Option Amount := do
  let whole := cs.takeWhile isDigit
  let (decimals, rest) := match cs.dropWhile isDigit with
    | '.' :: rest => (rest.takeWhile isDigit, rest.dropWhile isDigit)
    | rest => ([], rest)
  if whole.isEmpty && decimals.isEmpty then none
  else
    match readExponent rest with
    | some (exponent, []) =>
      let digits := digitsValue (whole ++ decimals)
      return (ofDecimal? negative digits (exponent.getD 0 - decimals.length)).getD
        (infinity negative)
    | _ => none

def ofSigned? (negative : Bool) (cs : List Char) : Option Amount :=
  match ofDigits? negative cs with
  | some amount => some amount
  | none => ofWord? negative (String.ofList (cs.map Char.toLower))

def ofText? (text : String) : Option Amount :=
  match text.toList with
  | '-' :: cs => ofSigned? true cs
  | '+' :: cs => ofSigned? false cs
  | cs => ofSigned? false cs

end Rota.Amount
