/-!
The values that settings are given.
-/

namespace Rota

inductive Setting where
  | text (text : String)
  | number (n : Int)
  /-- A list, with none for every item that is no whole number. -/
  | list (numbers : List (Option Int))
  /-- A value that no setting has: a fraction, a truth value, a date or a table. -/
  | other
  deriving DecidableEq, Repr

def Setting.number? : Setting → Option Int
  | number n => some n
  | _ => none

end Rota
