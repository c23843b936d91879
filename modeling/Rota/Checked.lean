/-!
Arithmetic on machine words. Years are 32-bit words, month numbers unsigned 32-bit words, and a span
of days is kept in milliseconds in a 64-bit word. A result that does not fit is not an answer: it is
a `Fault`, and whatever was being computed stops there. Nothing in this library recovers from one.
-/

namespace Rota

inductive Fault where
  /-- A sum or product left the range of its word. -/
  | word
  /-- A span of days does not fit its millisecond count. -/
  | span
  | calendar
  /-- A local day on which the clock shows neither its first nor its last second. -/
  | skippedDay
  | layout
  | cut
  deriving DecidableEq, Repr

abbrev Checked (α : Type) := Except Fault α

def checkedWord (n : Int) : Checked Int :=
  if -9223372036854775808 ≤ n ∧ n ≤ 9223372036854775807 then .ok n else .error .word

/-- The largest number of days whose milliseconds fit a signed 64-bit word. -/
def longestSpan : Int := 106751991167

def checkedDays (n : Int) : Checked Int :=
  if -longestSpan ≤ n ∧ n ≤ longestSpan then .ok n else .error .span

end Rota
