import Rota.Text.Reader

/-!
The time of day at which a tenant's tasks are made: an hour and a minute of the 24-hour clock. It is
typed as one or two digits, a colon and one or two digits, and kept as two and two. Which days and
seconds it stands for is said by its cron expression: every day, at second 0.
-/

namespace Rota

inductive TimeFault where
  | hourOrMinute (hour minute : Nat)
  | notATime (text : String)
  | cronExpression (text : String)
  deriving DecidableEq, Repr

def TimeFault.text : TimeFault → String
  | hourOrMinute hour minute => toString hour ++ ":" ++ toString minute ++
    " is not a valid time of day"
  | notATime text => "Invalid time '" ++ text ++ "', expected HH:mm"
  | cronExpression text => "Invalid cron expression '" ++ text ++ "'"

structure TriggerTime where
  hour : Nat
  minute : Nat
  hour_lt : hour < 24
  minute_lt : minute < 60
  deriving DecidableEq

namespace TriggerTime

def ofHourMinute (hour minute : Nat) : Except TimeFault TriggerTime :=
  if inside : hour < 24 ∧ minute < 60 then .ok ⟨hour, minute, inside.1, inside.2⟩
  else .error (.hourOrMinute hour minute)

def fieldValue? (cs : List Char) : Option Nat :=
  match Text.number 2 cs with
  | some (value, []) => some value
  | _ => none

/-- White space at the ends is dropped, and the first colon separates hour and minute. -/
def parse (text : String) : Except TimeFault TriggerTime :=
  let cs := Text.trimChars text.toList
  match fieldValue? (cs.takeWhile (· ≠ ':')), cs.dropWhile (· ≠ ':') with
  | some hour, _ :: rest =>
    match fieldValue? rest with
    | some minute => ofHourMinute hour minute
    | none => .error (.notATime text)
  | _, _ => .error (.notATime text)

def toText (time : TriggerTime) : String :=
  Text.padded 2 time.hour ++ ":" ++ Text.padded 2 time.minute

instance : ToString TriggerTime := ⟨toText⟩

def cronText (time : TriggerTime) : String :=
  toString time.minute ++ " " ++ toString time.hour ++ " * * *"

end TriggerTime
end Rota
