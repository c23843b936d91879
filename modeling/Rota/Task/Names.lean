import Rota.Task.Basic
import Rota.Text.Blank
import Rota.Text.Case

/-!
Reading statuses, priorities, units and weekdays from what a person types: any case and a few more
spellings. White space around a word is dropped only from a weekday.
-/

namespace Rota

inductive UnknownName where
  | status (text : String)
  | priority (text : String)
  | unit (text : String)
  | weekday (word : String)
  deriving DecidableEq, Repr

def UnknownName.message : UnknownName → String
  | status text => "Invalid task status: " ++ text
  | priority text => "Invalid task priority: " ++ text
  | unit text => "Invalid custom unit: " ++ text
  | weekday word => "Invalid weekday '" ++ word ++ "', expected sun..sat or 0-6"

def Status.parse (text : String) : Except UnknownName Status :=
  match Text.lower text with
  | "in-progress" => .ok .inProgress
  | word =>
    match ofName? word with
    | some status => .ok status
    | none => .error (.status text)

def Priority.parse (text : String) : Except UnknownName Priority :=
  match ofName? (Text.lower text) with
  | some priority => .ok priority
  | none => .error (.priority text)

def RepeatUnit.parse (text : String) : Except UnknownName RepeatUnit :=
  match Text.lower text with
  | "day" => .ok .days
  | "week" => .ok .weeks
  | "month" => .ok .months
  | "year" => .ok .years
  | word =>
    match ofName? word with
    | some unit => .ok unit
    | none => .error (.unit text)

/-- The words for a weekday: its number from Sunday, its first three letters, and its name. -/
def Weekday.words (day : Weekday) : List String :=
  [toString day.index, Text.lower day.shortName, Text.lower day.name]

def Weekday.parse (text : String) : Except UnknownName Weekday :=
  let word := Text.lower (Text.trim text)
  match Weekday.all.find? fun day => day.words.contains word with
  | some day => .ok day
  | none => .error (.weekday word)

end Rota
