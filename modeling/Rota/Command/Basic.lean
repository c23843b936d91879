import Rota.Task.Basic

/-!
What the program can be told to do.
-/

namespace Rota

structure ScheduleChange where
  time : String
  taskGeneration : Option Bool := none
  emailNotifications : Option Bool := none
  deriving DecidableEq, Repr

/-- A pattern to add. It starts today unless a date is given, and ends on `lastDay` if ever. -/
structure NewPattern where
  name : String
  description : Option String := none
  rule : Rule
  startsOn : Option Date := none
  lastDay : Option Date := none
  deriving DecidableEq

/-- A template to add, and what its pattern is called. The work has no subtasks yet: `subtasks`
holds their titles. -/
structure NewTemplate where
  pattern : String
  work : Work
  subtasks : List String := []
  priority : Option Priority := none
  deriving DecidableEq

inductive Command where
  | generate (date : Option Date) (ofRecurring : Bool)
  | status
  | serve
  | showSchedule
  | setSchedule (change : ScheduleChange)
  | disableSchedule
  | listPatterns
  | presets (seed : Bool)
  | addPattern (draft : NewPattern)
  | togglePattern (reference : String)
  | previewPattern (reference : String) (count : Nat) (start : Option Date)
  | addTemplate (draft : NewTemplate)
  | listTemplates
  deriving DecidableEq

def EndCondition.until? : Option Date → EndCondition
  | none => .never
  | some date => .byDate date

end Rota
