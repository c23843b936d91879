import Rota.Pattern.Series
import Rota.Calendar.Instant
import Rota.Amount.Basic
import Rota.Uuid

/-!
What a tenant keeps: patterns, which are named series of occurrences; templates, which say what
task an occurrence brings; tasks; and the automation settings. A task that was made for an
occurrence names its template or its parent task and is never recurring itself.
-/

namespace Rota

inductive Status where
  | todo | inProgress | review | completed | cancelled
  deriving DecidableEq, Repr

inductive Priority where
  | low | medium | high | urgent
  deriving DecidableEq, Repr

def Status.name : Status → String
  | todo => "todo"
  | inProgress => "in_progress"
  | review => "review"
  | completed => "completed"
  | cancelled => "cancelled"

def Priority.name : Priority → String
  | low => "low"
  | medium => "medium"
  | high => "high"
  | urgent => "urgent"

def Status.ofName? : String → Option Status
  | "todo" => some .todo
  | "in_progress" => some .inProgress
  | "review" => some .review
  | "completed" => some .completed
  | "cancelled" => some .cancelled
  | _ => none

def Priority.ofName? : String → Option Priority
  | "low" => some .low
  | "medium" => some .medium
  | "high" => some .high
  | "urgent" => some .urgent
  | _ => none

def RepeatUnit.ofName? : String → Option RepeatUnit
  | "days" => some .days
  | "weeks" => some .weeks
  | "months" => some .months
  | "years" => some .years
  | _ => none

def Priority.default : Priority := medium

structure Subtask where
  id : Uuid
  title : String
  completed : Bool := false
  completedAt : Option Instant := none
  deriving DecidableEq

structure Pricing where
  billable : Bool := false
  estimatedHours : Option Amount := none
  hourlyRate : Option Amount := none
  fixedPrice : Option Amount := none
  price : Option Amount := none
  isPayable : Bool := false
  payableType : Option String := none
  deriving DecidableEq

structure Pattern where
  id : Uuid
  tenant : Uuid
  name : String
  description : Option String
  series : Series
  isActive : Bool
  createdBy : Option Uuid
  createdAt : Instant
  updatedAt : Instant
  deriving DecidableEq

structure Work where
  title : String
  description : Option String := none
  category : Option String := none
  subCategory : Option String := none
  priority : Priority := .default
  client : Option Uuid := none
  assignedTo : List Uuid := []
  subtasks : List Subtask := []
  tags : List String := []
  pricing : Pricing := {}
  createdBy : Option Uuid := none
  deriving DecidableEq

structure Template where
  id : Uuid
  tenant : Uuid
  pattern : Option Uuid
  work : Work
  lastGenerated : Option Instant
  createdAt : Instant
  updatedAt : Instant
  deriving DecidableEq

structure Task where
  id : Uuid
  tenant : Uuid
  template : Option Uuid
  /-- The recurring task that the task is an instance of. -/
  parent : Option Uuid
  work : Work
  status : Status
  dueDate : Option Date
  isRecurring : Bool
  interval : Option Int64
  monthlyDate : Option Int64
  createdAt : Instant
  updatedAt : Instant
  deriving DecidableEq

structure Settings where
  enabled : Bool := false
  runTime : String := "09:00"
  emailNotifications : Bool := true
  taskGeneration : Bool := true
  deriving DecidableEq, Repr

def autoGeneratedTag : String := "auto-generated"

def recurringTag : String := "recurring"

def Task.hasTag (task : Task) (tag : String) : Bool := task.work.tags.contains tag

end Rota
