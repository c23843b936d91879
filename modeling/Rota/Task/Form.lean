import Rota.Json.Basic
import Rota.Task.Basic

/-!
The structured form of what a tenant keeps. Writing gives every member, save that unset day members
and empty sets of a rule and an unset completion time are left out. Reading passes over unknown
members. An optional member may be left out or null; one with a default may be left out only.
-/

namespace Rota

open Json

namespace DaySelection

def members (day : DaySelection) : List (String × Json) :=
  memberOf "day_of_month" ofUInt32 day.dayOfMonth ++
    memberOf "week_of_month" ofUInt8 day.weekOfMonth ++
    memberOf "day_of_week" ofUInt8 day.dayOfWeek ++ [("end_of_month", .bool day.endOfMonth)]

def ofFields? (field : String → Option Json) : Option DaySelection := do
  return {
    dayOfMonth := ← optional (field "day_of_month") uint32?
    weekOfMonth := ← optional (field "week_of_month") uint8?
    dayOfWeek := ← optional (field "day_of_week") uint8?
    endOfMonth := ← defaulted (field "end_of_month") false bool? }

end DaySelection

namespace Rule

def toJson : Rule → Json
  | monthly frequency day =>
    .object ([("type", .text "monthly"), ("frequency", ofUInt32 frequency)] ++ day.members)
  | yearly frequency months day =>
    .object ([("type", .text "yearly"), ("frequency", ofUInt32 frequency),
      ("months", .list (months.map ofUInt32))] ++ day.members)
  | quarterly frequency monthOfQuarter day =>
    .object ([("type", .text "quarterly"), ("frequency", ofUInt32 frequency)] ++
      memberOf "month_of_quarter" ofUInt32 monthOfQuarter ++ day.members)
  | custom frequency unit daysOfWeek daysOfMonth monthsOfYear =>
    .object ([("type", .text "custom"), ("frequency", ofUInt32 frequency),
      ("unit", .text unit.name)] ++ memberOfList "days_of_week" ofUInt8 daysOfWeek ++
      memberOfList "days_of_month" ofUInt32 daysOfMonth ++
      memberOfList "months_of_year" ofUInt32 monthsOfYear)

def customOfFields? (field : String → Option Json) : Option Rule := do
  let frequency ← defaulted (field "frequency") 1 uint32?
  let unit ← required (field "unit") fun json => json.innerName?.bind RepeatUnit.ofName?
  let daysOfWeek ← defaulted (field "days_of_week") [] (list? uint8?)
  let daysOfMonth ← defaulted (field "days_of_month") [] (list? uint32?)
  let monthsOfYear ← defaulted (field "months_of_year") [] (list? uint32?)
  return .custom frequency unit daysOfWeek daysOfMonth monthsOfYear

def customNames : List String :=
  ["frequency", "unit", "days_of_week", "days_of_month", "months_of_year"]

/-- The kind is the member `type` of an object; a custom rule may also be a list of the kind and
the values in order. -/
def ofJson? : Json → Option Rule
  | .object members => do
    let field := lookup members
    match ← required (field "type") text? with
    | "monthly" =>
      return .monthly (← defaulted (field "frequency") 1 uint32?) (← DaySelection.ofFields? field)
    | "yearly" =>
      return .yearly (← defaulted (field "frequency") 1 uint32?)
        (← defaulted (field "months") [] (list? uint32?)) (← DaySelection.ofFields? field)
    | "quarterly" =>
      return .quarterly (← defaulted (field "frequency") 1 uint32?)
        (← optional (field "month_of_quarter") uint32?) (← DaySelection.ofFields? field)
    | "custom" => customOfFields? field
    | _ => none
  | .list (.text "custom" :: items) => do customOfFields? (← fields? customNames 2 (.list items))
  | _ => none

end Rule

namespace EndCondition

def toJson : EndCondition → Json
  | never => .object [("type", .text "never")]
  | afterOccurrences n =>
    .object [("type", .text "after_occurrences"), ("occurrences", ofUInt32 n)]
  | byDate endDate => .object [("type", .text "by_date"), ("end_date", ofDate endDate)]

def ofJson? : Json → Option EndCondition
  | .object members => do
    let field := lookup members
    match ← required (field "type") text? with
    | "never" => return .never
    | "after_occurrences" => return .afterOccurrences (← required (field "occurrences") uint32?)
    | "by_date" => return .byDate (← required (field "end_date") date?)
    | _ => none
  | .list [.text "never"] => some .never
  | .list [.text "after_occurrences", n] => n.uint32?.map .afterOccurrences
  | .list [.text "by_date", date] => date.date?.map .byDate
  | _ => none

end EndCondition

namespace Subtask

def toJson (subtask : Subtask) : Json :=
  .object ([("id", ofUuid subtask.id), ("title", .text subtask.title),
    ("completed", .bool subtask.completed)] ++
    memberOf "completed_at" ofInstant subtask.completedAt)

def ofJson? (json : Json) : Option Subtask := do
  let field ← json.fields? ["id", "title", "completed", "completed_at"] 2
  return {
    id := ← required (field "id") uuid?
    title := ← required (field "title") text?
    completed := ← defaulted (field "completed") false bool?
    completedAt := ← optional (field "completed_at") instant? }

end Subtask

namespace Pricing

def members (pricing : Pricing) : List (String × Json) :=
  [("billable", .bool pricing.billable),
    ("estimated_hours", ofOption .amount pricing.estimatedHours),
    ("hourly_rate", ofOption .amount pricing.hourlyRate),
    ("fixed_price", ofOption .amount pricing.fixedPrice), ("price", ofOption .amount pricing.price),
    ("is_payable", .bool pricing.isPayable), ("payable_type", ofOption .text pricing.payableType)]

def toJson (pricing : Pricing) : Json := .object pricing.members

def ofFields? (field : String → Option Json) : Option Pricing := do
  return {
    billable := ← required (field "billable") bool?
    estimatedHours := ← optional (field "estimated_hours") amount?
    hourlyRate := ← optional (field "hourly_rate") amount?
    fixedPrice := ← optional (field "fixed_price") amount?
    price := ← optional (field "price") amount?
    isPayable := ← required (field "is_payable") bool?
    payableType := ← optional (field "payable_type") text? }

def ofJson? (json : Json) : Option Pricing := do
  ofFields? (← json.fields? ["billable", "estimated_hours", "hourly_rate", "fixed_price", "price",
    "is_payable", "payable_type"] 7)

end Pricing

namespace Settings

def toJson (settings : Settings) : Json :=
  .object [("enabled", .bool settings.enabled), ("autoRunTime", .text settings.runTime),
    ("emailNotifications", .bool settings.emailNotifications),
    ("taskGeneration", .bool settings.taskGeneration)]

def ofJson? (json : Json) : Option Settings := do
  let field ← json.fields? ["enabled", "autoRunTime", "emailNotifications", "taskGeneration"] 4
  return {
    enabled := ← required (field "enabled") bool?
    runTime := ← required (field "autoRunTime") text?
    emailNotifications := ← required (field "emailNotifications") bool?
    taskGeneration := ← required (field "taskGeneration") bool? }

end Settings

namespace Pattern

def toJson (pattern : Pattern) : Json :=
  .object [("id", ofUuid pattern.id), ("tenant_id", ofUuid pattern.tenant),
    ("name", .text pattern.name), ("description", ofOption .text pattern.description),
    ("rule", pattern.series.rule.toJson), ("end_condition", pattern.series.ending.toJson),
    ("starts_on", ofDate pattern.series.startsOn), ("is_active", .bool pattern.isActive),
    ("created_by", ofOption ofUuid pattern.createdBy), ("created_at", ofInstant pattern.createdAt),
    ("updated_at", ofInstant pattern.updatedAt)]

def ofJson? (json : Json) : Option Pattern := do
  let field ← json.fields? ["id", "tenant_id", "name", "description", "rule", "end_condition",
    "starts_on", "is_active", "created_by", "created_at", "updated_at"] 11
  let series : Series := {
    rule := ← required (field "rule") Rule.ofJson?
    ending := ← required (field "end_condition") EndCondition.ofJson?
    startsOn := ← required (field "starts_on") date? }
  return {
    id := ← required (field "id") uuid?
    tenant := ← required (field "tenant_id") uuid?
    name := ← required (field "name") text?
    description := ← optional (field "description") text?
    series
    isActive := ← required (field "is_active") bool?
    createdBy := ← optional (field "created_by") uuid?
    createdAt := ← required (field "created_at") instant?
    updatedAt := ← required (field "updated_at") instant? }

end Pattern

namespace Work

def members (work : Work) : List (String × Json) :=
  [("title", .text work.title), ("description", ofOption .text work.description),
    ("category", ofOption .text work.category), ("sub_category", ofOption .text work.subCategory),
    ("priority", .text work.priority.name), ("client_id", ofOption ofUuid work.client),
    ("assigned_to", .list (work.assignedTo.map ofUuid)),
    ("subtasks", .list (work.subtasks.map Subtask.toJson)),
    ("tags", .list (work.tags.map .text))] ++ work.pricing.members ++
    [("created_by", ofOption ofUuid work.createdBy)]

def ofFields? (field : String → Option Json) : Option Work := do
  return {
    title := ← required (field "title") text?
    description := ← optional (field "description") text?
    category := ← optional (field "category") text?
    subCategory := ← optional (field "sub_category") text?
    priority := ← required (field "priority") fun json => json.name?.bind Priority.ofName?
    client := ← optional (field "client_id") uuid?
    assignedTo := ← required (field "assigned_to") (list? uuid?)
    subtasks := ← required (field "subtasks") (list? Subtask.ofJson?)
    tags := ← required (field "tags") (list? text?)
    pricing := ← Pricing.ofFields? field
    createdBy := ← optional (field "created_by") uuid? }

end Work

namespace Template

def toJson (template : Template) : Json :=
  .object ([("id", ofUuid template.id), ("tenant_id", ofUuid template.tenant),
    ("recurrence_pattern_id", ofOption ofUuid template.pattern)] ++ template.work.members ++
    [("last_generated", ofOption ofInstant template.lastGenerated),
      ("created_at", ofInstant template.createdAt), ("updated_at", ofInstant template.updatedAt)])

def ofJson? : Json → Option Template
  | .object members => do
    let field := lookup members
    return {
      id := ← required (field "id") uuid?
      tenant := ← required (field "tenant_id") uuid?
      pattern := ← optional (field "recurrence_pattern_id") uuid?
      work := ← Work.ofFields? field
      lastGenerated := ← optional (field "last_generated") instant?
      createdAt := ← required (field "created_at") instant?
      updatedAt := ← required (field "updated_at") instant? }
  | _ => none

end Template

namespace Task

def toJson (task : Task) : Json :=
  .object ([("id", ofUuid task.id), ("tenant_id", ofUuid task.tenant),
    ("template_id", ofOption ofUuid task.template),
    ("parent_task_id", ofOption ofUuid task.parent)] ++ task.work.members ++
    [("status", .text task.status.name), ("due_date", ofOption ofDate task.dueDate),
      ("is_recurring", .bool task.isRecurring),
      ("recurrence_interval", ofOption ofInt64 task.interval),
      ("recurrence_monthly_date", ofOption ofInt64 task.monthlyDate),
      ("created_at", ofInstant task.createdAt), ("updated_at", ofInstant task.updatedAt)])

def ofJson? : Json → Option Task
  | .object members => do
    let field := lookup members
    return {
      id := ← required (field "id") uuid?
      tenant := ← required (field "tenant_id") uuid?
      template := ← optional (field "template_id") uuid?
      parent := ← optional (field "parent_task_id") uuid?
      work := ← Work.ofFields? field
      status := ← required (field "status") fun json => json.name?.bind Status.ofName?
      dueDate := ← optional (field "due_date") date?
      isRecurring := ← required (field "is_recurring") bool?
      interval := ← optional (field "recurrence_interval") int64?
      monthlyDate := ← optional (field "recurrence_monthly_date") int64?
      createdAt := ← required (field "created_at") instant?
      updatedAt := ← required (field "updated_at") instant? }
  | _ => none

end Task
end Rota
