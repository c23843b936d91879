import Rota.Command.Basic
import Rota.Task.Form

/-!
The structured form of a command: its words, and every option it has, given or not.
-/

namespace Rota.Command

open Json

def words : Command → String
  | generate .. => "generate"
  | status => "status"
  | serve => "serve"
  | showSchedule => "schedule show"
  | setSchedule _ => "schedule set"
  | disableSchedule => "schedule disable"
  | listPatterns => "pattern list"
  | presets _ => "pattern presets"
  | addPattern _ => "pattern add"
  | togglePattern _ => "pattern toggle"
  | previewPattern .. => "pattern preview"
  | addTemplate _ => "template add"
  | listTemplates => "template list"

def optionMembers : Command → List (String × Json)
  | generate date ofRecurring => [("date", ofOption ofDate date), ("legacy", .bool ofRecurring)]
  | setSchedule change =>
    [("time", .text change.time), ("task_generation", ofOption .bool change.taskGeneration),
      ("email_notifications", ofOption .bool change.emailNotifications)]
  | presets seed => [("seed", .bool seed)]
  | addPattern draft =>
    [("name", .text draft.name), ("description", ofOption .text draft.description),
      ("starts_on", ofOption ofDate draft.startsOn), ("until", ofOption ofDate draft.lastDay),
      ("rule", draft.rule.toJson)]
  | togglePattern reference => [("id", .text reference)]
  | previewPattern reference count start =>
    [("id", .text reference), ("count", ofNat count), ("from", ofOption ofDate start)]
  | addTemplate draft =>
    let work := draft.work
    [("title", .text work.title), ("pattern", .text draft.pattern),
      ("description", ofOption .text work.description),
      ("category", ofOption .text work.category),
      ("sub_category", ofOption .text work.subCategory),
      ("priority", ofOption (fun priority : Priority => .text priority.name) draft.priority),
      ("tags", .list (work.tags.map .text)), ("subtasks", .list (draft.subtasks.map .text)),
      ("client", ofOption ofUuid work.client), ("assign", .list (work.assignedTo.map ofUuid)),
      ("billable", .bool work.pricing.billable),
      ("estimated_hours", ofOption .amount work.pricing.estimatedHours),
      ("hourly_rate", ofOption .amount work.pricing.hourlyRate),
      ("fixed_price", ofOption .amount work.pricing.fixedPrice)]
  | _ => []

def members (command : Command) : List (String × Json) :=
  ("command", .text command.words) :: command.optionMembers

end Rota.Command
