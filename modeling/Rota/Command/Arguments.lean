import Rota.Command.Basic
import Rota.Command.Options
import Rota.Amount.Text
import Rota.Task.Names

/-!
The command line: which words name a command, and which options each command has.
-/

namespace Rota

def readWhole? (text : String) : Option Int :=
  let digits (cs : List Char) : Option Nat :=
    if cs.isEmpty || !cs.all Text.isDigit then none else some (Text.digitsValue cs)
  match text.toList with
  | '-' :: cs => (digits cs).map fun n => -(n : Int)
  | '+' :: cs => (digits cs).map fun n => (n : Int)
  | cs => (digits cs).map fun n => (n : Int)

def readCount? (text : String) : Option Nat :=
  match text.toList with
  | '-' :: _ => none
  | _ => (readWhole? text).bind fun n => if n < Nat.pow 2 64 then some n.toNat else none

def readUInt32? (text : String) : Option UInt32 :=
  (readWhole? text).bind fun n =>
    if 0 ≤ n ∧ n < Nat.pow 2 32 then some (UInt32.ofNat n.toNat) else none

def readUInt8? (text : String) : Option UInt8 :=
  (readWhole? text).bind fun n =>
    if 0 ≤ n ∧ n < Nat.pow 2 8 then some (UInt8.ofNat n.toNat) else none

def readYesNo? : String → Option Bool
  | "true" => some true
  | "false" => some false
  | _ => none

def present {α : Type} : Option α → Except UsageFault α
  | some a => .ok a
  | none => .error .missingArgument

namespace Command

open OptionRule (flag value choice text)

structure GenerateDraft where
  date : Option Date := none
  ofRecurring : Bool := false

def readGenerate (words : List String) : Except UsageFault Command := do
  let draft ← CommandForm.read
    { options := [
        value "date" Date.ofText? fun date draft => { draft with date := some date },
        flag "legacy" fun draft => { draft with ofRecurring := true }] }
    ({} : GenerateDraft) words
  return .generate draft.date draft.ofRecurring

def readBare (command : Command) (words : List String) : Except UsageFault Command := do
  let _ ← CommandForm.read {} () words
  return command

structure ScheduleDraft where
  time : Option String := none
  taskGeneration : Option Bool := none
  emailNotifications : Option Bool := none

def readSetSchedule (words : List String) : Except UsageFault Command := do
  let draft ← CommandForm.read
    { options := [
        choice "task-generation" readYesNo? fun b draft => { draft with taskGeneration := some b },
        choice "email-notifications" readYesNo?
          fun b draft => { draft with emailNotifications := some b }]
      words := [fun word draft => { draft with time := some word }] }
    ({} : ScheduleDraft) words
  return .setSchedule
    { time := ← present draft.time
      taskGeneration := draft.taskGeneration
      emailNotifications := draft.emailNotifications }

def readPresets (words : List String) : Except UsageFault Command := do
  return .presets (← CommandForm.read { options := [flag "seed" fun _ => true] } false words)

def readToggle (words : List String) : Except UsageFault Command := do
  let reference ← CommandForm.read { words := [fun word _ => some word] } none words
  return .togglePattern (← present reference)

structure PreviewDraft where
  reference : Option String := none
  count : Nat := 5
  start : Option Date := none

def readPreview (words : List String) : Except UsageFault Command := do
  let draft ← CommandForm.read
    { options := [
        { value "count" readCount? fun n draft => { draft with count := n } with
          short := some 'c' },
        value "from" Date.ofText? fun date draft => { draft with start := some date }]
      words := [fun word draft => { draft with reference := some word }] }
    ({} : PreviewDraft) words
  return .previewPattern (← present draft.reference) draft.count draft.start

inductive RuleKind where
  | monthly | quarterly | yearly | custom
  deriving DecidableEq, Repr

def RuleKind.ofName? : String → Option RuleKind
  | "monthly" => some .monthly
  | "quarterly" => some .quarterly
  | "yearly" => some .yearly
  | "custom" => some .custom
  | _ => none

structure PatternFlags where
  name : Option String := none
  kind : Option RuleKind := none
  description : Option String := none
  every : UInt32 := 1
  unit : Option RepeatUnit := none
  day : DaySelection := {}
  months : List UInt32 := []
  monthOfQuarter : Option UInt32 := none
  startsOn : Option Date := none
  lastDay : Option Date := none

namespace PatternFlags

/-- What the kind of rule has no use for is left out. -/
def rule (flags : PatternFlags) : RuleKind → Rule
  | .monthly => .monthly flags.every flags.day
  | .quarterly => .quarterly flags.every flags.monthOfQuarter flags.day
  | .yearly => .yearly flags.every flags.months flags.day
  | .custom => .custom flags.every (flags.unit.getD .days) [] [] []

def options : List (OptionRule PatternFlags) := [
  choice "type" RuleKind.ofName? fun kind flags => { flags with kind := some kind },
  { text "description" fun word flags => { flags with description := some word } with
    short := some 'd' },
  value "every" readUInt32? fun n flags => { flags with every := n },
  value "unit" (fun word => (RepeatUnit.parse word).toOption)
    fun unit flags => { flags with unit := some unit },
  value "day" readUInt32? fun n flags => { flags with day.dayOfMonth := some n },
  value "week" readUInt8? fun n flags => { flags with day.weekOfMonth := some n },
  value "weekday" (fun word => (Weekday.parse word).toOption)
    fun day flags => { flags with day.dayOfWeek := some (UInt8.ofNat day.index) },
  flag "end-of-month" fun flags => { flags with day.endOfMonth := true },
  { value "months" readUInt32? fun n flags => { flags with months := flags.months ++ [n] } with
    arity := .many (some ',') },
  value "month-of-quarter" readUInt32? fun n flags => { flags with monthOfQuarter := some n },
  value "starts-on" Date.ofText? fun date flags => { flags with startsOn := some date },
  value "until" Date.ofText? fun date flags => { flags with lastDay := some date }]

/-- A custom rule needs its unit; a week of the month and a weekday need each other. -/
def isComplete (flags : PatternFlags) (kind : RuleKind) : Bool :=
  (kind != .custom || flags.unit.isSome)
    && flags.day.weekOfMonth.isSome == flags.day.dayOfWeek.isSome

end PatternFlags

def readAddPattern (words : List String) : Except UsageFault Command := do
  let flags ← CommandForm.read
    { options := PatternFlags.options
      words := [fun word flags => { flags with name := some word }] }
    ({} : PatternFlags) words
  let name ← present flags.name
  let kind ← present flags.kind
  require (flags.isComplete kind = true) .missingArgument
  return .addPattern
    { name
      description := flags.description
      rule := flags.rule kind
      startsOn := flags.startsOn
      lastDay := flags.lastDay }

structure TemplateFlags where
  title : Option String := none
  pattern : Option String := none
  work : Work := { title := "" }
  subtasks : List String := []
  priority : Option Priority := none

namespace TemplateFlags

def setWork (change : Work → Work) (flags : TemplateFlags) : TemplateFlags :=
  { flags with work := change flags.work }

def setPricing (change : Pricing → Pricing) : TemplateFlags → TemplateFlags :=
  setWork fun work => { work with pricing := change work.pricing }

def options : List (OptionRule TemplateFlags) := [
  { text "pattern" fun word flags => { flags with pattern := some word } with short := some 'p' },
  { text "description" fun word => setWork ({ · with description := some word }) with
    short := some 'd' },
  text "category" fun word => setWork ({ · with category := some word }),
  text "sub-category" fun word => setWork ({ · with subCategory := some word }),
  value "priority" (fun word => (Priority.parse word).toOption)
    fun priority flags => { flags with priority := some priority },
  { text "tag" fun word => setWork fun work => { work with tags := work.tags ++ [word] } with
    short := some 't', arity := .many none },
  { text "subtask" fun word flags => { flags with subtasks := flags.subtasks ++ [word] } with
    arity := .many none },
  value "client" Uuid.ofText? fun id => setWork ({ · with client := some id }),
  { value "assign" Uuid.ofText?
      fun id => setWork fun work => { work with assignedTo := work.assignedTo ++ [id] } with
    arity := .many none },
  flag "billable" (setPricing ({ · with billable := true })),
  value "estimated-hours" Amount.ofText? fun x => setPricing ({ · with estimatedHours := some x }),
  value "hourly-rate" Amount.ofText? fun x => setPricing ({ · with hourlyRate := some x }),
  value "fixed-price" Amount.ofText? fun x => setPricing ({ · with fixedPrice := some x })]

end TemplateFlags

def readAddTemplate (words : List String) : Except UsageFault Command := do
  let flags ← CommandForm.read
    { options := TemplateFlags.options
      words := [fun word flags => { flags with title := some word }] }
    ({} : TemplateFlags) words
  let title ← present flags.title
  return .addTemplate
    { pattern := ← present flags.pattern
      work := { flags.work with title, priority := flags.priority.getD .default }
      subtasks := flags.subtasks
      priority := flags.priority }

inductive Branch where
  | command (read : List String → Except UsageFault Command)
  | group (branches : List (String × Branch))

namespace Branch

def child? (branches : List (String × Branch)) (name : String) : Option Branch :=
  (branches.find? fun entry => entry.1 == name).map Prod.snd

/-- `help` with the name of a command or group shows its help; it is a command like the others and
has no further ones. -/
def helpAt : Branch → List String → UsageFault
  | _, [] => .helpAsked
  | .command _, _ :: _ => .unknownCommand
  | .group branches, name :: rest =>
    match child? branches name, rest with
    | some branch, rest => branch.helpAt rest
    | none, [] => if name = "help" then .helpAsked else .unknownCommand
    | none, _ :: _ => .unknownCommand

/-- A group has no positional words: what comes first after `--` is refused, as the command it
names or as none. -/
def positionalFault (branches : List (String × Branch)) : List String → UsageFault
  | [] => .noCommand
  | name :: _ =>
    if name = "help" ∨ (child? branches name).isSome then .unknownArgument else .unknownCommand

def optionFault (hasVersion : Bool) (cs : List Char) : UsageFault :=
  let version := if hasVersion then UsageFault.versionAsked else .unknownArgument
  match cs with
  | '-' :: '-' :: cs =>
    let isBare := !cs.contains '='
    match String.ofList (cs.takeWhile (· ≠ '=')) with
    | "help" => if isBare then .helpAsked else .unwantedValue
    | "version" => if isBare || !hasVersion then version else .unwantedValue
    | _ => .unknownArgument
  | '-' :: 'h' :: _ => .helpAsked
  | '-' :: 'V' :: _ => version
  | _ => .unknownArgument

def read (hasVersion : Bool) : Branch → List String → Except UsageFault Command
  | .command read, words => read words
  | .group _, [] => .error .noCommand
  | .group branches, word :: rest =>
    match child? branches word with
    | some branch => branch.read false rest
    | none =>
      match word.toList with
      | ['-', '-'] => .error (positionalFault branches rest)
      | '-' :: c :: cs => .error (optionFault hasVersion ('-' :: c :: cs))
      | _ => .error (if word = "help" then helpAt (.group branches) rest else .unknownCommand)

end Branch

def root : Branch := .group [
  ("generate", .command readGenerate),
  ("schedule", .group [
    ("show", .command (readBare .showSchedule)),
    ("set", .command readSetSchedule),
    ("disable", .command (readBare .disableSchedule))]),
  ("status", .command (readBare .status)),
  ("pattern", .group [
    ("list", .command (readBare .listPatterns)),
    ("presets", .command readPresets),
    ("add", .command readAddPattern),
    ("toggle", .command readToggle),
    ("preview", .command readPreview)]),
  ("template", .group [
    ("add", .command readAddTemplate),
    ("list", .command (readBare .listTemplates))]),
  ("serve", .command (readBare .serve))]

def ofArguments (words : List String) : Except UsageFault Command := root.read true words

end Command
end Rota
