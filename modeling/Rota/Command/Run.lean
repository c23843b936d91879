import Rota.Command.Basic
import Rota.Config.Basic
import Rota.Generation.Pass
import Rota.Report.Views
import Rota.Schedule.Registry
import Rota.Store.Reference
import Rota.Text.Style
import Rota.Zone.Layout

/-!
What each command does: it acts for the configured tenant, reads and writes the store, and prints
lines. A command that fails ends there; the lines printed before stay, and so does what was written
before, of which there is none when the failure is an error.
-/

namespace Rota

structure Workplace where
  config : Config
  horizon : Horizon
  supply : Supply
  milliseconds : Nat := 0

inductive RunFault where
  | config (fault : ConfigFault)
  | unready (fault : StorageFault)
  | failure (failure : Failure)
  deriving DecidableEq

structure RunState where
  store : Store
  out : List String := []
  err : List String := []

abbrev Run (α : Type) := ReaderT Workplace (ExceptT RunFault (StateM RunState)) α

namespace Run

open Text

def ofExcept {ε α : Type} (fault : ε → RunFault) : Except ε α → Run α
  | .ok a => pure a
  | .error e => throw (fault e)

def checked {α : Type} (value : Checked α) : Run α :=
  ofExcept (fun fault => .failure (.fault fault)) value

def attempt {α : Type} (value : Except Error α) : Run α :=
  ofExcept (fun error => .failure (.error error)) value

def outcome {α : Type} (value : Outcome α) : Run α := ofExcept .failure value

def say (lines : List String) : Run Unit :=
  modify fun state => { state with out := state.out ++ lines }

def warn (lines : List String) : Run Unit :=
  modify fun state => { state with err := state.err ++ lines }

def tenant : Run Uuid := do ofExcept .config (← read).config.tenant?

def now : Run Instant := return (← read).supply.clock

def today : Run Date := do checked ((← read).horizon.today (← now))

def reading {α : Type} (look : Store → Attempt α) : Run α := do attempt (look (← get).store)

def writing {α : Type} (act : Store → Supply → Attempt (α × Store)) : Run α := do
  let (a, store) ← attempt (act (← get).store (← read).supply)
  modify fun state => { state with store }
  return a

def passing (pass : Store → Supply → Horizon → Outcome (Summary × Store)) : Run Summary := do
  let place ← read
  let (summary, store) ← outcome (pass (← get).store place.supply place.horizon)
  modify fun state => { state with store }
  return summary

def generate (date : Option Date) (ofRecurring : Bool) : Run Unit := do
  let tenant ← tenant
  let place ← read
  let moment := (date.map place.horizon.zone.startOfDay).getD place.supply.clock
  let summary ← passing fun store supply horizon =>
    if ofRecurring then store.generateRecurring supply horizon tenant moment
    else store.generate supply horizon tenant moment
  let today ← checked (place.horizon.today moment)
  say ((summary.report place.milliseconds).lines today)
  if summary.hasErrors then
    warn [bold (colored .yellow "Warning:") ++ " " ++ toString summary.errors.length
      ++ " item(s) could not be generated; the others were kept."]

def status : Run Unit := do
  let tenant ← tenant
  let place ← read
  let stats ← outcome ((← get).store.stats place.horizon tenant (← now))
  let settings ← reading fun store => store.settingsOf tenant
  let daily := if settings.enabled then
      colored .green (settings.runTime ++ " (" ++ place.horizon.zone.name ++ ")")
    else colored .red "disabled"
  say [bold (colored .blue "Automation Status"),
    "Total schedules: " ++ toString stats.total,
    "Active schedules: " ++ colored .green (toString stats.active),
    "Due this week: " ++ colored .yellow (toString stats.dueThisWeek),
    "Daily run: " ++ daily]

def startServing : Run Registry := do
  let zone := (← read).horizon.zone
  let enabled ← reading Store.enabledSettings
  let (bound, registry) := ({ zone } : Registry).bindAll enabled
  say [bold (colored .green "Scheduler running:") ++ " " ++ toString bound
    ++ " tenant(s) scheduled in " ++ zone.name ++ ". Press Ctrl-C to stop."]
  return registry

def serve : Run Unit := do
  let _ ← startServing
  say ["Scheduler stopped."]

def yesNo (b : Bool) : String := if b then colored .green "Yes" else colored .red "No"

def sayNextRun (settings : Settings) : Run Unit := do
  if settings.enabled then
    let zone := (← read).horizon.zone
    let time ← attempt ((TriggerTime.parse settings.runTime).mapError .invalidSchedule)
    if let some next ← checked (time.nextAfter zone (← now)) then
      let text ← checked (Layout.render "%Y-%m-%d %H:%M %Z" (← checked (zone.localTime next)))
      say ["Next run: " ++ text]

def showSchedule : Run Unit := do
  let tenant ← tenant
  let settings ← reading fun store => store.settingsOf tenant
  let zone := (← read).horizon.zone
  say [bold (colored .blue "Automation Settings"),
    "Enabled: " ++ yesNo settings.enabled,
    "Run time: " ++ settings.runTime ++ " (" ++ zone.name ++ ", "
      ++ (zone.offsetAt (← now).toSeconds).abbreviation ++ ")",
    "Task generation: " ++ yesNo settings.taskGeneration,
    "Email notifications: " ++ yesNo settings.emailNotifications]
  sayNextRun settings

def setSchedule (change : ScheduleChange) : Run Unit := do
  let tenant ← tenant
  let settings ← reading fun store => store.settingsOf tenant
  let saved ← writing fun store _ => store.saveSettings tenant
    { enabled := true
      runTime := change.time
      taskGeneration := change.taskGeneration.getD settings.taskGeneration
      emailNotifications := change.emailNotifications.getD settings.emailNotifications }
  let place ← read
  say ["Automation enabled: daily at " ++ colored .green saved.runTime ++ " ("
    ++ place.horizon.zone.name ++ ")"]
  sayNextRun saved
  say ["A running scheduler picks this up within " ++ toString place.config.refreshSeconds
    ++ " second(s)."]

def disableSchedule : Run Unit := do
  let tenant ← tenant
  let settings ← reading fun store => store.settingsOf tenant
  let _ ← writing fun store _ => store.saveSettings tenant { settings with enabled := false }
  say ["Automation disabled."]

def listPatterns : Run Unit := do
  let tenant ← tenant
  let place ← read
  let rows ← outcome ((← get).store.overview place.horizon tenant (← now))
  say (overviewLines rows (← today) (← now))

def createdLine (what name : String) (id : Uuid) : String :=
  "Created " ++ what ++ " '" ++ colored .cyan name ++ "' (" ++ colored .yellow id.short ++ ")"

def showPresets (seed : Bool) : Run Unit := do
  say (presetLines presets)
  if seed then
    let tenant ← tenant
    let place ← read
    let today ← today
    let (created, store) := (← get).store.seedPresets place.supply tenant place.config.user today
    modify fun state => { state with store }
    let created ← attempt created
    if created.isEmpty then say ["All presets already exist."]
    say (created.map fun pattern => createdLine "pattern" pattern.name pattern.id)

def addPattern (draft : NewPattern) : Run Unit := do
  let tenant ← tenant
  let today ← today
  let createdBy := (← read).config.user
  let pattern ← writing fun store supply => store.createPattern supply
    { tenant
      name := draft.name
      description := draft.description
      series :=
        { rule := draft.rule
          ending := .until? draft.lastDay
          startsOn := draft.startsOn.getD today }
      createdBy }
  say [createdLine "pattern" pattern.name pattern.id ++ ": " ++ pattern.series.rule.describe]
  match ← checked (pattern.series.nextOccurrence today) with
  | some next => say ["Next occurrence: " ++ next.toText]
  | none => say ["No upcoming occurrences."]

def togglePattern (reference : String) : Run Unit := do
  let tenant ← tenant
  let id ← reading fun store => store.resolvePattern tenant reference
  let pattern ← writing fun store supply => store.togglePattern supply tenant id
  say ["Pattern '" ++ pattern.name ++ "' is now "
    ++ if pattern.isActive then colored .green "active" else colored .red "inactive"]

def previewPattern (reference : String) (count : Nat) (start : Option Date) : Run Unit := do
  let tenant ← tenant
  let id ← reading fun store => store.resolvePattern tenant reference
  match ← reading fun store => store.findPattern tenant id with
  | none => attempt (.error (.notFound (.patternNamed id)))
  | some pattern =>
    let today ← today
    let dates ← checked (pattern.series.upcoming (start.getD today) count)
    say (previewLines pattern.name pattern.series.rule dates today)

/-- The subtasks take the identifiers after that of the template. -/
def addTemplate (draft : NewTemplate) : Run Unit := do
  let tenant ← tenant
  let pattern ← reading fun store => store.resolvePattern tenant draft.pattern
  let place ← read
  let subtasks := draft.subtasks.zipIdx.map fun (title, index) =>
    { id := place.supply.id (index + 1), title : Subtask }
  let template ← writing fun store supply => store.createTemplate supply
    { tenant
      pattern := some pattern
      work := { draft.work with subtasks, createdBy := place.config.user } }
  say [createdLine "template" template.work.title template.id]

def listTemplates : Run Unit := do
  let tenant ← tenant
  let templates ← reading fun store => store.templates? tenant
  let patterns ← reading fun store => store.patterns? tenant
  let nameOf (id : Uuid) := (patterns.find? fun pattern => pattern.id == id).map Pattern.name
  say (templateLines templates nameOf (← now))

end Run

def Command.run : Command → Run Unit
  | .generate date ofRecurring => Run.generate date ofRecurring
  | .status => Run.status
  | .serve => Run.serve
  | .showSchedule => Run.showSchedule
  | .setSchedule change => Run.setSchedule change
  | .disableSchedule => Run.disableSchedule
  | .listPatterns => Run.listPatterns
  | .presets seed => Run.showPresets seed
  | .addPattern draft => Run.addPattern draft
  | .togglePattern reference => Run.togglePattern reference
  | .previewPattern reference count start => Run.previewPattern reference count start
  | .addTemplate draft => Run.addTemplate draft
  | .listTemplates => Run.listTemplates

end Rota
