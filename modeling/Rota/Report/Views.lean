import Rota.Report.Table
import Rota.Report.Relative
import Rota.Generation.Overview
import Rota.Generation.Summary
import Rota.Presets

/-!
What the command line shows of passes, patterns, templates and presets, as lines of text.
-/

namespace Rota

def textOfLines (lines : List String) : String :=
  String.join (lines.map fun line => line ++ "\n")

def dayText (date today : Date) : String :=
  date.toText ++ " (" ++ relativeDay date today ++ ")"

def lastText (now : Instant) : Option Instant → String
  | none => "Never"
  | some moment => relativeText (moment.secondsFrom now)

structure PassReport where
  tasks : List Task
  count : Nat
  duplicates : Nat
  notDue : Nat
  exhausted : Nat
  milliseconds : Nat
  errors : List FailedSource

def Summary.report (summary : Summary) (milliseconds : Nat) : PassReport :=
  { tasks := summary.tasks
    count := summary.count
    duplicates := summary.duplicates
    notDue := summary.notDue
    exhausted := summary.exhausted
    milliseconds
    errors := summary.errors }

def taskCells (today : Date) (task : Task) : List String :=
  [task.id.short, task.work.title,
    (task.dueDate.map fun due => dayText due today).getD "None",
    task.work.priority.name, ", ".intercalate task.work.tags]

namespace PassReport

def taskLines (report : PassReport) (today : Date) : List String :=
  if report.tasks.isEmpty then ["No tasks generated."]
  else Table.lines
    { header := ["ID", "Title", "Due Date", "Priority", "Tags"]
      rows := report.tasks.map (taskCells today) }

def countLine (report : PassReport) : String :=
  "Generated " ++ toString report.count ++ " task(s): " ++ toString report.duplicates
    ++ " already existed, " ++ toString report.notDue ++ " not yet due, "
    ++ toString report.exhausted ++ " finished (" ++ toString report.milliseconds ++ " ms)"

def errorLines (report : PassReport) : List String :=
  if report.errors.isEmpty then []
  else Table.lines
    { header := ["Source", "Title", "Error"]
      rows := report.errors.map fun failed =>
        [failed.source.short, failed.title, failed.message] }

def lines (report : PassReport) (today : Date) : List String :=
  report.taskLines today ++ report.countLine :: report.errorLines

end PassReport

def overviewLines (rows : List OverviewRow) (today : Date) (now : Instant) : List String :=
  if rows.isEmpty then ["No recurrence patterns found."]
  else Table.lines
    { header := ["ID", "Template", "Schedule", "Next Run", "Last Run", "Templates", "Active"]
      rows := rows.map fun row =>
        [row.pattern.short, row.name, row.description,
          (row.nextRun.map fun next => dayText next today).getD "-", lastText now row.lastRun,
          toString row.templateCount, if row.isActive then "Yes" else "No"] }

def templateLines (templates : List Template) (nameOf : Uuid → Option String) (now : Instant) :
    List String :=
  if templates.isEmpty then ["No templates found."]
  else Table.lines
    { header := ["ID", "Title", "Pattern", "Priority", "Subtasks", "Last Generated"]
      rows := templates.map fun template =>
        [template.id.short, template.work.title, (template.pattern.bind nameOf).getD "None",
          template.work.priority.name, toString template.work.subtasks.length,
          lastText now template.lastGenerated] }

def presetLines (presets : List Preset) : List String :=
  Table.lines
    { header := ["Name", "Schedule", "Description"]
      rows := presets.map fun preset =>
        [preset.name, preset.rule.describe, preset.description] }

def previewLines (name : String) (rule : Rule) (dates : List Date) (today : Date) : List String :=
  (name ++ " [" ++ rule.kind ++ "] (" ++ rule.describe ++ ")") ::
    if dates.isEmpty then ["No upcoming occurrences."]
    else Table.lines
      { header := ["#", "Date", "Weekday", "When"]
        rows := dates.zipIdx.map fun (date, index) =>
          [toString (index + 1), date.toText, date.weekday.name, relativeDay date today] }

end Rota
