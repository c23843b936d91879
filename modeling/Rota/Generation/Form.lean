import Rota.Generation.Overview
import Rota.Generation.Summary
import Rota.Schedule.Registry
import Rota.Task.Form

/-!
The structured form of what is reported: passes, overviews, counts and bindings.
-/

namespace Rota

open Json

def FailedSource.toJson (failed : FailedSource) : Json :=
  .object [("source", ofUuid failed.source), ("title", .text failed.title),
    ("message", .text failed.message)]

def Summary.toJson (summary : Summary) : Json :=
  .object [("tenant_id", ofUuid summary.tenant), ("count", ofNat summary.count),
    ("tasks", .list (summary.tasks.map Task.toJson)), ("duplicates", ofNat summary.duplicates),
    ("not_due", ofNat summary.notDue), ("exhausted", ofNat summary.exhausted),
    ("errors", .list (summary.errors.map FailedSource.toJson)),
    ("has_errors", .bool summary.hasErrors)]

def OverviewRow.toJson (row : OverviewRow) : Json :=
  .object [("pattern_id", ofUuid row.pattern), ("template_name", .text row.name),
    ("description", .text row.description), ("next_run", ofOption ofDate row.nextRun),
    ("last_run", ofOption ofInstant row.lastRun), ("is_active", .bool row.isActive),
    ("template_count", ofNat row.templateCount)]

def Stats.toJson (stats : Stats) : Json :=
  .object [("total_schedules", ofNat stats.total), ("active_schedules", ofNat stats.active),
    ("due_this_week", ofNat stats.dueThisWeek)]

def BindingStatus.toJson (binding : BindingStatus) : Json :=
  .object [("tenantId", ofUuid binding.tenant), ("time", .text binding.time),
    ("cronExpression", .text binding.cron)]

def Registry.toJson (registry : Registry) : Json :=
  let jobs := registry.status
  .object [("isRunning", .bool registry.isRunning), ("activeJobs", ofNat jobs.length),
    ("jobs", .list (jobs.map BindingStatus.toJson))]

end Rota
