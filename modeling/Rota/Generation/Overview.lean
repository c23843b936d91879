import Rota.Store.Templates
import Rota.Resolution

/-!
A tenant's patterns at a glance, each with the templates bound to it, and a count of them.
-/

namespace Rota

structure OverviewRow where
  pattern : Uuid
  /-- The title of the first template, or the pattern's own name when there is none. -/
  name : String
  description : String
  nextRun : Option Date
  lastRun : Option Instant
  isActive : Bool
  templateCount : Nat
  deriving DecidableEq

structure Stats where
  total : Nat
  active : Nat
  dueThisWeek : Nat
  deriving DecidableEq

def latestOf? (moments : List Instant) : Option Instant :=
  moments.foldl (fun latest moment => some ((latest.map (Instant.latest · moment)).getD moment))
    none

def overviewRow (today : Date) (templates : List Template) (pattern : Pattern) :
    Checked OverviewRow := do
  let bound := templates.filter fun template => template.pattern == some pattern.id
  let nextRun ← if pattern.isActive then pattern.series.nextOccurrence today else .ok none
  return {
    pattern := pattern.id
    name := (bound.head?.map fun template => template.work.title).getD pattern.name
    description := pattern.series.rule.describe
    nextRun
    lastRun := latestOf? (bound.filterMap Template.lastGenerated)
    isActive := pattern.isActive
    templateCount := bound.length }

namespace Store

def overview (store : Store) (horizon : Horizon) (tenant : Uuid) (now : Instant) :
    Outcome (List OverviewRow) := do
  let today ← Outcome.ofChecked (horizon.today now)
  let patterns ← Outcome.ofExcept (store.patterns? tenant)
  let templates ← Outcome.ofExcept (store.templatesBoundTo tenant (patterns.map Pattern.id))
  Outcome.ofChecked (patterns.mapM (overviewRow today templates))

/-- A run is due this week when it is at most seven days away. -/
def stats (store : Store) (horizon : Horizon) (tenant : Uuid) (now : Instant) : Outcome Stats := do
  let today ← Outcome.ofChecked (horizon.today now)
  match today.addDays? 7 with
  | none => .error (.fault .calendar)
  | some weekEnd =>
    let rows ← store.overview horizon tenant now
    return {
      total := rows.length
      active := rows.countP OverviewRow.isActive
      dueThisWeek := rows.countP fun row =>
        row.nextRun.any fun next => decide (today ≤ next ∧ next ≤ weekEnd) }

end Store
end Rota
