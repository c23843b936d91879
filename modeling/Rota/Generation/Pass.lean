import Rota.Generation.Summary
import Rota.Store.Materialize
import Rota.Store.Settings
import Rota.Resolution

/-!
A pass over a tenant's templates or recurring tasks. The patterns are loaded and looked at once, as
of the local day of the instant given; then each template in the order of creation takes part in
the pass for itself: what fails for one is noted and the next one follows. A pass has no answer only
when patterns or templates cannot be loaded, or when a date is past what can be computed.
-/

namespace Rota

structure Progress where
  store : Store
  supply : Supply
  summary : Summary

namespace Progress

def start (store : Store) (supply : Supply) (tenant : Uuid) : Progress :=
  ⟨store, supply, { tenant }⟩

def countDuplicate (progress : Progress) : Progress :=
  { progress with summary :=
      { progress.summary with duplicates := progress.summary.duplicates + 1 } }

def countNotDue (progress : Progress) : Progress :=
  { progress with summary := { progress.summary with notDue := progress.summary.notDue + 1 } }

def countExhausted (progress : Progress) : Progress :=
  { progress with summary :=
      { progress.summary with exhausted := progress.summary.exhausted + 1 } }

def note (progress : Progress) (source : Uuid) (title message : String) : Progress :=
  { progress with summary :=
      { progress.summary with errors := progress.summary.errors ++ [⟨source, title, message⟩] } }

def record (progress : Progress) (source : Uuid) (work : Work) :
    Attempt (Materialized × Store) → Progress
  | .ok (.created task, store) =>
    { store
      supply := progress.supply.drop work.idsNeeded
      summary :=
        { progress.summary with
          count := progress.summary.count + 1
          tasks := progress.summary.tasks ++ [task] } }
  | .ok (.duplicate _, _) => progress.countDuplicate
  | .error error => progress.note source work.title error.message

end Progress

def resolvePatterns (horizon : Horizon) (today : Date) (patterns : List Pattern) :
    Checked (List (Uuid × Resolution)) :=
  patterns.mapM fun pattern => do return (pattern.id, ← horizon.resolve pattern.series today)

def missingPatternMessage : String := "recurrence pattern not found"

/-- A template's part in a pass. A pattern that is not among those looked at is paused, which is no
failure, or missing, which is one. -/
def stepTemplate (resolutions : List (Uuid × Resolution)) (now : Instant) (progress : Progress)
    (template : Template) : Progress :=
  match template.pattern with
  | none => progress
  | some pattern =>
    match resolutions.find? fun entry => entry.1 == pattern with
    | some (_, .exhausted) => progress.countExhausted
    | some (_, .notDue _) => progress.countNotDue
    | some (_, .due date) =>
      progress.record template.id template.work
        (progress.store.materializeTemplate progress.supply template date now)
    | none =>
      match progress.store.findPattern progress.summary.tenant pattern with
      | .ok (some _) => progress
      | .ok none => progress.note template.id template.work.title missingPatternMessage
      | .error error => progress.note template.id template.work.title error.message

def stepRoot (horizon : Horizon) (today : Date) (now : Instant) (progress : Progress)
    (root : Task) : Checked Progress := do
  match ← horizon.resolveTask root today with
  | none | some .exhausted => return progress.countExhausted
  | some (.notDue _) => return progress.countNotDue
  | some (.due date) =>
    return progress.record root.id root.work
      (progress.store.materializeRecurring progress.supply root date now)

namespace Store

/-- A pass over the tenant's templates as of `now`. -/
def generate (store : Store) (supply : Supply) (horizon : Horizon) (tenant : Uuid)
    (now : Instant) : Outcome (Summary × Store) := do
  let today ← Outcome.ofChecked (horizon.today now)
  let patterns ← Outcome.ofExcept (store.activePatterns? tenant)
  let templates ← Outcome.ofExcept (store.templates? tenant)
  let resolutions ← Outcome.ofChecked (resolvePatterns horizon today patterns)
  let progress := templates.foldl (stepTemplate resolutions now) (.start store supply tenant)
  return (progress.summary, progress.store)

def generateRecurring (store : Store) (supply : Supply) (horizon : Horizon) (tenant : Uuid)
    (now : Instant) : Outcome (Summary × Store) := do
  let today ← Outcome.ofChecked (horizon.today now)
  let roots ← Outcome.ofExcept (store.recurringRoots tenant)
  let progress ← Outcome.ofChecked
    (roots.foldlM (stepRoot horizon today now) (.start store supply tenant))
  return (progress.summary, progress.store)

/-- The pass that a trigger starts; none when the tenant has switched generation off. -/
def runScheduled (store : Store) (supply : Supply) (horizon : Horizon) (tenant : Uuid) :
    Outcome (Option Summary × Store) := do
  let settings ← Outcome.ofExcept (store.settingsOf tenant)
  if settings.taskGeneration then
    let (summary, store) ← store.generate supply horizon tenant supply.clock
    return (some summary, store)
  else return (none, store)

end Store
end Rota
