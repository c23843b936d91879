import Rota.Store.Tasks

/-!
Making the task of an occurrence. An occurrence of a template that has its task already, and one of
a recurring task of which some task of the same content is due that day, bring nothing new. When a
template's task is stored, so is the instant at which that was done.
-/

namespace Rota

inductive Materialized where
  | created (task : Task)
  | duplicate (existing : Option Uuid)
  deriving DecidableEq

def Task.sameContent (a b : Task) : Bool :=
  a.tenant == b.tenant && a.work.title == b.work.title && a.work.client == b.work.client &&
    a.work.category == b.work.category && a.work.subCategory == b.work.subCategory

namespace Store

def findTemplateInstance (store : Store) (tenant template : Uuid) (due : Date) :
    Attempt (Option Task) := do
  store.use
  return store.tasks.find? fun task =>
    task.tenant == tenant && task.template == some template && task.dueDate == some due

/-- The first created task with the content of the root that is due that day; it may be the root. -/
def findRecurringInstance (store : Store) (root : Task) (due : Date) : Attempt (Option Task) := do
  store.use
  return store.tasks.find? fun task => root.sameContent task && task.dueDate == some due

def markGenerated (store : Store) (tenant id : Uuid) (now : Instant) : Store :=
  { store with
    templates := store.templates.map fun template =>
      if template.isFor tenant id then
        { template with lastGenerated := some now, updatedAt := now }
      else template }

def materializeTemplate (store : Store) (supply : Supply) (template : Template) (due : Date)
    (now : Instant) : Attempt (Materialized × Store) := do
  match ← store.findTemplateInstance template.tenant template.id due with
  | some existing => return (.duplicate existing.id, store)
  | none =>
    let task := template.instantiate due now supply.id
    match ← store.insertTask task with
    | none => return (.duplicate none, store)
    | some after =>
      require (after.templates.any (Template.isFor template.tenant template.id) = true)
        (.notFound (.template template.id))
      return (.created task, after.markGenerated template.tenant template.id now)

def materializeRecurring (store : Store) (supply : Supply) (root : Task) (due : Date)
    (now : Instant) : Attempt (Materialized × Store) := do
  match ← store.findRecurringInstance root due with
  | some existing => return (.duplicate existing.id, store)
  | none =>
    let task := root.instantiate due now supply.id
    match ← store.insertTask task with
    | none => return (.duplicate none, store)
    | some after => return (.created task, after)

end Store
end Rota
