import Rota.Store.Templates

/-!
The tasks of a tenant. A task refers to its template or its parent task, which must be stored. There
is at most one task for a tenant, template and due date, and at most one for a tenant, parent and
due date.
-/

namespace Rota

structure TaskDraft where
  tenant : Uuid
  work : Work
  dueDate : Option Date := none
  isRecurring : Bool := false
  interval : Option Int64 := none
  monthlyDate : Option Int64 := none

namespace Task

def isFor (tenant id : Uuid) (task : Task) : Bool := task.tenant == tenant && task.id == id

def sameOccurrence (a b : Task) : Bool :=
  a.tenant == b.tenant && a.dueDate == b.dueDate && a.dueDate.isSome &&
    ((a.template == b.template && a.template.isSome) || (a.parent == b.parent && a.parent.isSome))

def isRoot (task : Task) : Bool := task.isRecurring && task.interval.isSome

/-- Due dates are listed in the order of their written form. -/
def dueText (task : Task) : String := (task.dueDate.map Date.toText).getD ""

end Task

namespace Store

def findTask (store : Store) (tenant id : Uuid) : Attempt (Option Task) := do
  store.use
  return store.tasks.find? (Task.isFor tenant id)

def tasksWhere (store : Store) (tenant : Uuid) (meets : Task → Bool) : Attempt (List Task) := do
  store.use
  return store.tasks.filter fun task => task.tenant == tenant && meets task

def byDueDate (tasks : List Task) : List Task :=
  tasks.mergeSort fun a b => !decide (b.dueText < a.dueText)

def tasksOfTemplate (store : Store) (tenant template : Uuid) : Attempt (List Task) :=
  (store.tasksWhere tenant fun task => task.template == some template).map byDueDate

def instancesOf (store : Store) (tenant parent : Uuid) : Attempt (List Task) :=
  (store.tasksWhere tenant fun task => task.parent == some parent).map byDueDate

def recurringRoots (store : Store) (tenant : Uuid) : Attempt (List Task) :=
  store.tasksWhere tenant Task.isRoot

/-- What a task refers to is stored, whichever tenant it belongs to. -/
def holdsReferences (store : Store) (task : Task) : Bool :=
  (task.template.all fun id => store.templates.any fun template => template.id == id) &&
    (task.parent.all fun id => store.tasks.any fun parent => parent.id == id)

/-- The store with the task added; none when a task for the same occurrence is there. -/
def insertTask (store : Store) (task : Task) : Attempt (Option Store) :=
  if store.refusedTitles.contains task.work.title then
    .error (.database (.refused task.work.title))
  else if store.tasks.any task.sameOccurrence then .ok none
  else if store.holdsReferences task then
    .ok (some { store with tasks := store.tasks ++ [{ task with work := task.work.kept }] })
  else .error (.database .danglingReference)

def addTask (store : Store) (supply : Supply) (draft : TaskDraft) : Attempt (Task × Store) := do
  require (Text.isBlankText draft.work.title = false) (.invalidInput .blankTaskTitle)
  requireSome draft.interval (fun interval => 0 < interval) (fun _ => .invalidInput .interval)
  store.use
  let task : Task :=
    { id := supply.id 0
      tenant := draft.tenant
      template := none
      parent := none
      work := { draft.work with subtasks := freshSubtasks supply.id 1 draft.work.subtasks }
      status := .todo
      dueDate := draft.dueDate
      isRecurring := draft.isRecurring
      interval := draft.interval
      monthlyDate := draft.monthlyDate
      createdAt := supply.clock
      updatedAt := supply.clock }
  return (task, (← store.insertTask task).getD store)

end Store
end Rota
