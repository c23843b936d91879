import Rota.Task.Basic

/-!
The task that an occurrence brings: a copy of the work of a template or of a recurring task, to be
done by the due date. Its subtasks are new and open, its tags say that it was made automatically,
and it never recurs itself.
-/

namespace Rota

/-- What a writing operation takes from outside: identifiers, and the time on the clock. -/
structure Supply where
  id : Nat → Uuid
  clock : Instant

namespace Supply

def drop (supply : Supply) (n : Nat) : Supply := { supply with id := fun i => supply.id (n + i) }

end Supply

def freshSubtasks (id : Nat → Uuid) (first : Nat) : List Subtask → List Subtask
  | [] => []
  | subtask :: rest =>
    { id := id first, title := subtask.title } :: freshSubtasks id (first + 1) rest

def mergeTags (tags extra : List String) : List String :=
  extra.foldl (fun merged tag => if merged.contains tag then merged else merged ++ [tag]) tags

def Work.instantiate (work : Work) (id : Nat → Uuid) (extraTags : List String) : Work :=
  { work with
    subtasks := freshSubtasks id 1 work.subtasks
    tags := mergeTags work.tags extraTags }

/-- How many identifiers an instance of the work takes: one, and one for each subtask. -/
def Work.idsNeeded (work : Work) : Nat := 1 + work.subtasks.length

def Template.instantiate (template : Template) (due : Date) (now : Instant) (id : Nat → Uuid) :
    Task :=
  { id := id 0
    tenant := template.tenant
    template := some template.id
    parent := none
    work := template.work.instantiate id [autoGeneratedTag]
    status := .todo
    dueDate := some due
    isRecurring := false
    interval := none
    monthlyDate := none
    createdAt := now
    updatedAt := now }

def Task.instantiate (root : Task) (due : Date) (now : Instant) (id : Nat → Uuid) : Task :=
  { id := id 0
    tenant := root.tenant
    template := none
    parent := some root.id
    work := root.work.instantiate id [autoGeneratedTag, recurringTag]
    status := .todo
    dueDate := some due
    isRecurring := false
    interval := none
    monthlyDate := none
    createdAt := now
    updatedAt := now }

end Rota
