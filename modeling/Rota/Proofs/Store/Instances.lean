import Rota.Proofs.Store.Rows
import Rota.Store.Materialize

/-!
What making the task of a template's occurrence comes to. The template counts as stored when a row
with its tenant and identifier is; the row may have been stamped since it was read. On an open store
there are three ends: the occurrence has its task, the store refuses the title, or the task is
appended and the row stamped.
-/

namespace Rota

def Task.isInstanceOf (template : Template) (due : Date) (task : Task) : Bool :=
  task.tenant == template.tenant && task.template == some template.id && task.dueDate == some due

def Task.kept (task : Task) : Task := { task with work := task.work.kept }

theorem Task.isInstanceOf_kept {template : Template} {due : Date} (task : Task) :
    task.kept.isInstanceOf template due = task.isInstanceOf template due := rfl

def Template.stamp (template : Template) (now : Instant) : Template :=
  { template with lastGenerated := some now, updatedAt := now }

def Template.unstamped (template : Template) : Template :=
  { template with lastGenerated := none, updatedAt := template.createdAt }

theorem unstamped_fields {a b : Template} (same : a.unstamped = b.unstamped) :
    a.id = b.id ∧ a.tenant = b.tenant ∧ a.pattern = b.pattern ∧ a.work = b.work := by
  have fields := same
  simp only [Template.unstamped, Template.mk.injEq] at fields
  exact ⟨fields.1, fields.2.1, fields.2.2.1, fields.2.2.2.1⟩

theorem Template.isInstanceOf_instantiate {template other : Template} {due day : Date}
    {now : Instant} {id : Nat → Uuid} :
    (template.instantiate due now id).isInstanceOf other day = true ↔
      template.isFor other.tenant other.id = true ∧ due = day := by
  simp [Task.isInstanceOf, Template.instantiate, Template.isFor, and_assoc]

namespace Store

def hasInstance (store : Store) (template : Template) (due : Date) : Bool :=
  store.tasks.any (Task.isInstanceOf template due)

def refuses (store : Store) (template : Template) : Bool :=
  store.refusedTitles.contains template.work.title

def hasTemplate (store : Store) (template : Template) : Bool :=
  store.templates.any (Template.isFor template.tenant template.id)

def withInstance (store : Store) (template : Template) (task : Task) (now : Instant) : Store :=
  { store with
    tasks := store.tasks ++ [task.kept]
    templates := store.templates.map fun row =>
      if row.isFor template.tenant template.id then row.stamp now else row }

variable {store : Store} {template other : Template} {due day : Date} {now : Instant}

@[simp] theorem hasInstance_withInstance (task : Task) :
    (store.withInstance template task now).hasInstance other day =
      (store.hasInstance other day || task.isInstanceOf other day) := by
  simp [hasInstance, withInstance, Task.isInstanceOf_kept]

@[simp] theorem hasTemplate_withInstance (task : Task) :
    (store.withInstance template task now).hasTemplate other = store.hasTemplate other := by
  simp only [hasTemplate, withInstance, List.any_map]
  congr 1
  funext row
  simp only [Function.comp_apply]
  split <;> rfl

theorem withInstance_eq (task : Task) :
    store.withInstance template task now =
      ({ store with tasks := store.tasks ++ [task.kept] } : Store).markGenerated template.tenant
        template.id now := rfl

theorem sameOccurrence_instance (id : Nat → Uuid) :
    (template.instantiate due now id).sameOccurrence = Task.isInstanceOf template due := by
  funext task
  rw [Bool.eq_iff_iff]
  simp only [Task.sameOccurrence, Task.isInstanceOf, Template.instantiate, Bool.and_eq_true,
    Bool.or_eq_true, beq_iff_eq, Option.isSome_some, Option.isSome_none]
  constructor
  · rintro ⟨⟨⟨tenant, day⟩, -⟩, same | ⟨-, none⟩⟩
    · exact ⟨⟨tenant.symm, same.1.symm⟩, day.symm⟩
    · cases none
  · rintro ⟨⟨tenant, same⟩, day⟩
    exact ⟨⟨⟨tenant.symm, day.symm⟩, trivial⟩, Or.inl ⟨same.symm, trivial⟩⟩

theorem holdsReferences_instance (id : Nat → Uuid) (stored : store.hasTemplate template = true) :
    store.holdsReferences (template.instantiate due now id) = true := by
  obtain ⟨row, listed, same⟩ := List.any_eq_true.mp stored
  simp only [Template.isFor, Bool.and_eq_true, beq_iff_eq] at same
  simp only [holdsReferences, Template.instantiate, Option.all_some, Option.all_none,
    Bool.and_true, List.any_eq_true, beq_iff_eq]
  exact ⟨row, listed, same.2⟩

theorem insertTask_instance (id : Nat → Uuid) (stored : store.hasTemplate template = true) :
    store.insertTask (template.instantiate due now id) =
      if store.refuses template then .error (.database (.refused template.work.title))
      else if store.hasInstance template due then .ok none
      else .ok (some { store with
        tasks := store.tasks ++ [(template.instantiate due now id).kept] }) := by
  unfold insertTask
  rw [sameOccurrence_instance, holdsReferences_instance id stored]
  rfl

theorem hasInstance_find? :
    (store.tasks.find? (Task.isInstanceOf template due)).isSome = store.hasInstance template due := by
  unfold hasInstance
  exact List.isSome_find?

/-- What there is to say about making the task of an occurrence, on an open store. -/
theorem materializeTemplate_eq (supply : Supply) (isOpen : store.isOpen = true)
    (stored : store.hasTemplate template = true) :
    store.materializeTemplate supply template due now =
      match store.tasks.find? (Task.isInstanceOf template due) with
      | some existing => .ok (.duplicate existing.id, store)
      | none =>
        if store.refuses template then .error (.database (.refused template.work.title))
        else
          .ok (.created (template.instantiate due now supply.id),
            store.withInstance template (template.instantiate due now supply.id) now) := by
  unfold materializeTemplate findTemplateInstance
  rw [use_ok.mpr isOpen]
  simp only [bind, Except.bind, pure, Except.pure]
  rw [show (fun task : Task => task.tenant == template.tenant && task.template == some template.id &&
    task.dueDate == some due) = Task.isInstanceOf template due from rfl]
  cases found : store.tasks.find? (Task.isInstanceOf template due) with
  | some existing => rfl
  | none =>
    have absent : store.hasInstance template due = false := by
      rw [← hasInstance_find?, found]
      rfl
    rw [insertTask_instance supply.id stored, absent]
    dsimp only
    by_cases refused : store.refuses template = true
    · simp [refused]
    · have kept : (store.templates.any (Template.isFor template.tenant template.id)) = true := stored
      simp [refused, kept, require, withInstance, markGenerated, Template.stamp]

end Store
end Rota
