import Rota.Proofs.Store.Writes

/-!
Making the task of a recurring task's occurrence where nothing is in the way: the store takes every
title, no two recurring tasks share an identifier, and what was made of one has its content. Then
there is a task of that content and day afterwards, by hand or made before or made now.
-/

namespace Rota

theorem sameContent_kept {a b : Task} : a.sameContent b.kept = a.sameContent b := rfl

theorem sameContent_instantiate (root : Task) (due : Date) (now : Instant) (id : Nat → Uuid) :
    root.sameContent (root.instantiate due now id) = true := by
  simp [Task.sameContent, Task.instantiate, Work.instantiate]

namespace Store

def hasContent (store : Store) (root : Task) (due : Date) : Bool :=
  store.tasks.any fun task => root.sameContent task && task.dueDate == some due

def withTasks (store : Store) (made : List Task) : Store :=
  { store with tasks := store.tasks ++ made.map Task.kept }

def hasTask (store : Store) (root : Task) : Bool :=
  store.tasks.any (Task.isFor root.tenant root.id)

structure Repeats (store : Store) : Prop where
  isOpen : store.isOpen = true
  accepting : store.refusedTitles = []
  distinct : ∀ a ∈ store.tasks, ∀ b ∈ store.tasks, a.isRoot = true → b.isRoot = true →
    a.id = b.id → a = b
  copies : ∀ root ∈ store.tasks, root.isRoot = true → ∀ task ∈ store.tasks,
    task.parent = some root.id → root.sameContent task = true

variable {store : Store} {root : Task} {due : Date} {now : Instant} {made later : List Task}

@[simp] theorem withTasks_nil : store.withTasks [] = store := by simp [withTasks]

theorem withTasks_append :
    store.withTasks (made ++ later) = (store.withTasks made).withTasks later := by
  simp [withTasks]

theorem mem_withTasks {task : Task} :
    task ∈ (store.withTasks made).tasks ↔ task ∈ store.tasks ∨ ∃ new ∈ made, new.kept = task := by
  simp [withTasks]

theorem hasContent_find? :
    (store.tasks.find? fun task => root.sameContent task && task.dueDate == some due).isSome =
      store.hasContent root due := by
  unfold hasContent
  exact List.isSome_find?

theorem hasContent_withTasks :
    (store.withTasks made).hasContent root due =
      (store.hasContent root due ||
        made.any fun task => root.sameContent task && task.dueDate == some due) := by
  unfold hasContent withTasks
  rw [List.any_append, List.any_map]
  rfl

theorem hasContent_instantiate (id : Nat → Uuid) :
    (store.withTasks [root.instantiate due now id]).hasContent root due = true := by
  rw [hasContent_withTasks, Bool.or_eq_true]
  right
  simp only [List.any_cons, List.any_nil, Bool.or_false, sameContent_instantiate, Bool.true_and]
  exact beq_self_eq_true _

theorem hasContent_mono (present : store.hasContent root due = true) :
    (store.withTasks made).hasContent root due = true := by
  rw [hasContent_withTasks, present, Bool.true_or]

theorem holdsReferences_repeated {root : Task} (id : Nat → Uuid)
    (stored : store.hasTask root = true) :
    store.holdsReferences (root.instantiate due now id) = true := by
  obtain ⟨parent, listed, same⟩ := List.any_eq_true.mp stored
  simp only [Task.isFor, Bool.and_eq_true, beq_iff_eq] at same
  simp only [holdsReferences, Task.instantiate, Option.all_none, Option.all_some, Bool.true_and,
    List.any_eq_true, beq_iff_eq]
  exact ⟨parent, listed, same.2⟩

theorem hasTask_withTasks (stored : store.hasTask root = true) :
    (store.withTasks made).hasTask root = true := by
  simp only [hasTask, withTasks, List.any_append, Bool.or_eq_true]
  exact Or.inl stored

theorem hasTask_of_mem (listed : root ∈ store.tasks) : store.hasTask root = true :=
  List.any_eq_true.mpr ⟨root, listed, by simp [Task.isFor]⟩

theorem Repeats.withTasks (repeats : store.Repeats)
    (sourced : ∀ task ∈ made, ∃ root ∈ store.tasks, root.isRoot = true ∧
      ∃ due now id, task = root.instantiate due now id) : (store.withTasks made).Repeats := by
  have old {root : Task} (member : root ∈ (store.withTasks made).tasks)
      (recurs : root.isRoot = true) : root ∈ store.tasks := by
    rcases mem_withTasks.mp member with listed | ⟨new, listed, rfl⟩
    · exact listed
    · obtain ⟨source, -, -, due, now, id, rfl⟩ := sourced new listed
      cases recurs
  refine ⟨repeats.isOpen, repeats.accepting, ?_, ?_⟩
  · intro a aMember b bMember aRecurs bRecurs same
    exact repeats.distinct a (old aMember aRecurs) b (old bMember bRecurs) aRecurs bRecurs same
  · intro root member recurs task taskMember named
    have listed := old member recurs
    rcases mem_withTasks.mp taskMember with known | ⟨new, newListed, rfl⟩
    · exact repeats.copies root listed recurs task known named
    · obtain ⟨source, present, sourceRecurs, due, now, id, rfl⟩ := sourced new newListed
      have same := repeats.distinct source present root listed sourceRecurs recurs
        (Option.some.inj named)
      rw [← same, sameContent_kept]
      exact sameContent_instantiate source due now id

/-- The task is made when there is none of its content and day, and nothing else can happen. -/
theorem Repeats.materializeRecurring_eq (repeats : store.Repeats) (listed : root ∈ store.tasks)
    (recurs : root.isRoot = true) (supply : Supply) :
    store.materializeRecurring supply root due now =
      match store.tasks.find? fun task => root.sameContent task && task.dueDate == some due with
      | some existing => .ok (.duplicate existing.id, store)
      | none => .ok (.created (root.instantiate due now supply.id),
          store.withTasks [root.instantiate due now supply.id]) := by
  unfold materializeRecurring findRecurringInstance
  rw [use_ok.mpr repeats.isOpen]
  simp only [bind, Except.bind, pure, Except.pure]
  cases found : store.tasks.find? fun task => root.sameContent task && task.dueDate == some due with
  | some existing => rfl
  | none =>
    have absent := List.find?_eq_none.mp found
    -- A task of the same parent and day would have the same content.
    have free : store.tasks.any (root.instantiate due now supply.id).sameOccurrence = false := by
      rw [List.any_eq_false]
      intro task member same
      simp only [Task.sameOccurrence, Task.instantiate, Bool.and_eq_true, Bool.or_eq_true,
        beq_iff_eq, Option.isSome_some, Option.isSome_none] at same
      obtain ⟨⟨⟨-, day⟩, -⟩, ⟨-, none⟩ | ⟨parent, -⟩⟩ := same
      · cases none
      · apply absent task member
        rw [repeats.copies root listed recurs task member parent.symm, ← day]
        simp
    have held : store.holdsReferences (root.instantiate due now supply.id) = true :=
      holdsReferences_repeated supply.id (hasTask_of_mem listed)
    have accepted : ¬ store.refusedTitles.contains
        (root.instantiate due now supply.id).work.title = true := by
      rw [repeats.accepting]
      exact Bool.false_ne_true
    unfold insertTask
    rw [if_neg accepted, free, held]
    rfl

end Store
end Rota
