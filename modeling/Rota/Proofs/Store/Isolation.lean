import Rota.Proofs.Store.Own
import Rota.Proofs.Store.Repeats
import Rota.Proofs.Store.Session

/-!
What a tenant does with a store is isolated when it would come to the same with nobody else in the
store, and the others see nothing of it. Doing one isolated thing after another is isolated; so each
operation follows from its questions and its one write.
-/

namespace Rota.Store

variable {α β ε : Type} {store : Store} {tenant key : Uuid} {supply : Supply}

/-- The answer, and what the tenant has then, depend only on what the tenant had. -/
structure Isolated (tenant : Uuid) (use : Store → α × Store) (store : Store) : Prop where
  answer : (use (store.only tenant)).1 = (use store).1
  own : (use (store.only tenant)).2 = (use store).2.only tenant
  confined : Confined tenant store (use store).2

namespace Isolated

theorem ask {question : Store → α} (same : question (store.only tenant) = question store) :
    Isolated tenant (fun store => (question store, store)) store :=
  ⟨same, rfl, .refl store⟩

theorem andThen {use : Store → α × Store} (first : Isolated tenant use store)
    (rest : α → Store → β × Store)
    (second : Isolated tenant (rest (use store).1) (use store).2) :
    Isolated tenant (fun store => rest (use store).1 (use store).2) store := by
  obtain ⟨answer, own, confined⟩ := first
  constructor
  · simp only [answer, own]
    exact second.answer
  · simp only [answer, own]
    exact second.own
  · exact confined.trans second.confined

theorem congr {use other : Store → α × Store} (same : ∀ store, use store = other store)
    (isolated : Isolated tenant other store) : Isolated tenant use store := by
  obtain rfl : use = other := funext same
  exact isolated

theorem map {use : Store → α × Store} (f : α → β) (isolated : Isolated tenant use store) :
    Isolated tenant (fun store => (f (use store).1, (use store).2)) store :=
  ⟨congrArg f isolated.answer, isolated.own, isolated.confined⟩

theorem bind {first : Session ε β} {rest : β → Session ε α}
    (isolated : Isolated tenant first.run store)
    (after : ∀ b, (first.run store).1 = .ok b →
      Isolated tenant (rest b).run (first.run store).2) :
    Isolated tenant (first >>= rest).run store := by
  have split : ∀ store : Store, (first >>= rest).run store =
      ExceptT.bindCont rest (first.run store).1 (first.run store).2 := fun _ => rfl
  apply congr split
  apply isolated.andThen (ExceptT.bindCont rest)
  cases answered : (first.run store).1 with
  | error fault => exact ask rfl
  | ok b => exact after b answered

theorem asking {question : Store → Except ε β} {rest : β → Store → Except ε (α × Store)}
    (same : question (store.only tenant) = question store)
    (after : ∀ b, question store = .ok b → Isolated tenant (Session.settle (rest b)).run store) :
    Isolated tenant (Session.settle fun store => question store >>= fun b => rest b store).run
      store := by
  rw [Session.settle_bind]
  exact bind (ask same) after

theorem write {answer : Store → α} {put : Store → Store}
    (same : answer (store.only tenant) = answer store)
    (own : (put store).only tenant = put (store.only tenant))
    (confined : Confined tenant store (put store)) :
    Isolated tenant (Session.settle fun store => .ok (answer store, put store) : Session ε α).run
      store :=
  ⟨congrArg Except.ok same, own.symm, confined⟩

theorem keep (answer : α) :
    Isolated tenant (Session.settle fun store => .ok (answer, store) : Session ε α).run store :=
  write rfl rfl (.refl store)

theorem alone {operation : Store → Except ε (α × Store)}
    (isolated : Isolated tenant (Session.settle operation).run store) :
    operation (store.only tenant) =
      (operation store).map fun result => (result.1, result.2.only tenant) := by
  obtain ⟨answer, own, -⟩ := isolated
  rcases here : operation store with fault | ⟨a, after⟩ <;>
    rcases there : operation (store.only tenant) with fault' | ⟨a', after'⟩ <;>
    simp_all [settle, Except.map]

end Isolated

section Patterns

theorem createPattern_isolated {draft : PatternDraft} (owned : draft.tenant = tenant) :
    Isolated tenant (Session.settle fun store => store.createPattern supply draft).run store := by
  apply Isolated.asking rfl
  intro _ _
  apply Isolated.asking rfl
  intro _ _
  exact .write rfl (only_addPattern owned) (confined_addPattern owned)

theorem getPattern_owned {pattern : Pattern}
    (answered : store.getPattern tenant key = .ok pattern) : pattern.tenant = tenant := by
  obtain ⟨row, -, keyed, rfl⟩ := getPattern_ok answered
  exact (PatternRow.isFor_iff.mp keyed).1

theorem updatePattern_isolated (change : PatternChange) :
    Isolated tenant (Session.settle fun store => store.updatePattern supply tenant key change).run
      store := by
  apply Isolated.asking getPattern_only
  intro pattern found
  apply Isolated.asking rfl
  intro _ _
  have owned := getPattern_owned found
  exact .write rfl (only_putPattern _) (confined_putPattern owned)

theorem togglePattern_isolated :
    Isolated tenant (Session.settle fun store => store.togglePattern supply tenant key).run
      store := by
  apply Isolated.asking getPattern_only
  intro pattern found
  have owned := getPattern_owned found
  exact .write rfl (only_putPattern _) (confined_putPattern owned)

/-- Seeding looks for a name, and creates the preset when it is free, before it turns to the next. -/
theorem seedFrom_cons (createdBy : Option Uuid) (startsOn : Date) (preset : Preset)
    (rest : List Preset) (store : Store) :
    store.seedFrom supply tenant createdBy startsOn (preset :: rest) = Session.run (do
      match ← Session.ask (fun store => store.findPatternNamed tenant preset.name) with
      | some _ => fun store => store.seedFrom supply tenant createdBy startsOn rest
      | none =>
        let pattern ← Session.settle fun store =>
          store.createPattern supply (preset.draft tenant createdBy startsOn)
        fun store =>
          let seeded := store.seedFrom (supply.drop 1) tenant createdBy startsOn rest
          (seeded.1.map (pattern :: ·), seeded.2)) store := by
  rw [seedFrom, Session.run_bind, Session.run_ask]
  rcases store.findPatternNamed tenant preset.name with fault | _ | pattern
  · rfl
  · dsimp only
    rw [Session.run_bind, Session.run_settle]
    rcases store.createPattern supply (preset.draft tenant createdBy startsOn) with
      fault | ⟨pattern, after⟩ <;> rfl
  · rfl

theorem seedFrom_isolated (createdBy : Option Uuid) (startsOn : Date) (presets : List Preset) :
    Isolated tenant (fun store => store.seedFrom supply tenant createdBy startsOn presets)
      store := by
  induction presets generalizing store supply with
  | nil => exact .ask rfl
  | cons preset rest ih =>
    apply Isolated.congr (seedFrom_cons createdBy startsOn preset rest)
    apply Isolated.bind (.ask (findPatternNamed_only _))
    intro named _
    cases named with
    | some pattern => exact ih
    | none =>
      have created : Isolated tenant (Session.settle fun store =>
          store.createPattern supply (preset.draft tenant createdBy startsOn)).run store :=
        createPattern_isolated rfl
      exact created.bind fun pattern _ => ih.map _

end Patterns

theorem createTemplate_isolated {draft : TemplateDraft} (owned : draft.tenant = tenant) :
    Isolated tenant (Session.settle fun store => store.createTemplate supply draft).run store := by
  apply Isolated.asking rfl
  intro _ _
  cases draft.pattern with
  | none =>
    apply Isolated.asking rfl
    intro _ _
    exact .write rfl (only_addTemplate owned) (confined_addTemplate owned)
  | some pattern =>
    subst owned
    apply Isolated.asking getPattern_only
    intro _ _
    exact .write rfl (only_addTemplate rfl) (confined_addTemplate rfl)

theorem saveSettings_isolated (settings : Settings) :
    Isolated tenant (Session.settle fun store => store.saveSettings tenant settings).run store := by
  apply Isolated.asking rfl
  intro _ _
  apply Isolated.asking rfl
  intro _ _
  exact .write rfl (only_putSettings _) (confined_putSettings _)

section Tasks
variable {task : Task} {due : Date} {now : Instant}

/-- Whether a task is to be added; an error when the store does not take it. -/
def admits (store : Store) (task : Task) : Attempt Bool :=
  if store.refusedTitles.contains task.work.title then
    .error (.database (.refused task.work.title))
  else if store.tasks.any task.sameOccurrence then .ok false
  else if store.holdsReferences task then .ok true
  else .error (.database .danglingReference)

theorem insertTask_bind (store : Store) (task : Task) (rest : Option Store → Attempt β) :
    store.insertTask task >>= rest = store.admits task >>= fun fresh => rest (if fresh then
      some { store with tasks := store.tasks ++ [task.kept] } else none) := by
  unfold insertTask admits
  split_ifs <;> rfl

theorem admits_only (owned : task.tenant = tenant)
    (held : (store.only tenant).holdsReferences task = store.holdsReferences task) :
    (store.only tenant).admits task = store.admits task := by
  unfold admits
  rw [held, only_refusedTitles, only_tasks, any_filter_of_imp]
  intro other same
  simp only [Task.sameOccurrence, Bool.and_eq_true, beq_iff_eq] at same
  simp [← owned, same.1.1.1]

theorem addTask_isolated {draft : TaskDraft} (owned : draft.tenant = tenant) :
    Isolated tenant (Session.settle fun store => store.addTask supply draft).run store := by
  apply Isolated.asking rfl
  intro _ _
  apply Isolated.asking rfl
  intro _ _
  apply Isolated.asking rfl
  intro _ _
  simp only [insertTask_bind]
  apply Isolated.asking (admits_only owned rfl)
  intro fresh _
  cases fresh with
  | false => exact .keep _
  | true => exact .write rfl (only_addTask owned) (confined_addTask owned)

theorem hasTemplate_only {template : Template} (owned : template.tenant = tenant) :
    (store.only tenant).hasTemplate template = store.hasTemplate template := by
  unfold hasTemplate
  rw [only_templates, any_filter_of_imp]
  intro row same
  simp [(Template.isFor_iff.mp same).1, owned]

theorem materializeTemplate_isolated {template : Template} (owned : template.tenant = tenant)
    (stored : store.hasTemplate template = true) :
    Isolated tenant
      (Session.settle fun store => store.materializeTemplate supply template due now).run
      store := by
  have present : (store.only tenant).hasTemplate template = store.hasTemplate template :=
    hasTemplate_only owned
  subst owned
  -- Each question before the write has the same answer for the part of the tenant alone.
  apply Isolated.asking (findTemplateInstance_only _ _)
  intro found _
  cases found with
  | some existing => exact .keep _
  | none =>
    simp only [insertTask_bind]
    have mine : (template.instantiate due now supply.id).kept.tenant = template.tenant := rfl
    have held : (store.only template.tenant).holdsReferences
        (template.instantiate due now supply.id) =
        store.holdsReferences (template.instantiate due now supply.id) := by
      rw [holdsReferences_instance supply.id (present.trans stored),
        holdsReferences_instance supply.id stored]
    apply Isolated.asking (admits_only rfl held)
    intro fresh _
    cases fresh with
    | false => exact .keep _
    | true =>
      apply Isolated.asking (congrArg (fun there => require (there = true) _) present)
      intro _ _
      refine .write rfl ?_ ?_
      · exact (only_markGenerated _ now).trans
          (congrArg (fun store => store.markGenerated template.tenant template.id now)
            (only_addTask mine))
      · exact (confined_addTask mine).trans (confined_markGenerated now)

theorem hasTask_only {root : Task} (owned : root.tenant = tenant) :
    (store.only tenant).hasTask root = store.hasTask root := by
  unfold hasTask
  rw [only_tasks, any_filter_of_imp]
  intro other same
  simp only [Task.isFor, Bool.and_eq_true, beq_iff_eq] at same
  simp [same.1, owned]

theorem materializeRecurring_isolated {root : Task} (owned : root.tenant = tenant)
    (stored : store.hasTask root = true) :
    Isolated tenant
      (Session.settle fun store => store.materializeRecurring supply root due now).run store := by
  have present : (store.only tenant).hasTask root = store.hasTask root := hasTask_only owned
  apply Isolated.asking (findRecurringInstance_only owned due)
  intro found _
  cases found with
  | some existing => exact .keep _
  | none =>
    simp only [insertTask_bind]
    have held : (store.only tenant).holdsReferences (root.instantiate due now supply.id) =
        store.holdsReferences (root.instantiate due now supply.id) := by
      rw [holdsReferences_repeated supply.id (present.trans stored),
        holdsReferences_repeated supply.id stored]
    have mine : (root.instantiate due now supply.id).tenant = tenant := owned
    apply Isolated.asking (admits_only mine held)
    intro fresh _
    cases fresh with
    | false => exact .keep _
    | true => exact .write rfl (only_addTask mine) (confined_addTask mine)

end Tasks

end Rota.Store
