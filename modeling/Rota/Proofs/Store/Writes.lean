import Rota.Presets
import Rota.Proofs.Pattern.Valid
import Rota.Proofs.Store.Consistent
import Rota.Store.Settings

/-!
What each writing operation that succeeds does to the store. A pattern that is written has a rule
that was checked; the templates and the tasks are left alone, or get one more row, or the task of an
occurrence.
-/

namespace Rota.Store

variable {store after : Store} {supply : Supply} {tenant id : Uuid} {pattern : Pattern}

structure SameRows (store after : Store) : Prop where
  tasks : after.tasks = store.tasks
  templates : after.templates = store.templates

theorem SameRows.trans {middle : Store} (first : store.SameRows middle)
    (second : middle.SameRows after) : store.SameRows after :=
  ⟨second.tasks.trans first.tasks, second.templates.trans first.templates⟩

theorem mapError_ok {ε δ α : Type} {wrap : ε → δ} {attempt : Except ε α} {a : α} :
    attempt.mapError wrap = .ok a ↔ attempt = .ok a := by
  cases attempt with
  | error fault => simp [Except.mapError]
  | ok value => simp [Except.mapError]

theorem checkPattern_ok {name : String} {series : Series} :
    checkPattern name series = .ok () ↔ Text.isBlankText name = false ∧
      series.rule.check = .ok () ∧ series.ending.check = .ok () := by
  unfold checkPattern
  constructor
  · intro passed
    obtain ⟨_, named, passed⟩ := bind_ok.mp passed
    obtain ⟨_, ruled, ended⟩ := bind_ok.mp passed
    exact ⟨require_ok.mp named, mapError_ok.mp ruled, mapError_ok.mp ended⟩
  · rintro ⟨named, ruled, ended⟩
    exact bind_ok.mpr ⟨(), require_ok.mpr named,
      bind_ok.mpr ⟨(), mapError_ok.mpr ruled, mapError_ok.mpr ended⟩⟩

theorem createPattern_ok {draft : PatternDraft}
    (answered : store.createPattern supply draft = .ok (pattern, after)) :
    checkPattern draft.name pattern.series = .ok () ∧ pattern.name = Text.trim draft.name ∧
      after = { store with patterns := store.patterns ++ [{ pattern }] } := by
  obtain ⟨_, passed, answered⟩ := bind_ok.mp answered
  obtain ⟨_, _, answered⟩ := bind_ok.mp answered
  cases answered
  exact ⟨passed, rfl, rfl⟩

theorem getPattern_ok (answered : store.getPattern tenant id = .ok pattern) :
    ∃ row ∈ store.patterns, row.isFor tenant id = true ∧ row.pattern = pattern := by
  obtain ⟨found, looked, answered⟩ := bind_ok.mp answered
  obtain ⟨_, _, looked⟩ := bind_ok.mp looked
  cases located : store.patterns.find? (PatternRow.isFor tenant id) with
  | none =>
    rw [located] at looked
    cases looked
    cases answered
  | some row =>
    rw [located] at looked
    obtain ⟨loaded, read, looked⟩ := bind_ok.mp looked
    cases looked
    cases answered
    exact ⟨row, List.mem_of_find?_eq_some located, List.find?_some located,
      (PatternRow.load_ok.mp read).2⟩

theorem updatePattern_ok {change : PatternChange}
    (answered : store.updatePattern supply tenant id change = .ok (pattern, after)) :
    checkPattern pattern.name pattern.series = .ok () ∧
      (∃ row ∈ store.patterns, pattern.name = (change.apply row.pattern).name) ∧
      after = store.putPattern pattern := by
  obtain ⟨earlier, found, answered⟩ := bind_ok.mp answered
  obtain ⟨row, listed, -, rfl⟩ := getPattern_ok found
  obtain ⟨_, passed, answered⟩ := bind_ok.mp answered
  cases answered
  exact ⟨passed, ⟨row, listed, rfl⟩, rfl⟩

theorem togglePattern_ok (answered : store.togglePattern supply tenant id = .ok (pattern, after)) :
    (∃ row ∈ store.patterns, row.pattern.name = pattern.name ∧
      row.pattern.series = pattern.series) ∧ after = store.putPattern pattern := by
  obtain ⟨earlier, found, answered⟩ := bind_ok.mp answered
  obtain ⟨row, listed, -, rfl⟩ := getPattern_ok found
  cases answered
  exact ⟨⟨row, listed, rfl, rfl⟩, rfl⟩

theorem saveSettings_ok {settings saved : Settings}
    (answered : store.saveSettings tenant settings = .ok (saved, after)) :
    (∃ time, TriggerTime.parse settings.runTime = .ok time ∧
      saved = { settings with runTime := time.toText }) ∧
      after = { store with settings := store.settings.insert tenant saved } := by
  obtain ⟨time, parsed, answered⟩ := bind_ok.mp answered
  obtain ⟨_, _, answered⟩ := bind_ok.mp answered
  cases answered
  exact ⟨⟨time, mapError_ok.mp parsed, rfl⟩, rfl⟩

theorem createPattern_rows {draft : PatternDraft}
    (answered : store.createPattern supply draft = .ok (pattern, after)) :
    store.SameRows after := by
  obtain ⟨-, -, rfl⟩ := createPattern_ok answered
  exact ⟨rfl, rfl⟩

theorem updatePattern_rows {change : PatternChange}
    (answered : store.updatePattern supply tenant id change = .ok (pattern, after)) :
    store.SameRows after := by
  obtain ⟨-, -, rfl⟩ := updatePattern_ok answered
  exact ⟨rfl, rfl⟩

theorem togglePattern_rows
    (answered : store.togglePattern supply tenant id = .ok (pattern, after)) :
    store.SameRows after := by
  obtain ⟨-, rfl⟩ := togglePattern_ok answered
  exact ⟨rfl, rfl⟩

theorem saveSettings_rows {settings saved : Settings}
    (answered : store.saveSettings tenant settings = .ok (saved, after)) :
    store.SameRows after := by
  obtain ⟨-, rfl⟩ := saveSettings_ok answered
  exact ⟨rfl, rfl⟩

/-- Also when seeding stops at an error, with some presets created. -/
theorem seedFrom_rows {createdBy : Option Uuid} {startsOn : Date} (presets : List Preset) :
    store.SameRows (store.seedFrom supply tenant createdBy startsOn presets).2 := by
  induction presets generalizing store supply with
  | nil => exact ⟨rfl, rfl⟩
  | cons preset rest ih =>
    unfold seedFrom
    split
    · exact ⟨rfl, rfl⟩
    · exact ih
    · split
      · exact ⟨rfl, rfl⟩
      · next created => exact (createPattern_rows created).trans ih

theorem createTemplate_ok {draft : TemplateDraft} {template : Template}
    (answered : store.createTemplate supply draft = .ok (template, after)) :
    ∃ row : Template, row.lastGenerated = none ∧ Text.isBlankText draft.work.title = false ∧
      row.work.title = Text.trim draft.work.title ∧ row.tenant = draft.tenant ∧
      (∀ id, row.pattern = some id → ∃ bound ∈ store.patterns,
        bound.isFor row.tenant id = true) ∧
      after = { store with templates := store.templates ++ [row] } := by
  obtain ⟨_, named, answered⟩ := bind_ok.mp answered
  have titled := require_ok.mp named
  cases bound : draft.pattern with
  | none =>
    rw [bound] at answered
    obtain ⟨_, _, answered⟩ := bind_ok.mp answered
    cases answered
    exact ⟨_, rfl, titled, rfl, rfl, by simp, rfl⟩
  | some pattern =>
    rw [bound] at answered
    obtain ⟨_, found, answered⟩ := bind_ok.mp answered
    obtain ⟨row, listed, keyed, -⟩ := getPattern_ok found
    cases answered
    refine ⟨_, rfl, titled, rfl, rfl, fun id same => ?_, rfl⟩
    cases same
    exact ⟨row, listed, keyed⟩

theorem insertTask_ok {task : Task} {result : Option Store}
    (answered : store.insertTask task = .ok result) :
    result = none ∨ ((∀ other ∈ store.tasks, ¬ task.sameOccurrence other = true) ∧
      result = some { store with tasks := store.tasks ++ [task.kept] }) := by
  unfold insertTask at answered
  by_cases refused : store.refusedTitles.contains task.work.title = true
  · rw [if_pos refused] at answered
    cases answered
  · rw [if_neg refused] at answered
    by_cases taken : store.tasks.any task.sameOccurrence = true
    · rw [if_pos taken] at answered
      exact Or.inl (Except.ok.inj answered).symm
    · rw [if_neg taken] at answered
      by_cases held : store.holdsReferences task = true
      · rw [if_pos held] at answered
        rw [Bool.not_eq_true] at taken
        exact Or.inr ⟨List.any_eq_false.mp taken, (Except.ok.inj answered).symm⟩
      · rw [if_neg held] at answered
        cases answered

theorem addTask_ok {draft : TaskDraft} {task : Task}
    (answered : store.addTask supply draft = .ok (task, after)) :
    task.template = none ∧ task.parent = none ∧
      (after = store ∨ after = { store with tasks := store.tasks ++ [task.kept] }) := by
  obtain ⟨_, _, answered⟩ := bind_ok.mp answered
  obtain ⟨_, _, answered⟩ := bind_ok.mp answered
  obtain ⟨_, _, answered⟩ := bind_ok.mp answered
  obtain ⟨result, inserted, answered⟩ := bind_ok.mp answered
  cases answered
  refine ⟨rfl, rfl, ?_⟩
  rcases insertTask_ok inserted with rfl | ⟨-, rfl⟩
  · exact Or.inl rfl
  · exact Or.inr rfl

theorem materializeTemplate_ok {template : Template} {due : Date} {now : Instant}
    {outcome : Materialized} (stored : store.hasTemplate template = true)
    (answered : store.materializeTemplate supply template due now = .ok (outcome, after)) :
    after = store ∨ (store.hasInstance template due = false ∧
      after = store.withInstance template (template.instantiate due now supply.id) now) := by
  have isOpen : store.isOpen = true := by
    obtain ⟨found, looked, -⟩ := bind_ok.mp answered
    exact open_of_ok looked
  rw [materializeTemplate_eq supply isOpen stored] at answered
  cases found : store.tasks.find? (Task.isInstanceOf template due) with
  | some existing =>
    rw [found] at answered
    cases answered
    exact Or.inl rfl
  | none =>
    rw [found] at answered
    by_cases refused : store.refuses template = true
    · simp [refused] at answered
    · simp only [refused, Bool.false_eq_true, ↓reduceIte, Except.ok.injEq, Prod.mk.injEq]
        at answered
      refine Or.inr ⟨?_, answered.2.symm⟩
      rw [← hasInstance_find?, found]
      rfl

theorem materializeTemplate_duplicate {template : Template} {due : Date} {now : Instant}
    {existing : Option Uuid}
    (answered : store.materializeTemplate supply template due now =
      .ok (.duplicate existing, after)) : after = store := by
  obtain ⟨found, -, answered⟩ := bind_ok.mp answered
  cases found with
  | some task =>
    cases answered
    rfl
  | none =>
    obtain ⟨result, -, answered⟩ := bind_ok.mp answered
    cases result with
    | none =>
      cases answered
      rfl
    | some stored =>
      obtain ⟨_, -, answered⟩ := bind_ok.mp answered
      cases answered

/-- Also of a template that is not stored: then nothing is. -/
theorem materializeTemplate_written {template : Template} {due : Date} {now : Instant}
    {outcome : Materialized}
    (answered : store.materializeTemplate supply template due now = .ok (outcome, after)) :
    after = store ∨ (store.hasTemplate template = true ∧
      after = store.withInstance template (template.instantiate due now supply.id) now) := by
  by_cases stored : store.hasTemplate template = true
  · exact (materializeTemplate_ok stored answered).imp_right fun made => ⟨stored, made.2⟩
  · obtain ⟨found, -, answered⟩ := bind_ok.mp answered
    cases found with
    | some existing =>
      cases answered
      exact Or.inl rfl
    | none =>
      obtain ⟨result, inserted, answered⟩ := bind_ok.mp answered
      rcases insertTask_ok inserted with rfl | ⟨-, rfl⟩
      · cases answered
        exact Or.inl rfl
      · obtain ⟨_, present, -⟩ := bind_ok.mp answered
        exact absurd (require_ok.mp present) stored

theorem materializeRecurring_ok {root : Task} {due : Date} {now : Instant}
    {outcome : Materialized}
    (answered : store.materializeRecurring supply root due now = .ok (outcome, after)) :
    ((∃ existing, outcome = .duplicate existing) ∧ after = store) ∨
      ((∀ other ∈ store.tasks, ¬ (root.sameContent other && other.dueDate == some due) = true) ∧
        (∀ other ∈ store.tasks,
          ¬ (root.instantiate due now supply.id).sameOccurrence other = true) ∧
        outcome = .created (root.instantiate due now supply.id) ∧
        after = { store with
          tasks := store.tasks ++ [(root.instantiate due now supply.id).kept] }) := by
  obtain ⟨found, looked, answered⟩ := bind_ok.mp answered
  obtain ⟨_, _, looked⟩ := bind_ok.mp looked
  cases looked
  cases found : store.tasks.find? fun other =>
      root.sameContent other && other.dueDate == some due with
  | some existing =>
    rw [found] at answered
    cases answered
    exact Or.inl ⟨⟨_, rfl⟩, rfl⟩
  | none =>
    rw [found] at answered
    obtain ⟨result, inserted, answered⟩ := bind_ok.mp answered
    rcases insertTask_ok inserted with rfl | ⟨occurrence, rfl⟩
    · cases answered
      exact Or.inl ⟨⟨_, rfl⟩, rfl⟩
    · cases answered
      exact Or.inr ⟨List.find?_eq_none.mp found, occurrence, rfl, rfl⟩

theorem insertTask_held {task : Task} (answered : store.insertTask task = .ok (some after)) :
    store.holdsReferences task = true := by
  by_contra dangling
  unfold insertTask at answered
  rw [if_neg dangling] at answered
  split at answered
  · cases answered
  · split at answered
    · cases answered
    · cases answered

/-- A repetition is stored only of a task that is. -/
theorem materializeRecurring_created {root task : Task} {due : Date} {now : Instant}
    (answered : store.materializeRecurring supply root due now = .ok (.created task, after)) :
    ∃ parent ∈ store.tasks, parent.id = root.id := by
  obtain ⟨found, -, answered⟩ := bind_ok.mp answered
  cases found with
  | some existing => cases answered
  | none =>
    obtain ⟨result, inserted, answered⟩ := bind_ok.mp answered
    cases result with
    | none => cases answered
    | some stored =>
      have held := insertTask_held inserted
      simp only [holdsReferences, Task.instantiate, Option.all_some, Bool.and_eq_true,
        List.any_eq_true, beq_iff_eq] at held
      exact held.2

end Rota.Store
