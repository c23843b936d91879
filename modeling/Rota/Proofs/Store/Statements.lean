import Rota.Proofs.Store.Session
import Rota.Proofs.Store.Writes

/-!
The writing operations statement by statement. A single statement takes effect or fails as a whole;
several that belong together stand in a transaction, which is undone unless it is committed. Some
write before they know whether they may: a pattern is toggled before it is known to be there, and a
task is stored before its template is found. What each comes to is the operation itself, so in
whatever place it fails it leaves the store as it was.
-/

namespace Rota

variable {α β ε : Type}

inductive Ending (α : Type) where
  | commit (answer : α)
  | abandon (answer : α)

namespace Session

/-- A look at what is at hand, not at the store. -/
abbrev check (result : Except ε α) : Session ε α := ask fun _ => result

/-- What a transaction wrote stays only when it is committed. -/
def transaction (body : Session ε (Ending α)) : Session ε α := fun store =>
  match body.run store with
  | (.ok (.commit answer), after) => (.ok answer, after)
  | (.ok (.abandon answer), _) => (.ok answer, store)
  | (.error fault, _) => (.error fault, store)

theorem run_transaction (body : Session ε (Ending α)) (store : Store) :
    (transaction body).run store = match body.run store with
      | (.ok (.commit answer), after) => (.ok answer, after)
      | (.ok (.abandon answer), _) => (.ok answer, store)
      | (.error fault, _) => (.error fault, store) := rfl

def Atomic (session : Session ε α) : Prop :=
  ∀ store fault, (session.run store).1 = .error fault → (session.run store).2 = store

theorem atomic_pure (answer : α) : (pure answer : Session ε α).Atomic := fun _ _ _ => rfl

theorem atomic_settle (operation : Store → Except ε (α × Store)) : (settle operation).Atomic := by
  intro store fault failed
  rw [run_settle] at failed ⊢
  cases came : operation store with
  | error cause => rfl
  | ok result =>
    rw [came] at failed
    cases failed

theorem atomic_transaction (body : Session ε (Ending α)) : (transaction body).Atomic := by
  intro store fault failed
  rw [run_transaction] at failed ⊢
  rcases came : body.run store with ⟨cause | answer | answer, after⟩
  · rfl
  · rw [came] at failed
    cases failed
  · rfl

theorem Atomic.after_ask {question : Store → Except ε β} {rest : β → Session ε α}
    (atomic : ∀ b, (rest b).Atomic) : (ask question >>= rest).Atomic := by
  intro store fault failed
  rw [run_bind, run_ask] at failed ⊢
  cases asked : question store with
  | error cause => rfl
  | ok b =>
    rw [asked] at failed
    exact atomic b store fault failed

/-- What comes after a write that cannot fail any more leaves it. -/
theorem Atomic.then_pure {first : Session ε β} (atomic : first.Atomic) (answer : β → α) :
    (first >>= fun b => pure (answer b)).Atomic := by
  intro store fault failed
  rw [run_bind] at failed ⊢
  rcases came : first.run store with ⟨cause | b, after⟩
  · exact atomic store cause (congrArg Prod.fst came) ▸ (congrArg Prod.snd came).symm
  · rw [came] at failed
    cases failed

end Session

def Pattern.toggled (now : Instant) (pattern : Pattern) : Pattern :=
  { pattern with isActive := !pattern.isActive, updatedAt := now }

namespace Store

def insertPattern (pattern : Pattern) (store : Store) : Attempt (Unit × Store) := do
  store.use
  return ((), { store with patterns := store.patterns ++ [{ pattern }] })

def changePatterns (tenant id : Uuid) (change : Pattern → Pattern) (store : Store) :
    Attempt (Nat × Store) := do
  store.use
  return (store.patterns.countP (PatternRow.isFor tenant id), { store with
    patterns := store.patterns.map fun row =>
      if row.isFor tenant id then { row with pattern := change row.pattern } else row })

def insertTemplate (template : Template) (store : Store) : Attempt (Unit × Store) := do
  store.use
  return ((), { store with
    templates := store.templates ++ [{ template with work := template.work.kept }] })

/-- Stores a task and says how many rows that made, none when its occurrence has its task. -/
def storeTask (task : Task) (store : Store) : Attempt (Nat × Store) := do
  match ← store.insertTask task with
  | some after => return (1, after)
  | none => return (0, store)

def stampTemplates (tenant id : Uuid) (now : Instant) (store : Store) : Attempt (Nat × Store) :=
  return (store.templates.countP (Template.isFor tenant id), store.markGenerated tenant id now)

def upsertSettings (tenant : Uuid) (settings : Settings) (store : Store) :
    Attempt (Unit × Store) := do
  store.use
  return ((), { store with settings := store.settings.insert tenant settings })

end Store

inductive Writing : Type → Type where
  | createPattern (draft : PatternDraft) : Writing Pattern
  | updatePattern (tenant id : Uuid) (change : PatternChange) : Writing Pattern
  | togglePattern (tenant id : Uuid) : Writing Pattern
  | createTemplate (draft : TemplateDraft) : Writing Template
  | addTask (draft : TaskDraft) : Writing Task
  | saveSettings (tenant : Uuid) (settings : Settings) : Writing Settings
  | materializeTemplate (template : Template) (due : Date) (now : Instant) : Writing Materialized
  | materializeRecurring (root : Task) (due : Date) (now : Instant) : Writing Materialized

namespace Writing

open Session Store

def operation (supply : Supply) (store : Store) : Writing α → Attempt (α × Store)
  | createPattern draft => store.createPattern supply draft
  | updatePattern tenant id change => store.updatePattern supply tenant id change
  | togglePattern tenant id => store.togglePattern supply tenant id
  | createTemplate draft => store.createTemplate supply draft
  | addTask draft => store.addTask supply draft
  | saveSettings tenant settings => store.saveSettings tenant settings
  | materializeTemplate template due now => store.materializeTemplate supply template due now
  | materializeRecurring root due now => store.materializeRecurring supply root due now

/-- The statements of each, in the order in which they are sent to the store. -/
def statements (supply : Supply) : Writing α → Session Error α
  | createPattern draft => do
    check (checkPattern draft.name draft.series)
    let pattern : Pattern :=
      { id := supply.id 0
        tenant := draft.tenant
        name := Text.trim draft.name
        description := draft.description
        series := draft.series
        isActive := true
        createdBy := draft.createdBy
        createdAt := supply.clock
        updatedAt := supply.clock }
    settle (insertPattern pattern)
    return pattern
  | updatePattern tenant id change => do
    let pattern ← ask fun store => store.getPattern tenant id
    let changed := change.apply pattern
    check (checkPattern changed.name changed.series)
    let changed := { changed with updatedAt := supply.clock }
    let _ ← settle (changePatterns tenant id fun row =>
      { row with
        name := changed.name
        description := changed.description
        series := changed.series
        isActive := changed.isActive
        updatedAt := changed.updatedAt })
    return changed
  | togglePattern tenant id => transaction do
    ask Store.use
    let toggled ← settle (changePatterns tenant id (Pattern.toggled supply.clock))
    check (require (0 < toggled) (.notFound (.pattern id)))
    let pattern ← ask fun store => store.getPattern tenant id
    return .commit pattern
  | createTemplate draft => do
    check (require (Text.isBlankText draft.work.title = false) (.invalidInput .blankTemplateTitle))
    if let some id := draft.pattern then
      let _ ← ask fun store => store.getPattern draft.tenant id
    let template : Template :=
      { id := supply.id 0
        tenant := draft.tenant
        pattern := draft.pattern
        work := { draft.work with title := Text.trim draft.work.title }
        lastGenerated := none
        createdAt := supply.clock
        updatedAt := supply.clock }
    settle (insertTemplate template)
    return template
  | addTask draft => do
    check (require (Text.isBlankText draft.work.title = false) (.invalidInput .blankTaskTitle))
    check (requireSome draft.interval (fun interval => 0 < interval)
      (fun _ => .invalidInput .interval))
    let task : Task :=
      { id := supply.id 0
        tenant := draft.tenant
        template := none
        parent := none
        work := { draft.work with subtasks := freshSubtasks supply.id 1 draft.work.subtasks }
        status := .todo
        dueDate := draft.dueDate
        isRecurring := draft.isRecurring
        interval := draft.interval
        monthlyDate := draft.monthlyDate
        createdAt := supply.clock
        updatedAt := supply.clock }
    transaction do
      ask Store.use
      let _ ← settle (storeTask task)
      return .commit task
  | saveSettings tenant settings => do
    let time ← check ((TriggerTime.parse settings.runTime).mapError .invalidSchedule)
    let saved := { settings with runTime := time.toText }
    settle (upsertSettings tenant saved)
    return saved
  | materializeTemplate template due now => do
    match ← ask fun store => store.findTemplateInstance template.tenant template.id due with
    | some existing => return .duplicate existing.id
    | none =>
      let task := template.instantiate due now supply.id
      transaction do
        ask Store.use
        let stored ← settle (storeTask task)
        if stored = 0 then return .abandon (.duplicate none)
        let stamped ← settle (stampTemplates template.tenant template.id now)
        check (require (0 < stamped) (.notFound (.template template.id)))
        return .commit (.created task)
  | materializeRecurring root due now => do
    match ← ask fun store => store.findRecurringInstance root due with
    | some existing => return .duplicate existing.id
    | none =>
      let task := root.instantiate due now supply.id
      transaction do
        ask Store.use
        let stored ← settle (storeTask task)
        if stored = 0 then return .abandon (.duplicate none)
        return .commit (.created task)

/-- In whatever place a statement fails. -/
theorem statements_atomic (supply : Supply) (writing : Writing α) :
    (writing.statements supply).Atomic := by
  -- Before a write or a transaction there are only questions, and after it nothing that fails.
  cases writing with
  | createPattern draft => exact .after_ask fun _ => (atomic_settle _).then_pure _
  | updatePattern tenant id change =>
    exact .after_ask fun _ => .after_ask fun _ => (atomic_settle _).then_pure _
  | togglePattern tenant id => exact atomic_transaction _
  | createTemplate draft =>
    apply Atomic.after_ask
    intro _
    cases draft.pattern with
    | none => exact (atomic_settle _).then_pure _
    | some id => exact .after_ask fun _ => (atomic_settle _).then_pure _
  | addTask draft => exact .after_ask fun _ => .after_ask fun _ => atomic_transaction _
  | saveSettings tenant settings => exact .after_ask fun _ => (atomic_settle _).then_pure _
  | materializeTemplate _ _ _ | materializeRecurring _ _ _ =>
    apply Atomic.after_ask
    intro existing
    cases existing with
    | none => exact atomic_transaction _
    | some task => exact atomic_pure _

variable {supply : Supply} {store : Store}

theorem ok_bind (a : β) (rest : β → Except ε α) : ((.ok a : Except ε β) >>= rest) = rest a := rfl

theorem statements_materializeTemplate (template : Template) (due : Date) (now : Instant) :
    ((materializeTemplate template due now).statements supply).run store =
      store.settle (store.materializeTemplate supply template due now) := by
  simp only [statements, Store.materializeTemplate, run_bind, run_ask]
  cases found : store.findTemplateInstance template.tenant template.id due with
  | error fault => rfl
  | ok existing =>
    cases existing with
    | some task => rfl
    | none =>
      -- The look-up has answered, so the transaction can begin.
      have used := use_ok.mpr (open_of_ok found)
      simp only [run_transaction, run_bind, run_ask, run_settle, used, storeTask, ok_bind]
      cases store.insertTask (template.instantiate due now supply.id) with
      | error fault => rfl
      | ok result =>
        cases result with
        | none => rfl
        | some after =>
          -- The rows are stamped before they are counted; the operation looks for one first.
          have counted : (0 < after.templates.countP (Template.isFor template.tenant template.id)) =
              (after.templates.any (Template.isFor template.tenant template.id) = true) := by
            simp [List.countP_pos_iff]
          simp only [ok_bind, Store.settle, pure, Except.pure, Nat.one_ne_zero, ↓reduceIte, run_bind,
            run_settle, stampTemplates, run_ask, counted]
          cases require (after.templates.any (Template.isFor template.tenant template.id) = true)
            (Error.notFound (.template template.id)) <;> rfl

theorem statements_materializeRecurring (root : Task) (due : Date) (now : Instant) :
    ((materializeRecurring root due now).statements supply).run store =
      store.settle (store.materializeRecurring supply root due now) := by
  simp only [statements, Store.materializeRecurring, run_bind, run_ask]
  cases found : store.findRecurringInstance root due with
  | error fault => rfl
  | ok existing =>
    cases existing with
    | some task => rfl
    | none =>
      have used := use_ok.mpr (open_of_ok found)
      simp only [run_transaction, run_bind, run_ask, run_settle, used, storeTask, ok_bind]
      rcases store.insertTask (root.instantiate due now supply.id) with fault | _ | after <;> rfl

theorem statements_createPattern (draft : PatternDraft) :
    ((createPattern draft).statements supply).run store =
      store.settle (store.createPattern supply draft) := by
  simp only [statements, Store.createPattern, run_bind, run_ask, run_settle, insertPattern]
  cases checkPattern draft.name draft.series with
  | error fault => rfl
  | ok _ =>
    simp only [ok_bind]
    cases store.use <;> rfl

theorem statements_createTemplate (draft : TemplateDraft) :
    ((createTemplate draft).statements supply).run store =
      store.settle (store.createTemplate supply draft) := by
  simp only [statements, Store.createTemplate, run_bind, run_ask]
  cases require (Text.isBlankText draft.work.title = false)
      (Error.invalidInput .blankTemplateTitle) with
  | error fault => rfl
  | ok _ =>
    simp only [ok_bind]
    cases draft.pattern with
    | none =>
      simp only [run_bind, run_settle, insertTemplate]
      cases store.use <;> rfl
    | some id =>
      simp only [run_bind, run_ask, run_settle, insertTemplate]
      cases found : store.getPattern draft.tenant id with
      | error fault => rfl
      | ok pattern =>
        simp only [use_ok.mpr (getPattern_open found)]
        rfl

theorem run_storeTask (task : Task) :
    (transaction do
      ask Store.use
      let _ ← settle (storeTask task)
      return .commit task).run store =
      store.settle (store.use >>= fun _ => store.insertTask task >>= fun stored =>
        pure (task, stored.getD store)) := by
  simp only [run_transaction, run_bind, run_ask, run_settle, storeTask]
  cases store.use with
  | error fault => rfl
  | ok _ =>
    simp only [ok_bind]
    rcases store.insertTask task with fault | _ | after <;> rfl

theorem statements_addTask (draft : TaskDraft) :
    ((addTask draft).statements supply).run store = store.settle (store.addTask supply draft) := by
  simp only [statements, Store.addTask, run_bind, run_ask, run_storeTask]
  cases require (Text.isBlankText draft.work.title = false)
      (Error.invalidInput .blankTaskTitle) with
  | error fault => rfl
  | ok _ =>
    cases requireSome draft.interval (fun interval => 0 < interval)
        (fun _ => Error.invalidInput .interval) with
    | error fault => rfl
    | ok _ => rfl

theorem statements_saveSettings (tenant : Uuid) (settings : Settings) :
    ((saveSettings tenant settings).statements supply).run store =
      store.settle (store.saveSettings tenant settings) := by
  simp only [statements, Store.saveSettings, run_bind, run_ask, run_settle, upsertSettings]
  cases (TriggerTime.parse settings.runTime).mapError Error.invalidSchedule with
  | error fault => rfl
  | ok time =>
    simp only [ok_bind]
    cases store.use <;> rfl

section Keyed
variable {tenant id : Uuid}

theorem changePatterns_row (keyed : store.Keyed) (isOpen : store.isOpen = true) {row : PatternRow}
    (listed : row ∈ store.patterns) (isRow : row.isFor tenant id = true)
    {change : Pattern → Pattern} (owner : (change row.pattern).tenant = row.pattern.tenant)
    (key : (change row.pattern).id = row.pattern.id) :
    store.changePatterns tenant id change = .ok (1, store.putPattern (change row.pattern)) := by
  obtain ⟨rowOwner, rowKey⟩ := PatternRow.isFor_iff.mp isRow
  -- Keys are distinct, so no other row is counted or changed.
  have only : ∀ other ∈ store.patterns, other.isFor tenant id = true → other = row :=
    fun other there isOther => keyed.pattern_unique there listed
      ((PatternRow.isFor_iff.mp isOther).2.trans rowKey.symm)
  have one : store.patterns.countP (PatternRow.isFor tenant id) = 1 := by
    rw [countP_unique keyed.patterns.of_map listed only, isRow]
    rfl
  have written : (store.patterns.map fun other =>
      if other.isFor tenant id then { other with pattern := change other.pattern } else other) =
      (store.putPattern (change row.pattern)).patterns := by
    apply List.map_congr_left
    intro other there
    rw [owner, key, rowOwner, rowKey]
    by_cases isOther : other.isFor tenant id = true
    · simp only [only other there isOther]
    · simp only [isOther, Bool.false_eq_true, ↓reduceIte]
  unfold changePatterns
  rw [use_ok.mpr isOpen, one, written]
  rfl

theorem statements_updatePattern (keyed : store.Keyed) (change : PatternChange) :
    ((updatePattern tenant id change).statements supply).run store =
      store.settle (store.updatePattern supply tenant id change) := by
  simp only [statements, Store.updatePattern, run_bind, run_ask, run_settle]
  cases found : store.getPattern tenant id with
  | error fault => rfl
  | ok pattern =>
    obtain ⟨row, listed, isRow, rfl⟩ := getPattern_ok found
    simp only [ok_bind]
    cases checkPattern (change.apply row.pattern).name (change.apply row.pattern).series with
    | error fault => rfl
    | ok _ =>
      simp only [changePatterns_row keyed (getPattern_open found) listed isRow]
      rfl

/-- The row is changed before it is read, which is how it is found to be missing or unreadable. -/
theorem statements_togglePattern (keyed : store.Keyed) :
    ((togglePattern tenant id).statements supply).run store =
      store.settle (store.togglePattern supply tenant id) := by
  simp only [statements, Store.togglePattern, run_transaction, run_bind, run_ask, run_settle]
  by_cases isOpen : store.isOpen = true
  · by_cases there : ∃ row ∈ store.patterns, row.isFor tenant id = true
    · obtain ⟨row, listed, isRow⟩ := there
      have flipped : store.changePatterns tenant id (Pattern.toggled supply.clock) =
          .ok (1, store.putPattern (row.pattern.toggled supply.clock)) :=
        changePatterns_row keyed isOpen listed isRow rfl rfl
      have changed : { row with pattern := row.pattern.toggled supply.clock } ∈
          (store.putPattern (row.pattern.toggled supply.clock)).patterns :=
        List.mem_map.mpr ⟨row, listed, if_pos (PatternRow.isFor_iff.mpr ⟨rfl, rfl⟩)⟩
      -- What was changed does not bear on whether the rule can be read.
      have read : (store.putPattern (row.pattern.toggled supply.clock)).getPattern tenant id =
          PatternRow.load { row with pattern := row.pattern.toggled supply.clock } :=
        (keyed.putPattern _).getPattern_row isOpen changed isRow
      simp only [use_ok.mpr isOpen, flipped, keyed.getPattern_row isOpen listed isRow,
        Store.settle, require_ok.mpr Nat.one_pos, read, PatternRow.load]
      cases row.readable <;> rfl
    · have absent : ∀ row ∈ store.patterns, ¬row.isFor tenant id = true :=
        fun row listed isRow => there ⟨row, listed, isRow⟩
      have missing : store.getPattern tenant id = .error (.notFound (.pattern id)) := by
        unfold getPattern
        rw [findPattern_eq isOpen, List.find?_eq_none.mpr absent]
        rfl
      simp only [changePatterns, use_ok.mpr isOpen, List.countP_eq_zero.mpr absent, missing]
      rfl
  · have closed : store.use = .error (.database .closed) := if_neg isOpen
    simp only [closed, getPattern, findPattern]
    rfl

theorem run_statements (keyed : store.Keyed) (writing : Writing α) :
    (writing.statements supply).run store = store.settle (writing.operation supply store) := by
  cases writing with
  | createPattern draft => exact statements_createPattern draft
  | updatePattern tenant id change => exact statements_updatePattern keyed change
  | togglePattern tenant id => exact statements_togglePattern keyed
  | createTemplate draft => exact statements_createTemplate draft
  | addTask draft => exact statements_addTask draft
  | saveSettings tenant settings => exact statements_saveSettings tenant settings
  | materializeTemplate template due now => exact statements_materializeTemplate template due now
  | materializeRecurring root due now => exact statements_materializeRecurring root due now

end Keyed

section Duplicates
variable {template : Template} {root : Task} {due : Date} {now : Instant} {existing : Option Uuid}
  {after : Store}

theorem template_duplicate
    (answered : ((materializeTemplate template due now).statements supply).run store =
      (.ok (.duplicate existing), after)) : after = store := by
  rw [statements_materializeTemplate, settle_ok] at answered
  exact materializeTemplate_duplicate answered

theorem recurring_duplicate
    (answered : ((materializeRecurring root due now).statements supply).run store =
      (.ok (.duplicate existing), after)) : after = store := by
  rw [statements_materializeRecurring, settle_ok] at answered
  obtain ⟨-, same⟩ | ⟨-, -, created, -⟩ := materializeRecurring_ok answered
  · exact same
  · cases created

end Duplicates

end Writing
end Rota
