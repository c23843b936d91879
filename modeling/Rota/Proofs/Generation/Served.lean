import Rota.Proofs.Generation.Requests
import Rota.Proofs.Generation.WellFormed
import Rota.Proofs.Schedule.Bindings

/-!
Stores that have only ever been asked, by any tenants, for anything and in any order. They are well
formed, so a pass over one has nothing to report, and every tenant that wants automation is bound at
the time it has saved.
-/

namespace Rota

variable {tenant : Uuid} {horizon : Horizon} {today : Date} {now : Instant}
  {resolutions : List (Uuid × Resolution)}

namespace Store.WellFormed

section Pass
variable {progress next last : Progress}

theorem materializeTemplate_returns {store : Store} {template : Template}
    (wellFormed : store.WellFormed) (stored : store.hasTemplate template = true) (supply : Supply)
    (due : Date) (now : Instant) :
    ∃ outcome after, store.materializeTemplate supply template due now = .ok (outcome, after) := by
  rw [materializeTemplate_eq supply wellFormed.isOpen stored]
  cases store.tasks.find? (Task.isInstanceOf template due) with
  | some existing => exact ⟨_, _, rfl⟩
  | none =>
    have accepted : store.refuses template = false := by simp [refuses, wellFormed.accepting]
    simp only [accepted]
    exact ⟨_, _, rfl⟩

theorem materializeRecurring_returns {store : Store} {root : Task}
    (wellFormed : store.WellFormed) (stored : store.hasTask root = true) (supply : Supply)
    (due : Date) (now : Instant) :
    ∃ outcome after, store.materializeRecurring supply root due now = .ok (outcome, after) := by
  unfold Store.materializeRecurring findRecurringInstance
  rw [use_ok.mpr wellFormed.isOpen]
  simp only [bind, Except.bind, pure, Except.pure]
  cases store.tasks.find? fun task => root.sameContent task && task.dueDate == some due with
  | some existing => exact ⟨_, _, rfl⟩
  | none =>
    have accepted : ¬ store.refusedTitles.contains
        (root.instantiate due now supply.id).work.title = true := by simp [wellFormed.accepting]
    unfold insertTask
    rw [if_neg accepted, holdsReferences_repeated supply.id stored]
    by_cases taken : store.tasks.any (root.instantiate due now supply.id).sameOccurrence = true
    · rw [if_pos taken]
      exact ⟨_, _, rfl⟩
    · rw [if_neg taken]
      exact ⟨_, _, rfl⟩

theorem record_silent {outcome : Materialized} {after : Store} (source : Uuid) (work : Work)
    {made : Attempt (Materialized × Store)} (answered : made = .ok (outcome, after)) :
    (progress.record source work made).summary.errors = progress.summary.errors := by
  subst answered
  cases outcome <;> rfl

theorem stepTemplate (wellFormed : progress.store.WellFormed) (template : Template) :
    (stepTemplate resolutions now progress template).store.WellFormed := by
  rcases stepTemplate_store resolutions now progress template with same | ⟨due, outcome, made⟩
  · rw [same]
    exact wellFormed
  · exact wellFormed.materializeTemplate made

/-- The template of a pass is stored, and so is its pattern. -/
theorem stepTemplate_silent (wellFormed : progress.store.WellFormed) {template : Template}
    (stored : progress.store.hasTemplate template = true)
    (bound : ∀ id, template.pattern = some id →
      ∃ row ∈ progress.store.patterns, row.isFor progress.summary.tenant id = true) :
    (Rota.stepTemplate resolutions now progress template).summary.errors =
      progress.summary.errors := by
  unfold Rota.stepTemplate
  cases named : template.pattern with
  | none => rfl
  | some pattern =>
    dsimp only
    split
    · rfl
    · rfl
    · next due _ =>
      obtain ⟨outcome, after, made⟩ :=
        wellFormed.materializeTemplate_returns stored progress.supply due now
      exact record_silent _ _ made
    · obtain ⟨row, listed, keyed⟩ := bound pattern named
      have found : ∃ known, progress.store.findPattern progress.summary.tenant pattern =
          .ok (some known) := by
        rw [findPattern_eq wellFormed.isOpen]
        cases located : progress.store.patterns.find?
            (PatternRow.isFor progress.summary.tenant pattern) with
        | none => exact absurd keyed (List.find?_eq_none.mp located row listed)
        | some other =>
          have readable := wellFormed.readable other (List.mem_of_find?_eq_some located)
          exact ⟨other.pattern, by simp [PatternRow.load, readable, Except.map]⟩
      obtain ⟨known, found⟩ := found
      rw [found]

theorem foldl_stepTemplate (templates : List Template) (wellFormed : progress.store.WellFormed)
    (stored : ∀ template ∈ templates, progress.store.hasTemplate template = true)
    (bound : ∀ template ∈ templates, ∀ id, template.pattern = some id →
      ∃ row ∈ progress.store.patterns, row.isFor progress.summary.tenant id = true) :
    (templates.foldl (Rota.stepTemplate resolutions now) progress).store.WellFormed ∧
      (templates.foldl (Rota.stepTemplate resolutions now) progress).summary.errors =
        progress.summary.errors := by
  induction templates generalizing progress with
  | nil => exact ⟨wellFormed, rfl⟩
  | cons first rest ih =>
    rw [List.forall_mem_cons] at stored bound
    obtain ⟨patterns, keys⟩ := stepTemplate_frame resolutions now progress first
    have silent : (Rota.stepTemplate resolutions now progress first).summary.errors =
        progress.summary.errors := wellFormed.stepTemplate_silent stored.1 bound.1
    rw [List.foldl_cons, ← silent]
    apply ih (wellFormed.stepTemplate first)
    · intro template listed
      rw [keys]
      exact stored.2 template listed
    · intro template listed
      rw [patterns, stepTemplate_tenant]
      exact bound.2 template listed

theorem generate {store after : Store} {supply : Supply} {summary : Summary}
    (wellFormed : store.WellFormed)
    (answered : store.generate supply horizon tenant now = .ok (summary, after)) :
    after.WellFormed ∧ summary.errors = [] := by
  obtain ⟨_, _, _, -, -, -, rfl, rfl⟩ := generate_by_steps.mp answered
  apply wellFormed.foldl_stepTemplate
  · intro template member
    exact hasTemplate_of_mem (List.mem_filter.mp member).1
  · intro template member
    obtain ⟨there, owned⟩ := List.mem_filter.mp member
    rw [beq_iff_eq] at owned
    exact owned ▸ wellFormed.bound template there

theorem stepRoot {root : Task} (wellFormed : progress.store.WellFormed)
    (stored : progress.store.hasTask root = true)
    (answered : stepRoot horizon today now progress root = .ok next) :
    next.store.WellFormed ∧ next.summary.errors = progress.summary.errors ∧
      ∀ other : Task, progress.store.hasTask other = true → next.store.hasTask other = true := by
  refine ⟨?_, ?_, ?_⟩
  · rcases stepRoot_store answered with same | ⟨due, outcome, made⟩
    · exact same ▸ wellFormed
    · exact wellFormed.materializeRecurring (fun _ => stored) made
  · obtain ⟨resolution, -, answered⟩ := bind_ok.mp answered
    rcases resolution with _ | due | _ | _
    · cases answered
      rfl
    · cases answered
      obtain ⟨outcome, after, made⟩ :=
        wellFormed.materializeRecurring_returns stored progress.supply due now
      exact record_silent _ _ made
    · cases answered
      rfl
    · cases answered
      rfl
  · intro other there
    obtain ⟨made, grew, -⟩ := stepRoot_grew answered
    rw [grew.store]
    exact hasTask_withTasks there

theorem foldlM_stepRoot (roots : List Task) (wellFormed : progress.store.WellFormed)
    (stored : ∀ root ∈ roots, progress.store.hasTask root = true)
    (answered : roots.foldlM (Rota.stepRoot horizon today now) progress = .ok last) :
    last.summary.errors = progress.summary.errors := by
  induction roots generalizing progress with
  | nil =>
    cases answered
    rfl
  | cons first rest ih =>
    rw [List.forall_mem_cons] at stored
    rw [List.foldlM_cons] at answered
    obtain ⟨next, stepped, answered⟩ := bind_ok.mp answered
    obtain ⟨kept, silent, retained⟩ := wellFormed.stepRoot stored.1 stepped
    rw [← silent]
    exact ih kept (fun root listed => retained root (stored.2 root listed)) answered

/-- Also when the pass stops on the way. -/
theorem walk (roots : List Task) (wellFormed : progress.store.WellFormed)
    (stored : ∀ root ∈ roots, progress.store.hasTask root = true) :
    (progress.walk horizon today now roots).store.WellFormed := by
  induction roots generalizing progress with
  | nil => exact wellFormed
  | cons first rest ih =>
    rw [List.forall_mem_cons] at stored
    rw [Progress.walk]
    cases stepped : Rota.stepRoot horizon today now progress first with
    | error fault => exact wellFormed
    | ok next =>
      obtain ⟨kept, -, retained⟩ := wellFormed.stepRoot stored.1 stepped
      exact ih kept fun root listed => retained root (stored.2 root listed)

theorem recurringRoots_stored {store : Store} {roots : List Task}
    (found : store.recurringRoots tenant = .ok roots) :
    ∀ root ∈ roots, store.hasTask root = true :=
  fun _ listed => hasTask_of_mem ((mem_recurringRoots found).mp listed).1

theorem generateRecurring {store after : Store} {supply : Supply} {summary : Summary}
    (wellFormed : store.WellFormed)
    (answered : store.generateRecurring supply horizon tenant now = .ok (summary, after)) :
    summary.errors = [] := by
  obtain ⟨_, roots, last, -, found, walked, rfl, -⟩ := generateRecurring_by_steps.mp answered
  exact foldlM_stepRoot roots wellFormed (recurringRoots_stored found) walked

theorem afterRecurring {store : Store} (wellFormed : store.WellFormed) (supply : Supply) :
    (store.afterRecurring supply horizon tenant now).WellFormed := by
  unfold Store.afterRecurring
  split
  · next found => exact walk _ wellFormed (recurringRoots_stored found)
  · exact wellFormed

end Pass

end Store.WellFormed

/-- A recurring task that is handed in is none of another tenant's, whatever else was changed in
it. -/
def Request.Known {α : Type} (store : Store) : Request α → Prop
  | materializeRecurring root _ _ =>
    (∃ task ∈ store.tasks, task.id = root.id) → store.hasTask root = true
  | _ => True

theorem Request.perform_wellFormed {α : Type} {store : Store} {supply : Supply}
    (request : Request α) (wellFormed : store.WellFormed) (known : request.Known store) :
    (request.perform tenant supply store).2.WellFormed := by
  cases request with
  | createPattern draft => exact Store.settle_keeps wellFormed fun _ _ => wellFormed.createPattern
  | updatePattern id change =>
    exact Store.settle_keeps wellFormed fun _ _ => wellFormed.updatePattern
  | togglePattern id => exact Store.settle_keeps wellFormed fun _ _ => wellFormed.togglePattern
  | seedPresets createdBy today => exact wellFormed.seedFrom presets
  | createTemplate draft =>
    exact Store.settle_keeps wellFormed fun _ _ => wellFormed.createTemplate
  | addTask draft => exact Store.settle_keeps wellFormed fun _ _ => wellFormed.addTaskDraft
  | materializeTemplate template due now =>
    exact Store.settle_keeps wellFormed fun _ _ => wellFormed.materializeTemplate
  | materializeRecurring root due now =>
    exact Store.settle_keeps wellFormed fun _ _ => wellFormed.materializeRecurring known
  | saveSettings wanted => exact Store.settle_keeps wellFormed fun _ _ => wellFormed.saveSettings
  | generate horizon now =>
    exact Store.settle_keeps wellFormed fun _ _ answered => (wellFormed.generate answered).1
  | generateRecurring horizon now => exact wellFormed.afterRecurring supply
  | _ => exact wellFormed

/-- The stores that requests lead to from the empty one. -/
inductive Store.Served : Store → Prop where
  | empty : Served .empty
  | asked {store : Store} (served : Served store) {α : Type} (request : Request α)
      (tenant : Uuid) (supply : Supply) (known : request.Known store) :
      Served (request.perform tenant supply store).2

theorem Store.Served.wellFormed {store : Store} (served : store.Served) : store.WellFormed := by
  induction served with
  | empty => exact .empty
  | asked _ request _ _ known ih => exact request.perform_wellFormed ih known

/-- Whatever was asked of a store, in any order: what is stored is well formed, a pass that has an
answer reports no error, and every tenant that has switched automation on is bound at its time. -/
theorem served_dependable {store : Store} (served : store.Served) :
    store.WellFormed ∧
    (∀ (supply : Supply) (horizon : Horizon) (tenant : Uuid) (now : Instant) summary after,
      store.generate supply horizon tenant now = .ok (summary, after) → summary.errors = []) ∧
    (∀ (supply : Supply) (horizon : Horizon) (tenant : Uuid) (now : Instant) summary after,
      store.generateRecurring supply horizon tenant now = .ok (summary, after) →
        summary.errors = []) ∧
    ∃ enabled, store.enabledSettings = .ok enabled ∧
      (∀ tenant settings, (tenant, settings) ∈ enabled ↔
        store.settings.get? tenant = some settings ∧ settings.enabled = true) ∧
      ∀ registry : Registry, (registry.bindAll enabled).1 = enabled.length ∧
        ∀ entry ∈ enabled, ∃ time : TriggerTime, entry.2.runTime = time.toText ∧
          (registry.bindAll enabled).2.bindings.get? entry.1 = some time := by
  have wellFormed := served.wellFormed
  refine ⟨wellFormed, ?_, ?_, store.settings.entries.filter fun entry => entry.2.enabled, ?_, ?_, ?_⟩
  · exact fun _ _ _ _ _ _ answered => (wellFormed.generate answered).2
  · exact fun _ _ _ _ _ _ answered => wellFormed.generateRecurring answered
  · unfold Store.enabledSettings
    rw [Store.use_ok.mpr wellFormed.isOpen]
    rfl
  · intro tenant settings
    rw [List.mem_filter, wellFormed.ascending.mem_entries]
  · intro registry
    apply Registry.bindAll_timed
    · exact (List.filter_sublist.map Prod.fst).nodup wellFormed.ascending.distinct
    · exact fun entry listed => wellFormed.timed entry (List.mem_filter.mp listed).1

/-- The office with automation switched on, at a time typed without its first digit. -/
def automatedOffice : Store :=
  { office with settings := ⟨[(.ofNat 1, { enabled := true, runTime := "07:05" })]⟩ }

theorem Store.Served.after {α : Type} {store after : Store} (served : store.Served)
    (request : Request α) (tenant : Uuid) (supply : Supply) (known : request.Known store)
    (left : (request.perform tenant supply store).2 = after) : after.Served :=
  left ▸ served.asked request tenant supply known

theorem automatedOffice_served : automatedOffice.Served := by
  have patterned : Store.Served { patterns := [{ pattern := filingPattern 2 true }] } :=
    Store.Served.empty.after
      (.createPattern { tenant := .ofNat 1, name := " Filing ", series := (filingPattern 2 true).series })
      (.ofNat 1) (opening 2) trivial (by decide +kernel)
  have templated : Store.Served { office with tasks := [] } :=
    patterned.after
      (.createTemplate
        { tenant := .ofNat 1, pattern := some (.ofNat 2), work := { title := "Return " } })
      (.ofNat 1) (opening 4) trivial (by decide +kernel)
  have staffed : office.Served :=
    templated.after
      (.addTask
        { tenant := .ofNat 1
          work := backup.work
          dueDate := backup.dueDate
          isRecurring := true
          interval := backup.interval })
      (.ofNat 1) (opening 5) trivial (by decide +kernel)
  exact staffed.after (.saveSettings { enabled := true, runTime := "7:05" }) (.ofNat 1)
    (opening 9) trivial (by decide +kernel)

theorem automatedOffice_dependable :
    automatedOffice.Served ∧
    (∃ summary after, automatedOffice.generate filingSupply {} (.ofNat 1) filingDay =
      .ok (summary, after) ∧ summary.count = 1 ∧ summary.errors = []) ∧
    ∃ enabled, automatedOffice.enabledSettings = .ok enabled ∧ enabled.length = 1 ∧
      (Registry.bindAll {} enabled).1 = enabled.length := by
  obtain ⟨-, silent, -, enabled, listed, -, bound⟩ := served_dependable automatedOffice_served
  refine ⟨automatedOffice_served, ?_, enabled, listed, ?_, (bound {}).1⟩
  · have made : (automatedOffice.generate filingSupply {} (.ofNat 1) filingDay).toOption.map
        (fun result => result.1.count) = some 1 := by decide +kernel
    cases answered : automatedOffice.generate filingSupply {} (.ofNat 1) filingDay with
    | error failure =>
      rw [answered] at made
      cases made
    | ok result =>
      rw [answered] at made
      exact ⟨result.1, result.2, rfl, Option.some.inj made, silent _ _ _ _ _ _ answered⟩
  · have one : (automatedOffice.enabledSettings.toOption.map List.length) = some 1 := by
      decide +kernel
    rw [listed] at one
    exact Option.some.inj one

end Rota
