import Rota.Proofs.Generation.Growth
import Rota.Proofs.Store.Writes

/-!
The stores that the operations reach from the empty one, for any tenants, at any instants and in any
order. Identifiers are primary keys, so those of the patterns, of the templates and of the tasks in
a store are distinct. Everything else that makes a store consistent is kept by the operations
themselves: a pass is a run of single tasks made, each of which keeps it.
-/

namespace Rota

/-- Between two stores only tasks were added and templates stamped, and none of the tasks recurs. -/
def Store.AddsLeaves (store after : Store) : Prop :=
  ∃ created, store.Grown after created ∧ ∀ task ∈ created, task.isRoot = false

namespace Store.AddsLeaves

variable {store middle after : Store}

theorem refl (store : Store) : store.AddsLeaves store :=
  ⟨[], Grown.refl store, by simp⟩

theorem trans (first : store.AddsLeaves middle) (second : middle.AddsLeaves after) :
    store.AddsLeaves after := by
  obtain ⟨earlier, firstGrown, firstLeaves⟩ := first
  obtain ⟨later, secondGrown, secondLeaves⟩ := second
  refine ⟨earlier ++ later, firstGrown.trans secondGrown, ?_⟩
  intro task member
  rcases List.mem_append.mp member with old | new
  · exact firstLeaves task old
  · exact secondLeaves task new

theorem mem (adds : store.AddsLeaves after) {task : Task} (listed : task ∈ store.tasks) :
    task ∈ after.tasks := by
  obtain ⟨created, grown, -⟩ := adds
  rw [grown.tasks]
  exact List.mem_append_left _ listed

theorem keyed (adds : store.AddsLeaves after) (keyed : store.Keyed) : after.Keyed := by
  obtain ⟨created, grown, -⟩ := adds
  exact grown.keyed keyed

theorem recurringRoots (adds : store.AddsLeaves after) (tenant : Uuid) :
    after.recurringRoots tenant = store.recurringRoots tenant := by
  obtain ⟨created, grown, leaves⟩ := adds
  have rootless : ((created.map Task.kept).filter fun task =>
      task.tenant == tenant && task.isRoot) = [] := by
    rw [List.filter_eq_nil_iff]
    intro task member
    obtain ⟨made, listed, rfl⟩ := List.mem_map.mp member
    have leaf : made.kept.isRoot = false := leaves made listed
    simp [leaf]
  unfold Store.recurringRoots tasksWhere use
  rw [grown.isOpen, grown.tasks, List.filter_append, rootless, List.append_nil]

end Store.AddsLeaves

section Instances
variable {store after : Store} {supply : Supply} {due : Date} {now : Instant}
  {outcome : Materialized}

/-- A template that is stored, perhaps with a later stamp. -/
def Store.Stores (store : Store) (template : Template) : Prop :=
  ∃ row ∈ store.templates, row.unstamped = template.unstamped

theorem Store.Stores.hasTemplate {template : Template} (stored : store.Stores template) :
    store.hasTemplate template = true := by
  obtain ⟨row, listed, same⟩ := stored
  obtain ⟨id, tenant, -, -⟩ := unstamped_fields same
  exact List.any_eq_true.mpr ⟨row, listed, Template.isFor_iff.mpr ⟨tenant, id⟩⟩

theorem Store.AddsLeaves.stores {template : Template} (adds : store.AddsLeaves after)
    (stored : store.Stores template) : after.Stores template := by
  obtain ⟨created, grown, -⟩ := adds
  obtain ⟨row, listed, same⟩ := stored
  obtain ⟨later, present, unchanged⟩ := grown.template_after listed
  exact ⟨later, present, unchanged.trans same⟩

theorem withInstance_addsLeaves {template : Template} (id : Nat → Uuid) :
    store.AddsLeaves (store.withInstance template (template.instantiate due now id) now) := by
  refine ⟨[template.instantiate due now id], ⟨rfl, ?_, rfl, rfl, rfl, rfl⟩, ?_⟩
  · rw [Store.withInstance, List.map_map]
    apply List.map_congr_left
    intro row _
    rw [Function.comp_apply]
    split <;> rfl
  · intro task member
    rw [List.mem_singleton.mp member]
    rfl

theorem materializeTemplate_keeps {template : Template} (consistent : store.Consistent)
    (keyed : store.Keyed) (stored : store.Stores template)
    (answered : store.materializeTemplate supply template due now = .ok (outcome, after)) :
    after.Consistent ∧ store.AddsLeaves after := by
  rcases Store.materializeTemplate_ok stored.hasTemplate answered with rfl | ⟨absent, rfl⟩
  · exact ⟨consistent, .refl _⟩
  · exact ⟨consistent.addInstance supply.id keyed stored absent, withInstance_addsLeaves supply.id⟩

theorem materializeRecurring_keeps {root : Task} (consistent : store.Consistent)
    (listed : root ∈ store.tasks)
    (answered : store.materializeRecurring supply root due now = .ok (outcome, after)) :
    after.Consistent ∧ store.AddsLeaves after := by
  rcases Store.materializeRecurring_ok answered with ⟨-, rfl⟩ | ⟨content, occurrence, -, rfl⟩
  · exact ⟨consistent, .refl _⟩
  · constructor
    · exact consistent.addRepeated supply.id listed content occurrence
    · refine ⟨[root.instantiate due now supply.id], ⟨rfl, rfl, rfl, rfl, rfl, rfl⟩, ?_⟩
      intro task member
      rw [List.mem_singleton.mp member]
      rfl

end Instances

section Pass
variable {horizon : Horizon} {tenant : Uuid} {today : Date} {now : Instant}
  {resolutions : List (Uuid × Resolution)}

theorem record_store {progress : Progress} {source : Uuid} {work : Work}
    (made : Attempt (Materialized × Store)) :
    (progress.record source work made).store = progress.store ∨
      ∃ outcome, made = .ok (outcome, (progress.record source work made).store) := by
  rcases made with error | ⟨task | existing, after⟩
  · exact Or.inl rfl
  · exact Or.inr ⟨.created task, rfl⟩
  · exact Or.inl rfl

/-- A step of a pass writes only by making the task of an occurrence. -/
theorem stepTemplate_store (resolutions : List (Uuid × Resolution)) (now : Instant)
    (progress : Progress) (template : Template) :
    (stepTemplate resolutions now progress template).store = progress.store ∨
      ∃ due outcome, progress.store.materializeTemplate progress.supply template due now =
        .ok (outcome, (stepTemplate resolutions now progress template).store) := by
  unfold stepTemplate
  split
  · exact Or.inl rfl
  · split
    · exact Or.inl rfl
    · exact Or.inl rfl
    · next due _ =>
      rcases record_store (progress.store.materializeTemplate progress.supply template due now)
        with same | ⟨outcome, made⟩
      · exact Or.inl same
      · exact Or.inr ⟨due, outcome, made⟩
    · split <;> exact Or.inl rfl

theorem record_tenant (progress : Progress) (source : Uuid) (work : Work)
    (made : Attempt (Materialized × Store)) :
    (progress.record source work made).summary.tenant = progress.summary.tenant := by
  rcases made with fault | ⟨task | existing, after⟩ <;> rfl

theorem stepTemplate_tenant (resolutions : List (Uuid × Resolution)) (now : Instant)
    (progress : Progress) (template : Template) :
    (stepTemplate resolutions now progress template).summary.tenant = progress.summary.tenant := by
  unfold stepTemplate
  repeat' split
  all_goals first | rfl | exact record_tenant _ _ _ _

theorem stepTemplate_frame (resolutions : List (Uuid × Resolution)) (now : Instant)
    (progress : Progress) (template : Template) :
    (stepTemplate resolutions now progress template).store.patterns = progress.store.patterns ∧
      ∀ other : Template, (stepTemplate resolutions now progress template).store.hasTemplate other =
        progress.store.hasTemplate other := by
  rcases stepTemplate_store resolutions now progress template with same | ⟨due, outcome, made⟩
  · exact ⟨by rw [same], fun other => by rw [same]⟩
  · rcases Store.materializeTemplate_written made with same | ⟨-, grown⟩
    · exact ⟨by rw [same], fun other => by rw [same]⟩
    · exact ⟨by rw [grown]; rfl, fun other => by rw [grown, Store.hasTemplate_withInstance]⟩

theorem stepRoot_store {progress next : Progress} {root : Task}
    (answered : stepRoot horizon today now progress root = .ok next) :
    next.store = progress.store ∨
      ∃ due outcome, progress.store.materializeRecurring progress.supply root due now =
        .ok (outcome, next.store) := by
  obtain ⟨resolution, -, answered⟩ := bind_ok.mp answered
  rcases resolution with _ | resolution
  · cases answered
    exact Or.inl rfl
  · cases resolution with
    | exhausted =>
      cases answered
      exact Or.inl rfl
    | notDue date =>
      cases answered
      exact Or.inl rfl
    | due date =>
      cases answered
      rcases record_store (progress.store.materializeRecurring progress.supply root date now)
        with same | ⟨outcome, made⟩
      · exact Or.inl same
      · exact Or.inr ⟨date, outcome, made⟩

/-- The templates were read before the pass, so those that come later may be stamped by now. -/
theorem foldl_stepTemplate_keeps (templates : List Template) (progress : Progress)
    (consistent : progress.store.Consistent) (keyed : progress.store.Keyed)
    (stored : ∀ template ∈ templates, progress.store.Stores template) :
    (templates.foldl (stepTemplate resolutions now) progress).store.Consistent ∧
      progress.store.AddsLeaves (templates.foldl (stepTemplate resolutions now) progress).store := by
  induction templates generalizing progress with
  | nil => exact ⟨consistent, .refl _⟩
  | cons first rest ih =>
    have kept : (stepTemplate resolutions now progress first).store.Consistent ∧
        progress.store.AddsLeaves (stepTemplate resolutions now progress first).store := by
      rcases stepTemplate_store resolutions now progress first with same | ⟨due, outcome, made⟩
      · rw [same]
        exact ⟨consistent, .refl _⟩
      · exact materializeTemplate_keeps consistent keyed (stored first List.mem_cons_self) made
    obtain ⟨stepConsistent, stepAdds⟩ := kept
    obtain ⟨lastConsistent, laterAdds⟩ := ih _ stepConsistent (stepAdds.keyed keyed)
      fun template member => stepAdds.stores (stored template (List.mem_cons_of_mem _ member))
    exact ⟨lastConsistent, stepAdds.trans laterAdds⟩

theorem foldlM_stepRoot_keeps (roots : List Task) {progress last : Progress}
    (consistent : progress.store.Consistent) (listed : ∀ root ∈ roots, root ∈ progress.store.tasks)
    (answered : roots.foldlM (stepRoot horizon today now) progress = .ok last) :
    last.store.Consistent ∧ progress.store.AddsLeaves last.store := by
  induction roots generalizing progress with
  | nil =>
    cases answered
    exact ⟨consistent, .refl _⟩
  | cons first rest ih =>
    rw [List.foldlM_cons] at answered
    obtain ⟨next, stepped, answered⟩ := bind_ok.mp answered
    have kept : next.store.Consistent ∧ progress.store.AddsLeaves next.store := by
      rcases stepRoot_store stepped with same | ⟨due, outcome, made⟩
      · rw [same]
        exact ⟨consistent, .refl _⟩
      · exact materializeRecurring_keeps consistent (listed first List.mem_cons_self) made
    obtain ⟨stepConsistent, stepAdds⟩ := kept
    obtain ⟨lastConsistent, laterAdds⟩ := ih stepConsistent
      (fun root member => stepAdds.mem (listed root (List.mem_cons_of_mem _ member))) answered
    exact ⟨lastConsistent, stepAdds.trans laterAdds⟩

variable {store after : Store} {supply : Supply} {summary : Summary}

theorem generate_keeps (consistent : store.Consistent) (keyed : store.Keyed)
    (answered : store.generate supply horizon tenant now = .ok (summary, after)) :
    after.Consistent ∧ store.AddsLeaves after := by
  obtain ⟨_, _, _, -, -, -, rfl, rfl⟩ := Store.generate_by_steps.mp answered
  apply foldl_stepTemplate_keeps
  · exact consistent
  · exact keyed
  · intro template member
    exact ⟨template, (List.mem_filter.mp member).1, rfl⟩

theorem generateRecurring_keeps (consistent : store.Consistent)
    (answered : store.generateRecurring supply horizon tenant now = .ok (summary, after)) :
    after.Consistent ∧ store.AddsLeaves after := by
  obtain ⟨_, roots, last, -, found, walked, rfl, rfl⟩ :=
    Store.generateRecurring_by_steps.mp answered
  obtain ⟨_, _, found⟩ := bind_ok.mp found
  cases found
  apply foldlM_stepRoot_keeps _ consistent _ walked
  intro root member
  exact (List.mem_filter.mp member).1

end Pass

structure Store.Identified (store : Store) : Prop extends store.Keyed where
  tasks : (store.tasks.map Task.id).Nodup

inductive Store.Makes (store : Store) : Store → Prop where
  | template {supply : Supply} {template : Template} {due : Date} {now : Instant}
      {outcome : Materialized} {after : Store} (listed : template ∈ store.templates)
      (answered : store.materializeTemplate supply template due now = .ok (outcome, after)) :
      store.Makes after
  | recurring {supply : Supply} {root : Task} {due : Date} {now : Instant}
      {outcome : Materialized} {after : Store} (listed : root ∈ store.tasks)
      (answered : store.materializeRecurring supply root due now = .ok (outcome, after)) :
      store.Makes after
  | pass {supply : Supply} {horizon : Horizon} {tenant : Uuid} {now : Instant}
      {summary : Summary} {after : Store}
      (answered : store.generate supply horizon tenant now = .ok (summary, after)) :
      store.Makes after
  | recurringPass {supply : Supply} {horizon : Horizon} {tenant : Uuid} {now : Instant}
      {summary : Summary} {after : Store}
      (answered : store.generateRecurring supply horizon tenant now = .ok (summary, after)) :
      store.Makes after

/-- A writing operation, for any tenant. One that fails writes nothing, except that the presets
before the one that failed are there. -/
inductive Store.Step (store : Store) : Store → Prop where
  | createPattern {supply : Supply} {draft : PatternDraft} {pattern : Pattern} {after : Store}
      (answered : store.createPattern supply draft = .ok (pattern, after)) : store.Step after
  | updatePattern {supply : Supply} {tenant id : Uuid} {change : PatternChange}
      {pattern : Pattern} {after : Store}
      (answered : store.updatePattern supply tenant id change = .ok (pattern, after)) :
      store.Step after
  | togglePattern {supply : Supply} {tenant id : Uuid} {pattern : Pattern} {after : Store}
      (answered : store.togglePattern supply tenant id = .ok (pattern, after)) : store.Step after
  | seedPresets (supply : Supply) (tenant : Uuid) (createdBy : Option Uuid) (today : Date) :
      store.Step (store.seedPresets supply tenant createdBy today).2
  | createTemplate {supply : Supply} {draft : TemplateDraft} {template : Template} {after : Store}
      (answered : store.createTemplate supply draft = .ok (template, after)) : store.Step after
  | addTask {supply : Supply} {draft : TaskDraft} {task : Task} {after : Store}
      (answered : store.addTask supply draft = .ok (task, after)) : store.Step after
  | saveSettings {tenant : Uuid} {settings saved : Settings} {after : Store}
      (answered : store.saveSettings tenant settings = .ok (saved, after)) : store.Step after
  | makes {after : Store} (made : store.Makes after) : store.Step after

inductive Store.Reached : Store → Prop where
  | empty : Reached .empty
  | step {store after : Store} (reached : Reached store) (step : store.Step after)
      (identified : after.Identified) : Reached after

section Reached
variable {store after : Store}

theorem Store.Makes.keeps (made : store.Makes after) (consistent : store.Consistent)
    (keyed : store.Keyed) : after.Consistent ∧ store.AddsLeaves after := by
  cases made with
  | template listed answered =>
    exact materializeTemplate_keeps consistent keyed ⟨_, listed, rfl⟩ answered
  | recurring listed answered => exact materializeRecurring_keeps consistent listed answered
  | pass answered => exact generate_keeps consistent keyed answered
  | recurringPass answered => exact generateRecurring_keeps consistent answered

theorem Store.Consistent.sameRows (consistent : store.Consistent) (same : store.SameRows after) :
    after.Consistent := consistent.of_rows same.tasks same.templates

theorem Store.Step.consistent (step : store.Step after) (consistent : store.Consistent)
    (keyed : store.Keyed) (identified : after.Identified) : after.Consistent := by
  cases step with
  | createPattern answered => exact consistent.sameRows (createPattern_rows answered)
  | updatePattern answered => exact consistent.sameRows (updatePattern_rows answered)
  | togglePattern answered => exact consistent.sameRows (togglePattern_rows answered)
  | seedPresets => exact consistent.sameRows (seedFrom_rows presets)
  | saveSettings answered => exact consistent.sameRows (saveSettings_rows answered)
  | createTemplate answered =>
    obtain ⟨row, unused, -, -, -, -, rfl⟩ := createTemplate_ok answered
    apply consistent.addTemplate _ unused
    have distinct := identified.templates
    rw [List.map_append, List.nodup_append_comm] at distinct
    exact (List.nodup_cons.mp distinct).1
  | addTask answered =>
    obtain ⟨unmade, rootless, rfl | rfl⟩ := addTask_ok answered
    · exact consistent
    · exact consistent.add unmade rootless
  | makes made => exact (made.keeps consistent keyed).1

theorem Store.Reached.identified (reached : store.Reached) : store.Identified := by
  cases reached with
  | empty => exact ⟨⟨.nil, .nil⟩, .nil⟩
  | step _ _ identified => exact identified

theorem Store.Reached.consistent (reached : store.Reached) : store.Consistent := by
  induction reached with
  | empty => exact .empty
  | step earlier step identified ih => exact step.consistent ih earlier.identified.toKeyed identified

theorem Store.Consistent.unused_iff (consistent : store.Consistent) {template : Template}
    (listed : template ∈ store.templates) :
    template.lastGenerated = none ↔ ∀ task ∈ store.tasks, task.template ≠ some template.id := by
  rw [consistent.stamps template listed, Option.map_eq_none_iff, Store.lastTaskOf,
    List.getLast?_eq_none_iff, List.filter_eq_nil_iff]
  simp

theorem Store.Consistent.roots_handmade (consistent : store.Consistent) {tenant : Uuid}
    {roots : List Task} (found : store.recurringRoots tenant = .ok roots) :
    ∀ root ∈ roots, root.isGenerated = false := by
  obtain ⟨_, _, found⟩ := bind_ok.mp found
  cases found
  intro root member
  obtain ⟨listed, recurs⟩ := List.mem_filter.mp member
  rw [Bool.eq_false_iff]
  intro generated
  obtain ⟨still, -, -⟩ := consistent.leaves root listed generated
  simp [Task.isRoot, still] at recurs

end Reached

/-- What holds of every store that the operations reach, and of every making of tasks there. -/
theorem reached_consistent {store : Store} (reached : store.Reached) :
    store.Consistent ∧
    (∀ template ∈ store.templates, template.lastGenerated = none ↔
      ∀ task ∈ store.tasks, task.template ≠ some template.id) ∧
    (∀ tenant roots, store.recurringRoots tenant = .ok roots →
      ∀ root ∈ roots, root.isGenerated = false) ∧
    ∀ after, store.Makes after →
      ∀ tenant, after.recurringRoots tenant = store.recurringRoots tenant := by
  have consistent := reached.consistent
  refine ⟨consistent, ?_, ?_, ?_⟩
  · exact fun template listed => consistent.unused_iff listed
  · exact fun tenant roots found => consistent.roots_handmade found
  · intro after made tenant
    exact (made.keeps consistent reached.identified.toKeyed).2.recurringRoots tenant

def opening (first : Nat) : Supply :=
  { id := fun n => .ofNat (first + n), clock := .midnight filingStart }

def backupDue : Date := ⟨19835, by decide, by decide⟩ -- 22 April 2024

def backup : Task :=
  { id := .ofNat 5
    tenant := .ofNat 1
    template := none
    parent := none
    work := { title := "Backup" }
    status := .todo
    dueDate := some filingStart
    isRecurring := true
    interval := some 7
    monthlyDate := none
    createdAt := .midnight filingStart
    updatedAt := .midnight filingStart }

def office : Store :=
  { patterns := [{ pattern := filingPattern 2 true }]
    templates := [filingTemplate 4 2 "Return"]
    tasks := [backup] }

def officeFiled : Store :=
  office.withInstance (filingTemplate 4 2 "Return")
    ((filingTemplate 4 2 "Return").instantiate filingDue filingDay filingSupply.id) filingDay

def officeBackedUp : Store :=
  { officeFiled with
    tasks := officeFiled.tasks ++ [backup.instantiate backupDue filingDay (opening 200).id] }

theorem ok_of_store {ε α : Type} {attempt : Except ε (α × Store)} {after : Store}
    (ends : attempt.toOption.map Prod.snd = some after) : ∃ a, attempt = .ok (a, after) := by
  cases attempt with
  | error fault => cases ends
  | ok result =>
    obtain ⟨a, last⟩ := result
    cases ends
    exact ⟨a, rfl⟩

theorem office_reached : office.Reached := by
  have patterned : Store.Reached { patterns := [{ pattern := filingPattern 2 true }] } := by
    obtain ⟨_, created⟩ := ok_of_store (show ((Store.empty.createPattern (opening 2)
      { tenant := .ofNat 1, name := "Filing", series := (filingPattern 2 true).series }
      ).toOption.map Prod.snd) = some { patterns := [{ pattern := filingPattern 2 true }] } by
        decide +kernel)
    exact .step .empty (.createPattern created) ⟨⟨by decide +kernel, .nil⟩, .nil⟩
  have templated : Store.Reached { office with tasks := [] } := by
    obtain ⟨_, created⟩ := ok_of_store (show ((Store.createTemplate
      { patterns := [{ pattern := filingPattern 2 true }] } (opening 4)
      { tenant := .ofNat 1, pattern := some (.ofNat 2), work := { title := "Return" } }
      ).toOption.map Prod.snd) = some { office with tasks := [] } by decide +kernel)
    exact .step patterned (.createTemplate created)
      ⟨⟨by decide +kernel, by decide +kernel⟩, .nil⟩
  obtain ⟨_, added⟩ := ok_of_store (show ((Store.addTask { office with tasks := [] } (opening 5)
    { tenant := .ofNat 1, work := { title := "Backup" }, dueDate := some filingStart,
      isRecurring := true, interval := some 7 }).toOption.map Prod.snd) = some office by
      decide +kernel)
  exact .step templated (.addTask added)
    ⟨⟨by decide +kernel, by decide +kernel⟩, by decide +kernel⟩

theorem officeBackedUp_reached : officeBackedUp.Reached := by
  have filed : officeFiled.Reached := by
    obtain ⟨_, generated⟩ := ok_of_store (show ((office.generate filingSupply {} (.ofNat 1)
      filingDay).toOption.map Prod.snd) = some officeFiled by decide +kernel)
    exact .step office_reached (.makes (.pass generated))
      ⟨⟨by decide +kernel, by decide +kernel⟩, by decide +kernel⟩
  obtain ⟨_, generated⟩ := ok_of_store (show ((officeFiled.generateRecurring (opening 200) {}
    (.ofNat 1) filingDay).toOption.map Prod.snd) = some officeBackedUp by decide +kernel)
  exact .step filed (.makes (.recurringPass generated))
    ⟨⟨by decide +kernel, by decide +kernel⟩, by decide +kernel⟩

theorem officeBackedUp_consistent :
    officeBackedUp.Reached ∧
      (officeBackedUp.tasks.map Task.isGenerated) = [false, true, true] ∧
      officeBackedUp.Consistent := by
  refine ⟨officeBackedUp_reached, by decide +kernel, ?_⟩
  exact (reached_consistent officeBackedUp_reached).1

end Rota
