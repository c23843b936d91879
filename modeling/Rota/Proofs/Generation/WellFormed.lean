import Rota.Proofs.Generation.Lineage
import Rota.Proofs.Generation.Sound
import Rota.Proofs.Schedule.TriggerText
import Rota.Proofs.Store.Repeats
import Rota.Proofs.Store.TenantMaps
import Rota.Proofs.Text.Trim

/-!
What the passes and the registry rely on without looking. Names and titles are tidy, rules, ends,
intervals and times are ones that were accepted, and what a row refers to is stored for the same
tenant. Every write keeps this, as it keeps the keys of all rows and adds only what was checked.
-/

namespace Rota

/-- A name or title as it is kept: not blank, and with no white space around it. -/
def Text.Tidy (text : String) : Prop := trim text = text ∧ isBlankText text = false

theorem Text.tidy_trim {text : String} (named : isBlankText text = false) : Tidy (trim text) :=
  ⟨trim_trim text, by rw [isBlankText_trim, named]⟩

namespace Store

variable {store after : Store} {tenant id : Uuid} {supply : Supply} {pattern : Pattern}

/-- What the task is an instance of is stored for its tenant, and its interval can be counted. -/
structure Backs (store : Store) (task : Task) : Prop where
  template : ∀ id, task.template = some id →
    ∃ template ∈ store.templates, template.isFor task.tenant id = true
  parent : ∀ id, task.parent = some id → ∃ root ∈ store.tasks, root.isFor task.tenant id = true
  interval : ∀ interval, task.interval = some interval → 0 < interval

structure WellFormed (store : Store) : Prop extends store.Sound where
  named : ∀ row ∈ store.patterns, Text.Tidy row.pattern.name
  ended : ∀ row ∈ store.patterns, row.pattern.series.ending.check = .ok ()
  titled : ∀ template ∈ store.templates, Text.Tidy template.work.title
  bound : ∀ template ∈ store.templates, ∀ id, template.pattern = some id →
    ∃ row ∈ store.patterns, row.isFor template.tenant id = true
  backed : ∀ task ∈ store.tasks, store.Backs task
  timed : ∀ entry ∈ store.settings.entries, ∃ time : TriggerTime, entry.2.runTime = time.toText
  ascending : store.settings.Ascending

structure Retains (store after : Store) : Prop where
  templates : ∀ row ∈ store.templates, ∃ kept ∈ after.templates,
    kept.tenant = row.tenant ∧ kept.id = row.id
  tasks : ∀ row ∈ store.tasks, row ∈ after.tasks

theorem Retains.of_rows (same : store.SameRows after) : store.Retains after := by
  constructor
  · intro row listed
    exact ⟨row, same.templates ▸ listed, rfl, rfl⟩
  · intro row listed
    exact same.tasks ▸ listed

theorem Backs.mono {task : Task} (backs : store.Backs task) (retains : store.Retains after) :
    after.Backs task := by
  refine ⟨fun id same => ?_, fun id same => ?_, backs.interval⟩
  · obtain ⟨row, listed, keyed⟩ := backs.template id same
    obtain ⟨kept, there, owner, key⟩ := retains.templates row listed
    rw [Template.isFor_iff] at keyed
    exact ⟨kept, there, Template.isFor_iff.mpr ⟨owner.trans keyed.1, key.trans keyed.2⟩⟩
  · obtain ⟨root, listed, keyed⟩ := backs.parent id same
    exact ⟨root, retains.tasks root listed, keyed⟩

namespace WellFormed

theorem empty : Store.empty.WellFormed :=
  { Sound.empty with
    named := by simp [Store.empty]
    ended := by simp [Store.empty]
    titled := by simp [Store.empty]
    bound := by simp [Store.empty]
    backed := by simp [Store.empty]
    timed := by simp [Store.empty]
    ascending := .nil }

theorem addPattern (wellFormed : store.WellFormed) (named : Text.Tidy pattern.name)
    (ruled : pattern.series.rule.check = .ok ()) (ended : pattern.series.ending.check = .ok ()) :
    ({ store with patterns := store.patterns ++ [{ pattern }] } : Store).WellFormed := by
  refine { wellFormed.toSound.addPattern ruled, wellFormed with
    named := ?_, ended := ?_, bound := ?_, backed := ?_ }
  · simpa [or_imp, forall_and] using ⟨wellFormed.named, named⟩
  · simpa [or_imp, forall_and] using ⟨wellFormed.ended, ended⟩
  · intro template listed id same
    obtain ⟨row, there, keyed⟩ := wellFormed.bound template listed id same
    exact ⟨row, List.mem_append_left _ there, keyed⟩
  · exact fun task listed => (wellFormed.backed task listed).mono (.of_rows ⟨rfl, rfl⟩)

theorem putPattern (wellFormed : store.WellFormed) (named : Text.Tidy pattern.name)
    (ruled : pattern.series.rule.check = .ok ()) (ended : pattern.series.ending.check = .ok ()) :
    (store.putPattern pattern).WellFormed := by
  refine { wellFormed.toSound.putPattern ruled, wellFormed with
    named := ?_, ended := ?_, bound := ?_, backed := ?_ }
  · intro row member
    obtain ⟨old, listed, rfl⟩ := List.mem_map.mp member
    split
    · exact named
    · exact wellFormed.named old listed
  · intro row member
    obtain ⟨old, listed, rfl⟩ := List.mem_map.mp member
    split
    · exact ended
    · exact wellFormed.ended old listed
  · intro template listed id same
    obtain ⟨row, there, keyed⟩ := wellFormed.bound template listed id same
    refine ⟨_, List.mem_map_of_mem there, ?_⟩
    split
    · next put =>
      -- The row that is written over keeps its key.
      rw [PatternRow.isFor_iff] at put keyed ⊢
      exact ⟨put.1.symm.trans keyed.1, put.2.symm.trans keyed.2⟩
    · exact keyed
  · exact fun task listed => (wellFormed.backed task listed).mono (.of_rows ⟨rfl, rfl⟩)

theorem addTemplate {row : Template} (wellFormed : store.WellFormed)
    (titled : Text.Tidy row.work.title) (bound : ∀ id, row.pattern = some id →
      ∃ bound ∈ store.patterns, bound.isFor row.tenant id = true) :
    ({ store with templates := store.templates ++ [row] } : Store).WellFormed := by
  refine { wellFormed.toSound.of_same ⟨rfl, rfl, rfl⟩, wellFormed with
    titled := ?_, bound := ?_, backed := ?_ }
  · simpa [or_imp, forall_and] using ⟨wellFormed.titled, titled⟩
  · intro template member
    rcases List.mem_append.mp member with old | new
    · exact wellFormed.bound template old
    · rw [List.mem_singleton.mp new]
      exact bound
  · intro task listed
    apply (wellFormed.backed task listed).mono
    exact ⟨fun row there => ⟨row, List.mem_append_left _ there, rfl, rfl⟩, fun _ there => there⟩

theorem addTask {task : Task} (wellFormed : store.WellFormed) (backs : store.Backs task) :
    ({ store with tasks := store.tasks ++ [task] } : Store).WellFormed := by
  have retains : store.Retains { store with tasks := store.tasks ++ [task] } :=
    ⟨fun row there => ⟨row, there, rfl, rfl⟩, fun _ there => List.mem_append_left _ there⟩
  refine { wellFormed.toSound.of_same ⟨rfl, rfl, rfl⟩, wellFormed with backed := ?_ }
  intro other member
  rcases List.mem_append.mp member with old | new
  · exact (wellFormed.backed other old).mono retains
  · rw [List.mem_singleton.mp new]
    exact backs.mono retains

theorem markGenerated (wellFormed : store.WellFormed) (now : Instant) :
    (store.markGenerated tenant id now).WellFormed := by
  refine { wellFormed.toSound.of_same ⟨rfl, rfl, rfl⟩, wellFormed with
    titled := ?_, bound := ?_, backed := ?_ }
  · intro row member
    obtain ⟨old, listed, rfl⟩ := List.mem_map.mp member
    split <;> exact wellFormed.titled old listed
  · intro row member
    obtain ⟨old, listed, rfl⟩ := List.mem_map.mp member
    split <;> exact wellFormed.bound old listed
  · intro task listed
    apply (wellFormed.backed task listed).mono
    refine ⟨fun row there => ⟨_, List.mem_map_of_mem there, ?_⟩, fun _ there => there⟩
    split <;> exact ⟨rfl, rfl⟩

theorem putSettings (wellFormed : store.WellFormed) {settings : Settings} (time : TriggerTime)
    (timed : settings.runTime = time.toText) :
    ({ store with settings := store.settings.insert tenant settings } : Store).WellFormed := by
  refine { wellFormed.toSound.of_same ⟨rfl, rfl, rfl⟩, wellFormed with
    backed := ?_, timed := ?_, ascending := wellFormed.ascending.insert }
  · exact fun task listed => (wellFormed.backed task listed).mono (.of_rows ⟨rfl, rfl⟩)
  · intro entry member
    rcases TenantMap.mem_insertEntry member with rfl | old
    · exact ⟨time, timed⟩
    · exact wellFormed.timed entry old

section Operations

theorem createPattern {draft : PatternDraft} (wellFormed : store.WellFormed)
    (answered : store.createPattern supply draft = .ok (pattern, after)) : after.WellFormed := by
  obtain ⟨passed, name, rfl⟩ := createPattern_ok answered
  obtain ⟨named, ruled, ended⟩ := checkPattern_ok.mp passed
  apply wellFormed.addPattern _ ruled ended
  rw [name]
  exact Text.tidy_trim named

/-- A name that is not changed was tidy before, and one that is changed is trimmed. -/
theorem updatePattern {change : PatternChange} (wellFormed : store.WellFormed)
    (answered : store.updatePattern supply tenant id change = .ok (pattern, after)) :
    after.WellFormed := by
  obtain ⟨passed, ⟨row, listed, name⟩, rfl⟩ := updatePattern_ok answered
  obtain ⟨named, ruled, ended⟩ := checkPattern_ok.mp passed
  refine wellFormed.putPattern ⟨?_, named⟩ ruled ended
  rw [name]
  cases given : change.name with
  | none => simpa [PatternChange.apply, given] using (wellFormed.named row listed).1
  | some text => simp [PatternChange.apply, given, Text.trim_trim]

theorem togglePattern (wellFormed : store.WellFormed)
    (answered : store.togglePattern supply tenant id = .ok (pattern, after)) :
    after.WellFormed := by
  obtain ⟨⟨row, listed, name, series⟩, rfl⟩ := togglePattern_ok answered
  apply wellFormed.putPattern
  · exact name ▸ wellFormed.named row listed
  · exact series ▸ wellFormed.checked row listed
  · exact series ▸ wellFormed.ended row listed

theorem seedFrom {createdBy : Option Uuid} {startsOn : Date} (presets : List Preset)
    (wellFormed : store.WellFormed) :
    (store.seedFrom supply tenant createdBy startsOn presets).2.WellFormed := by
  induction presets generalizing store supply with
  | nil => exact wellFormed
  | cons preset rest ih =>
    unfold Store.seedFrom
    split
    · exact wellFormed
    · exact ih wellFormed
    · split
      · exact wellFormed
      · next created => exact ih (wellFormed.createPattern created)

theorem createTemplate {draft : TemplateDraft} {template : Template}
    (wellFormed : store.WellFormed)
    (answered : store.createTemplate supply draft = .ok (template, after)) :
    after.WellFormed := by
  obtain ⟨row, -, titled, title, -, bound, rfl⟩ := createTemplate_ok answered
  apply wellFormed.addTemplate _ bound
  rw [title]
  exact Text.tidy_trim titled

theorem addTaskDraft {draft : TaskDraft} {task : Task} (wellFormed : store.WellFormed)
    (answered : store.addTask supply draft = .ok (task, after)) : after.WellFormed := by
  obtain ⟨free, rootless, rfl | rfl⟩ := addTask_ok answered
  · exact wellFormed
  · apply wellFormed.addTask
    exact ⟨by simp [Task.kept, free], by simp [Task.kept, rootless],
      fun interval => addTask_interval answered⟩

theorem saveSettings {settings saved : Settings} (wellFormed : store.WellFormed)
    (answered : store.saveSettings tenant settings = .ok (saved, after)) : after.WellFormed := by
  obtain ⟨⟨time, -, rfl⟩, rfl⟩ := saveSettings_ok answered
  exact wellFormed.putSettings time rfl

variable {due : Date} {now : Instant} {outcome : Materialized}

theorem materializeTemplate {template : Template} (wellFormed : store.WellFormed)
    (answered : store.materializeTemplate supply template due now = .ok (outcome, after)) :
    after.WellFormed := by
  rcases materializeTemplate_written answered with rfl | ⟨stored, rfl⟩
  · exact wellFormed
  · obtain ⟨row, listed, keyed⟩ := List.any_eq_true.mp stored
    rw [withInstance_eq]
    apply WellFormed.markGenerated
    apply wellFormed.addTask
    refine ⟨fun id same => ?_, fun id none => ?_, fun interval none => ?_⟩
    · cases same
      exact ⟨row, listed, keyed⟩
    · cases none
    · cases none

theorem materializeRecurring {root : Task} (wellFormed : store.WellFormed)
    (known : (∃ task ∈ store.tasks, task.id = root.id) → store.hasTask root = true)
    (answered : store.materializeRecurring supply root due now = .ok (outcome, after)) :
    after.WellFormed := by
  rcases materializeRecurring_ok answered with ⟨-, rfl⟩ | ⟨-, -, rfl, rfl⟩
  · exact wellFormed
  · have stored := known (materializeRecurring_created answered)
    obtain ⟨parent, listed, keyed⟩ := List.any_eq_true.mp stored
    apply wellFormed.addTask
    refine ⟨fun id none => ?_, fun id same => ?_, fun interval none => ?_⟩
    · cases none
    · cases same
      exact ⟨parent, listed, keyed⟩
    · cases none

end Operations

end WellFormed
end Store
end Rota
