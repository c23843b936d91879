import Rota.Presets
import Rota.Proofs.Store.Instances
import Rota.Proofs.Store.TenantMaps

/-!
The part of a store that is one tenant's. What a tenant asks for is answered out of it, what a
tenant writes is written into it, and it stays as it is when another tenant writes.
-/

namespace Rota

section Lists
variable {α : Type} {keep meets : α → Bool}

/-- A search that only what is kept can meet does not miss what is left out. -/
theorem find?_filter_of_imp (kept : ∀ a, meets a = true → keep a = true) (list : List α) :
    (list.filter keep).find? meets = list.find? meets := by
  rw [List.find?_filter]
  congr 1
  funext a
  simpa using fun met => kept a met

theorem any_filter_of_imp (kept : ∀ a, meets a = true → keep a = true) (list : List α) :
    (list.filter keep).any meets = list.any meets := by
  rw [List.any_filter]
  congr 1
  funext a
  simpa using kept a

theorem filter_filter_of_imp (kept : ∀ a, meets a = true → keep a = true) (list : List α) :
    (list.filter keep).filter meets = list.filter meets := by
  rw [List.filter_filter]
  congr 1
  funext a
  simpa using kept a

end Lists

namespace Store

/-- What is stored for a tenant. Whether the store is open and what it refuses is the same for all
tenants. -/
def only (tenant : Uuid) (store : Store) : Store :=
  { store with
    patterns := store.patterns.filter (PatternRow.ownedBy tenant)
    templates := store.templates.filter fun template => template.tenant == tenant
    tasks := store.tasks.filter fun task => task.tenant == tenant
    settings := store.settings.only tenant }

section Fields
variable (tenant : Uuid) (store : Store)

@[simp] theorem only_patterns :
    (store.only tenant).patterns = store.patterns.filter (PatternRow.ownedBy tenant) := rfl

@[simp] theorem only_templates :
    (store.only tenant).templates =
      store.templates.filter fun template => template.tenant == tenant := rfl

@[simp] theorem only_tasks :
    (store.only tenant).tasks = store.tasks.filter fun task => task.tenant == tenant := rfl

@[simp] theorem only_refusedTitles : (store.only tenant).refusedTitles = store.refusedTitles := rfl

@[simp] theorem only_use : (store.only tenant).use = store.use := rfl

@[simp] theorem only_settings : (store.only tenant).settings = store.settings.only tenant := rfl

end Fields

variable {store : Store} {tenant other id : Uuid} {supply : Supply}

section Questions

@[simp] theorem loadPatterns_only (meets : Pattern → Bool) :
    (store.only tenant).loadPatterns tenant meets = store.loadPatterns tenant meets := by
  simp only [loadPatterns, only_use, only_patterns]
  rw [filter_filter_of_imp (by simp +contextual)]

@[simp] theorem patterns?_only : (store.only tenant).patterns? tenant = store.patterns? tenant :=
  loadPatterns_only _

@[simp] theorem activePatterns?_only :
    (store.only tenant).activePatterns? tenant = store.activePatterns? tenant :=
  loadPatterns_only _

@[simp] theorem findPattern_only :
    (store.only tenant).findPattern tenant id = store.findPattern tenant id := by
  simp only [findPattern, only_use, only_patterns]
  rw [find?_filter_of_imp (by simp +contextual [PatternRow.isFor])]

@[simp] theorem findPatternNamed_only (name : String) :
    (store.only tenant).findPatternNamed tenant name = store.findPatternNamed tenant name := by
  simp only [findPatternNamed, only_use, only_patterns]
  rw [find?_filter_of_imp (by simp +contextual)]

@[simp] theorem getPattern_only :
    (store.only tenant).getPattern tenant id = store.getPattern tenant id := by
  simp only [getPattern, findPattern_only]

@[simp] theorem templates?_only :
    (store.only tenant).templates? tenant = store.templates? tenant := by
  simp [templates?]

@[simp] theorem findTemplate_only :
    (store.only tenant).findTemplate tenant id = store.findTemplate tenant id := by
  simp only [findTemplate, only_use, only_templates]
  rw [find?_filter_of_imp (by simp +contextual [Template.isFor])]

@[simp] theorem templatesBoundTo_only (ids : List Uuid) :
    (store.only tenant).templatesBoundTo tenant ids = store.templatesBoundTo tenant ids := by
  simp only [templatesBoundTo, only_use, only_templates]
  rw [filter_filter_of_imp (by simp +contextual)]

@[simp] theorem findTask_only :
    (store.only tenant).findTask tenant id = store.findTask tenant id := by
  simp only [findTask, only_use, only_tasks]
  rw [find?_filter_of_imp (by simp +contextual [Task.isFor])]

@[simp] theorem tasksWhere_only (meets : Task → Bool) :
    (store.only tenant).tasksWhere tenant meets = store.tasksWhere tenant meets := by
  simp only [tasksWhere, only_use, only_tasks]
  rw [filter_filter_of_imp (by simp +contextual)]

@[simp] theorem recurringRoots_only :
    (store.only tenant).recurringRoots tenant = store.recurringRoots tenant :=
  tasksWhere_only _

@[simp] theorem findTemplateInstance_only (template : Uuid) (due : Date) :
    (store.only tenant).findTemplateInstance tenant template due =
      store.findTemplateInstance tenant template due := by
  simp only [findTemplateInstance, only_use, only_tasks]
  rw [find?_filter_of_imp (by simp +contextual)]

theorem findRecurringInstance_only {root : Task} (owned : root.tenant = tenant) (due : Date) :
    (store.only tenant).findRecurringInstance root due = store.findRecurringInstance root due := by
  simp only [findRecurringInstance, only_use, only_tasks]
  rw [find?_filter_of_imp (by simp +contextual [Task.sameContent, ← owned])]

@[simp] theorem settingsOf_only :
    (store.only tenant).settingsOf tenant = store.settingsOf tenant := by
  simp [settingsOf]

end Questions

/-- Of the rows only the tenant's may have changed. -/
def Confined (tenant : Uuid) (store after : Store) : Prop :=
  ∀ other, other ≠ tenant → after.only other = store.only other

theorem Confined.refl (store : Store) : Confined tenant store store := fun _ _ => rfl

theorem Confined.trans {middle after : Store} (first : Confined tenant store middle)
    (second : Confined tenant middle after) : Confined tenant store after :=
  fun other apart => (second other apart).trans (first other apart)

section Rows

theorem only_addPattern {row : PatternRow} (owned : row.pattern.tenant = tenant) :
    ({ store with patterns := store.patterns ++ [row] } : Store).only tenant =
      { store.only tenant with patterns := (store.only tenant).patterns ++ [row] } := by
  simp [only, PatternRow.ownedBy, owned]

theorem confined_addPattern {row : PatternRow} (owned : row.pattern.tenant = tenant) :
    Confined tenant store { store with patterns := store.patterns ++ [row] } := by
  intro other apart
  simp [only, PatternRow.ownedBy, owned, apart.symm]

theorem only_addTemplate {row : Template} (owned : row.tenant = tenant) :
    ({ store with templates := store.templates ++ [row] } : Store).only tenant =
      { store.only tenant with templates := (store.only tenant).templates ++ [row] } := by
  simp [only, owned]

theorem confined_addTemplate {row : Template} (owned : row.tenant = tenant) :
    Confined tenant store { store with templates := store.templates ++ [row] } := by
  intro other apart
  simp [only, owned, apart.symm]

theorem only_addTask {row : Task} (owned : row.tenant = tenant) :
    ({ store with tasks := store.tasks ++ [row] } : Store).only tenant =
      { store.only tenant with tasks := (store.only tenant).tasks ++ [row] } := by
  simp [only, owned]

theorem confined_addTask {row : Task} (owned : row.tenant = tenant) :
    Confined tenant store { store with tasks := store.tasks ++ [row] } := by
  intro other apart
  simp [only, owned, apart.symm]

theorem only_putSettings (settings : Settings) :
    ({ store with settings := store.settings.insert tenant settings } : Store).only tenant =
      { store.only tenant with settings := (store.only tenant).settings.insert tenant settings } := by
  simp [only, TenantMap.only_insert]

theorem confined_putSettings (settings : Settings) :
    Confined tenant store { store with settings := store.settings.insert tenant settings } := by
  intro other apart
  simp [only, TenantMap.only_insert_of_ne apart.symm]

/-- A row that is written over stays with its tenant. -/
theorem only_putPattern (pattern : Pattern) :
    (store.putPattern pattern).only tenant = (store.only tenant).putPattern pattern := by
  simp only [only, putPattern, List.filter_map]
  congr 2
  apply List.filter_congr
  intro row _
  by_cases put : row.isFor pattern.tenant pattern.id = true
  · simp [put, PatternRow.ownedBy, (PatternRow.isFor_iff.mp put).1]
  · simp [put]

theorem confined_putPattern {pattern : Pattern} (owned : pattern.tenant = tenant) :
    Confined tenant store (store.putPattern pattern) := by
  intro other apart
  rw [only_putPattern]
  have kept : ∀ row ∈ (store.only other).patterns,
      (if row.isFor pattern.tenant pattern.id then { row with pattern } else row) = row := by
    intro row listed
    rw [if_neg]
    intro put
    have theirs := (List.mem_filter.mp listed).2
    simp only [PatternRow.ownedBy, beq_iff_eq] at theirs
    exact apart (by rw [← theirs, (PatternRow.isFor_iff.mp put).1, owned])
  simp only [putPattern, List.map_congr_left kept, List.map_id']

theorem only_markGenerated (owner : Uuid) (now : Instant) :
    (store.markGenerated owner id now).only tenant =
      (store.only tenant).markGenerated owner id now := by
  simp only [only, markGenerated, List.filter_map]
  congr 2
  apply List.filter_congr
  intro row _
  by_cases marked : row.isFor owner id = true <;> simp [marked]

theorem confined_markGenerated (now : Instant) :
    Confined tenant store (store.markGenerated tenant id now) := by
  intro other apart
  rw [only_markGenerated]
  have kept : ∀ row ∈ (store.only other).templates,
      (if row.isFor tenant id then { row with lastGenerated := some now, updatedAt := now }
        else row) = row := by
    intro row listed
    rw [if_neg]
    intro marked
    have theirs := (List.mem_filter.mp listed).2
    simp only [beq_iff_eq] at theirs
    exact apart (by rw [← theirs, (Template.isFor_iff.mp marked).1])
  simp only [markGenerated, List.map_congr_left kept, List.map_id']

end Rows

end Store
end Rota
