import Rota.Proofs.Store.Instances

/-!
What holds of a store that only its operations have written. No occurrence has two tasks; the tasks
that were made for one are copies of their source and never recur; and the stamp of a template is
the time of its last task. Each way of adding a row keeps all of it.
-/

namespace Rota

def Task.isGenerated (task : Task) : Bool := task.template.isSome || task.parent.isSome

/-- The subtasks again, all of them open, and the tag of what is made automatically. -/
structure Work.IsCopied (source copy : Work) : Prop where
  titles : copy.subtasks.map Subtask.title = source.subtasks.map Subtask.title
  isOpen : ∀ subtask ∈ copy.subtasks, subtask.completed = false ∧ subtask.completedAt = none
  tag : autoGeneratedTag ∈ copy.tags

def Store.lastTaskOf (store : Store) (template : Template) : Option Task :=
  (store.tasks.filter fun task => task.template == some template.id).getLast?

structure Store.Consistent (store : Store) : Prop where
  templateOccurrences : store.tasks.Pairwise fun a b => a.template.isSome = true →
    ¬ (a.tenant = b.tenant ∧ a.template = b.template ∧ a.dueDate = b.dueDate)
  parentOccurrences : store.tasks.Pairwise fun a b => a.parent.isSome = true →
    ¬ (a.tenant = b.tenant ∧ a.parent = b.parent ∧ a.dueDate = b.dueDate)
  contents : store.tasks.Pairwise fun a b => a.parent.isSome = true → b.parent.isSome = true →
    ¬ (a.sameContent b = true ∧ a.dueDate = b.dueDate)
  leaves : ∀ task ∈ store.tasks, task.isGenerated = true →
    task.isRecurring = false ∧ task.interval = none ∧ task.monthlyDate = none
  templateCopies : ∀ task ∈ store.tasks, ∀ id, task.template = some id →
    ∃ template ∈ store.templates, template.id = id ∧ template.tenant = task.tenant ∧
      template.work.IsCopied task.work
  rootCopies : ∀ task ∈ store.tasks, ∀ id, task.parent = some id →
    ∃ root ∈ store.tasks, root.id = id ∧ root.tenant = task.tenant ∧
      root.work.IsCopied task.work
  stamps : ∀ template ∈ store.templates,
    template.lastGenerated = (store.lastTaskOf template).map Task.createdAt

theorem pairwise_snoc {α : Type} {related : α → α → Prop} {list : List α} {last : α}
    (before : list.Pairwise related) (new : ∀ a ∈ list, related a last) :
    (list ++ [last]).Pairwise related := by
  apply List.pairwise_append.mpr
  refine ⟨before, List.pairwise_singleton _ _, ?_⟩
  intro a member b only
  rw [List.mem_singleton.mp only]
  exact new a member

theorem freshSubtasks_titles (id : Nat → Uuid) (first : Nat) (subtasks : List Subtask) :
    (freshSubtasks id first subtasks).map Subtask.title = subtasks.map Subtask.title := by
  induction subtasks generalizing first with
  | nil => rfl
  | cons subtask rest ih => simp [freshSubtasks, ih]

theorem freshSubtasks_open (id : Nat → Uuid) (first : Nat) (subtasks : List Subtask) :
    ∀ subtask ∈ freshSubtasks id first subtasks,
      subtask.completed = false ∧ subtask.completedAt = none := by
  induction subtasks generalizing first with
  | nil =>
    intro subtask member
    cases member
  | cons old rest ih =>
    intro subtask member
    rcases List.mem_cons.mp member with rfl | later
    · exact ⟨rfl, rfl⟩
    · exact ih (first + 1) subtask later

theorem mem_mergeTags {tags extra : List String} {tag : String} :
    tag ∈ mergeTags tags extra ↔ tag ∈ tags ∨ tag ∈ extra := by
  unfold mergeTags
  induction extra generalizing tags with
  | nil => simp
  | cons first rest ih =>
    rw [List.foldl_cons, ih]
    by_cases present : tags.contains first = true
    · have known : first ∈ tags := List.contains_iff_mem.mp present
      rw [if_pos present, List.mem_cons]
      constructor
      · rintro (old | new)
        · exact Or.inl old
        · exact Or.inr (Or.inr new)
      · rintro (old | rfl | new)
        · exact Or.inl old
        · exact Or.inl known
        · exact Or.inr new
    · rw [if_neg present]
      simp [or_assoc]

theorem Work.instantiate_isCopied (work : Work) (id : Nat → Uuid) {extra : List String}
    (tagged : autoGeneratedTag ∈ extra) : work.IsCopied (work.instantiate id extra) :=
  { titles := freshSubtasks_titles id 1 work.subtasks
    isOpen := freshSubtasks_open id 1 work.subtasks
    tag := mem_mergeTags.mpr (Or.inr tagged) }

theorem Work.IsCopied.kept {source copy : Work} (copied : source.IsCopied copy) :
    source.IsCopied copy.kept := ⟨copied.titles, copied.isOpen, copied.tag⟩

namespace Store.Consistent

variable {store after : Store} {task : Task} {templates : List Template}

theorem empty : Store.empty.Consistent :=
  { templateOccurrences := .nil
    parentOccurrences := .nil
    contents := .nil
    leaves := by simp [Store.empty]
    templateCopies := by simp [Store.empty]
    rootCopies := by simp [Store.empty]
    stamps := by simp [Store.empty] }

theorem of_rows (consistent : store.Consistent) (tasks : after.tasks = store.tasks)
    (templates : after.templates = store.templates) : after.Consistent := by
  have last (template : Template) : after.lastTaskOf template = store.lastTaskOf template := by
    unfold Store.lastTaskOf
    rw [tasks]
  constructor
  · rw [tasks]
    exact consistent.templateOccurrences
  · rw [tasks]
    exact consistent.parentOccurrences
  · rw [tasks]
    exact consistent.contents
  · rw [tasks]
    exact consistent.leaves
  · rw [tasks, templates]
    exact consistent.templateCopies
  · rw [tasks]
    exact consistent.rootCopies
  · intro template member
    rw [last]
    exact consistent.stamps template (templates ▸ member)

theorem append (consistent : store.Consistent)
    (known : templates.map Template.unstamped = store.templates.map Template.unstamped)
    (occurrence : ∀ other ∈ store.tasks, other.template.isSome = true →
      ¬ (other.tenant = task.tenant ∧ other.template = task.template ∧
        other.dueDate = task.dueDate))
    (parentOccurrence : ∀ other ∈ store.tasks, other.parent.isSome = true →
      ¬ (other.tenant = task.tenant ∧ other.parent = task.parent ∧
        other.dueDate = task.dueDate))
    (content : ∀ other ∈ store.tasks, other.parent.isSome = true → task.parent.isSome = true →
      ¬ (other.sameContent task = true ∧ other.dueDate = task.dueDate))
    (leaf : task.isGenerated = true →
      task.isRecurring = false ∧ task.interval = none ∧ task.monthlyDate = none)
    (templateCopy : ∀ id, task.template = some id → ∃ template ∈ store.templates,
      template.id = id ∧ template.tenant = task.tenant ∧ template.work.IsCopied task.work)
    (rootCopy : ∀ id, task.parent = some id → ∃ root ∈ store.tasks,
      root.id = id ∧ root.tenant = task.tenant ∧ root.work.IsCopied task.work)
    (stamps : ∀ template ∈ templates, template.lastGenerated =
      (({ store with tasks := store.tasks ++ [task], templates } : Store).lastTaskOf
        template).map Task.createdAt) :
    ({ store with tasks := store.tasks ++ [task], templates } : Store).Consistent := by
  have stillKnown {id tenant : Uuid} {work : Work} (source : ∃ template ∈ store.templates,
      template.id = id ∧ template.tenant = tenant ∧ template.work.IsCopied work) :
      ∃ template ∈ templates,
        template.id = id ∧ template.tenant = tenant ∧ template.work.IsCopied work := by
    obtain ⟨template, listed, sameId, sameTenant, copied⟩ := source
    have member := List.mem_map_of_mem (f := Template.unstamped) listed
    rw [← known] at member
    obtain ⟨row, present, same⟩ := List.mem_map.mp member
    obtain ⟨rowId, rowTenant, -, rowWork⟩ := unstamped_fields same
    exact ⟨row, present, rowId.trans sameId, rowTenant.trans sameTenant, rowWork ▸ copied⟩
  have stillThere {id tenant : Uuid} {work : Work} (source : ∃ root ∈ store.tasks,
      root.id = id ∧ root.tenant = tenant ∧ root.work.IsCopied work) :
      ∃ root ∈ store.tasks ++ [task],
        root.id = id ∧ root.tenant = tenant ∧ root.work.IsCopied work := by
    obtain ⟨root, listed, same⟩ := source
    exact ⟨root, List.mem_append_left _ listed, same⟩
  constructor
  · exact pairwise_snoc consistent.templateOccurrences occurrence
  · exact pairwise_snoc consistent.parentOccurrences parentOccurrence
  · exact pairwise_snoc consistent.contents content
  · intro other member generated
    rcases List.mem_append.mp member with old | new
    · exact consistent.leaves other old generated
    · rw [List.mem_singleton.mp new] at generated ⊢
      exact leaf generated
  · intro other member id source
    rcases List.mem_append.mp member with old | new
    · exact stillKnown (consistent.templateCopies other old id source)
    · rw [List.mem_singleton.mp new] at source ⊢
      exact stillKnown (templateCopy id source)
  · intro other member id source
    rcases List.mem_append.mp member with old | new
    · exact stillThere (consistent.rootCopies other old id source)
    · rw [List.mem_singleton.mp new] at source ⊢
      exact stillThere (rootCopy id source)
  · exact stamps

theorem lastTaskOf_append (unmade : task.template = none) (template : Template) :
    ({ store with tasks := store.tasks ++ [task] } : Store).lastTaskOf template =
      store.lastTaskOf template := by
  simp [Store.lastTaskOf, List.filter_append, unmade]

theorem add (consistent : store.Consistent) (unmade : task.template = none)
    (rootless : task.parent = none) :
    ({ store with tasks := store.tasks ++ [task] } : Store).Consistent := by
  apply consistent.append
  · rfl
  · intro other _ made same
    rw [same.2.1, unmade] at made
    cases made
  · intro other _ made same
    rw [same.2.1, rootless] at made
    cases made
  · intro other _ _ made
    rw [rootless] at made
    cases made
  · intro generated
    simp [Task.isGenerated, unmade, rootless] at generated
  · intro id source
    rw [unmade] at source
    cases source
  · intro id source
    rw [rootless] at source
    cases source
  · intro template listed
    rw [lastTaskOf_append unmade]
    exact consistent.stamps template listed

theorem addInstance {template : Template} {due : Date} {now : Instant} (id : Nat → Uuid)
    (consistent : store.Consistent) (keyed : store.Keyed)
    (stored : ∃ row ∈ store.templates, row.unstamped = template.unstamped)
    (absent : store.hasInstance template due = false) :
    (store.withInstance template (template.instantiate due now id) now).Consistent := by
  obtain ⟨source, listed, same⟩ := stored
  obtain ⟨sameId, sameTenant, -, sameWork⟩ := unstamped_fields same
  apply consistent.append
  · rw [List.map_map]
    apply List.map_congr_left
    intro row _
    rw [Function.comp_apply]
    split <;> rfl
  · intro other member _ equal
    have free := List.any_eq_false.mp absent other member
    apply free
    simp only [Task.isInstanceOf, Bool.and_eq_true, beq_iff_eq]
    exact ⟨⟨equal.1, equal.2.1⟩, equal.2.2⟩
  · intro other _ made equal
    rw [equal.2.1] at made
    cases made
  · intro other _ _ made
    cases made
  · exact fun _ => ⟨rfl, rfl, rfl⟩
  · intro templateId named
    refine ⟨source, listed, ?_, sameTenant, ?_⟩
    · exact sameId.trans (Option.some.inj named)
    · rw [sameWork]
      exact (Work.instantiate_isCopied template.work id (List.mem_singleton.mpr rfl)).kept
  · intro rootId named
    cases named
  -- The stamped row has the new task as its last one, and no other row has that task.
  · intro row member
    obtain ⟨old, known, rfl⟩ := List.mem_map.mp member
    by_cases mine : old.isFor template.tenant template.id = true
    · have key := Template.isFor_iff.mp mine
      rw [if_pos mine]
      simp [Store.lastTaskOf, List.filter_append, Template.stamp, Template.instantiate, Task.kept,
        key.2]
    · have apart : template.id ≠ old.id := by
        intro equal
        have one := keyed.template_unique known listed (equal.symm.trans sameId.symm)
        exact mine (Template.isFor_iff.mpr ⟨one ▸ sameTenant, equal.symm⟩)
      rw [if_neg mine, consistent.stamps old known]
      simp [Store.lastTaskOf, List.filter_append, Template.instantiate, Task.kept, apart]

theorem addRepeated {root : Task} {due : Date} {now : Instant} (id : Nat → Uuid)
    (consistent : store.Consistent) (listed : root ∈ store.tasks)
    (content : ∀ other ∈ store.tasks,
      ¬ (root.sameContent other && other.dueDate == some due) = true)
    (occurrence : ∀ other ∈ store.tasks,
      ¬ (root.instantiate due now id).sameOccurrence other = true) :
    ({ store with
      tasks := store.tasks ++ [(root.instantiate due now id).kept] } : Store).Consistent := by
  apply consistent.append
  · rfl
  · intro other _ made equal
    rw [equal.2.1] at made
    cases made
  · intro other member _ equal
    apply occurrence other member
    simp only [Task.sameOccurrence, Bool.and_eq_true, Bool.or_eq_true, beq_iff_eq]
    exact ⟨⟨⟨equal.1.symm, equal.2.2.symm⟩, rfl⟩, Or.inr ⟨equal.2.1.symm, rfl⟩⟩
  -- Only the look at the contents rules this out: the parent may be another root of that content.
  · intro other member _ _ equal
    apply content other member
    simp only [Task.sameContent, Bool.and_eq_true, beq_iff_eq] at equal ⊢
    obtain ⟨⟨⟨⟨⟨tenant, title⟩, client⟩, category⟩, subCategory⟩, day⟩ := equal
    exact ⟨⟨⟨⟨⟨tenant.symm, title.symm⟩, client.symm⟩, category.symm⟩, subCategory.symm⟩, day⟩
  · exact fun _ => ⟨rfl, rfl, rfl⟩
  · intro templateId named
    cases named
  · intro rootId named
    refine ⟨root, listed, Option.some.inj named, rfl, ?_⟩
    exact (Work.instantiate_isCopied root.work id List.mem_cons_self).kept
  · intro template known
    rw [lastTaskOf_append rfl]
    exact consistent.stamps template known

theorem addTemplate {template : Template} (consistent : store.Consistent)
    (fresh : template.id ∉ store.templates.map Template.id) (unused : template.lastGenerated = none) :
    ({ store with templates := store.templates ++ [template] } : Store).Consistent := by
  constructor
  · exact consistent.templateOccurrences
  · exact consistent.parentOccurrences
  · exact consistent.contents
  · exact consistent.leaves
  · intro task member id named
    obtain ⟨source, listed, same⟩ := consistent.templateCopies task member id named
    exact ⟨source, List.mem_append_left _ listed, same⟩
  · exact consistent.rootCopies
  · intro row member
    rcases List.mem_append.mp member with old | new
    · exact consistent.stamps row old
    · rw [List.mem_singleton.mp new, unused]
      -- A task of it would be a copy of a template with this identifier.
      have untouched : ∀ task ∈ store.tasks, ¬ (task.template == some template.id) = true := by
        intro task made named
        obtain ⟨source, listed, sameId, -⟩ :=
          consistent.templateCopies task made template.id (beq_iff_eq.mp named)
        exact fresh (sameId ▸ List.mem_map_of_mem listed)
      have taskless := List.filter_eq_nil_iff.mpr untouched
      simp [Store.lastTaskOf, taskless]

end Store.Consistent
end Rota
