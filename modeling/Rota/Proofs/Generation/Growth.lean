import Rota.Proofs.Generation.Accounting
import Rota.Proofs.Pattern.NotBefore

/-!
How a store grows in one pass: tasks are appended, templates are stamped, and everything else stays.
Which task the pass makes of a template is told by counting the tasks of that template and day.
-/

namespace Rota

/-- Between two stores only the tasks were added, and templates were stamped. -/
structure Store.Grown (store after : Store) (created : List Task) : Prop where
  tasks : after.tasks = store.tasks ++ created.map Task.kept
  templates : after.templates.map Template.unstamped = store.templates.map Template.unstamped
  patterns : after.patterns = store.patterns
  settings : after.settings = store.settings
  refusedTitles : after.refusedTitles = store.refusedTitles
  isOpen : after.isOpen = store.isOpen

/-- A day falls within the lookahead of one of the instants, and is the next occurrence seen from
there. -/
def Horizon.Calls (horizon : Horizon) (series : Series) (instants : List Instant) (due : Date) :
    Prop :=
  ∃ now ∈ instants, ∃ today, horizon.today now = .ok today ∧
    series.nextOccurrence today = .ok (some due) ∧ due.daysFrom today ≤ horizon.lookahead

def Store.Calls (store : Store) (horizon : Horizon) (template : Template)
    (instants : List Instant) (due : Date) : Prop :=
  ∃ row, store.patternRow template = some row ∧ row.pattern.isActive = true ∧
    horizon.Calls row.pattern.series instants due

def Store.Owes (store : Store) (horizon : Horizon) (template : Template)
    (instants : List Instant) (due : Date) : Prop :=
  store.Calls horizon template instants due ∧ store.hasInstance template due = false ∧
    store.refuses template = false

theorem calls_iff {store : Store} {horizon : Horizon} {template : Template} {row : PatternRow}
    (found : store.patternRow template = some row) (active : row.pattern.isActive = true)
    {instants : List Instant} {due : Date} :
    store.Calls horizon template instants due ↔
      horizon.Calls row.pattern.series instants due := by
  constructor
  · rintro ⟨other, same, -, called⟩
    rw [found] at same
    cases same
    exact called
  · exact fun called => ⟨row, found, active, called⟩

namespace Store.Grown

theorem refl (store : Store) : store.Grown store [] :=
  { tasks := by simp
    templates := rfl
    patterns := rfl
    settings := rfl
    refusedTitles := rfl
    isOpen := rfl }

theorem trans {store middle after : Store} {earlier later : List Task}
    (first : store.Grown middle earlier) (second : middle.Grown after later) :
    store.Grown after (earlier ++ later) :=
  { tasks := by rw [second.tasks, first.tasks, List.map_append, List.append_assoc]
    templates := second.templates.trans first.templates
    patterns := second.patterns.trans first.patterns
    settings := second.settings.trans first.settings
    refusedTitles := second.refusedTitles.trans first.refusedTitles
    isOpen := second.isOpen.trans first.isOpen }

variable {store after : Store} {created : List Task} {horizon : Horizon} {tenant : Uuid}
  {today : Date}

theorem keyed (grown : store.Grown after created) (keyed : store.Keyed) : after.Keyed := by
  have ids : after.templates.map Template.id = store.templates.map Template.id := by
    have same := congrArg (List.map Template.id) grown.templates
    rw [List.map_map, List.map_map] at same
    exact same
  constructor
  · rw [grown.patterns]
    exact keyed.patterns
  · rw [ids]
    exact keyed.templates

theorem answers (grown : store.Grown after created) :
    after.Answers horizon tenant today ↔ store.Answers horizon tenant today := by
  unfold Store.Answers
  rw [grown.isOpen, grown.patterns]

theorem hasInstance (grown : store.Grown after created) (template : Template) (due : Date) :
    after.hasInstance template due =
      (store.hasInstance template due || created.any (Task.isInstanceOf template due)) := by
  unfold Store.hasInstance
  rw [grown.tasks, List.any_append, List.any_map]
  rfl

theorem calls (grown : store.Grown after created) {template : Template}
    {instants : List Instant} {due : Date} :
    after.Calls horizon template instants due ↔ store.Calls horizon template instants due := by
  unfold Store.Calls Store.patternRow
  rw [grown.patterns]

theorem refuses (grown : store.Grown after created) (template : Template) :
    after.refuses template = store.refuses template := by
  unfold Store.refuses
  rw [grown.refusedTitles]

theorem template_before (grown : store.Grown after created) {template : Template}
    (listed : template ∈ after.templates) :
    ∃ earlier ∈ store.templates, earlier.unstamped = template.unstamped := by
  have member := List.mem_map_of_mem (f := Template.unstamped) listed
  rw [grown.templates] at member
  obtain ⟨earlier, known, same⟩ := List.mem_map.mp member
  exact ⟨earlier, known, same⟩

theorem template_after (grown : store.Grown after created) {template : Template}
    (listed : template ∈ store.templates) :
    ∃ later ∈ after.templates, later.unstamped = template.unstamped := by
  have member := List.mem_map_of_mem (f := Template.unstamped) listed
  rw [← grown.templates] at member
  obtain ⟨later, known, same⟩ := List.mem_map.mp member
  exact ⟨later, known, same⟩

end Store.Grown

section Unstamped
variable {store : Store} {a b : Template} {horizon : Horizon} {due : Date}

theorem isInstanceOf_unstamped (same : a.unstamped = b.unstamped) :
    Task.isInstanceOf a due = Task.isInstanceOf b due := by
  obtain ⟨id, tenant, -, -⟩ := unstamped_fields same
  unfold Task.isInstanceOf
  rw [id, tenant]

theorem calls_unstamped (same : a.unstamped = b.unstamped) {instants : List Instant} :
    store.Calls horizon a instants due ↔ store.Calls horizon b instants due := by
  obtain ⟨-, tenant, pattern, -⟩ := unstamped_fields same
  unfold Store.Calls Store.patternRow
  rw [tenant, pattern]

theorem hasInstance_unstamped (same : a.unstamped = b.unstamped) :
    store.hasInstance a due = store.hasInstance b due := by
  unfold Store.hasInstance
  rw [isInstanceOf_unstamped same]

theorem refuses_unstamped (same : a.unstamped = b.unstamped) :
    store.refuses a = store.refuses b := by
  unfold Store.refuses
  rw [(unstamped_fields same).2.2.2]

end Unstamped

section Pass
variable {store after : Store} {supply : Supply} {horizon : Horizon} {tenant : Uuid}
  {now : Instant} {today : Date} {summary : Summary} {template : Template} {due : Date}

theorem generate_grown (keyed : store.Keyed)
    (answered : store.generate supply horizon tenant now = .ok (summary, after)) :
    store.Grown after summary.tasks := by
  obtain ⟨today, -, -, rfl, rfl⟩ := (Store.generate_ok keyed).mp answered
  refine ⟨by simp [Store.withParts, Summary.collect], ?_, rfl, rfl, rfl, rfl⟩
  rw [Store.withParts, List.map_map]
  apply List.map_congr_left
  intro row _
  rw [Function.comp_apply]
  split <;> rfl

theorem resolve_due_iff {series : Series} :
    horizon.resolve series today = .ok (.due due) ↔
      series.nextOccurrence today = .ok (some due) ∧ due.daysFrom today ≤ horizon.lookahead := by
  rw [Horizon.resolve_eq, map_ok]
  simp only [Horizon.resolution_due_iff, Horizon.reaches, decide_eq_true_eq]
  constructor
  · rintro ⟨_, found, rfl, -, near⟩
    exact ⟨found, near⟩
  · rintro ⟨found, near⟩
    have order := Series.nextOccurrence_notBefore found
    rw [Date.le_def] at order
    have ahead : 0 ≤ due.daysFrom today := by
      unfold Date.daysFrom
      omega
    exact ⟨some due, found, rfl, ahead, near⟩

theorem calls_one (day : horizon.today now = .ok today) {series : Series} :
    horizon.Calls series [now] due ↔ horizon.resolve series today = .ok (.due due) := by
  rw [resolve_due_iff]
  constructor
  · rintro ⟨other, member, seen, sameDay, found, near⟩
    rw [List.mem_singleton.mp member, day] at sameDay
    cases sameDay
    exact ⟨found, near⟩
  · rintro ⟨found, near⟩
    exact ⟨now, List.mem_singleton.mpr rfl, today, day, found, near⟩

/-- A pass makes exactly the task that is owed. -/
theorem part_made_iff (day : horizon.today now = .ok today)
    (answers : store.Answers horizon tenant today) (owned : template.tenant = tenant) :
    store.part horizon today template = .made due ↔ store.Owes horizon template [now] due := by
  unfold Store.Owes
  cases found : store.patternRow template with
  | none =>
    have uncalled : ¬ store.Calls horizon template [now] due := by
      rintro ⟨row, same, -⟩
      rw [found] at same
      cases same
    cases bound : template.pattern with
    | none => simp [Store.part_unbound bound, uncalled]
    | some id => simp [Store.part_missing bound found, uncalled]
  | some row =>
    by_cases active : row.pattern.isActive = true
    · obtain ⟨listed, mine⟩ := Store.patternRow_mem found
      obtain ⟨resolution, resolved⟩ := (answers.2 row listed (mine.trans owned) active).2
      rw [Store.part_active found active resolved, Store.resolvedPart_made,
        calls_iff found active, calls_one day, resolved, Except.ok.injEq]
    · have uncalled : ¬ store.Calls horizon template [now] due := by
        rintro ⟨other, same, busy, -⟩
        rw [found] at same
        cases same
        exact active busy
      rw [Store.part_paused found active]
      cases row.readable <;> simp [uncalled]

theorem instances_count (supply : Supply) (parts : List (Template × Part)) :
    (instances now supply parts).countP (Task.isInstanceOf template due) =
      parts.countP fun entry =>
        entry.1.isFor template.tenant template.id && entry.2 == .made due := by
  induction parts generalizing supply with
  | nil => rfl
  | cons entry rest ih =>
    rcases entry with ⟨other, part⟩
    rw [List.countP_cons]
    cases part with
    | made day =>
      rw [instances, List.countP_cons, ih]
      congr 1
      have same : Task.isInstanceOf template due (other.instantiate day now supply.id) =
          (other.isFor template.tenant template.id && Part.made day == .made due) := by
        rw [Bool.eq_iff_iff, Template.isInstanceOf_instantiate]
        simp
      rw [same]
    | idle => simpa [instances] using ih supply
    | exhausted => simpa [instances] using ih supply
    | notDue => simpa [instances] using ih supply
    | duplicate => simpa [instances] using ih supply
    | failed message => simpa [instances] using ih supply

theorem generate_count (keyed : store.Keyed)
    (answered : store.generate supply horizon tenant now = .ok (summary, after))
    (day : horizon.today now = .ok today) (listed : template ∈ store.templates)
    (owned : template.tenant = tenant) :
    summary.tasks.countP (Task.isInstanceOf template due) =
      if store.part horizon today template = .made due then 1 else 0 := by
  obtain ⟨other, sameDay, -, rfl, -⟩ := (Store.generate_ok keyed).mp answered
  rw [day] at sameDay
  cases sameDay
  simp only [Summary.collect, List.nil_append, instances_count, Store.parts, List.countP_map]
  have member : template ∈ store.templates.filter fun other => other.tenant == tenant :=
    List.mem_filter.mpr ⟨listed, beq_iff_eq.mpr owned⟩
  have distinct : (store.templates.filter fun other => other.tenant == tenant).Nodup :=
    (List.Nodup.of_map _ keyed.templates).filter _
  rw [countP_unique distinct member]
  · simp [Template.isFor]
  · intro other known same
    simp only [Function.comp_apply, Bool.and_eq_true, Template.isFor_iff] at same
    exact keyed.template_unique (List.mem_filter.mp known).1 listed same.1.2

theorem mem_instances {supply : Supply} {parts : List (Template × Part)} {task : Task}
    (made : task ∈ instances now supply parts) :
    ∃ entry ∈ parts, ∃ due id, entry.2 = .made due ∧ task = entry.1.instantiate due now id := by
  induction parts generalizing supply with
  | nil => cases made
  | cons entry rest ih =>
    rcases entry with ⟨other, part⟩
    have later {supply : Supply} (member : task ∈ instances now supply rest) :
        ∃ entry ∈ (other, part) :: rest, ∃ due id,
          entry.2 = .made due ∧ task = entry.1.instantiate due now id := by
      obtain ⟨entry, listed, source⟩ := ih member
      exact ⟨entry, List.mem_cons_of_mem _ listed, source⟩
    cases part with
    | made day =>
      rcases List.mem_cons.mp made with rfl | member
      · exact ⟨_, List.mem_cons_self, day, supply.id, rfl, rfl⟩
      · exact later member
    | idle => exact later made
    | exhausted => exact later made
    | notDue => exact later made
    | duplicate => exact later made
    | failed message => exact later made

theorem generate_sources (keyed : store.Keyed)
    (answered : store.generate supply horizon tenant now = .ok (summary, after)) {task : Task}
    (made : task ∈ summary.tasks) :
    ∃ template ∈ store.templates, template.tenant = tenant ∧
      ∃ due, task.isInstanceOf template due = true := by
  obtain ⟨today, -, -, rfl, -⟩ := (Store.generate_ok keyed).mp answered
  simp only [Summary.collect, List.nil_append] at made
  obtain ⟨entry, listed, due, id, -, rfl⟩ := mem_instances made
  obtain ⟨template, member, rfl⟩ := List.mem_map.mp listed
  obtain ⟨known, owned⟩ := List.mem_filter.mp member
  refine ⟨template, known, eq_of_beq owned, due, ?_⟩
  exact Template.isInstanceOf_instantiate.mpr ⟨Template.isFor_iff.mpr ⟨rfl, rfl⟩, rfl⟩

end Pass
end Rota
