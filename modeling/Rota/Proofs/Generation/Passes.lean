import Rota.Proofs.Generation.Growth
import Mathlib.Data.List.Perm.Basic

/-!
Passes for one tenant, one after the other, with nothing else written to patterns and templates in
between. Which tasks they make of a template depends on the local days they fall on and on nothing
else: on each day that one of them calls there is one task, made by the first that calls it, unless
there was one before or the store refuses its title.
-/

namespace Rota

def Store.passes (store : Store) (horizon : Horizon) (tenant : Uuid) :
    List (Supply × Instant) → Outcome (List Task × Store)
  | [] => .ok ([], store)
  | (supply, now) :: rest => do
    let (summary, next) ← store.generate supply horizon tenant now
    let (others, last) ← next.passes horizon tenant rest
    return (summary.tasks ++ others, last)

section Run
variable {store after : Store} {horizon : Horizon} {tenant : Uuid}
  {runs : List (Supply × Instant)} {created : List Task} {template : Template} {due : Date}

theorem passes_cons {supply : Supply} {now : Instant} :
    store.passes horizon tenant ((supply, now) :: runs) = .ok (created, after) ↔
      ∃ summary next others, store.generate supply horizon tenant now = .ok (summary, next) ∧
        next.passes horizon tenant runs = .ok (others, after) ∧
        created = summary.tasks ++ others := by
  rw [Store.passes, bind_ok]
  constructor
  · rintro ⟨⟨summary, next⟩, answered, rest⟩
    obtain ⟨⟨others, last⟩, later, same⟩ := bind_ok.mp rest
    cases same
    exact ⟨summary, next, others, answered, later, rfl⟩
  · rintro ⟨summary, next, others, answered, later, rfl⟩
    exact ⟨(summary, next), answered, bind_ok.mpr ⟨(others, after), later, rfl⟩⟩

theorem passes_grown (keyed : store.Keyed)
    (answered : store.passes horizon tenant runs = .ok (created, after)) :
    store.Grown after created := by
  induction runs generalizing store created with
  | nil =>
    cases answered
    exact .refl _
  | cons run rest ih =>
    rcases run with ⟨supply, now⟩
    obtain ⟨summary, next, others, first, later, rfl⟩ := passes_cons.mp answered
    have grown := generate_grown keyed first
    exact grown.trans (ih (grown.keyed keyed) later)

theorem passes_answers (keyed : store.Keyed)
    (answered : store.passes horizon tenant runs = .ok (created, after)) :
    ∀ run ∈ runs, ∃ today, horizon.today run.2 = .ok today ∧
      store.Answers horizon tenant today := by
  induction runs generalizing store created with
  | nil =>
    intro run member
    cases member
  | cons run rest ih =>
    rcases run with ⟨supply, now⟩
    obtain ⟨summary, next, others, first, later, rfl⟩ := passes_cons.mp answered
    have grown := generate_grown keyed first
    intro run member
    rcases List.mem_cons.mp member with rfl | tail
    · obtain ⟨today, day, answers, -⟩ := (Store.generate_ok keyed).mp first
      exact ⟨today, day, answers⟩
    · obtain ⟨today, day, answers⟩ := ih (grown.keyed keyed) later run tail
      exact ⟨today, day, grown.answers.mp answers⟩

theorem calls_cons {now : Instant} {rest : List Instant} :
    store.Calls horizon template (now :: rest) due ↔
      store.Calls horizon template [now] due ∨ store.Calls horizon template rest due := by
  unfold Store.Calls Horizon.Calls
  constructor
  · rintro ⟨row, found, active, seen, member, call⟩
    rcases List.mem_cons.mp member with rfl | tail
    · exact Or.inl ⟨row, found, active, seen, List.mem_singleton.mpr rfl, call⟩
    · exact Or.inr ⟨row, found, active, seen, tail, call⟩
  · rintro (⟨row, found, active, seen, member, call⟩ | ⟨row, found, active, seen, member, call⟩)
    · rw [List.mem_singleton.mp member] at call
      exact ⟨row, found, active, now, List.mem_cons_self, call⟩
    · exact ⟨row, found, active, seen, List.mem_cons_of_mem _ member, call⟩

theorem Store.Calls.of_days {instants others : List Instant}
    (called : store.Calls horizon template instants due)
    (days : ∀ today, (∃ now ∈ instants, horizon.today now = .ok today) →
      ∃ now ∈ others, horizon.today now = .ok today) :
    store.Calls horizon template others due := by
  obtain ⟨row, found, active, now, member, today, day, call⟩ := called
  obtain ⟨other, listed, sameDay⟩ := days today ⟨now, member, day⟩
  exact ⟨row, found, active, other, listed, today, sameDay, call⟩

theorem Store.Owes.of_days {instants others : List Instant}
    (owed : store.Owes horizon template instants due)
    (days : ∀ today, (∃ now ∈ instants, horizon.today now = .ok today) →
      ∃ now ∈ others, horizon.today now = .ok today) : store.Owes horizon template others due :=
  ⟨owed.1.of_days days, owed.2⟩

theorem calls_nil : ¬ store.Calls horizon template [] due := by
  rintro ⟨row, found, active, now, member, -⟩
  cases member

theorem generate_owed {supply : Supply} {now : Instant} {summary : Summary} (keyed : store.Keyed)
    (answered : store.generate supply horizon tenant now = .ok (summary, after))
    (listed : template ∈ store.templates) (owned : template.tenant = tenant) (due : Date) :
    (store.Owes horizon template [now] due →
      summary.tasks.countP (Task.isInstanceOf template due) = 1) ∧
    (¬ store.Owes horizon template [now] due →
      summary.tasks.countP (Task.isInstanceOf template due) = 0) := by
  obtain ⟨today, day, answers, -⟩ := (Store.generate_ok keyed).mp answered
  rw [generate_count keyed answered day listed owned, ← part_made_iff day answers owned]
  constructor
  · intro made
    rw [if_pos made]
  · intro quiet
    rw [if_neg quiet]

theorem any_iff_countP {p : Task → Bool} : created.any p = true ↔ 0 < created.countP p := by
  rw [List.any_eq_true, List.countP_pos_iff]

/-- Any number of passes make the tasks that are owed: the first that calls a day makes its task. -/
theorem passes_owed (keyed : store.Keyed)
    (answered : store.passes horizon tenant runs = .ok (created, after))
    (listed : template ∈ store.templates) (owned : template.tenant = tenant) (due : Date) :
    (store.Owes horizon template (runs.map Prod.snd) due →
      created.countP (Task.isInstanceOf template due) = 1) ∧
    (¬ store.Owes horizon template (runs.map Prod.snd) due →
      created.countP (Task.isInstanceOf template due) = 0) := by
  induction runs generalizing store created template with
  | nil =>
    cases answered
    constructor
    · exact fun owed => absurd owed.1 calls_nil
    · exact fun _ => rfl
  | cons run rest ih =>
    rcases run with ⟨supply, now⟩
    obtain ⟨summary, next, others, first, later, rfl⟩ := passes_cons.mp answered
    have grown := generate_grown keyed first
    obtain ⟨makes, skips⟩ := generate_owed keyed first listed owned due
    -- The later passes see the template under a new stamp and the tasks of the first one.
    obtain ⟨row, known, same⟩ := grown.template_after listed
    have tail := ih (grown.keyed keyed) later known ((unstamped_fields same).2.1.trans owned)
    unfold Store.Owes at makes skips tail ⊢
    rw [calls_unstamped same, hasInstance_unstamped same, refuses_unstamped same,
      isInstanceOf_unstamped same, grown.calls, grown.refuses, grown.hasInstance] at tail
    obtain ⟨laterMakes, laterSkips⟩ := tail
    rw [List.map_cons, calls_cons, List.countP_append]
    by_cases owedNow : store.Calls horizon template [now] due ∧
        store.hasInstance template due = false ∧ store.refuses template = false
    · have made := makes owedNow
      have present : summary.tasks.any (Task.isInstanceOf template due) = true :=
        any_iff_countP.mpr (by omega)
      have rested : others.countP (Task.isInstanceOf template due) = 0 := by
        apply laterSkips
        rintro ⟨-, absent, -⟩
        rw [present, Bool.or_true] at absent
        cases absent
      constructor
      · intro _
        omega
      · exact fun quiet => absurd ⟨Or.inl owedNow.1, owedNow.2⟩ quiet
    · have skipped := skips owedNow
      have quiet : summary.tasks.any (Task.isInstanceOf template due) = false := by
        rw [List.any_eq_false]
        exact List.countP_eq_zero.mp skipped
      rw [quiet, Bool.or_false] at laterMakes laterSkips
      rw [skipped, Nat.zero_add]
      constructor
      · rintro ⟨called | called, free⟩
        · exact absurd ⟨called, free⟩ owedNow
        · exact laterMakes ⟨called, free⟩
      · intro unowed
        apply laterSkips
        rintro ⟨called, free⟩
        exact unowed ⟨Or.inr called, free⟩

theorem passes_sources (keyed : store.Keyed)
    (answered : store.passes horizon tenant runs = .ok (created, after)) :
    ∀ task ∈ created, ∃ template ∈ store.templates, template.tenant = tenant ∧
      ∃ due, task.isInstanceOf template due = true := by
  induction runs generalizing store created with
  | nil =>
    cases answered
    intro task member
    cases member
  | cons run rest ih =>
    rcases run with ⟨supply, now⟩
    obtain ⟨summary, next, others, first, later, rfl⟩ := passes_cons.mp answered
    have grown := generate_grown keyed first
    intro task member
    rcases List.mem_append.mp member with here | there
    · exact generate_sources keyed first here
    · obtain ⟨row, known, owned, due, fits⟩ := ih (grown.keyed keyed) later task there
      obtain ⟨template, listed, same⟩ := grown.template_before known
      refine ⟨template, listed, (unstamped_fields same).2.1.trans owned, due, ?_⟩
      rw [isInstanceOf_unstamped same]
      exact fits

theorem seen_instants {today : Date} :
    (∃ now ∈ runs.map Prod.snd, horizon.today now = .ok today) ↔
      ∃ run ∈ runs, horizon.today run.2 = .ok today := by
  constructor
  · rintro ⟨now, member, day⟩
    obtain ⟨run, listed, rfl⟩ := List.mem_map.mp member
    exact ⟨run, listed, day⟩
  · rintro ⟨run, listed, day⟩
    exact ⟨run.2, List.mem_map_of_mem listed, day⟩

def Task.occurrence (task : Task) : Option Uuid × Option Date := (task.template, task.dueDate)

theorem isInstanceOf_occurrence {task : Task} (fits : task.isInstanceOf template due = true) :
    task.tenant = template.tenant ∧ task.occurrence = (some template.id, some due) := by
  simp only [Task.isInstanceOf, Bool.and_eq_true, beq_iff_eq] at fits
  exact ⟨fits.1.1, Prod.ext fits.1.2 fits.2⟩

theorem countP_occurrence (same : ∀ task ∈ created, task.tenant = template.tenant) :
    created.countP (Task.isInstanceOf template due) =
      (created.map Task.occurrence).count (some template.id, some due) := by
  rw [List.count, List.countP_map]
  apply List.countP_congr
  intro task member
  constructor
  · intro fits
    exact beq_iff_eq.mpr (isInstanceOf_occurrence fits).2
  · intro equal
    obtain ⟨source, day⟩ := Prod.ext_iff.mp (beq_iff_eq.mp equal)
    simp only [Task.occurrence] at source day
    simp [Task.isInstanceOf, same task member, source, day]

/-- Runs over the same local days make the same occurrences, whatever their order, their repetitions
and their times of day. -/
theorem passes_perm {others : List (Supply × Instant)} {otherCreated : List Task}
    {otherAfter : Store} (keyed : store.Keyed)
    (answered : store.passes horizon tenant runs = .ok (created, after))
    (otherAnswered : store.passes horizon tenant others = .ok (otherCreated, otherAfter))
    (days : ∀ today, (∃ run ∈ runs, horizon.today run.2 = .ok today) ↔
      ∃ run ∈ others, horizon.today run.2 = .ok today) :
    (created.map Task.occurrence).Perm (otherCreated.map Task.occurrence) := by
  have sources := passes_sources keyed answered
  have otherSources := passes_sources keyed otherAnswered
  have owned {list : List Task} (known : ∀ task ∈ list, ∃ template ∈ store.templates,
      template.tenant = tenant ∧ ∃ due, task.isInstanceOf template due = true) :
      ∀ task ∈ list, task.tenant = tenant := by
    intro task member
    obtain ⟨template, -, mine, due, fits⟩ := known task member
    exact (isInstanceOf_occurrence fits).1.trans mine
  have sameOwed (template : Template) (due : Date) :
      store.Owes horizon template (runs.map Prod.snd) due ↔
        store.Owes horizon template (others.map Prod.snd) due := by
    constructor
    · exact fun owed => owed.of_days fun today seen =>
        seen_instants.mpr ((days today).mp (seen_instants.mp seen))
    · exact fun owed => owed.of_days fun today seen =>
        seen_instants.mpr ((days today).mpr (seen_instants.mp seen))
  -- An occurrence of a template of the tenant is counted alike, and no other one is made at all.
  rw [List.perm_iff_count]
  intro occurrence
  by_cases known : ∃ template ∈ store.templates, template.tenant = tenant ∧
      ∃ due, occurrence = (some template.id, some due)
  · obtain ⟨template, listed, mine, due, rfl⟩ := known
    obtain ⟨makes, skips⟩ := passes_owed keyed answered listed mine due
    obtain ⟨otherMakes, otherSkips⟩ := passes_owed keyed otherAnswered listed mine due
    rw [sameOwed] at makes skips
    subst mine
    rw [← countP_occurrence (owned sources), ← countP_occurrence (owned otherSources)]
    by_cases owed : store.Owes horizon template (others.map Prod.snd) due
    · rw [makes owed, otherMakes owed]
    · rw [skips owed, otherSkips owed]
  · have absent {list : List Task} (sourced : ∀ task ∈ list, ∃ template ∈ store.templates,
        template.tenant = tenant ∧ ∃ due, task.isInstanceOf template due = true) :
        (list.map Task.occurrence).count occurrence = 0 := by
      rw [List.count_eq_zero]
      intro member
      obtain ⟨task, listed, rfl⟩ := List.mem_map.mp member
      obtain ⟨template, present, mine, due, fits⟩ := sourced task listed
      exact known ⟨template, present, mine, due, (isInstanceOf_occurrence fits).2⟩
    rw [absent sources, absent otherSources]

theorem generate_quiet {supply : Supply} {now : Instant} {today : Date} (keyed : store.Keyed)
    (day : horizon.today now = .ok today) (answers : store.Answers horizon tenant today)
    (quiet : ∀ template ∈ store.templates, template.tenant = tenant →
      ∀ due, store.part horizon today template ≠ .made due) :
    ∃ summary, store.generate supply horizon tenant now = .ok (summary, store) ∧
      summary.tasks = [] ∧ summary.count = 0 := by
  have idle : ∀ entry ∈ store.parts horizon today tenant, ¬ entry.2.isMade = true := by
    intro entry listed made
    obtain ⟨template, member, rfl⟩ := List.mem_map.mp listed
    obtain ⟨known, owned⟩ := List.mem_filter.mp member
    obtain ⟨due, same⟩ := Part.isMade_iff.mp made
    exact quiet template known (eq_of_beq owned) due same
  have unmade := List.countP_eq_zero.mpr idle
  have nothing : instances now supply (store.parts horizon today tenant) = [] := by
    rw [← List.length_eq_zero_iff, instances_length, unmade]
  have unstamped (row : Template) :
      Store.isMadeBy (store.parts horizon today tenant) row = false := by
    rw [Bool.eq_false_iff]
    intro stamped
    obtain ⟨entry, listed, made⟩ := List.any_eq_true.mp stamped
    exact idle entry listed (Bool.and_eq_true_iff.mp made).1
  refine ⟨_, (Store.generate_ok keyed).mpr ⟨today, day, answers, rfl, ?_⟩, ?_, ?_⟩
  · simp [Store.withParts, nothing, unstamped]
  · simpa [Summary.collect] using nothing
  · simpa [Summary.collect] using unmade

theorem passes_repeated {supply : Supply} {now : Instant} (keyed : store.Keyed)
    (answered : store.passes horizon tenant runs = .ok (created, after))
    (seen : ∃ run ∈ runs, horizon.today run.2 = horizon.today now) :
    ∃ summary, after.generate supply horizon tenant now = .ok (summary, after) ∧
      summary.tasks = [] ∧ summary.count = 0 := by
  have grown := passes_grown keyed answered
  obtain ⟨run, member, sameDay⟩ := seen
  obtain ⟨today, day, answers⟩ := passes_answers keyed answered run member
  rw [sameDay] at day
  have answersAfter := grown.answers.mpr answers
  apply generate_quiet (grown.keyed keyed) day answersAfter
  intro row known owned due made
  obtain ⟨called, absent, accepted⟩ := (part_made_iff day answersAfter owned).mp made
  obtain ⟨template, listed, same⟩ := grown.template_before known
  rw [← calls_unstamped same, grown.calls] at called
  rw [← hasInstance_unstamped same, grown.hasInstance, Bool.or_eq_false_iff] at absent
  rw [← refuses_unstamped same, grown.refuses] at accepted
  have before : store.Calls horizon template (runs.map Prod.snd) due := by
    apply called.of_days
    rintro seen ⟨other, only, seenDay⟩
    rw [List.mem_singleton.mp only] at seenDay
    exact ⟨run.2, List.mem_map_of_mem member, sameDay.trans seenDay⟩
  -- So a pass of that day made the task, and it cannot be missing after them.
  have one := (passes_owed keyed answered listed ((unstamped_fields same).2.1.trans owned) due).1
    ⟨before, absent.1, accepted⟩
  have zero := List.countP_eq_zero.mpr (List.any_eq_false.mp absent.2)
  omega

theorem passes_countP (keyed : store.Keyed)
    (answered : store.passes horizon tenant runs = .ok (created, after)) :
    after.tasks.countP (Task.isInstanceOf template due) =
      store.tasks.countP (Task.isInstanceOf template due) +
        created.countP (Task.isInstanceOf template due) := by
  rw [(passes_grown keyed answered).tasks, List.countP_append, List.countP_map]
  rfl

/-- A template whose title is refused gets no task. -/
theorem passes_refused (keyed : store.Keyed)
    (answered : store.passes horizon tenant runs = .ok (created, after))
    (listed : template ∈ store.templates) (owned : template.tenant = tenant)
    (refused : store.refuses template = true) (due : Date) :
    after.hasInstance template due = store.hasInstance template due ∧
      created.countP (Task.isInstanceOf template due) = 0 := by
  have unmade : created.countP (Task.isInstanceOf template due) = 0 := by
    apply (passes_owed keyed answered listed owned due).2
    rintro ⟨-, -, accepted⟩
    rw [refused] at accepted
    cases accepted
  have quiet : created.any (Task.isInstanceOf template due) = false :=
    List.any_eq_false.mpr (List.countP_eq_zero.mp unmade)
  rw [(passes_grown keyed answered).hasInstance, quiet, Bool.or_false]
  exact ⟨rfl, unmade⟩

/-- One whose title is taken gets one task for each call that has none. -/
theorem passes_accepted (keyed : store.Keyed)
    (answered : store.passes horizon tenant runs = .ok (created, after))
    (listed : template ∈ store.templates) (owned : template.tenant = tenant)
    (accepted : store.refuses template = false) (due : Date) :
    (after.hasInstance template due = true ↔ store.hasInstance template due = true ∨
      store.Calls horizon template (runs.map Prod.snd) due) ∧
    (store.hasInstance template due = false →
      store.Calls horizon template (runs.map Prod.snd) due →
        after.tasks.countP (Task.isInstanceOf template due) = 1) ∧
    (store.hasInstance template due = true ∨
      ¬ store.Calls horizon template (runs.map Prod.snd) due →
        created.countP (Task.isInstanceOf template due) = 0) := by
  obtain ⟨makes, skips⟩ := passes_owed keyed answered listed owned due
  have unowed (done : store.hasInstance template due = true ∨
      ¬ store.Calls horizon template (runs.map Prod.snd) due) :
      created.countP (Task.isInstanceOf template due) = 0 := by
    apply skips
    rintro ⟨called, absent, -⟩
    rcases done with present | uncalled
    · rw [present] at absent
      cases absent
    · exact uncalled called
  refine ⟨?_, ?_, unowed⟩
  · rw [(passes_grown keyed answered).hasInstance, Bool.or_eq_true, any_iff_countP]
    constructor
    · rintro (present | made)
      · exact Or.inl present
      · by_cases called : store.Calls horizon template (runs.map Prod.snd) due
        · exact Or.inr called
        · rw [unowed (Or.inr called)] at made
          cases made
    · rintro (present | called)
      · exact Or.inl present
      · by_cases present : store.hasInstance template due = true
        · exact Or.inl present
        · rw [makes ⟨called, Bool.eq_false_iff.mpr present, accepted⟩]
          exact Or.inr Nat.one_pos
  · intro absent called
    have before : store.tasks.countP (Task.isInstanceOf template due) = 0 :=
      List.countP_eq_zero.mpr (List.any_eq_false.mp absent)
    rw [passes_countP keyed answered, before, makes ⟨called, absent, accepted⟩]

/-- What passes that have an answer make of a template of an active pattern. -/
theorem passes_due_dates (keyed : store.Keyed)
    (answered : store.passes horizon tenant runs = .ok (created, after))
    (listed : template ∈ store.templates) (owned : template.tenant = tenant) {row : PatternRow}
    (known : row ∈ store.patterns) (mine : row.pattern.tenant = tenant)
    (bound : template.pattern = some row.pattern.id) (active : row.pattern.isActive = true) :
    let calls := horizon.Calls row.pattern.series (runs.map Prod.snd)
    store.Grown after created ∧
    (store.refuses template = true → ∀ due,
      after.hasInstance template due = store.hasInstance template due ∧
        created.countP (Task.isInstanceOf template due) = 0) ∧
    (store.refuses template = false → ∀ due,
      (after.hasInstance template due = true ↔
        store.hasInstance template due = true ∨ calls due) ∧
      (store.hasInstance template due = false → calls due →
        after.tasks.countP (Task.isInstanceOf template due) = 1) ∧
      (store.hasInstance template due = true ∨ ¬ calls due →
        created.countP (Task.isInstanceOf template due) = 0)) ∧
    (∀ others otherCreated otherAfter,
      store.passes horizon tenant others = .ok (otherCreated, otherAfter) →
      (∀ today, (∃ run ∈ runs, horizon.today run.2 = .ok today) ↔
        ∃ run ∈ others, horizon.today run.2 = .ok today) →
      (created.map Task.occurrence).Perm (otherCreated.map Task.occurrence)) ∧
    (∀ supply now, (∃ run ∈ runs, horizon.today run.2 = horizon.today now) →
      ∃ summary, after.generate supply horizon tenant now = .ok (summary, after) ∧
        summary.tasks = [] ∧ summary.count = 0) ∧
    (store.refuses template = false → 0 ≤ horizon.lookahead → ∀ first last : Date,
      (∀ day, first ≤ day → day ≤ last → ∃ run ∈ runs, horizon.today run.2 = .ok day) →
      ∀ date, first ≤ date → date ≤ last →
        row.pattern.series.nextOccurrence date = .ok (some date) →
        after.hasInstance template date = true ∧
          (store.hasInstance template date = false →
            after.tasks.countP (Task.isInstanceOf template date) = 1)) := by
  intro calls
  have found : store.patternRow template = some row := by
    unfold Store.patternRow
    rw [bound, owned, ← mine]
    exact keyed.findPattern_row known
  have accepts (accepted : store.refuses template = false) (due : Date) :=
    passes_accepted keyed answered listed owned accepted due
  simp only [calls_iff found active] at accepts
  refine ⟨passes_grown keyed answered, ?_, accepts, ?_, ?_, ?_⟩
  · exact fun refused due => passes_refused keyed answered listed owned refused due
  · intro others otherCreated otherAfter otherAnswered days
    exact passes_perm keyed answered otherAnswered days
  · intro supply now seen
    exact passes_repeated keyed answered seen
  · intro accepted ahead first last covered date after before occurs
    have call : calls date := by
      obtain ⟨run, member, day⟩ := covered date after before
      refine ⟨run.2, List.mem_map_of_mem member, date, day, occurs, ?_⟩
      unfold Date.daysFrom
      omega
    obtain ⟨present, single, -⟩ := accepts accepted date
    exact ⟨present.mpr (Or.inr call), fun absent => single absent call⟩

end Run

theorem filing_passes_due :
    ∃ created after, (filing true).passes {} (.ofNat 1)
        [(filingSupply, filingDay), (filingSupply.drop 1, filingDay)] = .ok (created, after) ∧
      after.tasks.countP (Task.isInstanceOf (filingTemplate 4 2 "Return") filingDue) = 1 := by
  have keyed : (filing true).Keyed := ⟨by decide +kernel, by decide +kernel⟩
  have returns : ((filing true).passes {} (.ofNat 1)
      [(filingSupply, filingDay), (filingSupply.drop 1, filingDay)]).isOk = true := by
    decide +kernel
  cases answered : (filing true).passes {} (.ofNat 1)
      [(filingSupply, filingDay), (filingSupply.drop 1, filingDay)] with
  | error failure =>
    rw [answered] at returns
    cases returns
  | ok result =>
    obtain ⟨-, -, accepted, -⟩ := passes_due_dates keyed answered
      (show filingTemplate 4 2 "Return" ∈ (filing true).templates from List.mem_cons_self) rfl
      (show ({ pattern := filingPattern 2 true } : PatternRow) ∈ (filing true).patterns from
        List.mem_cons_self) rfl rfl rfl
    obtain ⟨-, single, -⟩ := accepted (by decide +kernel) filingDue
    refine ⟨result.1, result.2, rfl, single (by decide +kernel) ?_⟩
    exact ⟨filingDay, List.mem_cons_self, filingDay.day, by decide +kernel, by decide +kernel,
      by decide +kernel⟩

/-- The occurrence of a template whose title the store refuses is within reach, and a pass makes no
task of it. -/
theorem refused_title_unserved :
    (({ filing true with refusedTitles := ["Return"] } : Store).passes {} (.ofNat 1)
        [(filingSupply, filingDay)]).toOption.map (fun result =>
          result.2.hasInstance (filingTemplate 4 2 "Return") filingDue) = some false ∧
    Horizon.Calls {} (filingPattern 2 true).series [filingDay] filingDue := by
  constructor
  · decide +kernel
  · exact ⟨filingDay, List.mem_cons_self, filingDay.day, by decide +kernel, by decide +kernel,
      by decide +kernel⟩

end Rota
