import Rota.Proofs.Generation.Passes
import Rota.Proofs.Generation.Reached
import Rota.Proofs.Pattern.Spacing

/-!
The window of a pass. A pass looks at one occurrence of each pattern, so without an error it leaves
a task for the first occurrence in its window and makes none for the others. A window shorter than
the occurrences lie apart has one occurrence at most, and then passes that follow each other before
the window is over miss nothing.
-/

namespace Rota

/-- Passes in turn on these local days, none of them with an error. -/
inductive Store.CleanPasses (horizon : Horizon) (tenant : Uuid) :
    Store → List Date → Store → Prop where
  | none (store : Store) : CleanPasses horizon tenant store [] store
  | pass {store next after : Store} {supply : Supply} {now : Instant} {summary : Summary}
      {today : Date} {days : List Date} (day : horizon.today now = .ok today)
      (answered : store.generate supply horizon tenant now = .ok (summary, next))
      (clean : summary.errors = []) (rest : CleanPasses horizon tenant next days after) :
      CleanPasses horizon tenant store (today :: days) after

section Window
variable {store after : Store} {horizon : Horizon} {tenant : Uuid} {template : Template}
  {row : PatternRow} {today : Date}

theorem part_clean {now : Instant} {supply : Supply} {summary : Summary} (keyed : store.Keyed)
    (day : horizon.today now = .ok today)
    (answered : store.generate supply horizon tenant now = .ok (summary, after))
    (clean : summary.errors = []) (listed : template ∈ store.templates)
    (owned : template.tenant = tenant) (message : String) :
    store.part horizon today template ≠ .failed message := by
  obtain ⟨other, sameDay, -, rfl, -⟩ := (Store.generate_ok keyed).mp answered
  rw [day] at sameDay
  cases sameDay
  intro failed
  have entry : (template, store.part horizon today template) ∈
      store.parts horizon today tenant :=
    List.mem_map_of_mem (List.mem_filter.mpr ⟨listed, beq_iff_eq.mpr owned⟩)
  have silent := List.filterMap_eq_nil_iff.mp (show (store.parts horizon today tenant).filterMap
    (fun entry => entry.2.failure? entry.1) = [] from clean) _ entry
  rw [failed] at silent
  cases silent

/-- A due occurrence that is no failure has its task afterwards, or had it before. -/
theorem resolvedPart_clean {resolution : Resolution} {due : Date}
    (clean : ∀ message, store.resolvedPart template resolution ≠ .failed message) :
    (store.hasInstance template due = true ∨ store.resolvedPart template resolution = .made due) ↔
      store.hasInstance template due = true ∨ resolution = .due due := by
  rw [Store.resolvedPart_made]
  constructor
  · rintro (present | ⟨same, -, -⟩)
    · exact Or.inl present
    · exact Or.inr same
  · rintro (present | rfl)
    · exact Or.inl present
    · rcases store.resolvedPart_due template due with
        ⟨present, -⟩ | ⟨-, -, part⟩ | ⟨absent, accepted, -⟩
      · exact Or.inl present
      · exact absurd part (clean _)
      · exact Or.inr ⟨rfl, absent, accepted⟩

theorem generate_clean {now : Instant} {supply : Supply} {summary : Summary} (keyed : store.Keyed)
    (day : horizon.today now = .ok today)
    (answered : store.generate supply horizon tenant now = .ok (summary, after))
    (clean : summary.errors = []) (listed : template ∈ store.templates)
    (owned : template.tenant = tenant) (found : store.patternRow template = some row)
    (active : row.pattern.isActive = true) :
    (∃ answer, row.pattern.series.nextOccurrence today = .ok answer) ∧
    ∀ due, after.hasInstance template due = true ↔ store.hasInstance template due = true ∨
      horizon.resolve row.pattern.series today = .ok (.due due) := by
  obtain ⟨other, sameDay, answers, -⟩ := (Store.generate_ok keyed).mp answered
  rw [day] at sameDay
  cases sameDay
  obtain ⟨known, mine⟩ := Store.patternRow_mem found
  obtain ⟨resolution, resolved⟩ := (answers.2 row known (mine.trans owned) active).2
  have part := Store.part_active found active resolved
  refine ⟨?_, fun due => ?_⟩
  · obtain ⟨answer, looked, -⟩ := bind_ok.mp resolved
    exact ⟨answer, looked⟩
  · have counted : summary.tasks.countP (Task.isInstanceOf template due) = _ :=
      generate_count keyed answered day listed owned
    have unfailed := part_clean keyed day answered clean listed owned
    rw [part] at counted unfailed
    rw [(generate_grown keyed answered).hasInstance, Bool.or_eq_true, any_iff_countP, counted,
      resolved, Except.ok.injEq, ← resolvedPart_clean unfailed]
    split
    · next made => simp [made]
    · next unmade => simp [unmade]

theorem Store.Grown.patternRow {created : List Task} {later : Template}
    (grown : store.Grown after created) (same : later.unstamped = template.unstamped) :
    after.patternRow later = store.patternRow template := by
  obtain ⟨-, tenants, patterns, -⟩ := unstamped_fields same
  unfold Store.patternRow
  rw [grown.patterns, tenants, patterns]

namespace Store.CleanPasses

/-- What passes without errors leave of a template of an active pattern. -/
theorem hasInstance {days : List Date} (run : CleanPasses horizon tenant store days after)
    (keyed : store.Keyed) (listed : template ∈ store.templates) (owned : template.tenant = tenant)
    (found : store.patternRow template = some row) (active : row.pattern.isActive = true) :
    (∀ today ∈ days, ∃ answer, row.pattern.series.nextOccurrence today = .ok answer) ∧
    ∀ due, after.hasInstance template due = true ↔ store.hasInstance template due = true ∨
      ∃ today ∈ days, horizon.resolve row.pattern.series today = .ok (.due due) := by
  induction run generalizing template with
  | none store => simp
  | pass day answered clean rest ih =>
    obtain ⟨answers, first⟩ := generate_clean keyed day answered clean listed owned found active
    have grown := generate_grown keyed answered
    -- The later passes see the template under a new stamp.
    obtain ⟨later, known, same⟩ := grown.template_after listed
    obtain ⟨laterAnswers, others⟩ := ih (grown.keyed keyed) known
      ((unstamped_fields same).2.1.trans owned) ((grown.patternRow same).trans found)
    refine ⟨?_, fun due => ?_⟩
    · intro today member
      rcases List.mem_cons.mp member with rfl | tail
      · exact answers
      · exact laterAnswers today tail
    · rw [← hasInstance_unstamped same, others due, hasInstance_unstamped same, first due, or_assoc]
      simp only [List.mem_cons, exists_eq_or_imp]

end Store.CleanPasses

/-- Of each window, passes without errors leave a task for the first occurrence, and for no other.
When the occurrences lie further apart than the window is long, that is every one in it; and passes
that follow each other before the window, and the least distance of occurrences, is over leave a
task for every occurrence on the way. -/
theorem clean_passes_window {days : List Date} (keyed : store.Keyed)
    (run : store.CleanPasses horizon tenant days after) (listed : template ∈ store.templates)
    (owned : template.tenant = tenant) (known : row ∈ store.patterns)
    (mine : row.pattern.tenant = tenant) (bound : template.pattern = some row.pattern.id)
    (active : row.pattern.isActive = true)
    (checked : row.pattern.series.rule.check = .ok ()) :
    let series := row.pattern.series
    (∀ a b, series.nextOccurrence a = .ok (some a) → series.nextOccurrence b = .ok (some b) →
      a < b → series.rule.spacing ≤ b.daysFrom a) ∧
    (∀ due, after.hasInstance template due = true ↔ store.hasInstance template due = true ∨
      ∃ today ∈ days, series.nextOccurrence today = .ok (some due) ∧
        due.daysFrom today ≤ horizon.lookahead) ∧
    (horizon.lookahead < series.rule.spacing → ∀ today ∈ days, ∀ date, today ≤ date →
      date.daysFrom today ≤ horizon.lookahead → series.nextOccurrence date = .ok (some date) →
        after.hasInstance template date = true) ∧
    ∀ gap first last, gap ≤ horizon.lookahead + 1 → gap ≤ series.rule.spacing →
      days.head? = some first → days.getLast? = some last →
      days.IsChain (fun a b => b.daysFrom a ≤ gap) → ∀ date, first ≤ date →
        date.daysFrom last < gap → series.nextOccurrence date = .ok (some date) →
          after.hasInstance template date = true := by
  intro series
  have valid := Rule.check_ok.mp checked
  have found : store.patternRow template = some row := by
    unfold Store.patternRow
    rw [bound, owned, ← mine]
    exact keyed.findPattern_row known
  obtain ⟨answers, left⟩ := run.hasInstance keyed listed owned found active
  simp only [resolve_due_iff] at left
  have taken {today date : Date} (seen : today ∈ days) (ahead : today ≤ date)
      (reached : date.daysFrom today ≤ horizon.lookahead)
      (near : date.daysFrom today < series.rule.spacing)
      (occurs : series.nextOccurrence date = .ok (some date)) :
      after.hasInstance template date = true := by
    obtain ⟨answer, answered⟩ := answers today seen
    have next := Series.nextOccurrence_of_near valid answered
      ((Series.nextOccurrence_self_iff valid).mp occurs).2 ahead near
    rw [next] at answered
    exact (left date).mpr (Or.inr ⟨today, seen, answered, reached⟩)
  refine ⟨?_, left, ?_, ?_⟩
  · intro a b first second less
    have apart : a.number + series.rule.spacing ≤ b.number :=
      Rule.occurs_apart valid ((Series.nextOccurrence_self_iff valid).mp first).2.1
        ((Series.nextOccurrence_self_iff valid).mp second).2.1 less
    unfold Date.daysFrom
    omega
  · intro sparse today seen date ahead reached occurs
    exact taken seen ahead reached (by omega) occurs
  · intro gap first last short sparse heads ends chain date after before occurs
    cases days with
    | nil => cases heads
    | cons head rest =>
      cases heads
      obtain ⟨today, seen, ahead, near⟩ := near_of_chain chain ends after before
      exact taken seen ahead (by omega) (by omega) occurs

end Window

theorem clean_of_pass {attempt : Outcome (Summary × Store)} {after : Store}
    (ends : attempt.toOption.map (fun result => (result.1.errors, result.2)) = some ([], after)) :
    ∃ summary, attempt = .ok (summary, after) ∧ summary.errors = [] := by
  cases attempt with
  | error failure => cases ends
  | ok result =>
    obtain ⟨summary, last⟩ := result
    simp only [Except.toOption, Option.map_some, Option.some.injEq, Prod.mk.injEq] at ends
    obtain ⟨clean, rfl⟩ := ends
    exact ⟨summary, rfl, clean⟩

def filingLater : Instant := .midnight ⟨19836, by decide, by decide⟩ -- 23 April 2024

-- Passes eight days apart that look seven days ahead.
theorem filing_on_the_way :
    office.Keyed ∧
    office.CleanPasses {} (.ofNat 1) [filingDay.day, filingLater.day] officeFiled ∧
    officeFiled.hasInstance (filingTemplate 4 2 "Return") filingDue = true := by
  obtain ⟨_, first, firstClean⟩ := clean_of_pass (show ((office.generate filingSupply {} (.ofNat 1)
    filingDay).toOption.map fun result => (result.1.errors, result.2)) = some ([], officeFiled) by
      decide +kernel)
  obtain ⟨_, second, secondClean⟩ := clean_of_pass (show ((officeFiled.generate filingSupply {}
    (.ofNat 1) filingLater).toOption.map fun result => (result.1.errors, result.2)) =
      some ([], officeFiled) by decide +kernel)
  have keyed := office_reached.identified.toKeyed
  have run : office.CleanPasses {} (.ofNat 1) [filingDay.day, filingLater.day] officeFiled :=
    .pass (by decide +kernel) first firstClean
      (.pass (by decide +kernel) second secondClean (.none _))
  obtain ⟨-, -, -, way⟩ := clean_passes_window keyed run
    (show filingTemplate 4 2 "Return" ∈ office.templates from List.mem_cons_self) rfl
    (show ({ pattern := filingPattern 2 true } : PatternRow) ∈ office.patterns from
      List.mem_cons_self) rfl rfl rfl rfl
  refine ⟨keyed, run, ?_⟩
  exact way 8 filingDay.day filingLater.day (by decide) (by decide) rfl rfl
    (List.isChain_cons_cons.mpr ⟨by decide, .singleton _⟩) filingDue (by decide) (by decide)
    (by decide +kernel)

def daily : Series :=
  { rule := .custom 1 .days [] [] [], ending := .never, startsOn := filingStart }

def sweeping : Store :=
  { patterns := [{ pattern := { filingPattern 2 true with series := daily } }]
    templates := [filingTemplate 4 2 "Sweep"] }

/-- A pass that looks one day ahead makes the task of today and leaves that of tomorrow, and no pass
two days later makes up for it. -/
theorem daily_occurrence_left :
    (sweeping.generate filingSupply { lookahead := 1 } (.ofNat 1) filingDay).toOption.map
        (fun result => (result.1.errors, result.2.tasks.map Task.dueDate)) =
      some ([], [some filingDay.day]) ∧
    (sweeping.passes { lookahead := 1 } (.ofNat 1)
        [(filingSupply, filingDay), (filingSupply.drop 1, .midnight ⟨19830, by decide, by decide⟩)]
      ).toOption.map (fun result => result.2.tasks.map Task.dueDate) =
      some [some filingDay.day, some ⟨19830, by decide, by decide⟩] ∧
    daily.nextOccurrence ⟨19829, by decide, by decide⟩ =
      .ok (some ⟨19829, by decide, by decide⟩) := by
  refine ⟨?_, ?_, ?_⟩
  · decide +kernel
  · decide +kernel
  · decide +kernel

end Rota
