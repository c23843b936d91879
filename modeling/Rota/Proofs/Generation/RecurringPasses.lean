import Rota.Proofs.Generation.Lineage
import Rota.Proofs.Task.NextDue

/-!
Passes over the recurring tasks of a tenant, one after the other, with nothing else written in
between. Every date that a recurring task falls due on while there is a pass a day has a task of its
content in the end, whichever task stands in for it, and no two tasks are made for the same content
and day.
-/

namespace Rota

def Store.recurringPasses (store : Store) (horizon : Horizon) (tenant : Uuid) :
    List (Supply × Instant) → Outcome (List Summary × Store)
  | [] => .ok ([], store)
  | (supply, now) :: rest => do
    let (summary, next) ← store.generateRecurring supply horizon tenant now
    let (others, last) ← next.recurringPasses horizon tenant rest
    return (summary :: others, last)

section Run
variable {store after : Store} {horizon : Horizon} {tenant : Uuid}
  {runs : List (Supply × Instant)} {summaries : List Summary} {roots : List Task}

theorem recurringPasses_cons {supply : Supply} {now : Instant} :
    store.recurringPasses horizon tenant ((supply, now) :: runs) = .ok (summaries, after) ↔
      ∃ summary next others,
        store.generateRecurring supply horizon tenant now = .ok (summary, next) ∧
        next.recurringPasses horizon tenant runs = .ok (others, after) ∧
        summaries = summary :: others := by
  rw [Store.recurringPasses, bind_ok]
  constructor
  · rintro ⟨⟨summary, next⟩, answered, rest⟩
    obtain ⟨⟨others, last⟩, later, same⟩ := bind_ok.mp rest
    cases same
    exact ⟨summary, next, others, answered, later, rfl⟩
  · rintro ⟨summary, next, others, answered, later, rfl⟩
    exact ⟨(summary, next), answered, bind_ok.mpr ⟨(others, after), later, rfl⟩⟩

/-- What a run of one pass did: its tasks are what the roots bring on the day of the pass. -/
def Horizon.Brought (horizon : Horizon) (roots : List Task) (run : Supply × Instant)
    (summary : Summary) : Prop :=
  ∃ today, horizon.today run.2 = .ok today ∧
    ∀ task ∈ summary.tasks, ∃ root ∈ roots, horizon.Brings today run.2 root task

theorem Horizon.Brought.leaves {run : Supply × Instant} {summary : Summary}
    (brought : horizon.Brought roots run summary) :
    ∀ task ∈ summary.tasks, task.isRoot = false := by
  obtain ⟨today, -, sourced⟩ := brought
  intro task member
  obtain ⟨root, -, brings⟩ := sourced task member
  exact brings_leaf brings

theorem recurringPasses_made (found : store.recurringRoots tenant = .ok roots)
    (answered : store.recurringPasses horizon tenant runs = .ok (summaries, after)) :
    after = store.withTasks (summaries.flatMap Summary.tasks) ∧
      after.recurringRoots tenant = .ok roots ∧
      List.Forall₂ (horizon.Brought roots) runs summaries := by
  induction runs generalizing store summaries with
  | nil =>
    cases answered
    exact ⟨Store.withTasks_nil.symm, found, .nil⟩
  | cons run rest ih =>
    rcases run with ⟨supply, now⟩
    obtain ⟨summary, next, others, first, later, rfl⟩ := recurringPasses_cons.mp answered
    obtain ⟨today, looked, day, same, rfl, -, sourced⟩ := generateRecurring_made first
    rw [found] at same
    cases same
    have brought : horizon.Brought roots (supply, now) summary := ⟨today, day, sourced⟩
    have still : (store.withTasks summary.tasks).recurringRoots tenant = .ok roots := by
      rw [recurringRoots_withTasks brought.leaves, found]
    obtain ⟨grown, kept, others⟩ := ih still later
    exact ⟨by rw [grown, List.flatMap_cons, Store.withTasks_append], kept, .cons brought others⟩

theorem recurringPasses_consistent (consistent : store.Consistent)
    (answered : store.recurringPasses horizon tenant runs = .ok (summaries, after)) :
    after.Consistent ∧ store.AddsLeaves after := by
  induction runs generalizing store summaries with
  | nil =>
    cases answered
    exact ⟨consistent, .refl _⟩
  | cons run rest ih =>
    rcases run with ⟨supply, now⟩
    obtain ⟨summary, next, others, first, later, rfl⟩ := recurringPasses_cons.mp answered
    obtain ⟨nextConsistent, adds⟩ := generateRecurring_keeps consistent first
    obtain ⟨lastConsistent, laterAdds⟩ := ih nextConsistent later
    exact ⟨lastConsistent, adds.trans laterAdds⟩

/-- Where nothing is in the way the passes have an answer, without errors, and settle every root for
each of their days. -/
theorem recurringPasses_returns (repeats : store.Repeats)
    (found : store.recurringRoots tenant = .ok roots)
    (days : ∀ run ∈ runs, ∃ today, horizon.today run.2 = .ok today)
    (answers : ∀ root ∈ roots, ∀ today, ∃ answer, root.nextDue today = .ok answer) :
    ∃ summaries after, store.recurringPasses horizon tenant runs = .ok (summaries, after) ∧
      after.Repeats ∧ (∀ summary ∈ summaries, summary.errors = []) ∧
      ∀ run ∈ runs, ∀ today, horizon.today run.2 = .ok today →
        ∀ root ∈ roots, horizon.Settled today after root := by
  induction runs generalizing store with
  | nil => exact ⟨[], store, rfl, repeats, by simp, by simp⟩
  | cons run rest ih =>
    rcases run with ⟨supply, now⟩
    obtain ⟨today, day⟩ := days (supply, now) List.mem_cons_self
    obtain ⟨summary, next, first, silent, settled, -⟩ :=
      generateRecurring_returns repeats found day (fun root member => answers root member today)
        supply
    obtain ⟨seen, looked, sameDay, same, rfl, -, sourced⟩ := generateRecurring_made first
    rw [found] at same
    cases same
    have nextRepeats : (store.withTasks summary.tasks).Repeats := by
      apply repeats.withBrought
      intro task member
      obtain ⟨root, listed, brings⟩ := sourced task member
      obtain ⟨known, -, recurs⟩ := (mem_recurringRoots found).mp listed
      exact ⟨root, known, recurs, brings⟩
    -- The pass leaves the roots what they were, so the ones after it go through the same roots.
    have still : (store.withTasks summary.tasks).recurringRoots tenant = .ok roots := by
      rw [recurringRoots_withTasks (Horizon.Brought.leaves ⟨seen, sameDay, sourced⟩), found]
    obtain ⟨others, after, later, lastRepeats, laterSilent, laterSettled⟩ := ih nextRepeats still
      fun run member => days run (List.mem_cons_of_mem _ member)
    obtain ⟨grown, -⟩ := recurringPasses_made still later
    refine ⟨summary :: others, after, recurringPasses_cons.mpr
      ⟨summary, _, others, first, later, rfl⟩, lastRepeats, ?_, ?_⟩
    · intro other member
      rcases List.mem_cons.mp member with rfl | tail
      · exact silent
      · exact laterSilent other tail
    · intro run member other otherDay root listed
      rcases List.mem_cons.mp member with rfl | tail
      · rw [day] at otherDay
        cases otherDay
        rw [grown]
        exact (settled root listed).mono _
      · exact laterSettled run tail other otherDay root listed

theorem Horizon.Brought.instances {run : Supply × Instant} {summary : Summary}
    (brought : horizon.Brought roots run summary) :
    ∃ today, horizon.today run.2 = .ok today ∧ ∀ task ∈ summary.tasks, ∃ root ∈ roots,
      task.parent = some root.id ∧ root.sameContent task = true ∧ ∃ due, task.dueDate = some due ∧
        root.nextDue today = .ok (some due) ∧
        0 ≤ due.daysFrom today ∧ due.daysFrom today ≤ horizon.lookahead := by
  obtain ⟨today, day, sourced⟩ := brought
  refine ⟨today, day, fun task member => ?_⟩
  obtain ⟨root, listed, due, id, next, near, rfl⟩ := sourced task member
  exact ⟨root, listed, rfl, sameContent_instantiate root due run.2 id, due, rfl, next,
    of_decide_eq_true near⟩

section Settled
variable {root : Task} {interval day : Int64} {due date first : Date}

/-- The pass on the day before settles a date that lies whole intervals from the due date. -/
theorem hasContent_interval (ahead : 1 ≤ horizon.lookahead)
    (repeats : root.interval = some interval) (positive : 0 < interval)
    (short : interval.toInt ≤ longestSpan) (unpinned : root.monthlyDate = none)
    (dated : root.dueDate = some due) (multiple : interval.toInt ∣ date.daysFrom due)
    (after : first < date)
    (settled : ∀ today : Date, first ≤ today → today ≤ date → horizon.Settled today store root) :
    store.hasContent root date = true := by
  obtain ⟨today, follows⟩ := Date.exists_eve after
  have number := Date.number_addDays? follows
  have next := Task.nextDue_before repeats positive short unpinned dated follows multiple
  rw [Date.lt_def] at after
  have begun : first ≤ today := Date.le_def.mpr (by omega)
  have within : today ≤ date := Date.le_def.mpr (by omega)
  refine settled today begun within date next (decide_eq_true ?_)
  unfold Date.daysFrom
  omega

/-- The pass on the day itself settles a date that is the day of the month. -/
theorem hasContent_monthly (ahead : 1 ≤ horizon.lookahead)
    (repeats : root.interval = some interval) (positive : 0 < interval)
    (monthly : root.monthlyDate = some day)
    (met : date.day = min (Task.dayOfMonth day) (monthDays date.monthIndex))
    (seen : ¬ date.Unseen) (settled : horizon.Settled date store root) :
    store.hasContent root date = true := by
  refine settled date (Task.nextDue_on_day repeats positive monthly met seen) (decide_eq_true ?_)
  show 0 ≤ date.number - date.number ∧ date.number - date.number ≤ horizon.lookahead
  omega

end Settled

/-- What passes over the recurring tasks of a tenant do to a store that the operations reach, when
the spans of the intervals fit their milliseconds and the passes look at least a day ahead. -/
theorem recurring_passes_serve (reached : store.Reached) (tenant : Uuid)
    (ahead : 1 ≤ horizon.lookahead)
    (short : ∀ task ∈ store.tasks, ∀ interval, task.interval = some interval →
      interval.toInt ≤ longestSpan)
    (days : ∀ run ∈ runs, ∃ today, horizon.today run.2 = .ok today) :
    ∃ roots summaries after, store.recurringRoots tenant = .ok roots ∧
      store.recurringPasses horizon tenant runs = .ok (summaries, after) ∧
      after = store.withTasks (summaries.flatMap Summary.tasks) ∧
      (∀ summary ∈ summaries, summary.errors = []) ∧
      List.Forall₂ (fun run summary => ∃ today, horizon.today run.2 = .ok today ∧
        ∀ task ∈ summary.tasks, ∃ root ∈ roots, task.parent = some root.id ∧
          root.sameContent task = true ∧ ∃ due, task.dueDate = some due ∧
            root.nextDue today = .ok (some due) ∧
            0 ≤ due.daysFrom today ∧ due.daysFrom today ≤ horizon.lookahead) runs summaries ∧
      after.tasks.Pairwise (fun a b => a.parent.isSome = true → b.parent.isSome = true →
        ¬ (a.sameContent b = true ∧ a.dueDate = b.dueDate)) ∧
      (∀ first last : Date,
        (∀ day, first ≤ day → day ≤ last → ∃ run ∈ runs, horizon.today run.2 = .ok day) →
        ∀ root ∈ roots, ∀ date : Date, date ≤ last →
          (∀ due interval, root.monthlyDate = none → root.dueDate = some due →
            root.interval = some interval → first < date → interval.toInt ∣ date.daysFrom due →
              after.hasContent root date = true) ∧
          (∀ day, root.monthlyDate = some day → first ≤ date →
            date.day = min (Task.dayOfMonth day) (monthDays date.monthIndex) → ¬ date.Unseen →
              after.hasContent root date = true)) ∧
      (∀ other, after.recurringRoots other = store.recurringRoots other) ∧
      ∀ supply now, (∃ run ∈ runs, horizon.today run.2 = horizon.today now) →
        ∃ summary, after.generateRecurring supply horizon tenant now = .ok (summary, after) ∧
          summary.tasks = [] ∧ summary.count = 0 := by
  have lineage := reached.lineage
  obtain ⟨roots, found⟩ : ∃ roots, store.recurringRoots tenant = .ok roots := by
    refine ⟨_, bind_ok.mpr ⟨(), Store.use_ok.mpr reached.sound.isOpen, rfl⟩⟩
  have known {root : Task} (listed : root ∈ roots) := (mem_recurringRoots found).mp listed
  have answers : ∀ root ∈ roots, ∀ today, ∃ answer, root.nextDue today = .ok answer :=
    fun root listed today => Task.nextDue_returns (short root (known listed).1) today
  obtain ⟨summaries, after, answered, repeats, silent, settled⟩ :=
    recurringPasses_returns reached.repeats found days answers
  obtain ⟨grown, still, brought⟩ := recurringPasses_made found answered
  obtain ⟨consistent, adds⟩ := recurringPasses_consistent reached.consistent answered
  refine ⟨roots, summaries, after, found, answered, grown, silent,
    brought.imp fun _ _ => Horizon.Brought.instances, consistent.contents, ?_,
    fun other => adds.recurringRoots other, ?_⟩
  · intro first last covered root listed date before
    obtain ⟨there, -, recurs⟩ := known listed
    have daily (today : Date) (begun : first ≤ today) (within : today ≤ date) :
        horizon.Settled today after root := by
      obtain ⟨run, member, day⟩ := covered today begun (Int.le_trans within before)
      exact settled run member today day root listed
    constructor
    · intro due interval unpinned dated present later multiple
      exact hasContent_interval ahead present (lineage.intervals root there interval present)
        (short root there interval present) unpinned dated multiple later daily
    · intro day monthly later met seen
      obtain ⟨interval, present⟩ := Option.isSome_iff_exists.mp
        (Bool.and_eq_true_iff.mp recurs).2
      exact hasContent_monthly ahead present (lineage.intervals root there interval present)
        monthly met seen (daily date later (Int.le_refl _))
  · rintro supply now ⟨run, member, sameDay⟩
    obtain ⟨today, day⟩ := days run member
    obtain ⟨summary, last, again, -, -, quiet⟩ := generateRecurring_returns repeats still
      (sameDay.symm.trans day) (fun root listed => answers root listed today) supply
    have nothing := quiet fun root listed => settled run member today day root listed
    obtain ⟨-, -, -, -, rfl, counted, -⟩ := generateRecurring_made again
    refine ⟨summary, ?_, nothing, ?_⟩
    · rw [again, nothing, Store.withTasks_nil]
    · rw [counted, nothing]
      rfl

end Run

def backupEve : Date := ⟨19834, by decide, by decide⟩ -- 21 April 2024, the day before

theorem backup_served :
    office.Reached ∧ ∃ summaries after,
      office.recurringPasses {} (.ofNat 1)
        [(filingSupply, .midnight backupEve), (opening 200, .midnight backupDue)] =
          .ok (summaries, after) ∧
      after.hasContent backup backupDue = true ∧
      ∃ summary, after.generateRecurring filingSupply {} (.ofNat 1) (.midnight backupDue) =
        .ok (summary, after) := by
  have seen : ∀ run ∈ [(filingSupply, Instant.midnight backupEve),
      (opening 200, Instant.midnight backupDue)], ∃ today, Horizon.today {} run.2 = .ok today := by
    intro run member
    rcases List.mem_pair.mp member with rfl | rfl
    · exact ⟨backupEve, by decide +kernel⟩
    · exact ⟨backupDue, by decide +kernel⟩
  have short : ∀ task ∈ office.tasks, ∀ interval, task.interval = some interval →
      interval.toInt ≤ longestSpan := by
    intro task member interval present
    rw [List.mem_singleton.mp member] at present
    cases present
    decide
  obtain ⟨roots, summaries, after, found, answered, -, -, -, -, covers, -, again⟩ :=
    recurring_passes_serve office_reached (.ofNat 1) (by decide) short seen
  have listed : backup ∈ roots :=
    (mem_recurringRoots found).mpr ⟨List.mem_singleton.mpr rfl, rfl, rfl⟩
  refine ⟨office_reached, summaries, after, answered, ?_, ?_⟩
  · refine (covers backupEve backupDue ?_ backup listed backupDue (Int.le_refl _)).1
      filingStart 7 rfl rfl rfl (by decide) (by decide)
    intro day later earlier
    have lower : 19834 ≤ day.number := later
    have upper : day.number ≤ 19835 := earlier
    rcases (show day.number = 19834 ∨ day.number = 19835 by omega) with eve | due
    · rw [Date.ext (show day.number = backupEve.number from eve)]
      exact ⟨_, List.mem_cons_self, by decide +kernel⟩
    · rw [Date.ext (show day.number = backupDue.number from due)]
      exact ⟨_, List.mem_cons_of_mem _ List.mem_cons_self, by decide +kernel⟩
  · obtain ⟨summary, quiet, -⟩ := again filingSupply (.midnight backupDue)
      ⟨_, List.mem_cons_of_mem _ List.mem_cons_self, rfl⟩
    exact ⟨summary, quiet⟩

def closing : Task :=
  { backup with
    work := { title := "Close the month" }, dueDate := none, interval := some 30,
    monthlyDate := some 31 }

def closingBooks : Store := { tasks := [closing] }

/-- On the last day of the calendar, the 31st, the pass of that day makes no task for it. -/
theorem last_day_unserved :
    closingBooks.Reached ∧
    Date.last.day = min (Task.dayOfMonth 31) (monthDays Date.last.monthIndex) ∧
    ((closingBooks.recurringPasses {} (.ofNat 1) [(filingSupply, .midnight .last)]).toOption.map
      fun result => (result.2.hasContent closing .last, result.2.tasks.length)) =
        some (false, 1) := by
  refine ⟨?_, by decide +kernel, by decide +kernel⟩
  obtain ⟨_, added⟩ := ok_of_store (show ((Store.empty.addTask (opening 5)
    { tenant := .ofNat 1, work := { title := "Close the month" }, isRecurring := true,
      interval := some 30, monthlyDate := some 31 }).toOption.map Prod.snd) = some closingBooks by
      decide +kernel)
  exact .step .empty (.addTask added) ⟨⟨.nil, .nil⟩, by decide +kernel⟩

end Rota
