import Rota.Proofs.Generation.Faults
import Rota.Proofs.Generation.RecurringPasses

/-!
Intervals longer than a span of days can be. An interval that has begun is counted to its end before
the date is looked for, and the count has a fault when the end is too many days away. That is the
only fault there is in the next due date of a recurring task, and a pass that comes upon it stops
there: what it made until then stays, and the recurring tasks that come later get nothing.
-/

namespace Rota

variable {horizon : Horizon} {today : Date} {now : Instant}

theorem resolveTask_failsWhen (horizon : Horizon) (task : Task) (today : Date) :
    FailsWhen (horizon.resolveTask task today) .span (task.Overlong today) :=
  (task.nextDue_failsWhen today).bind_total fun _ _ => ⟨_, rfl⟩

theorem stepRoot_failsWhen (progress : Progress) (root : Task) :
    FailsWhen (stepRoot horizon today now progress root) .span (root.Overlong today) := by
  apply (resolveTask_failsWhen horizon root today).bind_total
  intro resolution _
  cases resolution with
  | none => exact ⟨_, rfl⟩
  | some resolution => cases resolution <;> exact ⟨_, rfl⟩

theorem foldlM_stepRoot_failsWhen (roots : List Task) (progress : Progress) :
    FailsWhen (roots.foldlM (stepRoot horizon today now) progress) .span
      (∃ root ∈ roots, root.Overlong today) := by
  induction roots generalizing progress with
  | nil => exact .of_ok rfl (by simp)
  | cons first rest ih =>
    rw [List.foldlM_cons]
    apply (stepRoot_failsWhen progress first).bind
    · exact fun long => ⟨first, List.mem_cons_self, long⟩
    · intro next _ fine
      exact (ih next).congr (by simp [fine])

theorem generateRecurring_failsWhen {store : Store} (isOpen : store.isOpen = true)
    (supply : Supply) (tenant : Uuid) (day : horizon.today now = .ok today) :
    FailsWhen (store.generateRecurring supply horizon tenant now) (.fault .span)
      (∃ root ∈ store.tasks, root.tenant = tenant ∧ root.isRoot = true ∧
        root.Overlong today) := by
  unfold Store.generateRecurring Store.recurringRoots Store.tasksWhere
  rw [day, Store.use_ok.mpr isOpen]
  apply ((foldlM_stepRoot_failsWhen _ _).ofChecked.bind_total fun _ _ => ⟨_, rfl⟩).congr
  simp [and_assoc]

/-- How far a pass over recurring tasks comes: to its end, or to the first that stops it. -/
def Progress.walk (horizon : Horizon) (today : Date) (now : Instant) :
    Progress → List Task → Progress
  | progress, [] => progress
  | progress, root :: rest =>
    match stepRoot horizon today now progress root with
    | .ok next => walk horizon today now next rest
    | .error _ => progress

/-- The one that stops the pass leaves everything to those before it. -/
theorem walk_stopped {before rest : List Task} {first : Task} {progress last : Progress}
    (walked : before.foldlM (stepRoot horizon today now) progress = .ok last)
    (long : first.Overlong today) :
    Progress.walk horizon today now progress (before ++ first :: rest) = last := by
  induction before generalizing progress with
  | nil =>
    cases walked
    rw [List.nil_append, Progress.walk, (stepRoot_failsWhen _ first).fails long]
  | cons root before ih =>
    rw [List.foldlM_cons] at walked
    obtain ⟨next, stepped, walked⟩ := bind_ok.mp walked
    rw [List.cons_append, Progress.walk, stepped]
    exact ih walked

/-- What is stored after a pass over recurring tasks, also after one that stopped. -/
def Store.afterRecurring (store : Store) (supply : Supply) (horizon : Horizon) (tenant : Uuid)
    (now : Instant) : Store :=
  match horizon.today now, store.recurringRoots tenant with
  | .ok today, .ok roots => (Progress.walk horizon today now (.start store supply tenant) roots).store
  | _, _ => store

/-- A pass over the recurring tasks of a tenant has a fault exactly when one of them has an interval
that has begun and is too long to be counted. Without one every due instance is there afterwards;
with one those of the recurring tasks created before it are, and no other is made. -/
theorem recurringPass_failsWhen (supply : Supply) (tenant : Uuid)
    (day : horizon.today now = .ok today) :
    (∀ task : Task, FailsWhen (horizon.resolveTask task today) .span (task.Overlong today)) ∧
    (∀ store : Store, store.isOpen = true →
      FailsWhen (store.generateRecurring supply horizon tenant now) (.fault .span)
        (∃ root ∈ store.tasks, root.tenant = tenant ∧ root.isRoot = true ∧
          root.Overlong today)) ∧
    ∀ store : Store, store.Reached → ∃ roots, store.recurringRoots tenant = .ok roots ∧
      ((∀ root ∈ roots, ¬ root.Overlong today) → ∃ summary after,
        store.generateRecurring supply horizon tenant now = .ok (summary, after) ∧
        summary.errors = [] ∧ ∀ root ∈ roots, horizon.Settled today after root) ∧
      ∀ before first rest, roots = before ++ first :: rest →
        (∀ root ∈ before, ¬ root.Overlong today) → first.Overlong today →
        store.generateRecurring supply horizon tenant now = .error (.fault .span) ∧
        ∃ made, store.afterRecurring supply horizon tenant now = store.withTasks made ∧
          (∀ root ∈ before, horizon.Settled today (store.withTasks made) root) ∧
          ∀ task ∈ made, ∃ root ∈ before, horizon.Brings today now root task := by
  refine ⟨fun task => resolveTask_failsWhen horizon task today,
    fun store isOpen => generateRecurring_failsWhen isOpen supply tenant day, ?_⟩
  intro store reached
  have isOpen := reached.sound.isOpen
  have answers {root : Task} (fine : ¬ root.Overlong today) :=
    (root.nextDue_failsWhen today).returns fine
  obtain ⟨roots, found⟩ : ∃ roots, store.recurringRoots tenant = .ok roots :=
    ⟨_, bind_ok.mpr ⟨(), Store.use_ok.mpr isOpen, rfl⟩⟩
  refine ⟨roots, found, ?_, ?_⟩
  · intro fine
    obtain ⟨summary, after, answered, silent, settled, -⟩ := generateRecurring_returns
      reached.repeats found day (fun root listed => answers (fine root listed)) supply
    exact ⟨summary, after, answered, silent, settled⟩
  · rintro before first rest rfl fine long
    obtain ⟨there, owned, recurs⟩ := (mem_recurringRoots found).mp
      (List.mem_append_right before List.mem_cons_self)
    refine ⟨(generateRecurring_failsWhen isOpen supply tenant day).fails
      ⟨first, there, owned, recurs, long⟩, ?_⟩
    have earlier : ∀ root ∈ before, root ∈ store.tasks ∧ root.isRoot = true := by
      intro root listed
      obtain ⟨there, -, recurs⟩ := (mem_recurringRoots found).mp (List.mem_append_left _ listed)
      exact ⟨there, recurs⟩
    have ready : (Progress.start store supply tenant).store.Repeats := reached.repeats
    -- Up to the long one the pass is a pass over the recurring tasks before it.
    obtain ⟨last, walked, -, settled, -⟩ := foldlM_stepRoot_returns horizon now ready earlier
      fun root listed => answers (fine root listed)
    obtain ⟨made, grew, brought⟩ := foldlM_stepRoot_grew walked
    have left : last.store = store.withTasks made := grew.store
    refine ⟨made, ?_, left ▸ settled, brought⟩
    simp only [Store.afterRecurring, day, found, walk_stopped walked long, left]

def archive : Task :=
  { backup with
    id := .ofNat 6, work := { title := "Archive" }, interval := some 9223372036854775807 }

def archivist : Store := { tasks := [archive, backup] }

theorem archivist_reached : archivist.Reached := by
  obtain ⟨_, archived⟩ := ok_of_store (show ((Store.empty.addTask (opening 6)
    { tenant := .ofNat 1, work := { title := "Archive" }, dueDate := some filingStart,
      isRecurring := true, interval := some 9223372036854775807 }).toOption.map Prod.snd) =
      some { tasks := [archive] } by decide +kernel)
  obtain ⟨_, added⟩ := ok_of_store (show ((Store.addTask { tasks := [archive] } (opening 5)
    { tenant := .ofNat 1, work := { title := "Backup" }, dueDate := some filingStart,
      isRecurring := true, interval := some 7 }).toOption.map Prod.snd) = some archivist by
      decide +kernel)
  exact .step (.step .empty (.addTask archived) ⟨⟨.nil, .nil⟩, by decide +kernel⟩)
    (.addTask added) ⟨⟨.nil, .nil⟩, by decide +kernel⟩

/-- The accepted interval stops the pass, and the backup that is due gets no task. -/
theorem archive_stops_pass :
    (Store.empty.addTask (opening 6)
      { tenant := .ofNat 1, work := { title := "Archive" }, dueDate := some filingStart,
        isRecurring := true, interval := some 9223372036854775807 }).toOption.map Prod.snd =
      some { tasks := [archive] } ∧
    Horizon.resolveTask {} archive backupEve = .error .span ∧
    Horizon.resolveTask {} backup backupEve = .ok (some (.due backupDue)) ∧
    (archivist.generateRecurring filingSupply {} (.ofNat 1) (.midnight backupEve)).map Prod.fst =
      .error (.fault .span) ∧
    (archivist.afterRecurring filingSupply {} (.ofNat 1) (.midnight backupEve)).hasContent backup
      backupDue = false := by
  refine ⟨by decide +kernel, by decide +kernel, by decide +kernel, ?_, by decide +kernel⟩
  rfl

def newYearsEve : Date := ⟨19722, by decide, by decide⟩ -- 31 December 2023

/-- Before the day it is due the archive stops nothing, and from that day on it does. -/
theorem archive_stops_once_begun :
    Horizon.today {} (.midnight newYearsEve) = .ok newYearsEve ∧
    Horizon.today {} (.midnight backupEve) = .ok backupEve ∧
    archivist.Reached ∧
    (∃ summary after, archivist.generateRecurring filingSupply {} (.ofNat 1)
      (.midnight newYearsEve) = .ok (summary, after) ∧ summary.errors = []) ∧
    archivist.generateRecurring filingSupply {} (.ofNat 1) (.midnight backupEve) =
      .error (.fault .span) := by
  have early : Horizon.today {} (.midnight newYearsEve) = .ok newYearsEve := by decide +kernel
  have late : Horizon.today {} (.midnight backupEve) = .ok backupEve := by decide +kernel
  refine ⟨early, late, archivist_reached, ?_, ?_⟩
  · obtain ⟨-, -, serves⟩ := recurringPass_failsWhen filingSupply (.ofNat 1) early
    obtain ⟨roots, found, returns, -⟩ := serves archivist archivist_reached
    obtain ⟨summary, after, answered, silent, -⟩ := returns (by
      rintro root listed ⟨_, due, -, -, dated, -, begun⟩
      -- Both are due on the first of January.
      rcases List.mem_pair.mp ((mem_recurringRoots found).mp listed).1 with rfl | rfl <;>
        · cases dated
          exact absurd begun (by decide))
    exact ⟨summary, after, answered, silent⟩
  · obtain ⟨-, stops, -⟩ := recurringPass_failsWhen filingSupply (.ofNat 1) late
    exact (stops archivist rfl).fails
      ⟨archive, List.mem_cons_self, rfl, rfl, _, filingStart, rfl, rfl, rfl, by decide, by decide⟩

end Rota
