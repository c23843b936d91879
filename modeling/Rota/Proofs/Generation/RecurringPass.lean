import Rota.Proofs.Generation.Reached
import Rota.Proofs.Store.Repeats

/-!
A pass over recurring tasks. What it made is told by the tasks it adds: each is an instance of a
recurring task, due on its next due date. Where nothing is in the way the pass has an answer and no
errors, and afterwards every occurrence that was due has a task of its content.
-/

namespace Rota

/-- The task is what a recurring task brings on a day: an instance for its next due date, which is
within reach. -/
def Horizon.Brings (horizon : Horizon) (today : Date) (now : Instant) (root task : Task) : Prop :=
  ∃ due id, root.nextDue today = .ok (some due) ∧ horizon.reaches due today = true ∧
    task = root.instantiate due now id

/-- The next due date, if within reach, has a task of the root's content. -/
def Horizon.Settled (horizon : Horizon) (today : Date) (store : Store) (root : Task) : Prop :=
  ∀ due, root.nextDue today = .ok (some due) → horizon.reaches due today = true →
    store.hasContent root due = true

structure Progress.Grew (before after : Progress) (made : List Task) : Prop where
  store : after.store = before.store.withTasks made
  tasks : after.summary.tasks = before.summary.tasks ++ made
  count : after.summary.count = before.summary.count + made.length

namespace Progress.Grew

variable {before middle after : Progress} {earlier later : List Task}

theorem of_same (store : after.store = before.store)
    (tasks : after.summary.tasks = before.summary.tasks)
    (count : after.summary.count = before.summary.count) : before.Grew after [] :=
  ⟨by rw [store, Store.withTasks_nil], by rw [tasks, List.append_nil], by simp [count]⟩

theorem trans (first : before.Grew middle earlier) (second : middle.Grew after later) :
    before.Grew after (earlier ++ later) :=
  ⟨by rw [second.store, first.store, Store.withTasks_append],
    by rw [second.tasks, first.tasks, List.append_assoc],
    by rw [second.count, first.count, List.length_append, Nat.add_assoc]⟩

end Progress.Grew

def Progress.takeRoot (progress : Progress) (horizon : Horizon) (today : Date) (now : Instant)
    (root : Task) : Option Date → Progress
  | none => progress.countExhausted
  | some due =>
    if horizon.reaches due today then
      progress.record root.id root.work
        (progress.store.materializeRecurring progress.supply root due now)
    else progress.countNotDue

section Steps
variable {horizon : Horizon} {today : Date} {now : Instant} {progress next last : Progress}
  {root : Task}

theorem stepRoot_eq {answer : Option Date} (found : root.nextDue today = .ok answer) :
    stepRoot horizon today now progress root =
      .ok (progress.takeRoot horizon today now root answer) := by
  unfold stepRoot Horizon.resolveTask Progress.takeRoot
  rw [found]
  cases answer with
  | none => rfl
  | some due =>
    simp only [bind, Except.bind, pure, Except.pure, Option.map_some, Horizon.classify]
    by_cases near : horizon.reaches due today = true
    · rw [if_pos near, if_pos near]
    · rw [if_neg near, if_neg near]

theorem record_grew (progress : Progress) (root : Task) (due : Date) (now : Instant) :
    let attempt := progress.store.materializeRecurring progress.supply root due now
    progress.Grew (progress.record root.id root.work attempt) [] ∨
      progress.Grew (progress.record root.id root.work attempt)
        [root.instantiate due now progress.supply.id] := by
  dsimp only
  cases made : progress.store.materializeRecurring progress.supply root due now with
  | error error => exact Or.inl (.of_same rfl rfl rfl)
  | ok result =>
    obtain ⟨outcome, after⟩ := result
    rcases Store.materializeRecurring_ok made with ⟨⟨existing, rfl⟩, rfl⟩ | ⟨-, -, rfl, rfl⟩
    · exact Or.inl (.of_same rfl rfl rfl)
    · exact Or.inr ⟨rfl, rfl, rfl⟩

theorem stepRoot_grew (answered : stepRoot horizon today now progress root = .ok next) :
    ∃ made, progress.Grew next made ∧ ∀ task ∈ made, horizon.Brings today now root task := by
  cases found : root.nextDue today with
  | error fault =>
    simp [stepRoot, Horizon.resolveTask, found, bind, Except.bind] at answered
  | ok answer =>
    rw [stepRoot_eq found] at answered
    cases answered
    cases answer with
    | none => exact ⟨[], .of_same rfl rfl rfl, by simp⟩
    | some due =>
      unfold Progress.takeRoot
      by_cases near : horizon.reaches due today = true
      · simp only [near, ↓reduceIte]
        rcases record_grew progress root due now with quiet | grew
        · exact ⟨[], quiet, by simp⟩
        · refine ⟨_, grew, fun task member => ?_⟩
          rw [List.mem_singleton.mp member]
          exact ⟨due, _, found, near, rfl⟩
      · simp only [near]
        exact ⟨[], .of_same rfl rfl rfl, by simp⟩

theorem foldlM_stepRoot_grew {roots : List Task}
    (answered : roots.foldlM (stepRoot horizon today now) progress = .ok last) :
    ∃ made, progress.Grew last made ∧
      ∀ task ∈ made, ∃ root ∈ roots, horizon.Brings today now root task := by
  induction roots generalizing progress with
  | nil =>
    cases answered
    exact ⟨[], .of_same rfl rfl rfl, by simp⟩
  | cons first rest ih =>
    rw [List.foldlM_cons] at answered
    obtain ⟨next, stepped, answered⟩ := bind_ok.mp answered
    obtain ⟨earlier, grew, brought⟩ := stepRoot_grew stepped
    obtain ⟨later, grewOn, sourced⟩ := ih answered
    refine ⟨earlier ++ later, grew.trans grewOn, fun task member => ?_⟩
    rcases List.mem_append.mp member with here | there
    · exact ⟨first, List.mem_cons_self, brought task here⟩
    · obtain ⟨root, listed, brings⟩ := sourced task there
      exact ⟨root, List.mem_cons_of_mem _ listed, brings⟩

/-- Where nothing is in the way, a step settles its root, with no error, and makes nothing when the
root is settled already. -/
theorem stepRoot_returns (horizon : Horizon) (now : Instant) (repeats : progress.store.Repeats)
    (listed : root ∈ progress.store.tasks) (recurs : root.isRoot = true) {answer : Option Date}
    (found : root.nextDue today = .ok answer) :
    ∃ next, stepRoot horizon today now progress root = .ok next ∧
      next.summary.errors = progress.summary.errors ∧
      horizon.Settled today next.store root ∧
      (horizon.Settled today progress.store root →
        next.summary.tasks = progress.summary.tasks) := by
  refine ⟨_, stepRoot_eq found, ?_⟩
  unfold Horizon.Settled Progress.takeRoot
  rw [found]
  cases answer with
  | none =>
    refine ⟨rfl, fun due same => ?_, fun _ => rfl⟩
    cases same
  | some due =>
    by_cases near : horizon.reaches due today = true
    · simp only [near, ↓reduceIte]
      rw [repeats.materializeRecurring_eq listed recurs]
      -- A task of the content that is there already stands in for the one that is due.
      cases present : progress.store.tasks.find? fun task =>
          root.sameContent task && task.dueDate == some due with
      | some existing =>
        refine ⟨rfl, fun other same _ => ?_, fun _ => rfl⟩
        cases same
        show progress.store.hasContent root due = true
        rw [← Store.hasContent_find?, present]
        rfl
      | none =>
        refine ⟨rfl, fun other same _ => ?_, fun settled => ?_⟩
        · cases same
          exact Store.hasContent_instantiate _
        · have there := settled due rfl near
          rw [← Store.hasContent_find?, present] at there
          cases there
    · simp only [near]
      refine ⟨rfl, fun other same reached => ?_, fun _ => rfl⟩
      cases same
      exact absurd reached near

theorem Horizon.Settled.mono {store : Store} (settled : horizon.Settled today store root)
    (made : List Task) : horizon.Settled today (store.withTasks made) root :=
  fun due found near => Store.hasContent_mono (settled due found near)

theorem Store.Repeats.withBrought {store : Store} {made : List Task} (repeats : store.Repeats)
    (sourced : ∀ task ∈ made, ∃ root ∈ store.tasks, root.isRoot = true ∧
      horizon.Brings today now root task) : (store.withTasks made).Repeats := by
  apply repeats.withTasks
  intro task member
  obtain ⟨root, listed, recurs, due, id, -, -, same⟩ := sourced task member
  exact ⟨root, listed, recurs, due, now, id, same⟩

theorem brings_leaf {task : Task} (brings : horizon.Brings today now root task) :
    task.isRoot = false := by
  obtain ⟨due, id, -, -, rfl⟩ := brings
  rfl

theorem foldlM_stepRoot_returns (horizon : Horizon) (now : Instant) {roots : List Task}
    (repeats : progress.store.Repeats)
    (listed : ∀ root ∈ roots, root ∈ progress.store.tasks ∧ root.isRoot = true)
    (answers : ∀ root ∈ roots, ∃ answer, root.nextDue today = .ok answer) :
    ∃ last, roots.foldlM (stepRoot horizon today now) progress = .ok last ∧
      last.summary.errors = progress.summary.errors ∧
      (∀ root ∈ roots, horizon.Settled today last.store root) ∧
      ((∀ root ∈ roots, horizon.Settled today progress.store root) →
        last.summary.tasks = progress.summary.tasks) := by
  induction roots generalizing progress with
  | nil => exact ⟨progress, rfl, rfl, by simp, fun _ => rfl⟩
  | cons first rest ih =>
    obtain ⟨present, recurs⟩ := listed first List.mem_cons_self
    obtain ⟨answer, found⟩ := answers first List.mem_cons_self
    obtain ⟨next, stepped, silent, settled, quiet⟩ :=
      stepRoot_returns horizon now repeats present recurs found
    obtain ⟨made, grew, brought⟩ := stepRoot_grew stepped
    -- What the first root brings is no root and in nobody's way, so the others find what they need.
    have stillRepeats : next.store.Repeats := by
      rw [grew.store]
      exact repeats.withBrought fun task member => ⟨first, present, recurs, brought task member⟩
    have stillListed : ∀ root ∈ rest, root ∈ next.store.tasks ∧ root.isRoot = true := by
      intro root member
      obtain ⟨there, repeating⟩ := listed root (List.mem_cons_of_mem _ member)
      rw [grew.store]
      exact ⟨Store.mem_withTasks.mpr (Or.inl there), repeating⟩
    obtain ⟨last, walked, lastSilent, lastSettled, lastQuiet⟩ := ih stillRepeats stillListed
      fun root member => answers root (List.mem_cons_of_mem _ member)
    obtain ⟨later, grewOn, -⟩ := foldlM_stepRoot_grew walked
    refine ⟨last, ?_, lastSilent.trans silent, ?_, ?_⟩
    · rw [List.foldlM_cons, stepped]
      exact walked
    · intro root member
      rcases List.mem_cons.mp member with rfl | tail
      · rw [grewOn.store]
        exact settled.mono later
      · exact lastSettled root tail
    · intro done
      have same := quiet (done first List.mem_cons_self)
      rw [← same]
      apply lastQuiet
      intro root member
      rw [grew.store]
      exact (done root (List.mem_cons_of_mem _ member)).mono made

end Steps

section Pass
variable {store after : Store} {supply : Supply} {horizon : Horizon} {tenant : Uuid}
  {now : Instant} {today : Date} {summary : Summary} {roots : List Task}

theorem mem_recurringRoots (found : store.recurringRoots tenant = .ok roots) {root : Task} :
    root ∈ roots ↔ root ∈ store.tasks ∧ root.tenant = tenant ∧ root.isRoot = true := by
  obtain ⟨_, _, found⟩ := bind_ok.mp found
  cases found
  simp

theorem recurringRoots_withTasks {made : List Task} (leaves : ∀ task ∈ made, task.isRoot = false) :
    (store.withTasks made).recurringRoots tenant = store.recurringRoots tenant := by
  have adds : store.AddsLeaves (store.withTasks made) :=
    ⟨made, ⟨rfl, rfl, rfl, rfl, rfl, rfl⟩, leaves⟩
  exact adds.recurringRoots tenant

theorem generateRecurring_made
    (answered : store.generateRecurring supply horizon tenant now = .ok (summary, after)) :
    ∃ today roots, horizon.today now = .ok today ∧ store.recurringRoots tenant = .ok roots ∧
      after = store.withTasks summary.tasks ∧ summary.count = summary.tasks.length ∧
      ∀ task ∈ summary.tasks, ∃ root ∈ roots, horizon.Brings today now root task := by
  obtain ⟨today, roots, last, day, found, walked, rfl, rfl⟩ :=
    Store.generateRecurring_by_steps.mp answered
  obtain ⟨made, grew, sourced⟩ := foldlM_stepRoot_grew walked
  have tasks : last.summary.tasks = made := grew.tasks
  refine ⟨today, roots, day, found, ?_, ?_, ?_⟩
  · rw [tasks]
    exact grew.store
  · rw [tasks, grew.count]
    exact Nat.zero_add _
  · rw [tasks]
    exact sourced

/-- Where nothing is in the way a pass has an answer, without errors, and settles every root; when
all are settled it makes nothing. -/
theorem generateRecurring_returns (repeats : store.Repeats)
    (found : store.recurringRoots tenant = .ok roots) (day : horizon.today now = .ok today)
    (answers : ∀ root ∈ roots, ∃ answer, root.nextDue today = .ok answer) (supply : Supply) :
    ∃ summary after, store.generateRecurring supply horizon tenant now = .ok (summary, after) ∧
      summary.errors = [] ∧ (∀ root ∈ roots, horizon.Settled today after root) ∧
      ((∀ root ∈ roots, horizon.Settled today store root) → summary.tasks = []) := by
  obtain ⟨last, walked, silent, settled, quiet⟩ := foldlM_stepRoot_returns horizon now
    (show (Progress.start store supply tenant).store.Repeats from repeats)
    (fun root member => by
      obtain ⟨listed, -, recurs⟩ := (mem_recurringRoots found).mp member
      exact ⟨listed, recurs⟩) answers
  exact ⟨last.summary, last.store,
    Store.generateRecurring_by_steps.mpr ⟨today, roots, last, day, found, walked, rfl, rfl⟩,
    silent, settled, quiet⟩

end Pass
end Rota
