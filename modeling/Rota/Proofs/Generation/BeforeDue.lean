import Rota.Proofs.Generation.LongIntervals

/-!
Recurring tasks that are not due yet. Intervals are counted from the due date both ways. Within one
interval of the due date the next date is the due date itself; an earlier look comes to a date before
it, and a pass makes a task for that.
-/

namespace Rota

def IsBoundary (interval : Int) (due today : Date) (answer : Option Date) : Prop :=
  IsFirst (fun date => today < date ∧ interval ∣ date.daysFrom due) today answer

section Boundary
variable {interval : Int} {due today date : Date} {answer : Option Date}

theorem isBoundary_of_nextInterval (positive : 0 < interval)
    (found : nextInterval interval due today = .ok answer) :
    IsBoundary interval due today answer := by
  rw [nextInterval_ok found]
  exact boundary_first positive due today

theorem IsBoundary.due_le_iff (positive : 0 < interval)
    (boundary : IsBoundary interval due today (some date)) :
    due ≤ date ↔ due.daysFrom today ≤ interval := by
  obtain ⟨⟨later, multiple⟩, -, least⟩ := boundary
  unfold Date.daysFrom at *
  rw [Date.lt_def] at later
  rw [Date.le_def]
  constructor
  · -- Otherwise the date one interval before the due date comes first.
    intro notBefore
    refine Int.not_lt.mp fun far => ?_
    have lower := today.first_le
    have upper := due.le_last
    obtain ⟨earlier, found⟩ : ∃ earlier, Date.ofNumber? (due.number - interval) = some earlier :=
      ⟨_, dif_pos ⟨by omega, by omega⟩⟩
    have number := Date.ofNumber?_eq_some.mp found
    have whole : interval ∣ earlier.number - due.number := ⟨-1, by omega⟩
    have bound := least earlier ⟨by rw [Date.lt_def]; omega, whole⟩ (by rw [Date.le_def]; omega)
    rw [Date.le_def] at bound
    omega
  · intro near
    refine Int.not_lt.mp fun before => ?_
    have whole : interval ∣ due.number - date.number := by
      rwa [← Int.dvd_neg, Int.neg_sub]
    have apart := Int.le_of_dvd (by omega) whole
    omega

/-- No date is whole intervals from the due date more closely than itself. -/
theorem IsBoundary.le_due (boundary : IsBoundary interval due today answer) (ahead : today < due) :
    ∃ date ≤ due, answer = some date := by
  have self : today < due ∧ interval ∣ due.daysFrom due :=
    ⟨ahead, 0, by unfold Date.daysFrom; omega⟩
  cases answer with
  | none => exact absurd (Int.le_of_lt ahead) (boundary due self)
  | some date => exact ⟨date, boundary.2.2 due self (Int.le_of_lt ahead), rfl⟩

end Boundary

namespace Task
variable {task : Task} {interval : Int64} {due : Date}

/-- A task with an interval and no day of the month falls due next on the first date after today that is
whole intervals from its due date. From one interval before the due date on that is the due date or a
later one, and any earlier look comes to an earlier date. -/
theorem nextDue_around_due (repeats : task.interval = some interval) (positive : 0 < interval)
    (unpinned : task.monthlyDate = none) (dated : task.dueDate = some due) (today : Date) :
    (∀ date, task.nextDue today = .ok (some date) →
      IsBoundary interval.toInt due today (some date) ∧
      (due ≤ date ↔ due.daysFrom today ≤ interval.toInt) ∧
      (today < due → due.daysFrom today ≤ interval.toInt → date = due)) ∧
    (today < due → ∃ date ≤ due, task.nextDue today = .ok (some date)) := by
  have apart := Int64.lt_iff_toInt_lt.mp positive
  have boundary {answer : Option Date} (found : task.nextDue today = .ok answer) :
      IsBoundary interval.toInt due today answer := by
    rw [nextDue_interval repeats positive unpinned dated] at found
    exact isBoundary_of_nextInterval apart found
  constructor
  · intro date found
    have first := boundary found
    have onward := first.due_le_iff apart
    refine ⟨first, onward, fun ahead near => ?_⟩
    obtain ⟨_, notAfter, ⟨⟩⟩ := first.le_due ahead
    exact Date.ext (Int.le_antisymm notAfter (onward.mpr near))
  · intro ahead
    -- No interval has begun, so none is too long to be counted.
    have counted : ¬ task.Overlong today := by
      rintro ⟨_, other, -, -, same, -, begun⟩
      rw [dated] at same
      cases same
      exact Int.not_le.mpr ahead begun
    obtain ⟨answer, found⟩ := (task.nextDue_failsWhen today).returns counted
    obtain ⟨date, notAfter, rfl⟩ := (boundary found).le_due ahead
    exact ⟨date, notAfter, found⟩

def weekBefore : Date := ⟨19716, by decide, by decide⟩ -- 25 December 2023, a week before it is due

theorem backup_reaches_due :
    backup.nextDue weekBefore = .ok (some filingStart) ∧
    backup.nextDue newYearsEve = .ok (some filingStart) := by
  have around := @nextDue_around_due backup 7 filingStart rfl (by decide) rfl rfl
  have reaches {today : Date} (ahead : today < filingStart) (near : filingStart.daysFrom today ≤ 7) :
      backup.nextDue today = .ok (some filingStart) := by
    obtain ⟨date, -, found⟩ := (around today).2 ahead
    obtain rfl := ((around today).1 date found).2.2 ahead near
    exact found
  exact ⟨reaches (by decide) (by decide), reaches (by decide) (by decide)⟩

def monthBefore : Date := ⟨19692, by decide, by decide⟩ -- 1 December 2023

def weeksBefore : Date := ⟨19695, by decide, by decide⟩ -- 4 December 2023, four weeks before

/-- A month before it is due the task comes up four weeks before that, and a pass makes a task then. -/
theorem backup_taken_early :
    weeksBefore < filingStart ∧
    backup.nextDue monthBefore = .ok (some weeksBefore) ∧
    (Store.generateRecurring { tasks := [backup] } filingSupply {} (.ofNat 1)
      (.midnight monthBefore)).toOption.map (fun result => result.1.tasks.map Task.dueDate) =
      some [some weeksBefore] := by
  exact ⟨by decide, by decide +kernel, by decide +kernel⟩

end Task
end Rota
