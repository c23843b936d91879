import Rota.Proofs.Task.NextDue

/-!
Which date a recurring task falls due on, told by the calendar alone. A day of the month asks for
the first date from today on that is that day, or the last one of a shorter month; an interval asks
for the one date within an interval after today that lies whole intervals from the due date. A task
that has neither is never due. Only the last year of the calendar, whose last month is not seen to
its end, is left out, and only for a day of the month.
-/

namespace Rota

theorem next_multiple_iff {step : Int} (positive : 0 < step) (n m : Int) :
    m = (n / step + 1) * step ↔ n < m ∧ m ≤ n + step ∧ step ∣ m := by
  obtain ⟨after, near, divides, least⟩ := next_multiple positive n
  constructor
  · rintro rfl
    exact ⟨after, near, divides⟩
  · rintro ⟨later, within, multiple⟩
    have bound := least m later multiple
    refine Int.le_antisymm (Int.not_lt.mp fun further => ?_) bound
    have apart := Int.le_of_dvd (Int.sub_pos.mpr further) (Int.dvd_sub multiple divides)
    omega

/-- The date comes after today within an interval, and lies whole intervals from the due date. -/
def Date.EndsInterval (date : Date) (interval : Int) (due today : Date) : Prop :=
  today < date ∧ date.daysFrom today ≤ interval ∧ interval ∣ date.daysFrom due

theorem nextInterval_iff {interval : Int} (positive : 0 < interval) {due today date : Date} :
    nextInterval interval due today = .ok (some date) ↔ date.EndsInterval interval due today := by
  have counted : nextInterval interval due today = .ok (some date) ↔
      date.daysFrom due = (today.daysFrom due / interval + 1) * interval := by
    constructor
    · intro found
      have number := Date.number_addDays? (nextInterval_ok found).symm
      unfold Date.daysFrom at *
      omega
    · -- The days that are counted lead to a date, so they fit whatever they are kept in.
      intro same
      have reached : due.addDays? (date.daysFrom due) = some date :=
        Date.ofNumber?_eq_some.mpr (by unfold Date.daysFrom; omega)
      have apart := date.daysFrom_bounds due
      rw [nextInterval_eq same.symm (by unfold longestSpan; omega) (by unfold longestSpan; omega)]
      exact congrArg Except.ok reached
  rw [counted, next_multiple_iff positive]
  unfold Date.EndsInterval Date.daysFrom
  rw [Date.lt_def]
  constructor
  · rintro ⟨later, within, multiple⟩
    exact ⟨by omega, by omega, multiple⟩
  · rintro ⟨later, within, multiple⟩
    exact ⟨by omega, by omega, multiple⟩

theorem Date.EndsInterval.unique {interval : Int} {due today one other : Date}
    (positive : 0 < interval) (first : one.EndsInterval interval due today)
    (second : other.EndsInterval interval due today) : other = one := by
  have found := (nextInterval_iff positive).mpr second
  rw [(nextInterval_iff positive).mpr first] at found
  exact (Option.some.inj (Except.ok.inj found)).symm

theorem isFirst_congr_upTo {meets other : Date → Prop} (start : Date) {date : Date}
    (same : ∀ earlier ≤ date, (meets earlier ↔ other earlier)) :
    IsFirst meets start (some date) ↔ IsFirst other start (some date) := by
  have carried {one two : Date → Prop} (alike : ∀ earlier ≤ date, (one earlier ↔ two earlier))
      (first : IsFirst one start (some date)) : IsFirst two start (some date) := by
    obtain ⟨met, reached, least⟩ := first
    refine ⟨(alike date (Int.le_refl _)).mp met, reached, fun further meeting after => ?_⟩
    refine Int.not_lt.mp fun before => ?_
    have early := Int.le_of_lt before
    exact Int.not_le.mpr before (least further ((alike further early).mpr meeting) after)
  exact ⟨carried same, carried fun earlier before => (same earlier before).symm⟩

section Monthly
variable {day : Nat} {today date : Date}

def Date.IsMonthly (day : Nat) (date : Date) : Prop :=
  date.day = min day (monthLength date.year date.month)

theorem Date.isMonthly_seen (day : Nat) (early : date.year < 262142) :
    date.day = min day (scannedDays date.monthIndex) ↔ date.IsMonthly day := by
  have year := date.year_eq
  have whole : scannedDays date.monthIndex = monthDays date.monthIndex := by
    rw [scannedDays, if_neg (by unfold lastMonth; omega)]
  rw [whole, monthDays, ← date.year_eq, ← date.month_eq]
  rfl

theorem nextMonthlyDay_iff (positive : 1 ≤ day) (early : date.year < 262142) :
    nextMonthlyDay day today = .ok (some date) ↔
      IsFirst (Date.IsMonthly day) today (some date) := by
  obtain ⟨answer, found, first⟩ := nextMonthlyDay_first positive today
  have alike := isFirst_congr_upTo today fun (earlier : Date) (before : earlier ≤ date) =>
    Date.isMonthly_seen day (Int.lt_of_le_of_lt (Date.year_le_of_le before) early)
  rw [found, ← alike]
  constructor
  · intro same
    obtain rfl : answer = some date := Except.ok.inj same
    exact first
  · exact fun least => congrArg Except.ok (first.unique least)

end Monthly

namespace Task

theorem nextDue_idle (task : Task) (today : Date)
    (idle : (∀ interval, task.interval = some interval → interval ≤ 0) ∨
      (task.monthlyDate = none ∧ task.dueDate = none)) : task.nextDue today = .ok none := by
  unfold nextDue
  cases repeats : task.interval with
  | none => rfl
  | some interval =>
    rcases idle with never | ⟨unpinned, undated⟩
    · exact if_pos (never interval repeats)
    · rw [unpinned, undated]
      exact ite_self _

/-- A day of the month wins over the interval and the due date; without it they decide; and without
an interval, or with neither a day nor a date, the task is never due. -/
theorem nextDue_by_calendar (task : Task) (today : Date) :
    (∀ interval, task.interval = some interval → 0 < interval →
      (∀ day, task.monthlyDate = some day → ∀ date : Date, date.year < 262142 →
        (task.nextDue today = .ok (some date) ↔
          IsFirst (Date.IsMonthly (max 1 (min 31 day.toInt)).toNat) today (some date))) ∧
      ∀ due, task.monthlyDate = none → task.dueDate = some due → ∀ date : Date,
        (task.nextDue today = .ok (some date) ↔ date.EndsInterval interval.toInt due today) ∧
        (date.EndsInterval interval.toInt due today →
          ∀ other : Date, other.EndsInterval interval.toInt due today → other = date)) ∧
    ((∀ interval, task.interval = some interval → interval ≤ 0) ∨
      (task.monthlyDate = none ∧ task.dueDate = none) → task.nextDue today = .ok none) := by
  refine ⟨fun interval repeats positive => ⟨?_, ?_⟩, task.nextDue_idle today⟩
  · intro day monthly date early
    rw [nextDue_monthly repeats positive monthly]
    exact nextMonthlyDay_iff (by unfold dayOfMonth; omega) early
  · intro due unpinned dated date
    have counts := Int64.lt_iff_toInt_lt.mp positive
    rw [nextDue_interval repeats positive unpinned dated]
    exact ⟨nextInterval_iff counts, fun ends _ => ends.unique counts⟩

def rent : Task :=
  { id := .ofNat 5
    tenant := .ofNat 1
    template := none
    parent := none
    work := { title := "Rent" }
    status := .todo
    dueDate := some ⟨19753, by decide, by decide⟩
    isRecurring := true
    interval := some 30
    monthlyDate := some 31
    createdAt := .midnight ⟨19753, by decide, by decide⟩
    updatedAt := .midnight ⟨19753, by decide, by decide⟩ }

-- Looked at on 1 February: 29 February by the day of the month, 1 March by the interval.
theorem rent_due_next :
    IsFirst (Date.IsMonthly 31) ⟨19754, by decide, by decide⟩
      (some ⟨19782, by decide, by decide⟩) ∧
    ({ rent with monthlyDate := none } : Task).nextDue ⟨19754, by decide, by decide⟩ =
      .ok (some ⟨19783, by decide, by decide⟩) ∧
    ({ rent with interval := some (-1) } : Task).nextDue ⟨19754, by decide, by decide⟩ =
      .ok none := by
  obtain ⟨due, -⟩ := nextDue_by_calendar rent ⟨19754, by decide, by decide⟩
  obtain ⟨unpinned, -⟩ :=
    nextDue_by_calendar { rent with monthlyDate := none } ⟨19754, by decide, by decide⟩
  obtain ⟨-, idle⟩ :=
    nextDue_by_calendar { rent with interval := some (-1) } ⟨19754, by decide, by decide⟩
  refine ⟨?_, ?_, idle (.inl ?_)⟩
  · exact ((due 30 rfl (by decide)).1 31 rfl _ (by decide +kernel)).mp (by decide +kernel)
  · exact ((unpinned 30 rfl (by decide)).2 _ rfl rfl _).1.mpr ⟨by decide, by decide, 1, by decide⟩
  · rintro interval same
    cases same
    decide

end Task
end Rota
