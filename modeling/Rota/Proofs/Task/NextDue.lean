import Rota.Proofs.Attempts
import Rota.Proofs.Pattern.Words
import Rota.Proofs.Pattern.NextOccurrence
import Rota.Resolution

/-!
The next due date of a recurring task. With an interval it is the first date after today that lies
whole intervals from the date the task is due; with a day of the month it is the first date from
today on that is that day, or the last one that the search sees of a shorter month.
-/

namespace Rota

theorem next_multiple {step : Int} (positive : 0 < step) (n : Int) :
    n < (n / step + 1) * step ∧ (n / step + 1) * step ≤ n + step ∧ step ∣ (n / step + 1) * step ∧
      ∀ other, n < other → step ∣ other → (n / step + 1) * step ≤ other := by
  have divides : step ∣ (n / step + 1) * step := Int.dvd_mul_left _ _
  have below := Int.ediv_mul_le n (show step ≠ 0 by omega)
  have product : (n / step + 1) * step = n / step * step + step := by rw [Int.add_mul, Int.one_mul]
  have after := Int.lt_ediv_add_one_mul_self n positive
  refine ⟨after, by omega, divides, fun other later multiple => ?_⟩
  by_cases earlier : other < (n / step + 1) * step
  · have bound := Int.le_of_dvd (Int.sub_pos.mpr earlier) (Int.dvd_sub divides multiple)
    omega
  · exact Int.not_lt.mp earlier

/-- The date at the end of the interval that today lies in, before the due date as well as after it. -/
theorem boundary_first {interval : Int} (positive : 0 < interval) (due today : Date) :
    IsFirst (fun date => today < date ∧ interval ∣ date.daysFrom due) today
      (due.addDays? ((today.daysFrom due / interval + 1) * interval)) := by
  obtain ⟨after, -, divides, least⟩ := next_multiple positive (today.daysFrom due)
  generalize (today.daysFrom due / interval + 1) * interval = days at after divides least ⊢
  unfold Date.daysFrom at *
  have least (other : Date) (later : today < other) (multiple : interval ∣ other.number - due.number) :
      due.number + days ≤ other.number := by
    rw [Date.lt_def] at later
    have bound := least (other.number - due.number) (by omega) multiple
    omega
  cases found : due.addDays? days with
  | none =>
    -- The end of the interval lies past the calendar, and a date that qualified would lie past it too.
    intro other ⟨later, multiple⟩ _
    have bound := least other later multiple
    have upper := other.le_last
    have lower := today.first_le
    unfold Date.addDays? Date.ofNumber? at found
    rw [dif_pos ⟨by omega, by omega⟩] at found
    cases found
  | some next =>
    have number := Date.number_addDays? found
    have reached : today < next := by
      rw [Date.lt_def]
      omega
    refine ⟨⟨reached, ?_⟩, Int.le_of_lt reached, ?_⟩
    · rwa [number, show due.number + days - due.number = days by omega]
    · intro other ⟨later, multiple⟩ _
      rw [Date.le_def, number]
      exact least other later multiple

/-- No answer is another date than the one at the end of the interval. -/
theorem nextInterval_ok {interval : Int} {due today : Date} {answer : Option Date}
    (found : nextInterval interval due today = .ok answer) :
    answer = due.addDays? ((today.daysFrom due / interval + 1) * interval) := by
  unfold nextInterval at found
  dsimp only at found
  generalize (today.daysFrom due / interval + 1) * interval = days at found ⊢
  by_cases word : -9223372036854775808 ≤ days ∧ days ≤ 9223372036854775807
  · rw [checkedWord_ok word.1 word.2] at found
    by_cases short : -longestSpan ≤ days ∧ days ≤ longestSpan
    · simp only [checkedDays_ok short.1 short.2, bind, Except.bind] at found
      exact (Except.ok.inj found).symm
    · simp only [checkedDays, if_neg short, bind, Except.bind] at found
      cases found
  · simp only [checkedWord, if_neg word, bind, Except.bind] at found
    cases found

theorem nextInterval_eq {interval days : Int} {due today : Date}
    (ends : (today.daysFrom due / interval + 1) * interval = days)
    (lower : -longestSpan ≤ days) (upper : days ≤ longestSpan) :
    nextInterval interval due today = .ok (due.addDays? days) := by
  unfold nextInterval
  dsimp only
  rw [ends, checkedWord_ok (by unfold longestSpan at *; omega) (by unfold longestSpan at *; omega)]
  simp only [bind, Except.bind, checkedDays_ok lower upper, pure, Except.pure]

theorem nextInterval_first {interval : Int} (positive : 0 < interval)
    (short : interval ≤ longestSpan) (due today : Date) :
    ∃ answer, nextInterval interval due today = .ok answer ∧
      IsFirst (fun date => today < date ∧ interval ∣ date.daysFrom due) today answer := by
  obtain ⟨after, near, -, least⟩ := next_multiple positive (today.daysFrom due)
  have apart := today.daysFrom_bounds due
  have single := least interval
  refine ⟨_, nextInterval_eq rfl ?_ ?_, boundary_first positive due today⟩
  · unfold longestSpan
    omega
  · -- The first interval is over at its end, and a later one at most twice as far away as today.
    by_cases begun : interval ≤ today.daysFrom due
    · unfold longestSpan
      omega
    · exact Int.le_trans (single (by omega) (Int.dvd_refl _)) short

theorem nextInterval_overlong {interval : Int64} {due today : Date}
    (long : longestSpan < interval.toInt) (begun : due ≤ today) :
    nextInterval interval.toInt due today = .error .span := by
  have word := interval.toInt_lt
  have apart := today.daysFrom_bounds due
  -- No two days of the calendar are that far apart, so the interval that has begun is the first.
  have notNegative : 0 ≤ today.daysFrom due := Int.sub_nonneg.mpr begun
  have first : today.daysFrom due / interval.toInt = 0 := by
    apply Int.ediv_eq_zero_of_lt notNegative
    unfold longestSpan at long
    omega
  have single : (0 + 1) * interval.toInt = interval.toInt := by omega
  unfold nextInterval
  simp only [first, single]
  rw [checkedWord_ok (by unfold longestSpan at long; omega) (by omega)]
  simp only [bind, Except.bind, checkedDays]
  rw [if_neg (by omega)]

/-- Before the due date no interval has begun, and the next one ends on the due date itself. -/
theorem nextInterval_before {interval : Int} {due today : Date} (long : longestSpan < interval)
    (ahead : today < due) : nextInterval interval due today = .ok (some due) := by
  have apart := today.daysFrom_bounds due
  have negative : today.daysFrom due < 0 := Int.sub_neg_of_lt ahead
  have none : today.daysFrom due / interval = -1 := by
    apply Int.ediv_eq_neg_one_of_neg_of_le negative
    unfold longestSpan at long
    omega
  have ends : (today.daysFrom due / interval + 1) * interval = 0 := by
    rw [none]
    omega
  rw [nextInterval_eq ends (by decide) (by decide), Date.addDays?, Int.add_zero,
    Date.ofNumber?_number]

theorem nextInterval_failsWhen {interval : Int64} (positive : 0 < interval) (due today : Date) :
    FailsWhen (nextInterval interval.toInt due today) .span
      (longestSpan < interval.toInt ∧ due ≤ today) := by
  constructor
  · rintro ⟨long, begun⟩
    exact nextInterval_overlong long begun
  · intro fine
    by_cases long : longestSpan < interval.toInt
    · have ahead : today < due := Int.not_le.mp fun begun => fine ⟨long, begun⟩
      exact ⟨some due, nextInterval_before long ahead⟩
    · obtain ⟨answer, found, -⟩ := nextInterval_first (Int64.lt_iff_toInt_lt.mp positive)
        (Int.not_lt.mp long) due today
      exact ⟨answer, found⟩

section Monthly
variable {day : Nat} {today date : Date}

/-- A month has one day that is the day asked for, or the last one that is seen. -/
theorem monthlyDay_first (met : date.day = min day (scannedDays date.monthIndex))
    (ahead : today ≤ date)
    (past : ∀ other : Date, other.day = min day (scannedDays other.monthIndex) → today ≤ other →
      date.monthIndex ≤ other.monthIndex) :
    IsFirst (fun date => date.day = min day (scannedDays date.monthIndex)) today (some date) := by
  refine ⟨met, ahead, fun other otherMet after => ?_⟩
  have later := past other otherMet after
  by_cases same : other.monthIndex = date.monthIndex
  · rw [Date.eq_of_month_day same (by rw [otherMet, met, same])]
    exact Int.le_refl _
  · exact Int.le_of_lt (Date.lt_of_month_lt (by omega))

theorem nextMonthlyDay_first (positive : 1 ≤ day) (today : Date) :
    ∃ answer, nextMonthlyDay day today = .ok answer ∧
      IsFirst (fun date => date.day = min day (scannedDays date.monthIndex)) today answer := by
  obtain ⟨first, last⟩ := today.month_inside
  have months := today.month_bounds
  obtain ⟨thisMonth, found, inMonth, picked⟩ := clampedDate_inside day months.1 months.2
    (show today.year * 12 + ((today.month : Int) - 1) = today.monthIndex from rfl) first last
  have bounds := scannedDays_bounds today.monthIndex
  have met : thisMonth.day = min day (scannedDays thisMonth.monthIndex) := by
    rw [inMonth]
    omega
  unfold nextMonthlyDay
  rw [found]
  simp only [bind, Except.bind, pure, Except.pure]
  by_cases ahead : today ≤ thisMonth
  · rw [if_pos ahead]
    refine ⟨_, rfl, monthlyDay_first met ahead fun other _ after => ?_⟩
    rw [inMonth]
    exact Date.month_le_of_le after
  · rw [if_neg ahead]
    -- The day of this month is over, and it is the only one of the month that is looked for.
    have past (other : Date) (otherMet : other.day = min day (scannedDays other.monthIndex))
        (after : today ≤ other) : today.monthIndex + 1 ≤ other.monthIndex := by
      have later := Date.month_le_of_le after
      by_cases same : other.monthIndex = thisMonth.monthIndex
      · rw [Date.eq_of_month_day same (by rw [otherMet, met, same])] at after
        exact absurd after ahead
      · omega
    -- In the last month of the calendar there is no next month to find a day in.
    by_cases final : today.monthIndex = lastMonth
    · have beyond : clampedDate (splitMonthIndex (today.monthIndex + 1)).1
          (splitMonthIndex (today.monthIndex + 1)).2 day = .ok none := by
        rw [final]
        exact clampedDate_outside day (by decide) (by decide) (by decide) (Or.inr (by decide))
      refine ⟨none, beyond, fun other otherMet after => ?_⟩
      have inside := other.month_inside
      have later := past other otherMet after
      omega
    · have place := splitMonthIndex_inside
        (show firstMonth ≤ today.monthIndex + 1 by omega) (by omega)
      obtain ⟨next, foundNext, inNext, pickedNext⟩ :=
        clampedDate_inside day place.1 place.2.1 place.2.2 (by omega) (by omega)
      have nextBounds := scannedDays_bounds (today.monthIndex + 1)
      refine ⟨some next, foundNext, monthlyDay_first ?_
        (Int.le_of_lt (Date.lt_of_month_lt (by omega))) ?_⟩
      · rw [inNext]
        omega
      · rw [inNext]
        exact past

end Monthly

theorem Date.exists_eve {first date : Date} (after : first < date) :
    ∃ today : Date, today.succ? = some date := by
  rw [lt_def] at after
  have earliest := first.first_le
  have latest := date.le_last
  exact ⟨⟨date.number - 1, by omega, by omega⟩,
    ofNumber?_eq_some.mpr (show date.number = date.number - 1 + 1 by omega)⟩

namespace Task
variable {task : Task} {interval day : Int64} {due today date : Date}

/-- The day of the month that a number stands for: the nearest one from 1 to 31. -/
def dayOfMonth (day : Int64) : Nat := (max 1 (min 31 day.toInt)).toNat

theorem nextDue_monthly (repeats : task.interval = some interval) (positive : 0 < interval)
    (monthly : task.monthlyDate = some day) (today : Date) :
    task.nextDue today = nextMonthlyDay (dayOfMonth day) today := by
  unfold nextDue
  rw [repeats, monthly]
  exact if_neg (Int64.not_le.mpr positive)

theorem nextDue_interval (repeats : task.interval = some interval) (positive : 0 < interval)
    (unpinned : task.monthlyDate = none) (dated : task.dueDate = some due) (today : Date) :
    task.nextDue today = nextInterval interval.toInt due today := by
  unfold nextDue
  rw [repeats, unpinned, dated]
  exact if_neg (Int64.not_le.mpr positive)

/-- An interval that has begun is too long to be counted to its end. -/
def Overlong (task : Task) (today : Date) : Prop :=
  ∃ interval due, task.interval = some interval ∧ task.monthlyDate = none ∧
    task.dueDate = some due ∧ longestSpan < interval.toInt ∧ due ≤ today

theorem Overlong.positive {interval : Int64} (long : longestSpan < interval.toInt) :
    0 < interval :=
  Int64.lt_iff_toInt_lt.mpr (Int.lt_trans (by decide : (0 : Int64).toInt < longestSpan) long)

theorem nextDue_failsWhen (task : Task) (today : Date) :
    FailsWhen (task.nextDue today) .span (task.Overlong today) := by
  cases repeats : task.interval with
  | none =>
    have silent : task.nextDue today = .ok none := by simp [nextDue, repeats]
    exact .of_ok silent (by simp [Overlong, repeats])
  | some interval =>
    by_cases positive : 0 < interval
    · cases monthly : task.monthlyDate with
      | some day =>
        obtain ⟨answer, found, -⟩ := nextMonthlyDay_first
          (show 1 ≤ dayOfMonth day by unfold dayOfMonth; omega) today
        rw [nextDue_monthly repeats positive monthly]
        exact .of_ok found (by simp [Overlong, monthly])
      | none =>
        cases dated : task.dueDate with
        | none =>
          have silent : task.nextDue today = .ok none := by
            simp [nextDue, repeats, monthly, dated]
          exact .of_ok silent (by simp [Overlong, dated])
        | some due =>
          rw [nextDue_interval repeats positive monthly dated]
          apply (nextInterval_failsWhen positive due today).congr
          simp [Overlong, repeats, monthly, dated]
    · have silent : task.nextDue today = .ok none := by
        simp [nextDue, repeats, Int64.not_lt.mp positive]
      apply FailsWhen.of_ok silent
      rintro ⟨_, _, same, -, -, long, -⟩
      rw [repeats] at same
      cases same
      exact positive (Overlong.positive long)

theorem nextDue_returns
    (short : ∀ interval, task.interval = some interval → interval.toInt ≤ longestSpan)
    (today : Date) : ∃ answer, task.nextDue today = .ok answer := by
  refine (task.nextDue_failsWhen today).returns ?_
  rintro ⟨interval, _, repeats, -, -, long, -⟩
  exact Int.not_lt.mpr (short interval repeats) long

theorem nextDue_on_day (repeats : task.interval = some interval) (positive : 0 < interval)
    (monthly : task.monthlyDate = some day)
    (met : date.day = min (dayOfMonth day) (monthDays date.monthIndex)) (seen : ¬ date.Unseen) :
    task.nextDue date = .ok (some date) := by
  obtain ⟨answer, found, first⟩ := nextMonthlyDay_first
    (show 1 ≤ dayOfMonth day by unfold dayOfMonth; omega) date
  have bounds := scannedDays_bounds date.monthIndex
  have shorter := scannedDays_le date.monthIndex
  have visible := scannedDays_seen seen
  have self : date.day = min (dayOfMonth day) (scannedDays date.monthIndex) := by omega
  rw [nextDue_monthly repeats positive monthly, found,
    first.unique (monthlyDay_first self (Int.le_refl _) fun _ _ => Date.month_le_of_le)]

theorem nextDue_before (repeats : task.interval = some interval) (positive : 0 < interval)
    (short : interval.toInt ≤ longestSpan) (unpinned : task.monthlyDate = none)
    (dated : task.dueDate = some due) (follows : today.succ? = some date)
    (multiple : interval.toInt ∣ date.daysFrom due) : task.nextDue today = .ok (some date) := by
  obtain ⟨answer, found, first⟩ :=
    nextInterval_first (Int64.lt_iff_toInt_lt.mp positive) short due today
  have number := Date.number_addDays? follows
  have self : IsFirst (fun date => today < date ∧ interval.toInt ∣ date.daysFrom due) today
      (some date) := by
    refine ⟨⟨?_, multiple⟩, ?_, fun other met _ => ?_⟩
    · rw [Date.lt_def]
      omega
    · rw [Date.le_def]
      omega
    · have later := met.1
      rw [Date.lt_def] at later
      rw [Date.le_def]
      omega
  rw [nextDue_interval repeats positive unpinned dated, found, first.unique self]

end Task
end Rota
