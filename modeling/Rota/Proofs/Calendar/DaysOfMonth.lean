import Rota.Proofs.Calendar.OfferedDay

/-!
Months by their year and number. Every month of the calendar but the last is counted at its
Gregorian length, so a day brought into it lies as near to the one asked for as the month allows;
the last month is counted as if it had 28 days. In a month that is counted in full each weekday has
a first to a fourth day, one in each seven, and its last one lies in the last seven.
-/

namespace Rota

/-- A month that the calendar has. -/
structure CalendarMonth (year : Int) (month : Nat) : Prop where
  first_le : -262143 ≤ year
  le_last : year ≤ 262142
  january_le : 1 ≤ month
  le_december : month ≤ 12

def IsFinalMonth (year : Int) (month : Nat) : Prop := year = 262142 ∧ month = 12

instance (year : Int) (month : Nat) : Decidable (IsFinalMonth year month) :=
  inferInstanceAs (Decidable (year = 262142 ∧ month = 12))

def countedDays (year : Int) (month : Nat) : Nat :=
  if IsFinalMonth year month then 28 else monthLength year month

variable {year : Int} {month : Nat} {weekday : Weekday}

namespace CalendarMonth

theorem index_bounds (named : CalendarMonth year month) :
    firstMonth ≤ year * 12 + (month - 1 : Int) ∧ year * 12 + (month - 1 : Int) ≤ lastMonth := by
  obtain ⟨first, last, lower, upper⟩ := named
  unfold firstMonth lastMonth
  omega

theorem monthDays_eq (named : CalendarMonth year month) :
    monthDays (year * 12 + (month - 1 : Int)) = monthLength year month := by
  obtain ⟨-, -, lower, upper⟩ := named
  unfold monthDays
  congr <;> omega

theorem scannedDays_eq (named : CalendarMonth year month) :
    scannedDays (year * 12 + (month - 1 : Int)) = countedDays year month := by
  have final : year * 12 + (month - 1 : Int) = lastMonth ↔ IsFinalMonth year month := by
    obtain ⟨-, last, lower, upper⟩ := named
    unfold lastMonth IsFinalMonth
    omega
  unfold scannedDays countedDays
  rw [named.monthDays_eq]
  simp only [final]

theorem monthIndex_iff (named : CalendarMonth year month) {date : Date} :
    date.monthIndex = year * 12 + (month - 1 : Int) ↔ date.year = year ∧ date.month = month := by
  have lower := named.january_le
  have upper := named.le_december
  rw [Date.monthIndex_eq_iff (by omega)]
  omega

theorem exists_day_iff (named : CalendarMonth year month) (day : Nat) :
    (∃ date : Date, date.year = year ∧ date.month = month ∧ date.day = day) ↔
      1 ≤ day ∧ day ≤ monthLength year month := by
  constructor
  · rintro ⟨date, rfl, rfl, rfl⟩
    obtain ⟨-, -, positive, inside, -⟩ := date.monthAndDay_of_date
    exact ⟨positive, inside⟩
  · rintro ⟨positive, inside⟩
    obtain ⟨first, last⟩ := named.index_bounds
    obtain ⟨date, -, inMonth, same⟩ :=
      Date.exists_month_day _ day first last positive (named.monthDays_eq ▸ inside)
    exact ⟨date, (named.monthIndex_iff.mp inMonth).1, (named.monthIndex_iff.mp inMonth).2, same⟩

theorem daysInMonth_eq (named : CalendarMonth year month) :
    daysInMonth year month = .ok (countedDays year month) := by
  obtain ⟨first, last⟩ := named.index_bounds
  rw [← named.scannedDays_eq]
  exact Rota.daysInMonth_eq named.january_le named.le_december rfl first last

theorem clampedDate_eq (named : CalendarMonth year month) (day : Nat) :
    ∃ date, clampedDate year month day = .ok (some date) ∧ date.year = year ∧
      date.month = month ∧ date.day = max 1 (min day (countedDays year month)) := by
  obtain ⟨first, last⟩ := named.index_bounds
  obtain ⟨date, found, inMonth, same⟩ :=
    clampedDate_inside day named.january_le named.le_december rfl first last
  obtain ⟨sameYear, sameMonth⟩ := named.monthIndex_iff.mp inMonth
  exact ⟨date, found, sameYear, sameMonth, named.scannedDays_eq ▸ same⟩

end CalendarMonth

theorem countedDays_eq_iff : countedDays year month = monthLength year month ↔
    ¬ IsFinalMonth year month := by
  unfold countedDays
  by_cases final : IsFinalMonth year month
  · obtain ⟨rfl, rfl⟩ := final
    decide
  · simp [final]

/-- Only in the last month can a day be missed, and only one of its last three. -/
theorem clamped_iff (day : Nat) :
    max 1 (min day (countedDays year month)) = max 1 (min day (monthLength year month)) ↔
      ¬ (IsFinalMonth year month ∧ 29 ≤ day) := by
  unfold countedDays
  by_cases final : IsFinalMonth year month
  · have length : monthLength year month = 31 := by
      rw [final.1, final.2]
      decide
    simp only [final, ↓reduceIte, true_and, length]
    omega
  · simp [final]

/-- The days of a month are those from the first up to its Gregorian length. It is counted at that
length unless it is the last of the calendar. A clamped day always exists and never leaves the month,
and it is the day asked for brought into the length of the month, save where a day after the 28th of
the last month is asked for. -/
theorem days_of_month (named : CalendarMonth year month) :
    (∀ day, (∃ date : Date, date.year = year ∧ date.month = month ∧ date.day = day) ↔
      1 ≤ day ∧ day ≤ monthLength year month) ∧
    (∃ length, daysInMonth year month = .ok length ∧
      (length = monthLength year month ↔ ¬ IsFinalMonth year month)) ∧
    ∀ day, ∃ date, clampedDate year month day = .ok (some date) ∧
      date.year = year ∧ date.month = month ∧
      (date.day = max 1 (min day (monthLength year month)) ↔
        ¬ (IsFinalMonth year month ∧ 29 ≤ day)) := by
  refine ⟨named.exists_day_iff, ⟨_, named.daysInMonth_eq, countedDays_eq_iff⟩, fun day => ?_⟩
  obtain ⟨date, found, sameYear, sameMonth, same⟩ := named.clampedDate_eq day
  exact ⟨date, found, sameYear, sameMonth, same ▸ clamped_iff day⟩

theorem leap_february_days : CalendarMonth 2024 2 ∧ daysInMonth 2024 2 = .ok 29 ∧
    (∃ date, clampedDate 2024 2 31 = .ok (some date) ∧ date.year = 2024 ∧ date.month = 2 ∧
      date.day = 29) := by
  have february : CalendarMonth 2024 2 := ⟨by decide, by decide, by decide, by decide⟩
  obtain ⟨-, ⟨length, counted, full⟩, clamped⟩ := days_of_month february
  obtain ⟨date, found, year, month, day⟩ := clamped 31
  refine ⟨february, ?_, date, found, year, month, ?_⟩
  · rw [counted, full.mpr (by decide)]
    rfl
  · exact (day.mpr (by decide)).trans (by decide)

/-- The last month of the calendar has 31 days and is counted as if it had 28, so the last of them
is not reached. -/
theorem last_december_short : CalendarMonth 262142 12 ∧ monthLength 262142 12 = 31 ∧
    daysInMonth 262142 12 = .ok 28 ∧
    Date.last.year = 262142 ∧ Date.last.month = 12 ∧ Date.last.day = 31 ∧
    (clampedDate 262142 12 31).map (Option.map Date.day) = .ok (some 28) := by
  refine ⟨⟨by decide, by decide, by decide, by decide⟩, ?_⟩
  decide +kernel

structure Date.FallsOn (year : Int) (month : Nat) (weekday : Weekday) (date : Date) : Prop where
  year : date.year = year
  month : date.month = month
  weekday : date.weekday = weekday

def weekdayCount (year : Int) (month : Nat) (weekday : Weekday) : Nat :=
  (List.range' 1 (monthLength year month)).countP fun day =>
    (Date.ofYmd? year month day).any fun date => date.weekday = weekday

namespace CalendarMonth

theorem falls_inMonth (named : CalendarMonth year month) {date : Date}
    (falls : date.FallsOn year month weekday) :
    date.monthIndex = year * 12 + (month - 1 : Int) :=
  named.monthIndex_iff.mpr ⟨falls.year, falls.month⟩

theorem falls_before (named : CalendarMonth year month) {a b : Date}
    (first : a.FallsOn year month weekday) (second : b.FallsOn year month weekday) :
    a < b ↔ a.day < b.day := by
  rw [Date.lt_def, a.number_eq, b.number_eq, named.falls_inMonth first, named.falls_inMonth second]
  omega

theorem falls_addDays? (named : CalendarMonth year month) {a b : Date} (days : Nat)
    (first : a.FallsOn year month weekday) (second : b.FallsOn year month weekday) :
    a.addDays? days = some b ↔ b.day = a.day + days := by
  unfold Date.addDays?
  rw [Date.ofNumber?_eq_some, a.number_eq, b.number_eq, named.falls_inMonth first,
    named.falls_inMonth second]
  omega

/-- Days of one residue are counted once in four weeks, and a fifth time where a fifth week has one. -/
theorem weekdayCount_eq (named : CalendarMonth year month) (weekday : Weekday) :
    ∃ first, 1 ≤ first ∧ first ≤ 7 ∧
      (∀ date : Date, date.FallsOn year month weekday → date.day % 7 = first % 7) ∧
      weekdayCount year month weekday = if first + 28 ≤ monthLength year month then 5 else 4 := by
  obtain ⟨residue, small, falls⟩ :=
    Date.weekday_weekly (year * 12 + (month - 1 : Int)) weekday
  obtain ⟨positive, early, same⟩ := firstOfResidue_bounds small
  refine ⟨firstOfResidue residue, positive, early, ?_, ?_⟩
  · rintro date ⟨sameYear, sameMonth, sameWeekday⟩
    rw [same, ← falls date (named.monthIndex_iff.mpr ⟨sameYear, sameMonth⟩)]
    exact sameWeekday
  · -- The days on the weekday are those of its residue, of which the list is known.
    have days := days_of_residue (monthLength year month)
      (by have := monthLength_bounds year month; simp; omega) residue small
    have length : (weeklyDays (monthLength year month) (firstOfResidue residue)).length =
        if firstOfResidue residue + 28 ≤ monthLength year month then 5 else 4 := by
      unfold weeklyDays
      split <;> rfl
    rw [← length, ← days, ← List.countP_eq_length_filter]
    apply List.countP_congr
    intro day listed
    obtain ⟨date, sameYear, sameMonth, rfl⟩ := (named.exists_day_iff day).mpr
      (by rw [List.mem_range'_1] at listed; omega)
    have inMonth := named.monthIndex_iff.mpr ⟨sameYear, sameMonth⟩
    have found : Date.ofYmd? year month date.day = some date :=
      Date.ofYmd?_eq_some.2 ⟨named.january_le, named.le_december, inMonth, rfl⟩
    simp [found, falls date inMonth]

/-- The last of a weekday is its fourth day, or its fifth where the month has one. -/
theorem fourth_and_last (named : CalendarMonth year month) {fourth final : Date}
    (falls : fourth.FallsOn year month weekday) (inWeek : 22 ≤ fourth.day ∧ fourth.day ≤ 28)
    (fallsFinal : final.FallsOn year month weekday)
    (atEnd : monthLength year month < final.day + 7) :
    (final = fourth ∨ fourth.addDays? 7 = some final) ∧
      (fourth.addDays? 7 = some final ↔ weekdayCount year month weekday = 5) := by
  obtain ⟨first, positive, early, weekly, count⟩ := named.weekdayCount_eq weekday
  have length := monthLength_bounds year month
  have inside := ((named.exists_day_iff final.day).mp ⟨final, fallsFinal.year, fallsFinal.month, rfl⟩).2
  have residue := weekly fourth falls
  have residueFinal := weekly final fallsFinal
  have later : fourth.addDays? 7 = some final ↔ final.day = fourth.day + 7 :=
    named.falls_addDays? 7 falls fallsFinal
  rw [count, later]
  -- Both days have the residue of the first one; only a fifth can lie between the fourth and the end.
  by_cases fifth : first + 28 ≤ monthLength year month
  · simp only [fifth, ↓reduceIte, iff_true]
    omega
  · have same : final.day = fourth.day := by omega
    refine ⟨.inl (Date.eq_of_month_day ?_ same), ?_⟩
    · exact (named.falls_inMonth fallsFinal).trans (named.falls_inMonth falls).symm
    · simp [fifth, same]

section Counted
variable (named : CalendarMonth year month) (counted : ¬ IsFinalMonth year month)

include named counted

theorem exists_nthWeekday (weekday : Weekday) {week : Nat} (positive : 1 ≤ week) :
    ∃ date, nthWeekdayOfMonth year month week weekday = .ok (some date) ∧
      date.year = year ∧ date.month = month ∧
      date.IsNthWeekday (monthLength year month) week weekday := by
  obtain ⟨first, last⟩ := named.index_bounds
  obtain ⟨date, found, inMonth, nth⟩ :=
    nthWeekdayOfMonth_inside weekday positive named.january_le named.le_december rfl first last
  rw [named.scannedDays_eq, countedDays_eq_iff.mpr counted] at nth
  obtain ⟨sameYear, sameMonth⟩ := named.monthIndex_iff.mp inMonth
  exact ⟨date, found, sameYear, sameMonth, nth⟩

/-- The answer is the one date of the month that is the n-th of its weekday. -/
theorem nthWeekdayOfMonth_iff {week : Nat} (positive : 1 ≤ week) {date : Date} :
    nthWeekdayOfMonth year month week weekday = .ok (some date) ↔
      date.FallsOn year month weekday ∧
        if week ≤ 4 then 7 * (week - 1) + 1 ≤ date.day ∧ date.day ≤ 7 * week
        else monthLength year month < date.day + 7 := by
  obtain ⟨answer, found, sameYear, sameMonth, nth⟩ :=
    named.exists_nthWeekday counted weekday positive
  rw [found]
  constructor
  · rintro ⟨⟩
    exact ⟨⟨sameYear, sameMonth, nth.1⟩, nth.2.2⟩
  · rintro ⟨falls, inWeek⟩
    obtain ⟨-, -, -, inside, -⟩ := date.monthAndDay_of_date
    rw [falls.year, falls.month] at inside
    have months : answer.monthIndex = date.monthIndex :=
      (named.monthIndex_iff.mpr ⟨sameYear, sameMonth⟩).trans (named.falls_inMonth falls).symm
    have days := Date.nthWeekday_unique nth ⟨falls.weekday, inside, inWeek⟩ months
    rw [Date.eq_of_month_day months days]

end Counted
end CalendarMonth

/-- Before the last year each weekday has a first to a fourth day in every month, one in each seven,
in this order, and a last one, in the last seven days; from 5 on the last one is meant. It is the
fourth one, or lies a week after it, which is so exactly when the month has five of them. -/
theorem nthWeekday_of_month (named : CalendarMonth year month) (early : year < 262142)
    (weekday : Weekday) :
    (∀ week, 1 ≤ week → ∃ date, nthWeekdayOfMonth year month week weekday = .ok (some date)) ∧
    (∀ week date, 1 ≤ week → week ≤ 4 →
      (nthWeekdayOfMonth year month week weekday = .ok (some date) ↔
        date.FallsOn year month weekday ∧ 7 * (week - 1) + 1 ≤ date.day ∧ date.day ≤ 7 * week)) ∧
    (∀ week date, 5 ≤ week →
      (nthWeekdayOfMonth year month week weekday = .ok (some date) ↔
        date.FallsOn year month weekday ∧ monthLength year month < date.day + 7)) ∧
    (∀ week later a b, 1 ≤ week → week < later → later ≤ 4 →
      nthWeekdayOfMonth year month week weekday = .ok (some a) →
      nthWeekdayOfMonth year month later weekday = .ok (some b) → a < b) ∧
    ∀ fourth final, nthWeekdayOfMonth year month 4 weekday = .ok (some fourth) →
      nthWeekdayOfMonth year month 5 weekday = .ok (some final) →
      (final = fourth ∨ fourth.addDays? 7 = some final) ∧
      (fourth.addDays? 7 = some final ↔ weekdayCount year month weekday = 5) := by
  have counted : ¬ IsFinalMonth year month := fun final => by
    have := final.1
    omega
  have inWeek {week : Nat} {date : Date} (positive : 1 ≤ week) (few : week ≤ 4) :
      nthWeekdayOfMonth year month week weekday = .ok (some date) ↔
        date.FallsOn year month weekday ∧ 7 * (week - 1) + 1 ≤ date.day ∧ date.day ≤ 7 * week := by
    rw [named.nthWeekdayOfMonth_iff counted positive, if_pos few]
  have atEnd {week : Nat} {date : Date} (many : 5 ≤ week) :
      nthWeekdayOfMonth year month week weekday = .ok (some date) ↔
        date.FallsOn year month weekday ∧ monthLength year month < date.day + 7 := by
    rw [named.nthWeekdayOfMonth_iff counted (by omega), if_neg (by omega)]
  refine ⟨fun week positive => ?_, fun _ _ => inWeek, fun _ _ => atEnd, ?_, ?_⟩
  · obtain ⟨date, found, -⟩ := named.exists_nthWeekday counted weekday positive
    exact ⟨date, found⟩
  · intro week later a b positive before few foundA foundB
    obtain ⟨fallsA, -, upper⟩ := (inWeek positive (by omega)).mp foundA
    obtain ⟨fallsB, lower, -⟩ := (inWeek (by omega) few).mp foundB
    rw [named.falls_before fallsA fallsB]
    omega
  · intro fourth final foundFourth foundFinal
    obtain ⟨falls, lower, upper⟩ := (inWeek (by decide) (by decide)).mp foundFourth
    obtain ⟨fallsFinal, atLast⟩ := (atEnd (by decide)).mp foundFinal
    exact named.fourth_and_last falls ⟨lower, upper⟩ fallsFinal atLast

theorem april_weekdays : CalendarMonth 2024 4 ∧ (2024 : Int) < 262142 ∧
    (weekdayCount 2024 4 .tue = 5 ∧ ∃ fourth final,
      nthWeekdayOfMonth 2024 4 4 .tue = .ok (some fourth) ∧
      nthWeekdayOfMonth 2024 4 5 .tue = .ok (some final) ∧ fourth.addDays? 7 = some final) ∧
    ∃ friday, friday.FallsOn 2024 4 .fri ∧ friday.day = 26 ∧
      nthWeekdayOfMonth 2024 4 4 .fri = .ok (some friday) ∧
      nthWeekdayOfMonth 2024 4 5 .fri = .ok (some friday) := by
  have april : CalendarMonth 2024 4 := ⟨by decide, by decide, by decide, by decide⟩
  have early : (2024 : Int) < 262142 := by decide
  refine ⟨april, early, ⟨by decide +kernel, ?_⟩, ?_⟩
  · obtain ⟨always, -, -, -, ends⟩ := nthWeekday_of_month april early .tue
    obtain ⟨fourth, foundFourth⟩ := always 4 (by decide)
    obtain ⟨final, foundFinal⟩ := always 5 (by decide)
    have five : weekdayCount 2024 4 .tue = 5 := by decide +kernel
    exact ⟨fourth, final, foundFourth, foundFinal,
      (ends fourth final foundFourth foundFinal).2.mpr five⟩
  · obtain ⟨-, inWeek, atEnd, -, -⟩ := nthWeekday_of_month april early .fri
    let friday : Date := ⟨19839, by decide, by decide⟩
    have falls : friday.FallsOn 2024 4 .fri := ⟨by decide +kernel, by decide +kernel, rfl⟩
    exact ⟨friday, falls, by decide +kernel,
      (inWeek 4 friday (by decide) (by decide)).mpr ⟨falls, by decide +kernel⟩,
      (atEnd 5 friday (by decide)).mpr ⟨falls, by decide +kernel⟩⟩

end Rota
