import Rota.Proofs.Calendar.Month
import Mathlib.Data.List.Basic

/-!
The days a month offers. The length of a month is read off the first day of the next one, so the
last month of the calendar counts as having 28 days; every other month is seen at its full length.
Inside the calendar a clamped day and an n-th weekday always exist and lie in their month; outside
there is none.
-/

namespace Rota

/-- The length at which a month is seen. -/
def scannedDays (index : Int) : Nat := if index = lastMonth then 28 else monthDays index

theorem scannedDays_bounds (index : Int) : 28 ≤ scannedDays index ∧ scannedDays index ≤ 31 := by
  have bounds := monthDays_bounds index
  unfold scannedDays
  split <;> omega

theorem scannedDays_le (index : Int) : scannedDays index ≤ monthDays index := by
  have bounds := monthDays_bounds index
  unfold scannedDays
  split <;> omega

theorem nextMonth_eq {year : Int} {month : Nat} (lower : 1 ≤ month) (upper : month ≤ 12)
    (fits : ¬ (year = largestYear ∧ month = 12)) :
    ∃ nextYear next, nextMonth year month = .ok (nextYear, next) ∧ 1 ≤ next ∧ next ≤ 12 ∧
      nextYear * 12 + (next - 1 : Int) = year * 12 + (month - 1 : Int) + 1 := by
  unfold nextMonth
  by_cases december : month = 12
  · have small : ¬ year = largestYear := fun same => fits ⟨same, december⟩
    rw [if_pos december, if_neg small]
    exact ⟨year + 1, 1, rfl, by omega, by omega, by omega⟩
  · have named : ¬ month = largestMonth := by
      unfold largestMonth
      omega
    rw [if_neg december, if_neg named]
    exact ⟨year, month + 1, rfl, by omega, by omega, by omega⟩

theorem daysInMonth_ok {year : Int} {month : Nat} (lower : 1 ≤ month) (upper : month ≤ 12)
    (fits : ¬ (year = largestYear ∧ month = 12)) :
    ∃ length, daysInMonth year month = .ok length := by
  obtain ⟨nextYear, next, found, -⟩ := nextMonth_eq lower upper fits
  exact ⟨_, by rw [daysInMonth, found]; rfl⟩

theorem small_year {index year : Int} {month : Nat} (place : year * 12 + (month - 1 : Int) = index)
    (named : 1 ≤ month) (last : index ≤ lastMonth) : ¬ (year = largestYear ∧ month = 12) := by
  unfold lastMonth at last
  unfold largestYear
  omega

theorem daysInMonth_eq {index year : Int} {month : Nat} (lower : 1 ≤ month) (upper : month ≤ 12)
    (place : year * 12 + (month - 1 : Int) = index) (first : firstMonth ≤ index)
    (last : index ≤ lastMonth) : daysInMonth year month = .ok (scannedDays index) := by
  obtain ⟨nextYear, next, found, named⟩ := nextMonth_eq lower upper (small_year place lower last)
  rw [daysInMonth, found]
  have days := monthDays_bounds index
  by_cases final : index = lastMonth
  · have missing : Date.ofYmd? nextYear next 1 = none := by
      cases present : Date.ofYmd? nextYear next 1 with
      | none => rfl
      | some date =>
        have inside := date.month_inside
        have index := (Date.ofYmd?_eq_some.1 present).2.2.1
        omega
    simp [missing, scannedDays, final, bind, Except.bind, pure, Except.pure]
  · obtain ⟨date, -, month, day⟩ := Date.exists_month_day (index + 1) 1
      (by omega) (by omega) (by omega) (by have := monthDays_bounds (index + 1); omega)
    obtain ⟨lastDay, known, lastIndex, length⟩ := Date.exists_month_day index
      (monthDays index) first last (by omega) (by omega)
    have present : Date.ofYmd? nextYear next 1 = some date :=
      Date.ofYmd?_eq_some.2 ⟨named.1, named.2.1, by omega, day⟩
    have before : date.pred? = some lastDay := by
      have number := date.number_eq
      rw [month, day, monthStart_succ] at number
      unfold Date.pred? Date.addDays?
      rw [← known]
      congr 1
      omega
    simp [present, before, scannedDays, final, length, bind, Except.bind, pure, Except.pure]

theorem clampedDate_inside {index year : Int} {month : Nat} (day : Nat) (lower : 1 ≤ month)
    (upper : month ≤ 12) (place : year * 12 + (month - 1 : Int) = index)
    (first : firstMonth ≤ index) (last : index ≤ lastMonth) :
    ∃ date, clampedDate year month day = .ok (some date) ∧ date.monthIndex = index ∧
      date.day = max 1 (min day (scannedDays index)) := by
  have bounds := scannedDays_bounds index
  have short := scannedDays_le index
  obtain ⟨date, -, inMonth, same⟩ := Date.exists_month_day index
    (max 1 (min day (scannedDays index))) first last (by omega) (by omega)
  refine ⟨date, ?_, inMonth, same⟩
  have found : Date.ofYmd? year month (max 1 (min day (scannedDays index))) = some date :=
    Date.ofYmd?_eq_some.2 ⟨lower, upper, by omega, same⟩
  rw [clampedDate, daysInMonth_eq lower upper place first last]
  simp [found, bind, Except.bind, pure, Except.pure]

def outsideCalendar (year : Int) : Prop := year < -262143 ∨ 262142 < year

theorem ofYmd?_outside {year : Int} (outside : outsideCalendar year) (month day : Nat) :
    Date.ofYmd? year month day = none := by
  cases present : Date.ofYmd? year month day with
  | none => rfl
  | some date =>
    have inside := date.month_inside
    have named := Date.ofYmd?_eq_some.1 present
    unfold outsideCalendar at outside
    unfold firstMonth lastMonth at inside
    omega

theorem clampedDate_outside {year : Int} {month : Nat} (day : Nat) (lower : 1 ≤ month)
    (upper : month ≤ 12) (fits : ¬ (year = largestYear ∧ month = 12))
    (outside : outsideCalendar year) : clampedDate year month day = .ok none := by
  obtain ⟨length, known⟩ := daysInMonth_ok lower upper fits
  rw [clampedDate, known]
  simp [ofYmd?_outside outside, bind, Except.bind, pure, Except.pure]

theorem Weekday.ofIndex?_of_le {index : Nat} (named : index ≤ 6) :
    ∃ weekday, ofIndex? index = some weekday := by
  rcases (show index = 0 ∨ index = 1 ∨ index = 2 ∨ index = 3 ∨ index = 4 ∨ index = 5 ∨ index = 6
    by omega) with rfl | rfl | rfl | rfl | rfl | rfl | rfl <;> exact ⟨_, rfl⟩

theorem Date.weekday_eq_iff {date : Date} {weekday : Weekday} :
    date.weekday = weekday ↔ (date.number + 4) % 7 = weekday.index := by
  have cases : (date.number + 4) % 7 = 0 ∨ (date.number + 4) % 7 = 1 ∨ (date.number + 4) % 7 = 2 ∨
      (date.number + 4) % 7 = 3 ∨ (date.number + 4) % 7 = 4 ∨ (date.number + 4) % 7 = 5 ∨
      (date.number + 4) % 7 = 6 := by omega
  unfold Date.weekday
  rcases cases with h | h | h | h | h | h | h <;> rw [h] <;> cases weekday <;> decide

def firstOfResidue (residue : Nat) : Nat := if residue = 0 then 7 else residue

def weeklyDays (length first : Nat) : List Nat :=
  [first, first + 7, first + 14, first + 21] ++ if first + 28 ≤ length then [first + 28] else []

theorem days_of_residue : ∀ length ∈ [28, 29, 30, 31], ∀ residue < 7,
    (List.range' 1 length).filter (fun day => day % 7 == residue) =
      weeklyDays length (firstOfResidue residue) := by
  decide

theorem Date.weekday_weekly (index : Int) (weekday : Weekday) :
    ∃ residue < 7, ∀ date : Date, date.monthIndex = index →
      (date.weekday = weekday ↔ date.day % 7 = residue) := by
  have named := weekday.index_lt
  refine ⟨((weekday.index - monthStart index - 3) % 7).toNat, by omega, ?_⟩
  intro date inMonth
  rw [Date.weekday_eq_iff, date.number_eq, inMonth]
  omega

theorem firstOfResidue_bounds {residue : Nat} (small : residue < 7) :
    1 ≤ firstOfResidue residue ∧ firstOfResidue residue ≤ 7 ∧
      firstOfResidue residue % 7 = residue := by
  unfold firstOfResidue
  split <;> omega

/-- In each month a weekday falls on one of the first seven days and weekly from there on. -/
theorem weekdaysOfMonth_eq {index year : Int} {month : Nat} (weekday : Weekday) (lower : 1 ≤ month)
    (upper : month ≤ 12) (place : year * 12 + (month - 1 : Int) = index)
    (first : firstMonth ≤ index) (last : index ≤ lastMonth) :
    ∃ day, 1 ≤ day ∧ day ≤ 7 ∧
      weekdaysOfMonth year month weekday =
        .ok ((weeklyDays (scannedDays index) day).filterMap (Date.ofYmd? year month)) ∧
      ∀ date : Date, date.monthIndex = index →
        (date.weekday = weekday ↔ date.day % 7 = day % 7) := by
  have bounds := scannedDays_bounds index
  obtain ⟨residue, small, falls⟩ := Date.weekday_weekly index weekday
  obtain ⟨positive, early, same⟩ := firstOfResidue_bounds small
  refine ⟨firstOfResidue residue, positive, early, ?_, ?_⟩
  · have days := days_of_residue (scannedDays index) (by simp; omega) residue small
    rw [weekdaysOfMonth, daysInMonth_eq lower upper place first last, ← days,
      List.filterMap_filter]
    simp only [bind, Except.bind, pure, Except.pure, List.filter_filterMap]
    congr 1
    apply List.filterMap_congr
    intro day _
    cases present : Date.ofYmd? year month day with
    | none => simp
    | some date =>
      obtain ⟨-, -, inMonth, rfl⟩ := Date.ofYmd?_eq_some.1 present
      have same := falls date (inMonth.trans place)
      by_cases kept : date.day % 7 = residue <;> simp [same, kept]
  · intro date inMonth
    rw [falls date inMonth, same]

namespace Date

/-- The `week`-th of its weekday in a month of `length` days, from 5 on the last of it. -/
def IsNthWeekday (length week : Nat) (weekday : Weekday) (date : Date) : Prop :=
  date.weekday = weekday ∧ date.day ≤ length ∧
    if week ≤ 4 then 7 * (week - 1) < date.day ∧ date.day ≤ 7 * week else length < date.day + 7

end Date

theorem nthWeekdayOfMonth_inside {index year : Int} {month week : Nat} (weekday : Weekday)
    (positive : 1 ≤ week) (lower : 1 ≤ month) (upper : month ≤ 12)
    (place : year * 12 + (month - 1 : Int) = index) (first : firstMonth ≤ index)
    (last : index ≤ lastMonth) :
    ∃ date, nthWeekdayOfMonth year month week weekday = .ok (some date) ∧
      date.monthIndex = index ∧ date.IsNthWeekday (scannedDays index) week weekday := by
  have bounds := scannedDays_bounds index
  have short := scannedDays_le index
  obtain ⟨day, least, most, listed, falls⟩ :=
    weekdaysOfMonth_eq weekday lower upper place first last
  have dated (later : Nat) (fits : day + later ≤ scannedDays index) :
      ∃ date, Date.ofYmd? year month (day + later) = some date ∧ date.monthIndex = index ∧
        date.day = day + later := by
    obtain ⟨date, -, inMonth, same⟩ := Date.exists_month_day index (day + later) first last
      (by omega) (by omega)
    exact ⟨date, Date.ofYmd?_eq_some.2 ⟨lower, upper, by omega, same⟩, inMonth, same⟩
  -- Four weeks fit every month; whether a fifth does tells the last weekday.
  obtain ⟨a, foundA, monthA, dayA⟩ := dated 0 (by omega)
  obtain ⟨b, foundB, monthB, dayB⟩ := dated 7 (by omega)
  obtain ⟨c, foundC, monthC, dayC⟩ := dated 14 (by omega)
  obtain ⟨d, foundD, monthD, dayD⟩ := dated 21 (by omega)
  have weekdays (date : Date) (inMonth : date.monthIndex = index) (weeks : Nat)
      (same : date.day = day + 7 * weeks) : date.weekday = weekday :=
    (falls date inMonth).2 (by omega)
  rw [Nat.add_zero] at foundA dayA
  obtain ⟨tail, listedTail⟩ : ∃ tail, tail = (if day + 28 ≤ scannedDays index then [day + 28]
    else []).filterMap (Date.ofYmd? year month) := ⟨_, rfl⟩
  have all : (weeklyDays (scannedDays index) day).filterMap (Date.ofYmd? year month) =
      a :: b :: c :: d :: tail := by
    simp [weeklyDays, foundA, foundB, foundC, foundD, listedTail]
  rw [nthWeekdayOfMonth, listed, all]
  by_cases counted : week ≤ 4
  · rcases (show week = 1 ∨ week = 2 ∨ week = 3 ∨ week = 4 by omega) with rfl | rfl | rfl | rfl
    · exact ⟨a, rfl, monthA, weekdays a monthA 0 (by omega), by omega, by simp; omega⟩
    · exact ⟨b, rfl, monthB, weekdays b monthB 1 (by omega), by omega, by simp; omega⟩
    · exact ⟨c, rfl, monthC, weekdays c monthC 2 (by omega), by omega, by simp; omega⟩
    · exact ⟨d, rfl, monthD, weekdays d monthD 3 (by omega), by omega, by simp; omega⟩
  · have named : ¬ week = 0 := by omega
    by_cases fifth : day + 28 ≤ scannedDays index
    · obtain ⟨e, foundE, monthE, dayE⟩ := dated 28 fifth
      refine ⟨e, ?_, monthE, weekdays e monthE 4 (by omega), by omega, ?_⟩
      · simp [listedTail, fifth, foundE, counted, named, bind, Except.bind, pure, Except.pure]
      · rw [if_neg counted]
        omega
    · refine ⟨d, ?_, monthD, weekdays d monthD 3 (by omega), by omega, ?_⟩
      · simp [listedTail, fifth, counted, named, bind, Except.bind, pure, Except.pure]
      · rw [if_neg counted]
        omega

theorem nthWeekdayOfMonth_outside {year : Int} {month : Nat} (week : Nat) (weekday : Weekday)
    (lower : 1 ≤ month) (upper : month ≤ 12) (fits : ¬ (year = largestYear ∧ month = 12))
    (outside : outsideCalendar year) : nthWeekdayOfMonth year month week weekday = .ok none := by
  obtain ⟨length, known⟩ := daysInMonth_ok lower upper fits
  have none : (List.range' 1 length).filterMap (Date.ofYmd? year month) = [] := by
    simp [ofYmd?_outside outside]
  rw [nthWeekdayOfMonth, weekdaysOfMonth, known]
  simp [none, bind, Except.bind, pure, Except.pure]

theorem Date.nthWeekday_unique {length week : Nat} {weekday : Weekday} {a b : Date}
    (first : a.IsNthWeekday length week weekday) (second : b.IsNthWeekday length week weekday)
    (month : a.monthIndex = b.monthIndex) : a.day = b.day := by
  obtain ⟨weekdayA, insideA, weekA⟩ := first
  obtain ⟨weekdayB, insideB, weekB⟩ := second
  rw [weekday_eq_iff, a.number_eq] at weekdayA
  rw [weekday_eq_iff, b.number_eq, ← month] at weekdayB
  by_cases counted : week ≤ 4
  · rw [if_pos counted] at weekA weekB
    omega
  · rw [if_neg counted] at weekA weekB
    omega

end Rota
