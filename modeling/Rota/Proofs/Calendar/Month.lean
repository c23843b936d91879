import Rota.Calendar.Month

/-!
Months counted from January of year 0, and dates by month and day. A date is determined by the
number of its month and its day in it, and dates are ordered as these pairs are: every later month
starts after the last day of an earlier one.
-/

namespace Rota

def yearLength (year : Int) : Nat := if isLeapYear year then 366 else 365

theorem yearStart_succ (year : Int) :
    yearStart (year + 1) = yearStart year + yearLength year := by
  unfold yearStart yearLength isLeapYear
  by_cases fourth : year % 4 = 0
  · by_cases hundredth : year % 100 = 0
    · by_cases fourHundredth : year % 400 = 0
      · simp [fourth, hundredth, fourHundredth]
        omega
      · simp [fourth, hundredth, fourHundredth]
        omega
    · simp [fourth, hundredth]
      omega
  · simp [fourth]
    omega

-- The mean length of a year gives an estimate that is one off at most, on either side.
theorem yearOfNumber_bounds (number : Int) :
    yearStart (yearOfNumber number) ≤ number ∧
      number < yearStart (yearOfNumber number + 1) := by
  unfold yearOfNumber
  dsimp only
  split
  · unfold yearStart at *
    omega
  · split
    · unfold yearStart at *
      omega
    · unfold yearStart at *
      omega

theorem daysBeforeMonth_succ (year : Int) (month : Nat) (named : 1 ≤ month) :
    daysBeforeMonth year (month + 1) = daysBeforeMonth year month + monthLength year month := by
  cases month with
  | zero => omega
  | succ month => rfl

theorem daysBeforeMonth_thirteen (year : Int) : daysBeforeMonth year 13 = yearLength year := by
  cases leap : isLeapYear year <;> simp [daysBeforeMonth, monthLength, yearLength, leap]

theorem monthLength_bounds (year : Int) (month : Nat) :
    28 ≤ monthLength year month ∧ monthLength year month ≤ 31 := by
  unfold monthLength
  split
  · split <;> omega
  · split <;> omega

theorem monthAndDay_spec (year : Int) (fuel month rest : Nat) (named : 1 ≤ month)
    (held : daysBeforeMonth year month + rest < daysBeforeMonth year (month + fuel + 1)) :
    month ≤ (monthAndDay year fuel month rest).1 ∧
    (monthAndDay year fuel month rest).1 ≤ month + fuel ∧
    1 ≤ (monthAndDay year fuel month rest).2 ∧
    (monthAndDay year fuel month rest).2 ≤ monthLength year (monthAndDay year fuel month rest).1 ∧
    daysBeforeMonth year (monthAndDay year fuel month rest).1 + (monthAndDay year fuel month rest).2 =
      daysBeforeMonth year month + rest + 1 := by
  induction fuel generalizing month rest with
  | zero =>
    rw [Nat.add_zero, daysBeforeMonth_succ year month named] at held
    simp only [monthAndDay]
    omega
  | succ fuel ih =>
    have next := daysBeforeMonth_succ year month named
    simp only [monthAndDay]
    split
    · simp only
      omega
    · have tail := ih (month + 1) (rest - monthLength year month) (by omega)
        (by rw [show month + 1 + fuel + 1 = month + (fuel + 1) + 1 by omega]; omega)
      omega

def monthDays (index : Int) : Nat := monthLength (index / 12) ((index % 12).toNat + 1)

def monthStart (index : Int) : Int :=
  yearStart (index / 12) + daysBeforeMonth (index / 12) ((index % 12).toNat + 1)

theorem monthDays_bounds (index : Int) : 28 ≤ monthDays index ∧ monthDays index ≤ 31 :=
  monthLength_bounds _ _

theorem monthStart_succ (index : Int) :
    monthStart (index + 1) = monthStart index + monthDays index := by
  unfold monthStart monthDays
  have month := daysBeforeMonth_succ (index / 12) ((index % 12).toNat + 1) (by omega)
  by_cases december : index % 12 = 11
  · have nextYear : (index + 1) / 12 = index / 12 + 1 := by omega
    have january : ((index + 1) % 12).toNat + 1 = 1 := by omega
    have twelve : (index % 12).toNat + 1 = 12 := by omega
    rw [twelve] at month ⊢
    rw [daysBeforeMonth_thirteen] at month
    rw [nextYear, january, yearStart_succ, month]
    simp only [daysBeforeMonth]
    omega
  · have sameYear : (index + 1) / 12 = index / 12 := by omega
    have later : ((index + 1) % 12).toNat + 1 = (index % 12).toNat + 1 + 1 := by omega
    rw [sameYear, later, month]
    omega

theorem monthStart_le {a b : Int} (earlier : a < b) :
    monthStart a + monthDays a ≤ monthStart b := by
  obtain ⟨n, rfl⟩ : ∃ n : Nat, b = a + 1 + n := ⟨(b - a - 1).toNat, by omega⟩
  clear earlier
  induction n with
  | zero => simp [monthStart_succ]
  | succ n ih =>
    have step := monthStart_succ (a + 1 + n)
    rw [show a + 1 + ((n + 1 : Nat) : Int) = a + 1 + n + 1 by omega]
    omega

theorem monthStart_mono {a b : Int} (ordered : a ≤ b) : monthStart a ≤ monthStart b := by
  rcases Int.lt_or_eq_of_le ordered with before | rfl
  · have := monthStart_le before
    omega
  · exact Int.le_refl _

def firstMonth : Int := -262143 * 12
def lastMonth : Int := 262142 * 12 + 11

theorem monthStart_firstMonth : monthStart firstMonth = firstDayNumber := by decide

theorem monthStart_after_lastMonth : monthStart (lastMonth + 1) = lastDayNumber + 1 := by decide

namespace Date

-- The day of the year names a month and a day of it.
theorem monthAndDay_of_date (date : Date) :
    1 ≤ date.month ∧ date.month ≤ 12 ∧ 1 ≤ date.day ∧
    date.day ≤ monthLength date.year date.month ∧
    date.number = yearStart date.year + daysBeforeMonth date.year date.month + date.day - 1 := by
  obtain ⟨lower, upper⟩ := yearOfNumber_bounds date.number
  rw [yearStart_succ] at upper
  change yearStart date.year ≤ date.number at lower
  change date.number < yearStart date.year + yearLength date.year at upper
  have rest : (date.dayOfYear : Int) = date.number - yearStart date.year := by
    unfold dayOfYear
    omega
  have held : daysBeforeMonth date.year 1 + date.dayOfYear <
      daysBeforeMonth date.year (1 + 11 + 1) := by
    rw [daysBeforeMonth_thirteen]
    simp only [daysBeforeMonth]
    omega
  have found := monthAndDay_spec date.year 11 1 date.dayOfYear (by omega) held
  simp only [daysBeforeMonth] at found
  unfold month day
  omega

theorem year_eq (date : Date) : date.year = date.monthIndex / 12 := by
  have named := date.monthAndDay_of_date
  unfold monthIndex
  omega

theorem month_eq (date : Date) : date.month = (date.monthIndex % 12).toNat + 1 := by
  have named := date.monthAndDay_of_date
  unfold monthIndex
  omega

theorem day_bounds (date : Date) : 1 ≤ date.day ∧ date.day ≤ monthDays date.monthIndex := by
  have named := date.monthAndDay_of_date
  unfold monthDays
  rw [← date.year_eq, ← date.month_eq]
  omega

theorem number_eq (date : Date) :
    date.number = monthStart date.monthIndex + date.day - 1 := by
  have named := date.monthAndDay_of_date
  unfold monthStart
  rw [← date.year_eq, ← date.month_eq]
  omega

theorem quarterIndex_eq (date : Date) : date.quarterIndex = date.monthIndex / 3 := by
  have named := date.monthAndDay_of_date
  unfold quarterIndex monthIndex
  omega

theorem month_unique {date : Date} {index : Int} {day : Nat} (positive : 1 ≤ day)
    (inside : day ≤ monthDays index) (same : date.number = monthStart index + day - 1) :
    date.monthIndex = index ∧ date.day = day := by
  have number := date.number_eq
  have bounds := date.day_bounds
  rcases Int.lt_trichotomy date.monthIndex index with earlier | equal | later
  · have apart := monthStart_le earlier
    omega
  · rw [equal] at number
    exact ⟨equal, by omega⟩
  · have apart := monthStart_le later
    omega

theorem eq_of_month_day {a b : Date} (month : a.monthIndex = b.monthIndex)
    (day : a.day = b.day) : a = b := by
  apply Date.ext
  rw [a.number_eq, b.number_eq, month, day]

theorem lt_of_month_lt {a b : Date} (earlier : a.monthIndex < b.monthIndex) : a < b := by
  have apart := monthStart_le earlier
  have left := a.number_eq
  have right := b.number_eq
  have bounds := a.day_bounds
  have positive := b.day_bounds
  rw [lt_def]
  omega

theorem month_le_of_le {a b : Date} (ordered : a ≤ b) : a.monthIndex ≤ b.monthIndex := by
  by_cases later : b.monthIndex < a.monthIndex
  · have reversed := lt_of_month_lt later
    rw [le_def] at ordered
    rw [lt_def] at reversed
    omega
  · omega

theorem le_iff_day_le {a b : Date} (month : a.monthIndex = b.monthIndex) :
    a ≤ b ↔ a.day ≤ b.day := by
  rw [le_def, a.number_eq, b.number_eq, month]
  omega

theorem month_inside (date : Date) :
    firstMonth ≤ date.monthIndex ∧ date.monthIndex ≤ lastMonth := by
  have lower := date.first_le
  have upper := date.le_last
  have number := date.number_eq
  have bounds := date.day_bounds
  rw [← monthStart_firstMonth] at lower
  have ends := monthStart_after_lastMonth
  constructor
  · by_cases before : date.monthIndex < firstMonth
    · have apart := monthStart_le before
      omega
    · omega
  · by_cases after : lastMonth < date.monthIndex
    · by_cases next : date.monthIndex = lastMonth + 1
      · rw [next] at number
        omega
      · have apart := monthStart_le (show lastMonth + 1 < date.monthIndex by omega)
        omega
    · omega

theorem exists_month_day (index : Int) (day : Nat) (first : firstMonth ≤ index)
    (last : index ≤ lastMonth) (positive : 1 ≤ day) (inside : day ≤ monthDays index) :
    ∃ date : Date, ofNumber? (monthStart index + day - 1) = some date ∧
      date.monthIndex = index ∧ date.day = day := by
  have lower : firstDayNumber ≤ monthStart index := by
    rw [← monthStart_firstMonth]
    by_cases same : firstMonth = index
    · exact Int.le_of_eq (congrArg monthStart same)
    · have apart := monthStart_le (show firstMonth < index by omega)
      omega
  have upper : monthStart index + monthDays index ≤ lastDayNumber + 1 := by
    rw [← monthStart_after_lastMonth]
    exact monthStart_le (by omega)
  obtain ⟨date, number⟩ : ∃ date : Date, date.number = monthStart index + day - 1 :=
    ⟨⟨monthStart index + day - 1, by omega, by omega⟩, rfl⟩
  obtain ⟨month, same⟩ := month_unique positive inside number
  exact ⟨date, number ▸ ofNumber?_number date, month, same⟩

/-- Year, month and day name at most one date, which has them. -/
theorem ofYmd?_eq_some {year : Int} {month day : Nat} {date : Date} :
    ofYmd? year month day = some date ↔
      1 ≤ month ∧ month ≤ 12 ∧ date.monthIndex = year * 12 + (month - 1 : Int) ∧
        date.day = day := by
  have split (named : 1 ≤ month ∧ month ≤ 12) :
      (year * 12 + (month - 1 : Int)) / 12 = year ∧
      ((year * 12 + (month - 1 : Int)) % 12).toNat + 1 = month := by omega
  unfold ofYmd?
  constructor
  · intro found
    split at found
    · rename_i named
      have number := ofNumber?_eq_some.1 found
      obtain ⟨years, months⟩ := split ⟨named.1, named.2.1⟩
      have place : date.monthIndex = year * 12 + (month - 1 : Int) ∧ date.day = day :=
        month_unique named.2.2.1
          (by unfold monthDays; rw [years, months]; exact named.2.2.2)
          (by unfold monthStart; rw [years, months]; exact number)
      exact ⟨named.1, named.2.1, place⟩
    · cases found
  · rintro ⟨lower, upper, index, rfl⟩
    obtain ⟨years, months⟩ := split ⟨lower, upper⟩
    have bounds := date.day_bounds
    have number := date.number_eq
    rw [index] at bounds number
    unfold monthDays at bounds
    unfold monthStart at number
    rw [years, months] at bounds number
    rw [if_pos ⟨lower, upper, bounds.1, bounds.2⟩]
    exact ofNumber?_eq_some.2 number

theorem month_bounds (date : Date) : 1 ≤ date.month ∧ date.month ≤ 12 := by
  have month := date.month_eq
  omega

theorem monthIndex_eq_iff {date : Date} {year month : Int} (named : 1 ≤ month ∧ month ≤ 12) :
    date.monthIndex = year * 12 + (month - 1) ↔
      date.year = year ∧ (date.month : Int) = month := by
  rw [date.year_eq, date.month_eq]
  omega

theorem lt_of_month {a b : Date} (years : a.year = b.year) (months : a.month < b.month) :
    a < b := by
  refine lt_of_month_lt ?_
  unfold monthIndex
  omega

theorem lt_of_year_lt {a b : Date} (years : a.year < b.year) : a < b := by
  have left := a.month_bounds
  have right := b.month_bounds
  refine lt_of_month_lt ?_
  unfold monthIndex
  omega

theorem year_le_of_le {a b : Date} (ordered : a ≤ b) : a.year ≤ b.year :=
  Int.not_lt.mp fun earlier => Int.not_le.mpr (lt_of_year_lt earlier) ordered

theorem year_lt_iff {date : Date} {year : Int} :
    date.year < year ↔ date.number < monthStart (year * 12) := by
  have number := date.number_eq
  have day := date.day_bounds
  have next := monthStart_succ date.monthIndex
  rw [date.year_eq]
  constructor
  · intro early
    have := monthStart_mono (show date.monthIndex + 1 ≤ year * 12 by omega)
    omega
  · intro early
    refine Int.not_le.mp fun late => ?_
    have := monthStart_mono (show year * 12 ≤ date.monthIndex by omega)
    omega

theorem le_year_iff {date : Date} : 1970 ≤ date.year ↔ 0 ≤ date.number := by
  have begins : monthStart (1970 * 12) = 0 := by decide
  rw [← Int.not_lt, year_lt_iff, begins, Int.not_lt]

end Date
end Rota
