import Rota.Calendar.Weekday

/-!
Days of the proleptic Gregorian calendar, from 1 January of year -262143 to 31 December of year
262142; the year 0 exists. A date is the number of days since 1 January 1970, so order and distance
are those of the integers. Year, month and day are read off the number, and `Date.ofYmd?` is the
way back; both rest on `yearStart`, the number of the first day of a year.
-/

namespace Rota

def isLeapYear (year : Int) : Bool :=
  year % 4 == 0 && (year % 100 != 0 || year % 400 == 0)

def monthLength (year : Int) (month : Nat) : Nat :=
  if month = 2 then (if isLeapYear year then 29 else 28)
  else if month = 4 ∨ month = 6 ∨ month = 9 ∨ month = 11 then 30
  else 31

def yearStart (year : Int) : Int :=
  365 * (year - 1) + (year - 1) / 4 - (year - 1) / 100 + (year - 1) / 400 - 719162

def daysBeforeMonth (year : Int) : Nat → Nat
  | 0 => 0
  | 1 => 0
  | month + 2 => daysBeforeMonth year (month + 1) + monthLength year (month + 1)

/-- The year that holds the day `number`: an estimate from the mean length of a year, which is at
most one off, put right by looking at where that year starts. -/
def yearOfNumber (number : Int) : Int :=
  let estimate := (400 * (number + 719162)) / 146097 + 1
  if number < yearStart estimate then estimate - 1
  else if yearStart (estimate + 1) ≤ number then estimate + 1
  else estimate

/-- The month and day of the `rest`-th day (from 0) counted from the first of `month`, looking at
`fuel` months at most. -/
def monthAndDay (year : Int) (fuel month rest : Nat) : Nat × Nat :=
  match fuel with
  | 0 => (month, rest + 1)
  | fuel + 1 =>
    if rest < monthLength year month then (month, rest + 1)
    else monthAndDay year fuel (month + 1) (rest - monthLength year month)

def firstDayNumber : Int := -96465292
def lastDayNumber : Int := 95026236

theorem firstDayNumber_eq : firstDayNumber = yearStart (-262143) := by decide

theorem lastDayNumber_eq : lastDayNumber = yearStart 262143 - 1 := by decide

structure Date where
  /-- Days since 1 January 1970. -/
  number : Int
  first_le : firstDayNumber ≤ number
  le_last : number ≤ lastDayNumber
  deriving DecidableEq

namespace Date

theorem ext {a b : Date} (same : a.number = b.number) : a = b := by
  cases a; cases b; cases same; rfl

instance : LE Date where le a b := a.number ≤ b.number
instance : LT Date where lt a b := a.number < b.number

theorem le_def {a b : Date} : a ≤ b ↔ a.number ≤ b.number := Iff.rfl
theorem lt_def {a b : Date} : a < b ↔ a.number < b.number := Iff.rfl

instance (a b : Date) : Decidable (a ≤ b) := inferInstanceAs (Decidable (a.number ≤ b.number))
instance (a b : Date) : Decidable (a < b) := inferInstanceAs (Decidable (a.number < b.number))

instance : Max Date where max a b := if a ≤ b then b else a

def first : Date := ⟨firstDayNumber, by decide, by decide⟩
def last : Date := ⟨lastDayNumber, by decide, by decide⟩

instance : Inhabited Date := ⟨⟨0, by decide, by decide⟩⟩

def ofNumber? (number : Int) : Option Date :=
  if inside : firstDayNumber ≤ number ∧ number ≤ lastDayNumber then
    some ⟨number, inside.1, inside.2⟩
  else none

def ofYmd? (year : Int) (month day : Nat) : Option Date :=
  if 1 ≤ month ∧ month ≤ 12 ∧ 1 ≤ day ∧ day ≤ monthLength year month then
    ofNumber? (yearStart year + daysBeforeMonth year month + day - 1)
  else none

def year (date : Date) : Int := yearOfNumber date.number

def dayOfYear (date : Date) : Nat := (date.number - yearStart date.year).toNat

def month (date : Date) : Nat := (monthAndDay date.year 11 1 date.dayOfYear).1

def day (date : Date) : Nat := (monthAndDay date.year 11 1 date.dayOfYear).2

/-- 1 January 1970 was a Thursday. -/
def weekday (date : Date) : Weekday :=
  match (date.number + 4) % 7 with
  | 0 => .sun
  | 1 => .mon
  | 2 => .tue
  | 3 => .wed
  | 4 => .thu
  | 5 => .fri
  | _ => .sat

def addDays? (date : Date) (days : Int) : Option Date := ofNumber? (date.number + days)

def succ? (date : Date) : Option Date := date.addDays? 1

def pred? (date : Date) : Option Date := date.addDays? (-1)

/-- Days from `earlier` to `later`, negative when they are the other way round. -/
def daysFrom (later earlier : Date) : Int := later.number - earlier.number

theorem ofNumber?_eq_some {n : Int} {date : Date} :
    ofNumber? n = some date ↔ date.number = n := by
  unfold ofNumber?
  constructor
  · intro found
    split at found
    · cases found; rfl
    · cases found
  · intro same
    have lower := date.first_le
    have upper := date.le_last
    subst same
    rw [dif_pos ⟨lower, upper⟩]

theorem ofNumber?_number (date : Date) : ofNumber? date.number = some date :=
  ofNumber?_eq_some.2 rfl

theorem number_addDays? {date later : Date} {days : Int}
    (reached : date.addDays? days = some later) : later.number = date.number + days :=
  ofNumber?_eq_some.1 reached

end Date
end Rota
