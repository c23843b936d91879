import Rota.Pattern.Series
import Rota.Proofs.Calendar.OfferedDay
import Rota.Proofs.Pattern.Valid

/-!
Occurrences, said apart from the search for them. A rule has months in phase with the date it
starts on and picks one day in each, or steps by days. The picked day depends on the length of the
month, which is an argument here: `monthDays` gives the occurrences of the calendar, `scannedDays`
those that the search can see. The two differ in the last month of the calendar only.
-/

namespace Rota

namespace DaySelection

/-- The day that the selection picks in a month of `length` days: a day number before a weekday of
a week, that before the end of the month, and without any of them the day of the anchor. -/
def Picks (day : DaySelection) (anchor : Date) (length : Nat) (date : Date) : Prop :=
  match day.dayOfMonth, day.weekOfMonth, day.dayOfWeek with
  | some number, _, _ => date.day = min number.toNat length
  | none, some week, some weekday =>
    ∃ named, Weekday.ofIndex? weekday.toNat = some named ∧
      date.IsNthWeekday length week.toNat named
  | none, _, _ => date.day = if day.endOfMonth then length else min anchor.day length

end DaySelection

namespace Rule

/-- The months in which a rule offers a day. Indices of months divided by 3 count quarters and by
12 years. A rule that steps by days has no months of its own. -/
def InPhase (rule : Rule) (anchor : Date) (month : Int) : Prop :=
  match rule with
  | monthly frequency _ => (frequency.toNat : Int) ∣ month - anchor.monthIndex
  | quarterly frequency monthOfQuarter _ =>
    (frequency.toNat : Int) ∣ month / 3 - anchor.monthIndex / 3 ∧
      month % 3 + 1 = (monthOfQuarter.getD 1).toNat
  | yearly frequency months _ =>
    (frequency.toNat : Int) ∣ month / 12 - anchor.monthIndex / 12 ∧
      if months = [] then month % 12 + 1 = anchor.month
      else ∃ listed ∈ months, month % 12 + 1 = listed.toNat
  | custom frequency .months _ _ _ =>
    ∃ steps : Nat, month = anchor.monthIndex + steps * (frequency.toNat : Int)
  | custom frequency .years _ _ _ =>
    ∃ steps : Nat, month = anchor.monthIndex + steps * (frequency.toNat * 12 : Int)
  | custom .. => False

def selection : Rule → DaySelection
  | monthly _ day => day
  | quarterly _ _ day => day
  | yearly _ _ day => day
  | custom .. => {}

def stepOfDays? : Rule → Option Int
  | custom frequency .days _ _ _ => some frequency.toNat
  | custom frequency .weeks _ _ _ => some (frequency.toNat * 7)
  | _ => none

/-- The date is an occurrence of the rule started on `anchor`, where months have these lengths. -/
def Occurs (length : Int → Nat) (rule : Rule) (anchor date : Date) : Prop :=
  anchor ≤ date ∧
    match rule.stepOfDays? with
    | some step => ∃ steps : Nat, date.number = anchor.number + steps * step
    | none => rule.InPhase anchor date.monthIndex ∧
        rule.selection.Picks anchor (length date.monthIndex) date

end Rule

/-- The first date at or after `start` that meets a condition; none when no date there does. -/
def IsFirst (meets : Date → Prop) (start : Date) : Option Date → Prop
  | some date => meets date ∧ start ≤ date ∧ ∀ other, meets other → start ≤ other → date ≤ other
  | none => ∀ other, meets other → ¬ start ≤ other

namespace DayRule

def Fits (anchor : Date) (length : Nat) (date : Date) : DayRule → Prop
  | dayOfMonth number => date.day = min number.toNat length
  | nthWeekday week weekday => date.IsNthWeekday length week.toNat weekday
  | endOfMonth => date.day = length
  | anchorDay => date.day = min anchor.day length

/-- A day number or a week of 0 would name no day. -/
def Valid : DayRule → Prop
  | dayOfMonth number => 1 ≤ number.toNat
  | nthWeekday week _ => 1 ≤ week.toNat
  | _ => True

theorem resolve_inside {rule : DayRule} (valid : rule.Valid) (anchor : Date) {index year : Int}
    {month : Nat} (lower : 1 ≤ month) (upper : month ≤ 12)
    (place : year * 12 + (month - 1 : Int) = index) (first : firstMonth ≤ index)
    (last : index ≤ lastMonth) :
    ∃ date, rule.resolve anchor year month = .ok (some date) ∧ date.monthIndex = index ∧
      rule.Fits anchor (scannedDays index) date := by
  have bounds := scannedDays_bounds index
  have clamped (number : Nat) := clampedDate_inside number lower upper place first last
  cases rule with
  | dayOfMonth number =>
    obtain ⟨date, found, inMonth, same⟩ := clamped number.toNat
    have positive : 1 ≤ number.toNat := valid
    exact ⟨date, found, inMonth, by unfold Fits; omega⟩
  | nthWeekday week weekday =>
    exact nthWeekdayOfMonth_inside weekday valid lower upper place first last
  | endOfMonth =>
    obtain ⟨date, found, inMonth, same⟩ := clamped 31
    exact ⟨date, found, inMonth, by unfold Fits; omega⟩
  | anchorDay =>
    obtain ⟨date, found, inMonth, same⟩ := clamped anchor.day
    have positive := anchor.day_bounds.1
    exact ⟨date, found, inMonth, by unfold Fits; omega⟩

theorem resolve_outside (rule : DayRule) (anchor : Date) {year : Int} {month : Nat}
    (lower : 1 ≤ month) (upper : month ≤ 12) (fits : ¬ (year = largestYear ∧ month = 12))
    (outside : outsideCalendar year) : rule.resolve anchor year month = .ok none := by
  cases rule with
  | nthWeekday week weekday =>
    exact nthWeekdayOfMonth_outside week.toNat weekday lower upper fits outside
  | dayOfMonth _ | endOfMonth | anchorDay =>
    exact clampedDate_outside _ lower upper fits outside

theorem fits_unique {rule : DayRule} {anchor a b : Date} {length : Nat}
    (first : rule.Fits anchor length a) (second : rule.Fits anchor length b)
    (month : a.monthIndex = b.monthIndex) : a.day = b.day := by
  cases rule with
  | nthWeekday week weekday => exact Date.nthWeekday_unique first second month
  | dayOfMonth _ | endOfMonth | anchorDay => exact Eq.trans first (Eq.symm second)

-- A day picked in a shortened month moves towards the end when the month gets its true length, and
-- stays where it is when the day picked then lies in the part that was seen.
theorem fits_lengthened {rule : DayRule} {anchor date : Date} {short : Nat} (four : 28 ≤ short)
    (inside : short ≤ monthDays date.monthIndex) (fits : rule.Fits anchor short date) :
    ∃ later : Date, later.monthIndex = date.monthIndex ∧ date ≤ later ∧
      rule.Fits anchor (monthDays date.monthIndex) later ∧
      (later.day ≤ short → later = date) := by
  have bounds := monthDays_bounds date.monthIndex
  have dayBounds := date.day_bounds
  have moved (day : Nat) (notBefore : date.day ≤ day) (fits : day ≤ monthDays date.monthIndex) :
      ∃ later : Date, later.monthIndex = date.monthIndex ∧ later.day = day ∧ date ≤ later := by
    obtain ⟨first, last⟩ := date.month_inside
    obtain ⟨later, -, month, same⟩ := Date.exists_month_day _ _ first last (by omega) fits
    exact ⟨later, month, same, (Date.le_iff_day_le month.symm).2 (by omega)⟩
  have kept (later : Date) (month : later.monthIndex = date.monthIndex)
      (seen : later.day ≤ short → later.day = date.day) : later.day ≤ short → later = date :=
    fun early => Date.eq_of_month_day month (seen early)
  cases rule with
  | dayOfMonth number =>
    have picked : date.day = min number.toNat short := fits
    obtain ⟨later, month, day, after⟩ := moved (min number.toNat (monthDays date.monthIndex))
      (by omega) (by omega)
    exact ⟨later, month, after, day, kept later month (by omega)⟩
  | endOfMonth =>
    have picked : date.day = short := fits
    obtain ⟨later, month, day, after⟩ := moved (monthDays date.monthIndex) (by omega) (by omega)
    exact ⟨later, month, after, day, kept later month (by omega)⟩
  | anchorDay =>
    have picked : date.day = min anchor.day short := fits
    obtain ⟨later, month, day, after⟩ := moved (min anchor.day (monthDays date.monthIndex))
      (by omega) (by omega)
    exact ⟨later, month, after, day, kept later month (by omega)⟩
  | nthWeekday week weekday =>
    obtain ⟨sameWeekday, seen, place⟩ := fits
    -- Only the last weekday of the month moves when the month gets longer, by one week at most.
    by_cases counted : week.toNat ≤ 4
    · rw [if_pos counted] at place
      refine ⟨date, rfl, Int.le_refl _, ⟨sameWeekday, by omega, ?_⟩, fun _ => rfl⟩
      rw [if_pos counted]
      exact place
    · rw [if_neg counted] at place
      by_cases another : date.day + 7 ≤ monthDays date.monthIndex
      · obtain ⟨later, month, day, after⟩ := moved (date.day + 7) (by omega) another
        refine ⟨later, month, after, ⟨?_, by omega, ?_⟩, kept later month (by omega)⟩
        · rw [Date.weekday_eq_iff, Date.number_eq] at sameWeekday ⊢
          rw [month]
          omega
        · rw [if_neg counted]
          omega
      · refine ⟨date, rfl, Int.le_refl _, ⟨sameWeekday, by omega, ?_⟩, fun _ => rfl⟩
        rw [if_neg counted]
        omega

end DayRule

namespace DaySelection

/-- What the search makes of a checked selection picks the days that the selection names. -/
theorem picks_iff {day : DaySelection} (valid : day.Valid) {anchor date : Date} {length : Nat} :
    day.Picks anchor length date ↔ day.rule.Fits anchor length date := by
  obtain ⟨-, -, validWeekday⟩ := valid
  unfold Picks rule
  cases numbered : day.dayOfMonth with
  | some number => rfl
  | none =>
    cases weekly : day.weekOfMonth with
    | none => cases ending : day.endOfMonth <;> simp [DayRule.Fits]
    | some week =>
      cases named : day.dayOfWeek with
      | none => cases ending : day.endOfMonth <;> simp [DayRule.Fits]
      | some index =>
        obtain ⟨weekday, known⟩ := Weekday.ofIndex?_of_le (validWeekday index named)
        simp [known, DayRule.Fits]

theorem rule_valid {day : DaySelection} (valid : day.Valid) : day.rule.Valid := by
  obtain ⟨validDay, validWeek, -⟩ := valid
  unfold rule
  split
  · rename_i number _ _ numbered
    exact (validDay _ numbered).1
  · rename_i week _ _ weekly _
    exact (validWeek _ weekly).1
  · split <;> trivial

end DaySelection
end Rota
