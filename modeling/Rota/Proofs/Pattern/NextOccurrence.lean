import Rota.Proofs.Pattern.NotBefore
import Rota.Proofs.Pattern.Periods

/-!
The answer of the search. With the months at the lengths at which they are seen, it is the first
occurrence at or after the start, and there is none only when no occurrence is left up to the end of
the calendar. At the true lengths the same holds but for the last three days of the calendar, which
the search takes for days of no month, and for steps of years that run into the last month of the
largest year.
-/

namespace Rota

theorem wrapYear_small {year : Int} (lower : -2147483648 ≤ year) (upper : year ≤ 2147483647) :
    wrapYear year = year := by
  unfold wrapYear Int.bmod
  dsimp only
  split <;> omega

theorem wrapYear_large {year : Int} (lower : 2147483647 < year) (upper : year < 6442450944) :
    wrapYear year = year - 4294967296 := by
  unfold wrapYear Int.bmod
  dsimp only
  split <;> omega

theorem splitMonthIndex_inside {index : Int} (first : firstMonth ≤ index)
    (last : index ≤ lastMonth) :
    1 ≤ (splitMonthIndex index).2 ∧ (splitMonthIndex index).2 ≤ 12 ∧
      (splitMonthIndex index).1 * 12 + ((splitMonthIndex index).2 - 1 : Int) = index := by
  unfold firstMonth lastMonth at *
  unfold splitMonthIndex
  rw [wrapYear_small (by omega) (by omega)]
  dsimp only
  omega

/-- After the end of the calendar no day comes that counts: a year that does not wrap round is
outside, and one that does is before the year of the anchor. -/
theorem offersNothing_beyond {rule : DayRule} (valid : rule.Valid) {anchor start : Date}
    (ordered : anchor ≤ start) {index : Int} (after : lastMonth < index)
    (near : index < anchor.monthIndex + 4294967296 * 12) (fits : index ≠ overflowMonth) :
    OffersNothing (rule.resolve anchor) start index := by
  have bounds := anchor.month_inside
  have lower : 1 ≤ (splitMonthIndex index).2 := by simp [splitMonthIndex]
  have upper : (splitMonthIndex index).2 ≤ 12 := by
    simp only [splitMonthIndex]
    omega
  unfold firstMonth lastMonth at *
  unfold overflowMonth largestYear at fits
  -- A year of more than 31 bits wraps round to one before that of the anchor.
  by_cases small : index / 12 ≤ 2147483647
  · have year : (splitMonthIndex index).1 = index / 12 := wrapYear_small (by omega) small
    refine Or.inl (rule.resolve_outside anchor lower upper ?_ ?_)
    · unfold largestYear
      simp only [splitMonthIndex] at year ⊢
      omega
    · unfold outsideCalendar
      omega
  · have year : (splitMonthIndex index).1 = index / 12 - 4294967296 :=
      wrapYear_large (by omega) (by omega)
    have notLargest : ¬ ((splitMonthIndex index).1 = largestYear ∧
        (splitMonthIndex index).2 = 12) := by
      unfold largestYear
      omega
    by_cases outside : outsideCalendar (splitMonthIndex index).1
    · exact Or.inl (rule.resolve_outside anchor lower upper notLargest outside)
    · unfold outsideCalendar at outside
      obtain ⟨date, picked, inMonth, -⟩ := rule.resolve_inside valid anchor lower upper
        (show (splitMonthIndex index).1 * 12 + ((splitMonthIndex index).2 - 1 : Int) = _ from rfl)
        (by unfold firstMonth; omega) (by unfold lastMonth; omega)
      refine Or.inr ⟨date, picked, ?_⟩
      have before : date.monthIndex < anchor.monthIndex := by
        rw [inMonth, year]
        simp only [splitMonthIndex]
        omega
      have earlier := Date.lt_of_month_lt before
      rw [Date.lt_def] at *
      rw [Date.le_def] at ordered
      omega

theorem IsFirst.congr {meets other : Date → Prop} {start : Date} {answer : Option Date}
    (same : ∀ date, start ≤ date → (meets date ↔ other date))
    (first : IsFirst meets start answer) : IsFirst other start answer := by
  cases answer with
  | none => exact fun date met after => first date ((same date after).mpr met) after
  | some date =>
    obtain ⟨met, reached, least⟩ := first
    exact ⟨(same date reached).mp met, reached,
      fun later laterMet after => least later ((same later after).mpr laterMet) after⟩

theorem first_of_search {rule : Rule} {anchor start : Date} (valid : rule.selection.Valid)
    (monthly : rule.stepOfDays? = none) (ordered : anchor ≤ start)
    (search : HasSearch rule anchor start) :
    ∃ answer, rule.nextOnOrAfter anchor start = .ok answer ∧
      IsFirst (rule.Occurs scannedDays anchor) start answer := by
  obtain ⟨months, looked, searches, near⟩ := search
  have picks {date : Date} {length : Nat} : rule.selection.Picks anchor length date ↔
      rule.selection.rule.Fits anchor length date :=
    DaySelection.picks_iff valid
  have dayRule := DaySelection.rule_valid valid
  -- Each month of the calendar has one day that is picked, and no month past it offers any.
  obtain ⟨answer, found, first⟩ : ∃ answer,
      firstFrom (rule.selection.rule.resolve anchor) start (months.map splitMonthIndex) =
        .ok answer ∧
      IsFirst (fun date => rule.InPhase anchor date.monthIndex ∧
        rule.selection.Picks anchor (scannedDays date.monthIndex) date) start answer :=
    firstFrom_first searches.sorted
    (by
      intro index member inside
      have place := splitMonthIndex_inside (searches.fromFirst index member) inside
      obtain ⟨date, picked, inMonth, fit⟩ := rule.selection.rule.resolve_inside dayRule anchor
        place.1 place.2.1 place.2.2 (searches.fromFirst index member) inside
      refine ⟨date, picked, inMonth, inMonth ▸ searches.inPhase index member, ?_⟩
      exact picks.mpr (inMonth.symm ▸ fit))
    (fun index member after =>
      offersNothing_beyond dayRule ordered after (near index member).1 (near index member).2)
    (by
      intro a b metA metB month
      have fitB := picks.mp metB.2
      rw [← month] at fitB
      exact Date.eq_of_month_day month (DayRule.fits_unique (picks.mp metA.2) fitB month))
    (fun date met after => searches.covered date.monthIndex met.1 (Date.month_le_of_le after))
    searches.reaching
  refine ⟨answer, looked.trans found, first.congr fun date after => ?_⟩
  have notBefore : anchor ≤ date := Int.le_trans ordered after
  simp only [Rule.Occurs, monthly, notBefore, true_and]

theorem steppedDay_first {step : Int} (positive : 0 < step) {anchor start : Date}
    (ordered : anchor ≤ start) :
    IsFirst (fun date => ∃ steps : Nat, date.number = anchor.number + steps * step) start
      (Rule.steppedDay step anchor start) := by
  rw [Date.le_def] at ordered
  have notNegative : 0 ≤ (start.number - anchor.number + step - 1) / step :=
    Int.ediv_nonneg (by omega) (by omega)
  have below := Int.ediv_mul_le (start.number - anchor.number + step - 1)
    (show step ≠ 0 by omega)
  have above := Int.lt_ediv_add_one_mul_self (start.number - anchor.number + step - 1) positive
  rw [Int.add_mul, Int.one_mul] at above
  -- The quotient is rounded up: the fewest steps that reach the start.
  obtain ⟨steps, counted⟩ : ∃ steps : Nat,
      (start.number - anchor.number + step - 1) / step = steps :=
    ⟨_, (Int.toNat_of_nonneg notNegative).symm⟩
  have searched : Rule.steppedDay step anchor start =
      Date.ofNumber? (anchor.number + steps * step) := by
    unfold Rule.steppedDay Date.addDays? Date.daysFrom
    rw [show max 0 (start.number - anchor.number) = start.number - anchor.number by omega]
    dsimp only
    rw [counted]
  rw [counted] at below above
  have least (other : Date) (later : Nat) (same : other.number = anchor.number + later * step)
      (after : start ≤ other) : anchor.number + steps * step ≤ other.number := by
    rw [Date.le_def] at after
    by_cases earlier : other.number < anchor.number + steps * step
    · have bound : other.number + step ≤ anchor.number + steps * step := step_le anchor.number
        ⟨later, by rw [same, Int.mul_comm]; omega⟩ ⟨steps, by rw [Int.mul_comm]; omega⟩ earlier
      omega
    · omega
  rw [searched]
  cases found : Date.ofNumber? (anchor.number + steps * step) with
  | none =>
    intro other ⟨later, same⟩ after
    have bound := least other later same after
    have upper := other.le_last
    have lower := anchor.first_le
    have multiple : 0 ≤ (steps : Int) * step := Int.mul_nonneg (by omega) (by omega)
    unfold Date.ofNumber? at found
    rw [dif_pos ⟨by omega, by omega⟩] at found
    cases found
  | some date =>
    have number := Date.ofNumber?_eq_some.mp found
    refine ⟨⟨steps, number⟩, ?_, ?_⟩
    · rw [Date.le_def]
      omega
    · intro other ⟨later, same⟩ after
      rw [Date.le_def, number]
      exact least other later same after

/-- One of the last three days of the calendar, which no month as seen by the search has. -/
def Date.Unseen (date : Date) : Prop := date.monthIndex = lastMonth ∧ 28 < date.day

theorem scannedDays_seen {date : Date} (seen : ¬ date.Unseen) :
    date.day ≤ scannedDays date.monthIndex := by
  have bounds := date.day_bounds
  unfold Date.Unseen at seen
  unfold scannedDays
  split <;> omega

/-- The search comes to the month that has no successor: after a step that leads there from the
anchor, unless the anchor is the answer. -/
def Rule.Overflows (rule : Rule) (anchor start : Date) : Prop :=
  rule.Jumps anchor ∧ (anchor < start ∨ anchor.Unseen)

theorem nextOnOrAfter_jumping {rule : Rule} {anchor start : Date} (valid : rule.Valid)
    (jumps : rule.Jumps anchor) (ordered : anchor ≤ start) :
    ((anchor < start ∨ anchor.Unseen) → rule.nextOnOrAfter anchor start = .error .word) ∧
    (¬ (anchor < start ∨ anchor.Unseen) → rule.nextOnOrAfter anchor start = .ok (some anchor)) := by
  have early := anchor.month_inside
  have late := start.month_inside
  match rule, valid, jumps with
  | .custom frequency .years _ _ _, valid, jumps =>
    have positive : 1 ≤ frequency.toNat := valid.1
    have target : anchor.monthIndex + frequency.toNat * 12 = overflowMonth := jumps
    have bounds := stepBase_spec (show 0 < (frequency.toNat * 12 : Int) by omega)
      (Date.month_le_of_le ordered)
    -- One step already leaves the calendar, so the search begins in the month of the anchor.
    have base : stepBase (frequency.toNat * 12) anchor start = anchor.monthIndex := by
      unfold firstMonth lastMonth overflowMonth largestYear at *
      omega
    have place := splitMonthIndex_inside early.1 early.2
    obtain ⟨date, picked, inMonth, day⟩ :=
      clampedDate_inside anchor.day place.1 place.2.1 place.2.2 early.1 early.2
    have bounds := scannedDays_bounds anchor.monthIndex
    have dayBounds := anchor.day_bounds
    rw [Rule.nextOnOrAfter, steppedMonths_eq, stride_eq positive, base, target, List.map_cons,
      firstFrom_cons anchor.monthIndex _
        (show DayRule.anchorDay.resolve anchor _ _ = _ from picked)]
    have overflow : firstFrom (DayRule.anchorDay.resolve anchor) start
        ([overflowMonth].map splitMonthIndex) = .error .word := rfl
    rw [overflow]
    constructor
    · intro past
      have before : ¬ start ≤ date := by
        rcases past with later | unseen
        · have notAfter := (Date.le_iff_day_le inMonth).mpr (show date.day ≤ anchor.day by omega)
          rw [Date.le_def] at *
          rw [Date.lt_def] at later
          omega
        · obtain ⟨final, hidden⟩ := unseen
          have seen : scannedDays anchor.monthIndex = 28 := by simp [scannedDays, final]
          have notAfter : ¬ anchor ≤ date := by
            rw [Date.le_iff_day_le inMonth.symm]
            omega
          exact fun reached => notAfter (Int.le_trans ordered reached)
      simp only [before, ↓reduceIte]
    · intro still
      have seen := scannedDays_seen fun unseen => still (Or.inr unseen)
      have same : date = anchor := Date.eq_of_month_day inMonth (by omega)
      have reached : start ≤ anchor := Int.not_lt.mp fun later => still (Or.inl later)
      subst same
      simp only [reached, ↓reduceIte]

theorem hasSearch {rule : Rule} {anchor start : Date} (valid : rule.Valid)
    (monthly : rule.stepOfDays? = none) (ordered : anchor ≤ start) (fits : ¬ rule.Jumps anchor) :
    HasSearch rule anchor start := by
  match rule with
  | .monthly _ _ => exact monthly_hasSearch valid anchor start
  | .quarterly _ _ _ => exact quarterly_hasSearch valid anchor start
  | .yearly _ _ _ => exact yearly_hasSearch valid anchor start
  | .custom _ .months _ _ _ => exact months_hasSearch valid ordered
  | .custom _ .years _ _ _ => exact years_hasSearch valid ordered fits

theorem selection_valid {rule : Rule} (valid : rule.Valid) : rule.selection.Valid := by
  match rule, valid with
  | .monthly _ _, ⟨_, _, day⟩ => exact day
  | .quarterly _ _ _, ⟨_, _, day⟩ => exact day
  | .yearly _ _ _, ⟨_, _, day⟩ => exact day
  | .custom .., _ => simp [Rule.selection, DaySelection.Valid]

theorem nextOnOrAfter_days {rule : Rule} {step : Int} (valid : rule.Valid)
    (daily : rule.stepOfDays? = some step) (anchor start : Date) :
    0 < step ∧ rule.nextOnOrAfter anchor start = .ok (Rule.steppedDay step anchor start) := by
  match rule, valid with
  | .custom frequency .days _ _ _, valid =>
    have positive : 1 ≤ frequency.toNat := valid.1
    cases daily
    exact ⟨by omega, by rw [Rule.nextOnOrAfter, stride_eq positive]⟩
  | .custom frequency .weeks _ _ _, valid =>
    have positive : 1 ≤ frequency.toNat := valid.1
    cases daily
    exact ⟨by omega, by rw [Rule.nextOnOrAfter, stride_eq positive]⟩

theorem occurs_anchor {rule : Rule} {anchor : Date} (jumps : rule.Jumps anchor)
    (seen : ¬ anchor.Unseen) : rule.Occurs scannedDays anchor anchor := by
  match rule, jumps with
  | .custom _ .years _ _ _, _ =>
    refine ⟨Int.le_refl _, ⟨0, by simp⟩, ?_⟩
    have bound := scannedDays_seen seen
    exact (DaySelection.picks_iff (show DaySelection.Valid {} by simp [DaySelection.Valid])).mpr
      (show anchor.day = min anchor.day _ by omega)

/-- A checked rule leads to the first occurrence with the months as they are seen, unless the
search comes to the month that has no successor. -/
theorem nextOnOrAfter_scanned {rule : Rule} {anchor start : Date} (valid : rule.Valid)
    (ordered : anchor ≤ start) :
    (rule.Overflows anchor start → rule.nextOnOrAfter anchor start = .error .word) ∧
    (¬ rule.Overflows anchor start → ∃ answer, rule.nextOnOrAfter anchor start = .ok answer ∧
      IsFirst (rule.Occurs scannedDays anchor) start answer) := by
  constructor
  · rintro ⟨jumps, past⟩
    exact (nextOnOrAfter_jumping valid jumps ordered).1 past
  · intro fits
    cases daily : rule.stepOfDays? with
    | some step =>
      obtain ⟨positive, found⟩ := nextOnOrAfter_days valid daily anchor start
      refine ⟨_, found, (steppedDay_first positive ordered).congr fun date after => ?_⟩
      have notBefore : anchor ≤ date := Int.le_trans ordered after
      simp only [Rule.Occurs, daily, notBefore, true_and]
    | none =>
      by_cases jumps : rule.Jumps anchor
      · have still : ¬ (anchor < start ∨ anchor.Unseen) := fun past => fits ⟨jumps, past⟩
        refine ⟨_, (nextOnOrAfter_jumping valid jumps ordered).2 still, ?_, ?_, ?_⟩
        · exact occurs_anchor jumps fun unseen => still (Or.inr unseen)
        · exact Int.not_lt.mp fun later => still (Or.inl later)
        · exact fun other _ after => Int.le_trans ordered after
      · exact first_of_search (selection_valid valid) daily ordered
          (hasSearch valid daily ordered jumps)

def Rule.Misses (rule : Rule) (date : Date) : Prop := rule.stepOfDays? = none ∧ date.Unseen

theorem DayRule.fits_inside {rule : DayRule} {anchor date : Date} {length : Nat}
    (fits : rule.Fits anchor length date) : date.day ≤ length := by
  cases rule with
  | nthWeekday week weekday => exact fits.2.1
  | dayOfMonth _ | endOfMonth | anchorDay =>
    simp only [DayRule.Fits] at fits
    omega

section Lengths
variable {rule : Rule} {anchor date : Date}

theorem occurs_iff (monthly : rule.stepOfDays? = none) (valid : rule.Valid)
    {length : Int → Nat} :
    rule.Occurs length anchor date ↔ anchor ≤ date ∧ rule.InPhase anchor date.monthIndex ∧
      rule.selection.rule.Fits anchor (length date.monthIndex) date := by
  simp only [Rule.Occurs, monthly, DaySelection.picks_iff (selection_valid valid)]

theorem not_misses (valid : rule.Valid) (occurs : rule.Occurs scannedDays anchor date) :
    ¬ rule.Misses date := by
  rintro ⟨monthly, final, hidden⟩
  have inside := DayRule.fits_inside ((occurs_iff monthly valid).mp occurs).2.2
  simp only [scannedDays, final, ↓reduceIte] at inside
  omega

/-- For each occurrence that the search sees there is a true one, the same or a later one. -/
theorem exists_true_occurrence (valid : rule.Valid)
    (occurs : rule.Occurs scannedDays anchor date) :
    ∃ later, rule.Occurs monthDays anchor later ∧ date ≤ later ∧
      later.monthIndex = date.monthIndex ∧ (¬ rule.Misses later → later = date) := by
  cases daily : rule.stepOfDays? with
  | some step =>
    refine ⟨date, ?_, Int.le_refl _, rfl, fun _ => rfl⟩
    simpa only [Rule.Occurs, daily] using occurs
  | none =>
    obtain ⟨notBefore, phase, fits⟩ := (occurs_iff daily valid).mp occurs
    obtain ⟨later, month, after, laterFits, kept⟩ := DayRule.fits_lengthened
      (scannedDays_bounds date.monthIndex).1 (scannedDays_le date.monthIndex) fits
    refine ⟨later, ?_, after, month, fun seen => kept ?_⟩
    · exact (occurs_iff daily valid).mpr
        ⟨Int.le_trans notBefore after, month ▸ phase, month.symm ▸ laterFits⟩
    · rw [← month]
      exact scannedDays_seen fun unseen => seen ⟨daily, unseen⟩

-- The day that the search picks in the month of the date can only move there, so it is the date.
theorem occurs_seen (valid : rule.Valid) (seen : ¬ rule.Misses date)
    (occurs : rule.Occurs monthDays anchor date) : rule.Occurs scannedDays anchor date := by
  cases daily : rule.stepOfDays? with
  | some step => simpa only [Rule.Occurs, daily] using occurs
  | none =>
    obtain ⟨notBefore, phase, fits⟩ := (occurs_iff daily valid).mp occurs
    have inside := date.month_inside
    have place := splitMonthIndex_inside inside.1 inside.2
    obtain ⟨picked, -, inMonth, pickedFits⟩ := rule.selection.rule.resolve_inside
      (DaySelection.rule_valid (selection_valid valid)) anchor place.1 place.2.1 place.2.2
      inside.1 inside.2
    rw [← inMonth] at pickedFits fits
    obtain ⟨later, month, -, laterFits, kept⟩ := DayRule.fits_lengthened
      (scannedDays_bounds picked.monthIndex).1 (scannedDays_le picked.monthIndex) pickedFits
    have same : later = date :=
      Date.eq_of_month_day (month.trans inMonth)
        (DayRule.fits_unique laterFits fits (month.trans inMonth))
    have bound := scannedDays_seen fun unseen => seen ⟨daily, unseen⟩
    have unmoved : later = picked := kept (by rw [same, inMonth]; exact bound)
    rw [← unmoved, same] at pickedFits
    exact (occurs_iff daily valid).mpr ⟨notBefore, phase, pickedFits⟩

end Lengths

section First
variable {meets : Date → Prop} {start : Date}

theorem IsFirst.unique {a b : Option Date} (first : IsFirst meets start a)
    (second : IsFirst meets start b) : a = b := by
  cases a with
  | none =>
    cases b with
    | none => rfl
    | some date => exact (first date second.1 second.2.1).elim
  | some date =>
    cases b with
    | none => exact (second date first.1 first.2.1).elim
    | some other =>
      have forth := first.2.2 other second.1 second.2.1
      have back := second.2.2 date first.1 first.2.1
      exact congrArg some (Date.ext (Int.le_antisymm forth back))

theorem exists_first (meets : Date → Prop) (start : Date) : ∃ answer, IsFirst meets start answer := by
  by_cases any : ∃ date, meets date ∧ start ≤ date
  · obtain ⟨date, met, after⟩ := any
    -- The induction is on the days between the start and a date that meets the condition.
    induction distance : (date.number - start.number).toNat using Nat.strongRecOn generalizing date with
    | ind days ih =>
      by_cases least : ∀ other, meets other → start ≤ other → date ≤ other
      · exact ⟨some date, met, after, least⟩
      · simp only [Classical.not_forall] at least
        obtain ⟨other, otherMet, otherAfter, before⟩ := least
        rw [Date.le_def] at *
        exact ih _ (by omega) other otherMet otherAfter rfl
  · exact ⟨none, fun other met after => any ⟨other, met, after⟩⟩

end First

-- An occurrence is never before the anchor, so the start may as well be.
theorem isFirst_clipped {rule : Rule} {length : Int → Nat} {anchor start : Date}
    {answer : Option Date} :
    IsFirst (rule.Occurs length anchor) (max start anchor) answer ↔
      IsFirst (rule.Occurs length anchor) start answer := by
  have bounds := (max_spec start anchor).2.2
  cases answer with
  | none =>
    constructor
    · exact fun first other occurs after => first other occurs ((bounds other).mpr ⟨after, occurs.1⟩)
    · exact fun first other occurs after => first other occurs ((bounds other).mp after).1
  | some date =>
    constructor
    · rintro ⟨occurs, after, least⟩
      exact ⟨occurs, ((bounds date).mp after).1, fun other otherOccurs reached =>
        least other otherOccurs ((bounds other).mpr ⟨reached, otherOccurs.1⟩)⟩
    · rintro ⟨occurs, after, least⟩
      exact ⟨occurs, (bounds date).mpr ⟨after, occurs.1⟩, fun other otherOccurs reached =>
        least other otherOccurs ((bounds other).mp reached).1⟩

/-- The first true occurrence is the first one that the search sees, when it sees it. -/
theorem first_seen {rule : Rule} (valid : rule.Valid) {anchor start : Date}
    {answer : Option Date} (first : IsFirst (rule.Occurs monthDays anchor) start answer)
    (seen : ∀ date ∈ answer, ¬ rule.Misses date) :
    IsFirst (rule.Occurs scannedDays anchor) start answer := by
  cases answer with
  | none =>
    intro other occurs after
    obtain ⟨later, trueOccurs, notBefore, -⟩ := exists_true_occurrence valid occurs
    exact first later trueOccurs (Int.le_trans after notBefore)
  | some date =>
    obtain ⟨occurs, reached, least⟩ := first
    have seenDate := seen date rfl
    refine ⟨occurs_seen valid seenDate occurs, reached, ?_⟩
    intro other otherOccurs after
    obtain ⟨later, trueOccurs, notBefore, month, kept⟩ :=
      exists_true_occurrence valid otherOccurs
    have bound := least later trueOccurs (Int.le_trans after notBefore)
    by_cases hidden : rule.Misses later
    -- What is hidden stands in the last month, so a date of an earlier month comes first anyhow.
    · by_cases earlier : date.monthIndex < other.monthIndex
      · exact Int.le_of_lt (Date.lt_of_month_lt earlier)
      · have ordered := Date.month_le_of_le bound
        have sameMonth : later.monthIndex = date.monthIndex := by omega
        have fitsLater := ((occurs_iff hidden.1 valid).mp trueOccurs).2.2
        have fitsDate := ((occurs_iff hidden.1 valid).mp occurs).2.2
        rw [sameMonth] at fitsLater
        have same := Date.eq_of_month_day sameMonth
          (DayRule.fits_unique fitsLater fitsDate sameMonth)
        exact (seenDate (same ▸ hidden)).elim
    · rw [← kept hidden]
      exact bound

theorem nextOccurrence_of_rule {series : Series} {start : Date} {found : Option Date}
    (searched : series.rule.nextOnOrAfter series.startsOn (max start series.startsOn) = .ok found)
    (after : ∀ date ∈ found, start ≤ date) :
    series.nextOccurrence start = .ok (found.filter fun date => !series.ending.excludes date) := by
  unfold Series.nextOccurrence
  by_cases ended : series.ending.excludes start = true
  · rw [if_pos ended]
    cases found with
    | none => rfl
    | some date => simp [Option.filter, excludes_later ended (after date rfl)]
  · rw [if_neg ended, searched]
    cases found with
    | none => rfl
    | some date =>
      by_cases excluded : series.ending.excludes date = true <;>
        simp [Option.filter, excluded, bind, Except.bind, pure, Except.pure]

theorem nextOccurrence_endless {series : Series} (endless : ∀ date, series.ending ≠ .byDate date)
    (start : Date) : series.nextOccurrence start =
      series.rule.nextOnOrAfter series.startsOn (max start series.startsOn) := by
  have open_ (date : Date) : series.ending.excludes date = false := by
    unfold EndCondition.excludes
    split
    · rename_i ending
      exact (endless _ ending).elim
    · rfl
  unfold Series.nextOccurrence
  simp only [open_]
  cases series.rule.nextOnOrAfter series.startsOn (max start series.startsOn) with
  | error fault => rfl
  | ok found => cases found <;> rfl

theorem IsFirst.after {meets : Date → Prop} {start : Date} {answer : Option Date}
    (first : IsFirst meets start answer) : ∀ date ∈ answer, start ≤ date := by
  rintro date rfl
  exact first.2.1

/-- A series of a checked rule answers with the first occurrence at or after the start, up to its
end date. Without an end date it does so exactly when its search does not come to the month that has
no successor and the first occurrence is not hidden in the last days of the calendar. -/
theorem nextOccurrence_eq_first_iff (series : Series) (valid : series.rule.check = .ok ())
    (start : Date) :
    ∃ answer, IsFirst (series.rule.Occurs monthDays series.startsOn) start answer ∧
      (¬ series.rule.Overflows series.startsOn start →
        (∀ date ∈ answer, ¬ series.rule.Misses date) →
        series.nextOccurrence start = .ok (answer.filter fun date => !series.ending.excludes date)) ∧
      ((∀ date, series.ending ≠ .byDate date) →
        (series.nextOccurrence start = .ok answer ↔
          ¬ series.rule.Overflows series.startsOn start ∧
            ∀ date ∈ answer, ¬ series.rule.Misses date)) := by
  obtain ⟨answer, first⟩ :=
    exists_first (series.rule.Occurs monthDays series.startsOn) start
  have checked := Rule.check_ok.mp valid
  obtain ⟨notBefore, clipped, -⟩ := max_spec start series.startsOn
  obtain ⟨faults, finds⟩ := nextOnOrAfter_scanned checked notBefore
  have sameOverflow : series.rule.Overflows series.startsOn (max start series.startsOn) ↔
      series.rule.Overflows series.startsOn start := by
    unfold Rule.Overflows
    rw [clipped]
  rw [sameOverflow] at faults finds
  have searched (fits : ¬ series.rule.Overflows series.startsOn start)
      (seen : ∀ date ∈ answer, ¬ series.rule.Misses date) :
      series.rule.nextOnOrAfter series.startsOn (max start series.startsOn) = .ok answer := by
    obtain ⟨found, result, scanned⟩ := finds fits
    rw [result, (isFirst_clipped.mp scanned).unique (first_seen checked first seen)]
  refine ⟨answer, first, ?_, ?_⟩
  · exact fun fits seen => nextOccurrence_of_rule (searched fits seen) first.after
  · intro endless
    rw [nextOccurrence_endless endless]
    constructor
    · intro answered
      have fits : ¬ series.rule.Overflows series.startsOn start := by
        intro overflows
        rw [faults overflows] at answered
        cases answered
      obtain ⟨found, result, scanned⟩ := finds fits
      rw [result] at answered
      cases answered
      refine ⟨fits, ?_⟩
      rintro date rfl
      exact not_misses checked scanned.1
    · exact fun ⟨fits, seen⟩ => searched fits seen

def monthEnds (startsOn : Date) : Series :=
  { rule := .monthly 1 { dayOfMonth := some 31 }, ending := .never, startsOn }

-- 29 February 2024 is day 19782.
theorem month_end_in_february :
    (monthEnds ⟨19753, by decide, by decide⟩).rule.check = .ok () ∧
    (monthEnds ⟨19753, by decide, by decide⟩).nextOccurrence ⟨19754, by decide, by decide⟩ =
      .ok (some ⟨19782, by decide, by decide⟩) ∧
    ∃ answer, IsFirst ((monthEnds ⟨19753, by decide, by decide⟩).rule.Occurs monthDays
        ⟨19753, by decide, by decide⟩) ⟨19754, by decide, by decide⟩ answer ∧
      ((monthEnds ⟨19753, by decide, by decide⟩).nextOccurrence ⟨19754, by decide, by decide⟩ =
        .ok answer ↔
        ∀ date ∈ answer, ¬ (monthEnds ⟨19753, by decide, by decide⟩).rule.Misses date) := by
  refine ⟨rfl, by decide +kernel, ?_⟩
  obtain ⟨answer, first, -, exactly⟩ := nextOccurrence_eq_first_iff
    (monthEnds ⟨19753, by decide, by decide⟩) rfl ⟨19754, by decide, by decide⟩
  refine ⟨answer, first, (exactly (by simp [monthEnds])).trans ?_⟩
  simp [Rule.Overflows, Rule.Jumps, monthEnds]

/-- In the last month of the calendar the 31st is the first occurrence and the 28th the answer. A
rule of whole years that leads to December of the largest year has no answer. -/
theorem late_occurrence_missed :
    (monthEnds ⟨95026206, by decide, by decide⟩).rule.check = .ok () ∧
    IsFirst ((monthEnds ⟨95026206, by decide, by decide⟩).rule.Occurs monthDays
      ⟨95026206, by decide, by decide⟩) ⟨95026206, by decide, by decide⟩ (some .last) ∧
    (monthEnds ⟨95026206, by decide, by decide⟩).nextOccurrence ⟨95026206, by decide, by decide⟩ =
      .ok (some ⟨95026233, by decide, by decide⟩) ∧
    (Rule.custom 2147481623 .years [] [] []).nextOnOrAfter ⟨20058, by decide, by decide⟩
      ⟨20059, by decide, by decide⟩ = .error .word := by
  have days : monthDays lastMonth = 31 := by decide +kernel
  have month : Date.last.monthIndex = lastMonth := by decide +kernel
  have startMonth : (⟨95026206, by decide, by decide⟩ : Date).monthIndex = lastMonth := by
    decide +kernel
  refine ⟨rfl, ⟨⟨by decide, ⟨_, (Int.one_mul _).symm⟩, ?_⟩, by decide, ?_⟩, by decide +kernel,
    by decide +kernel⟩
  · rw [month, days]
    show Date.last.day = min 31 31
    decide +kernel
  · intro other occurs after
    have notEarlier := Date.month_le_of_le after
    have inside := other.month_inside
    have sameMonth : other.monthIndex = lastMonth := by omega
    have picked : other.day = min 31 (monthDays other.monthIndex) := occurs.2.2
    have lastDay : Date.last.day = 31 := by decide +kernel
    rw [sameMonth, days] at picked
    rw [Date.le_iff_day_le (month.trans sameMonth.symm)]
    omega

end Rota
