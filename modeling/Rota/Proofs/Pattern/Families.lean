import Rota.Proofs.Pattern.NextOccurrence

/-!
Rules of different kinds that come to the same days. Steps of months or years from the anchor, periods
in phase with it and quarters with a month picked in each look at two months a step apart, but begin
at different ones: the last one in phase up to the start, or the first one from its period on. Any two
months in phase that lie less than a step from the start will do to begin with.
-/

namespace Rota

/-- A day is picked in every month of the calendar or in none, and there is none after its end. -/
structure Uniform (pick : Int → Nat → Checked (Option Date)) : Prop where
  inside : (∀ index, firstMonth ≤ index → index ≤ lastMonth → ∃ date,
      pick (splitMonthIndex index).1 (splitMonthIndex index).2 = .ok (some date) ∧
        date.monthIndex = index) ∨
    ∀ index, firstMonth ≤ index → index ≤ lastMonth →
      pick (splitMonthIndex index).1 (splitMonthIndex index).2 = .ok none
  beyond : ∀ index, lastMonth < index → index < overflowMonth →
    pick (splitMonthIndex index).1 (splitMonthIndex index).2 = .ok none

theorem nthWeekdayOfMonth_zero {year : Int} {month : Nat} (weekday : Weekday) (lower : 1 ≤ month)
    (upper : month ≤ 12) (fits : ¬ (year = largestYear ∧ month = 12)) :
    nthWeekdayOfMonth year month 0 weekday = .ok none := by
  obtain ⟨length, known⟩ := daysInMonth_ok lower upper fits
  rw [nthWeekdayOfMonth, weekdaysOfMonth, known]
  rfl

theorem clampedDate_offered (day : Nat) (index : Int) (first : firstMonth ≤ index)
    (last : index ≤ lastMonth) :
    ∃ date, clampedDate (splitMonthIndex index).1 (splitMonthIndex index).2 day =
      .ok (some date) ∧ date.monthIndex = index := by
  have place := splitMonthIndex_inside first last
  obtain ⟨date, found, inMonth, -⟩ :=
    clampedDate_inside day place.1 place.2.1 place.2.2 first last
  exact ⟨date, found, inMonth⟩

theorem DayRule.resolve_uniform (rule : DayRule) (anchor : Date) : Uniform (rule.resolve anchor) := by
  constructor
  case beyond =>
    intro index after early
    unfold lastMonth at after
    unfold overflowMonth largestYear at early
    have year : (splitMonthIndex index).1 = index / 12 := wrapYear_small (by omega) (by omega)
    have named : 1 ≤ (splitMonthIndex index).2 ∧ (splitMonthIndex index).2 ≤ 12 := by
      simp only [splitMonthIndex]
      omega
    refine rule.resolve_outside anchor named.1 named.2 ?_ ?_
    · simp only [splitMonthIndex] at year ⊢
      unfold largestYear
      omega
    · unfold outsideCalendar
      omega
  case inside =>
    cases rule with
    | dayOfMonth day => exact .inl (clampedDate_offered day.toNat)
    | endOfMonth => exact .inl (clampedDate_offered 31)
    | anchorDay => exact .inl (clampedDate_offered anchor.day)
    | nthWeekday week weekday =>
      -- Only the weekday before the first one of a month is in none.
      by_cases zero : week.toNat = 0
      · refine .inr fun index first last => ?_
        have place := splitMonthIndex_inside first last
        show nthWeekdayOfMonth _ _ week.toNat weekday = _
        rw [zero]
        exact nthWeekdayOfMonth_zero weekday place.1 place.2.1 (small_year place.2.2 place.1 last)
      · refine .inl fun index first last => ?_
        have place := splitMonthIndex_inside first last
        obtain ⟨date, found, inMonth, -⟩ := nthWeekdayOfMonth_inside weekday
          (show 1 ≤ week.toNat by omega) place.1 place.2.1 place.2.2 first last
        exact ⟨date, found, inMonth⟩

section Searches
variable {pick : Int → Nat → Checked (Option Date)} {start : Date} {a b step : Int}

theorem Uniform.picks (uniform : Uniform pick) {index : Int} (first : firstMonth ≤ index)
    (early : index < overflowMonth) :
    ∃ found, pick (splitMonthIndex index).1 (splitMonthIndex index).2 = .ok found := by
  by_cases last : index ≤ lastMonth
  · rcases uniform.inside with offered | silent
    · obtain ⟨date, found, -⟩ := offered index first last
      exact ⟨_, found⟩
    · exact ⟨_, silent index first last⟩
  · exact ⟨_, uniform.beyond index (by omega) early⟩

theorem Uniform.returns (uniform : Uniform pick) {months : List Int}
    (inside : ∀ index ∈ months, firstMonth ≤ index ∧ index < overflowMonth) :
    ∃ answer, firstFrom pick start (months.map splitMonthIndex) = .ok answer := by
  induction months with
  | nil => exact ⟨none, rfl⟩
  | cons index rest ih =>
    have here := inside index List.mem_cons_self
    obtain ⟨found, picked⟩ := uniform.picks here.1 here.2
    obtain ⟨answer, searched⟩ := ih fun other listed => inside other (List.mem_cons_of_mem _ listed)
    rw [List.map_cons, firstFrom_cons index _ picked, searched]
    cases found with
    | none => exact ⟨none, rfl⟩
    | some date =>
      dsimp only
      split
      · exact ⟨some date, rfl⟩
      · exact ⟨answer, rfl⟩

/-- The month after that of the start decides, so nothing after it is looked at. -/
theorem Uniform.decided (uniform : Uniform pick) (later : start.monthIndex < a)
    (early : a < overflowMonth) (rest more : List (Int × Nat)) :
    firstFrom pick start (splitMonthIndex a :: rest) =
      firstFrom pick start (splitMonthIndex a :: more) := by
  have first := start.month_inside.1
  obtain ⟨found, picked⟩ := uniform.picks (show firstMonth ≤ a by omega) early
  rw [firstFrom_cons a rest picked, firstFrom_cons a more picked]
  cases found with
  | none => rfl
  | some date =>
    have inMonth : date.monthIndex = a := by
      by_cases last : a ≤ lastMonth
      · rcases uniform.inside with offered | silent
        · obtain ⟨_, same, inMonth⟩ := offered a (by omega) last
          rw [picked] at same
          cases same
          exact inMonth
        · rw [silent a (by omega) last] at picked
          cases picked
      · rw [uniform.beyond a (by omega) early] at picked
        cases picked
    have reached : start ≤ date := Int.le_of_lt (Date.lt_of_month_lt (inMonth ▸ later))
    simp only [reached, ↓reduceIte]

theorem Uniform.skip (uniform : Uniform pick) (first : firstMonth ≤ a) (before : a < start.monthIndex)
    (later : start.monthIndex < b) (early : b < overflowMonth) :
    firstFrom pick start ([a, b].map splitMonthIndex) =
      firstFrom pick start [splitMonthIndex b] := by
  have last := start.month_inside.2
  rcases uniform.inside with offered | silent
  · obtain ⟨date, picked, inMonth⟩ := offered a first (by omega)
    have passed : ¬ start ≤ date :=
      Int.not_le.mpr (Date.lt_of_month_lt (show date.monthIndex < start.monthIndex by omega))
    rw [List.map_cons, firstFrom_cons a _ picked]
    simp only [passed, ↓reduceIte]
    rfl
  · have nothing : pick (splitMonthIndex b).1 (splitMonthIndex b).2 = .ok none := by
      by_cases inside : b ≤ lastMonth
      · exact silent b (by omega) inside
      · exact uniform.beyond b (by omega) early
    rw [List.map_cons, firstFrom_cons a _ (silent a first (by omega)), firstFrom_cons b _ nothing]

/-- Searches that begin less than a step from the start, and in phase with each other, agree. -/
theorem Uniform.agree (uniform : Uniform pick) (whole : step ∣ b - a)
    (beginsA : start.monthIndex - step < a ∧ a < start.monthIndex + step)
    (beginsB : start.monthIndex - step < b ∧ b < start.monthIndex + step)
    (first : firstMonth ≤ a ∧ firstMonth ≤ b) (short : lastMonth + 2 * step < overflowMonth) :
    ∃ answer, firstFrom pick start ([a, a + step].map splitMonthIndex) = .ok answer ∧
      firstFrom pick start ([b, b + step].map splitMonthIndex) = .ok answer := by
  have last := start.month_inside.2
  obtain ⟨answer, found⟩ :
      ∃ answer, firstFrom pick start ([a, a + step].map splitMonthIndex) = .ok answer := by
    refine uniform.returns fun index listed => ?_
    rcases List.mem_pair.mp listed with rfl | rfl <;> omega
  -- Of two different ones the earlier lies before the month of the start and the later one after it.
  have follows {a b : Int} (whole : step ∣ b - a) (less : a < b) (first : firstMonth ≤ a)
      (beginsA : start.monthIndex - step < a) (beginsB : b < start.monthIndex + step) :
      firstFrom pick start ([a, a + step].map splitMonthIndex) =
        firstFrom pick start ([b, b + step].map splitMonthIndex) := by
    obtain rfl : b = a + step := by
      have next : a + step ≤ b := step_le a ⟨0, by omega⟩ whole less
      refine Int.le_antisymm (Int.not_lt.mp fun beyond => ?_) next
      have further : a + step + step ≤ b := step_le a ⟨1, by omega⟩ whole beyond
      omega
    rw [uniform.skip first (by omega) (by omega) (by omega)]
    exact uniform.decided (by omega) (by omega) _ _
  refine ⟨answer, found, ?_⟩
  rcases Int.lt_trichotomy a b with less | rfl | more
  · rw [← follows whole less first.1 beginsA.1 beginsB.2, found]
  · exact found
  · have back : step ∣ a - b := by
      rwa [← Int.dvd_neg, Int.neg_sub]
    rw [follows back more first.2 beginsB.1 beginsA.2, found]

end Searches

/-- A rule other than that of the anchor's day leaves the anchor out of account. -/
theorem DayRule.resolve_explicit {rule : DayRule} (explicit : rule ≠ .anchorDay)
    (anchor pinned : Date) : rule.resolve anchor = rule.resolve pinned := by
  cases rule with
  | anchorDay => exact absurd rfl explicit
  | dayOfMonth _ | nthWeekday _ _ | endOfMonth => rfl

def Date.monthOfQuarter (date : Date) : Int := date.monthIndex % 3 + 1

namespace Rule

def Agree (rule : Rule) (anchor : Date) (other : Rule) (pinned start : Date) : Prop :=
  ∃ answer, rule.nextOnOrAfter anchor start = .ok answer ∧
    other.nextOnOrAfter pinned start = .ok answer

variable {anchor start : Date} {frequency : UInt32} {daysOfWeek : List UInt8}
  {daysOfMonth monthsOfYear : List UInt32}

theorem yearlyPeriods_unlisted (positive : 1 ≤ frequency.toNat) (anchor start : Date) :
    yearlyPeriods frequency [] anchor start =
      [12 * alignUp anchor.year start.year frequency.toNat + (anchor.month - 1 : Int),
        12 * alignUp anchor.year start.year frequency.toNat + (anchor.month - 1 : Int) +
          frequency.toNat * 12].map splitMonthIndex := by
  have named := anchor.month_bounds
  have next (first : Int) : 12 * first + (anchor.month - 1 : Int) + frequency.toNat * 12 =
      12 * (first + frequency.toNat) + (anchor.month - 1 : Int) := by omega
  simp only [yearlyPeriods, List.isEmpty_nil, stride_eq positive, next, List.map_cons,
    List.map_nil, splitMonthIndex_eq named.1 named.2, ↓reduceIte, List.flatMap_cons,
    List.flatMap_nil, List.cons_append, List.nil_append]

theorem quarterlyPeriods_named {month : UInt32} (positive : 1 ≤ frequency.toNat)
    (named : 1 ≤ month.toNat ∧ month.toNat ≤ 3) (anchor start : Date) :
    quarterlyPeriods frequency (some month) anchor start =
      [3 * alignUp anchor.quarterIndex start.quarterIndex frequency.toNat +
          (month.toNat - 1 : Int),
        3 * alignUp anchor.quarterIndex start.quarterIndex frequency.toNat +
          (month.toNat - 1 : Int) + frequency.toNat * 3].map splitMonthIndex := by
  have clamped : max 1 (min 3 month.toNat) = month.toNat := by omega
  have next (first : Int) : 3 * first + (month.toNat - 1 : Int) + frequency.toNat * 3 =
      3 * (first + frequency.toNat) + (month.toNat - 1 : Int) := by omega
  simp only [quarterlyPeriods, Option.getD_some, clamped, stride_eq positive, next,
    List.map_cons, List.map_nil, splitQuarterIndex_eq named.1 named.2]

theorem months_agree (ordered : anchor ≤ start) (positive : 1 ≤ frequency.toNat)
    (short : frequency.toNat ≤ 12) :
    (custom frequency .months daysOfWeek daysOfMonth monthsOfYear).Agree anchor
      (monthly frequency {}) anchor start := by
  have stepped : (0 : Int) < frequency.toNat := by omega
  have anchored := anchor.month_inside
  have started := start.month_inside
  obtain ⟨⟨steps, base⟩, below, above, -⟩ := stepBase_spec stepped (Date.month_le_of_le ordered)
  obtain ⟨after, near, whole⟩ := alignUp_spec anchor.monthIndex start.monthIndex stepped
  have multiple : (frequency.toNat : Int) ∣
      stepBase frequency.toNat anchor start - anchor.monthIndex :=
    ⟨steps, by rw [base, Int.mul_comm]; omega⟩
  have forward : 0 ≤ (steps : Int) * frequency.toNat := Int.mul_nonneg (by omega) (by omega)
  have inPhase := Int.dvd_sub whole multiple
  rw [show ∀ a b c : Int, a - c - (b - c) = a - b by omega] at inPhase
  unfold Agree nextOnOrAfter
  simp only [steppedMonths_eq, monthlyPeriods, stride_eq positive]
  refine (DayRule.anchorDay.resolve_uniform anchor).agree inPhase ⟨by omega, by omega⟩
    ⟨by omega, by omega⟩ ⟨by omega, by omega⟩ ?_
  unfold lastMonth overflowMonth largestYear
  omega

theorem years_agree (ordered : anchor ≤ start) (positive : 1 ≤ frequency.toNat)
    (short : frequency.toNat ≤ 10) :
    (custom frequency .years daysOfWeek daysOfMonth monthsOfYear).Agree anchor
      (yearly frequency [] {}) anchor start := by
  have stepped : (0 : Int) < frequency.toNat * 12 := by omega
  have anchored := anchor.month_inside
  have started := start.month_inside
  have named := anchor.month_bounds
  have place : anchor.monthIndex = anchor.year * 12 + (anchor.month - 1 : Int) := rfl
  have year := start.year_eq
  obtain ⟨⟨steps, base⟩, below, above, -⟩ := stepBase_spec stepped (Date.month_le_of_le ordered)
  obtain ⟨after, near, count, whole⟩ :=
    alignUp_spec anchor.year start.year (show (0 : Int) < frequency.toNat by omega)
  obtain ⟨first, known⟩ : ∃ first, first = alignUp anchor.year start.year frequency.toNat := ⟨_, rfl⟩
  rw [← known] at after near whole
  have forward : 0 ≤ (steps : Int) * (frequency.toNat * 12) :=
    Int.mul_nonneg (by omega) (by omega)
  -- The first year in phase is whole steps from that of the anchor, as the base is.
  have inPhase : (frequency.toNat * 12 : Int) ∣
      12 * first + (anchor.month - 1 : Int) - stepBase (frequency.toNat * 12) anchor start := by
    refine ⟨count - steps, ?_⟩
    rw [base, place, Int.mul_sub, Int.mul_comm _ (steps : Int), Int.mul_right_comm, ← whole]
    omega
  unfold Agree nextOnOrAfter
  simp only [steppedMonths_eq, stride_eq positive, yearlyPeriods_unlisted positive, ← known]
  unfold firstMonth at anchored started
  refine (DayRule.anchorDay.resolve_uniform anchor).agree inPhase ⟨by omega, by omega⟩
    ⟨by omega, by omega⟩ ?_ ?_
  · unfold firstMonth
    omega
  · unfold lastMonth overflowMonth largestYear
    omega

theorem quarters_agree {month : UInt32} {day : DaySelection} {pinned : Date}
    (positive : 1 ≤ frequency.toNat) (short : frequency.toNat ≤ 4)
    (named : 1 ≤ month.toNat ∧ month.toNat ≤ 3) (explicit : day.rule ≠ .anchorDay)
    (quarter : pinned.quarterIndex = anchor.quarterIndex)
    (placed : pinned.monthOfQuarter = month.toNat) :
    (quarterly frequency (some month) day).Agree anchor (monthly (3 * frequency) day) pinned start := by
  have started := start.month_inside
  have quarterStart := start.quarterIndex_eq
  have quarterPinned := pinned.quarterIndex_eq
  have thrice : ((3 * frequency).toNat : Int) = frequency.toNat * 3 := by
    have small : (3 * frequency).toNat = 3 * frequency.toNat := by
      rw [UInt32.toNat_mul]
      exact Nat.mod_eq_of_lt (show 3 * frequency.toNat < 4294967296 by omega)
    omega
  obtain ⟨after, near, count, whole⟩ :=
    alignUp_spec anchor.quarterIndex start.quarterIndex (show (0 : Int) < frequency.toNat by omega)
  obtain ⟨afterMonth, nearMonth, months, wholeMonths⟩ := alignUp_spec pinned.monthIndex
    start.monthIndex (show (0 : Int) < frequency.toNat * 3 by omega)
  obtain ⟨first, known⟩ :
      ∃ first, first = alignUp anchor.quarterIndex start.quarterIndex frequency.toNat := ⟨_, rfl⟩
  rw [← known] at after near whole
  unfold Date.monthOfQuarter at placed
  -- The month pinned is the one picked in the quarter of the anchor, so both lie whole steps from it.
  have inPhase : (frequency.toNat * 3 : Int) ∣
      alignUp pinned.monthIndex start.monthIndex (frequency.toNat * 3) -
        (3 * first + (month.toNat - 1 : Int)) := by
    refine ⟨months - count, ?_⟩
    rw [Int.mul_sub, ← wholeMonths, Int.mul_right_comm, ← whole]
    omega
  unfold Agree nextOnOrAfter
  simp only [quarterlyPeriods_named positive named, ← known, monthlyPeriods, thrice,
    stride_eq (show 1 ≤ (3 * frequency).toNat by omega),
    day.rule.resolve_explicit explicit pinned anchor]
  unfold firstMonth at started
  refine (day.rule.resolve_uniform anchor).agree inPhase ⟨by omega, by omega⟩
    ⟨by omega, by omega⟩ ?_ ?_
  · unfold firstMonth
    omega
  · unfold lastMonth overflowMonth largestYear
    omega

/-- Custom months agree with a monthly rule and custom years with a yearly one that names no day, and a
quarterly rule with a monthly one of three times the frequency, anchored in the month of the quarter
that it names, when both name the same day. -/
theorem families_agree (ordered : anchor ≤ start) :
    (∀ frequency : UInt32, 1 ≤ frequency → frequency ≤ 12 →
      ∀ daysOfWeek daysOfMonth monthsOfYear,
        (custom frequency .months daysOfWeek daysOfMonth monthsOfYear).Agree anchor
          (monthly frequency {}) anchor start) ∧
    (∀ frequency : UInt32, 1 ≤ frequency → frequency ≤ 10 →
      ∀ daysOfWeek daysOfMonth monthsOfYear,
        (custom frequency .years daysOfWeek daysOfMonth monthsOfYear).Agree anchor
          (yearly frequency [] {}) anchor start) ∧
    ∀ frequency month : UInt32, 1 ≤ frequency → frequency ≤ 4 → 1 ≤ month → month ≤ 3 →
      ∀ day : DaySelection, day.rule ≠ .anchorDay →
        ∀ pinned : Date, pinned.quarterIndex = anchor.quarterIndex →
          pinned.monthOfQuarter = month.toNat →
            (quarterly frequency (some month) day).Agree anchor (monthly (3 * frequency) day)
              pinned start := by
  simp only [UInt32.le_iff_toNat_le]
  refine ⟨fun _ positive short _ _ _ => months_agree ordered positive short,
    fun _ positive short _ _ _ => years_agree ordered positive short, ?_⟩
  intro frequency month positive short lower upper day explicit pinned quarter placed
  exact quarters_agree positive short ⟨lower, upper⟩ explicit quarter placed

def leapDay : Date := ⟨19782, by decide, by decide⟩ -- 29 February 2024

def sameQuarter : Date := ⟨19787, by decide, by decide⟩ -- 5 March 2024, in the same quarter

theorem leap_day_agrees :
    leapDay ≤ Date.last ∧ (custom 1 .years [] [] []).Agree leapDay (yearly 1 [] {}) leapDay
      ⟨20148, by decide, by decide⟩ ∧
    (yearly 1 [] {}).nextOnOrAfter leapDay ⟨20148, by decide, by decide⟩ =
      .ok (some ⟨20512, by decide, by decide⟩) ∧
    (quarterly 2 (some 3) { endOfMonth := true }).Agree leapDay (monthly 6 { endOfMonth := true })
      sameQuarter Date.last := by
  obtain ⟨-, years, -⟩ := families_agree (show leapDay ≤ ⟨20148, by decide, by decide⟩ by decide)
  obtain ⟨-, -, quarters⟩ := families_agree (show leapDay ≤ Date.last by decide)
  exact ⟨by decide, years 1 (by decide) (by decide) [] [] [], by decide +kernel,
    quarters 2 3 (by decide) (by decide) (by decide) (by decide) _ (by decide) sameQuarter
      (by decide +kernel) (by decide +kernel)⟩

end Rule
end Rota
