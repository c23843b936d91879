import Rota.Proofs.Pattern.Search

/-!
The search with every number in its machine word: sums and products are signed words of 64 bits,
and a span of days is counted in milliseconds. What dates and a frequency of 32 bits lead to stays
far from the ends of a word, so the search has the same answers, whatever rule is written down.
-/

namespace Rota

/-- The two periods that are looked at; the search counts on past the second. -/
def periodsInWords (first step : Int) : Checked (List Int) := do
  let second ← checkedWord (first + step)
  let _ ← checkedWord (second + step)
  return [first, second]

def alignUpInWords (anchor start step : Int) : Checked Int := do
  let offset := (← checkedWord (start - anchor)) % step
  if offset = 0 then return start
  else checkedWord ((← checkedWord (start + step)) - offset)

def inPhaseInWords (anchor start : Checked Int) (step : Int) : Checked (List Int) := do
  periodsInWords (← alignUpInWords (← anchor) (← start) step) step

namespace Date

def monthIndexInWords (date : Date) : Checked Int := do
  checkedWord ((← checkedWord (date.year * 12)) + ((date.month : Int) - 1))

def quarterIndexInWords (date : Date) : Checked Int := do
  checkedWord ((← checkedWord (date.year * 4)) + (((date.month - 1) / 3 : Nat) : Int))

end Date

namespace Rule

def steppedMonthsInWords (step : Int) (anchor start : Date) : Checked (List (Int × Nat)) := do
  let base ← anchor.monthIndexInWords
  let steps := max 0 (← checkedWord ((← start.monthIndexInWords) - base)) / step
  let first ← checkedWord (base + (← checkedWord (steps * step)))
  let next ← checkedWord (steps + 1)
  let second ← checkedWord (base + (← checkedWord (next * step)))
  let _ ← checkedWord (next + 1)
  return [splitMonthIndex first, splitMonthIndex second]

def steppedDayInWords (step : Int) (anchor start : Date) : Checked (Option Date) := do
  let elapsed := max 0 (← checkedDays (start.daysFrom anchor))
  let steps := (← checkedWord ((← checkedWord (elapsed + step)) - 1)) / step
  return anchor.addDays? (← checkedDays (← checkedWord (steps * step)))

def nextInWords (rule : Rule) (anchor start : Date) : Checked (Option Date) :=
  match rule with
  | monthly frequency day => do
    let months ← inPhaseInWords anchor.monthIndexInWords start.monthIndexInWords (stride frequency)
    firstFrom (day.rule.resolve anchor) start (months.map splitMonthIndex)
  | quarterly frequency monthOfQuarter day => do
    let month := max 1 (min 3 (monthOfQuarter.getD 1).toNat)
    let quarters ←
      inPhaseInWords anchor.quarterIndexInWords start.quarterIndexInWords (stride frequency)
    firstFrom (day.rule.resolve anchor) start (quarters.map fun quarter =>
      splitQuarterIndex quarter month)
  | yearly frequency months day => do
    let listed := if months.isEmpty then [anchor.month] else dedupSorted months
    let years ← inPhaseInWords (.ok anchor.year) (.ok start.year) (stride frequency)
    firstFrom (day.rule.resolve anchor) start (years.flatMap fun year =>
      listed.map fun month => (wrapYear year, month))
  | custom frequency .days _ _ _ => steppedDayInWords (stride frequency) anchor start
  | custom frequency .weeks _ _ _ => do
    steppedDayInWords (← checkedWord (stride frequency * 7)) anchor start
  | custom frequency .months _ _ _ => do
    firstFrom (DayRule.anchorDay.resolve anchor) start
      (← steppedMonthsInWords (stride frequency) anchor start)
  | custom frequency .years _ _ _ => do
    let step ← checkedWord (stride frequency * 12)
    firstFrom (DayRule.anchorDay.resolve anchor) start (← steppedMonthsInWords step anchor start)

end Rule

theorem checkedWord_ok {n : Int} (lower : -9223372036854775808 ≤ n)
    (upper : n ≤ 9223372036854775807) : checkedWord n = .ok n := if_pos ⟨lower, upper⟩

theorem checkedDays_ok {n : Int} (lower : -longestSpan ≤ n) (upper : n ≤ longestSpan) :
    checkedDays n = .ok n := if_pos ⟨lower, upper⟩

/-- The days of the calendar are numbered by far smaller numbers than a span may have. -/
theorem Date.daysFrom_bounds (later earlier : Date) :
    -191491528 ≤ later.daysFrom earlier ∧ later.daysFrom earlier ≤ 191491528 := by
  have laterInside := And.intro later.first_le later.le_last
  have earlierInside := And.intro earlier.first_le earlier.le_last
  unfold Date.daysFrom
  unfold firstDayNumber lastDayNumber at *
  omega

theorem stride_bounds (frequency : UInt32) :
    1 ≤ stride frequency ∧ stride frequency < 4294967296 := by
  have word := frequency.toNat_lt
  unfold stride
  omega

section Periods
variable {anchor start step : Int}

theorem alignUpInWords_eq (positive : 0 < step) (short : step < 4294967296)
    (anchored : -3145728 ≤ anchor ∧ anchor ≤ 3145728)
    (started : -3145728 ≤ start ∧ start ≤ 3145728) :
    alignUpInWords anchor start step = .ok (alignUp anchor start step) := by
  have lower := Int.emod_nonneg (start - anchor) (show step ≠ 0 by omega)
  have upper := Int.emod_lt_of_pos (start - anchor) positive
  unfold alignUpInWords alignUp
  rw [checkedWord_ok (n := start - anchor) (by omega) (by omega)]
  simp only [bind, Except.bind, pure, Except.pure]
  split
  · rfl
  · rw [checkedWord_ok (n := start + step) (by omega) (by omega)]
    exact checkedWord_ok (by omega) (by omega)

theorem inPhaseInWords_eq (positive : 0 < step) (short : step < 4294967296)
    (anchored : -3145728 ≤ anchor ∧ anchor ≤ 3145728)
    (started : -3145728 ≤ start ∧ start ≤ 3145728) :
    inPhaseInWords (.ok anchor) (.ok start) step =
      .ok [alignUp anchor start step, alignUp anchor start step + step] := by
  obtain ⟨reached, near, -⟩ := alignUp_spec anchor start positive
  unfold inPhaseInWords periodsInWords
  simp only [bind, Except.bind]
  rw [alignUpInWords_eq positive short anchored started]
  dsimp only
  rw [checkedWord_ok (n := alignUp anchor start step + step) (by omega) (by omega)]
  dsimp only
  rw [checkedWord_ok (by omega) (by omega)]
  rfl

end Periods

namespace Date

theorem year_bounds (date : Date) : -262143 ≤ date.year ∧ date.year ≤ 262142 := by
  have inside := date.month_inside
  unfold firstMonth lastMonth at inside
  rw [year_eq]
  omega

theorem monthIndexInWords_eq (date : Date) : date.monthIndexInWords = .ok date.monthIndex := by
  have years := date.year_bounds
  have months := date.month_bounds
  unfold monthIndexInWords
  rw [checkedWord_ok (n := date.year * 12) (by omega) (by omega)]
  exact checkedWord_ok (by omega) (by omega)

theorem quarterIndexInWords_eq (date : Date) :
    date.quarterIndexInWords = .ok date.quarterIndex := by
  have years := date.year_bounds
  have months := date.month_bounds
  unfold quarterIndexInWords
  rw [checkedWord_ok (n := date.year * 4) (by omega) (by omega)]
  exact checkedWord_ok (by omega) (by omega)

end Date

namespace Rule
variable {step : Int} (anchor start : Date)

theorem steppedMonthsInWords_eq (positive : 0 < step) (short : step < 51539607552) :
    steppedMonthsInWords step anchor start = .ok (steppedMonths step anchor start) := by
  have anchored := anchor.month_inside
  have started := start.month_inside
  unfold firstMonth lastMonth at anchored started
  unfold steppedMonthsInWords steppedMonths
  rw [anchor.monthIndexInWords_eq, start.monthIndexInWords_eq]
  simp only [bind, Except.bind, pure, Except.pure]
  rw [checkedWord_ok (n := start.monthIndex - anchor.monthIndex) (by omega) (by omega)]
  dsimp only
  have notNegative : 0 ≤ max 0 (start.monthIndex - anchor.monthIndex) / step :=
    Int.ediv_nonneg (by omega) (by omega)
  have few : max 0 (start.monthIndex - anchor.monthIndex) / step ≤
      max 0 (start.monthIndex - anchor.monthIndex) := Int.ediv_le_self _ (by omega)
  have below := Int.ediv_mul_le (max 0 (start.monthIndex - anchor.monthIndex))
    (show step ≠ 0 by omega)
  generalize max 0 (start.monthIndex - anchor.monthIndex) / step = steps at *
  have product : 0 ≤ steps * step := Int.mul_nonneg notNegative (by omega)
  have next : (steps + 1) * step = steps * step + step := by rw [Int.add_mul, Int.one_mul]
  rw [checkedWord_ok (n := steps * step) (by omega) (by omega)]
  dsimp only
  rw [checkedWord_ok (n := anchor.monthIndex + steps * step) (by omega) (by omega)]
  dsimp only
  rw [checkedWord_ok (n := steps + 1) (by omega) (by omega)]
  dsimp only
  rw [checkedWord_ok (n := (steps + 1) * step) (by omega) (by omega)]
  dsimp only
  rw [checkedWord_ok (n := anchor.monthIndex + (steps + 1) * step) (by omega) (by omega)]
  dsimp only
  rw [checkedWord_ok (n := steps + 1 + 1) (by omega) (by omega)]

theorem steppedDayInWords_eq (positive : 0 < step) (short : step < 30064771072) :
    steppedDayInWords step anchor start = .ok (steppedDay step anchor start) := by
  unfold steppedDayInWords steppedDay
  have gap := start.daysFrom_bounds anchor
  have span (n : Int) (lower : -191491528 ≤ n) (upper : n ≤ 30256262600) :
      checkedDays n = .ok n := by
    apply checkedDays_ok
    · unfold longestSpan
      omega
    · unfold longestSpan
      omega
  rw [span _ gap.1 (by omega)]
  simp only [bind, Except.bind, pure, Except.pure]
  generalize elapsed : max 0 (start.daysFrom anchor) = days
  have below := Int.ediv_mul_le (days + step - 1) (show step ≠ 0 by omega)
  have notNegative : 0 ≤ (days + step - 1) / step * step :=
    Int.mul_nonneg (Int.ediv_nonneg (by omega) (by omega)) (by omega)
  rw [checkedWord_ok (n := days + step) (by omega) (by omega)]
  dsimp only
  rw [checkedWord_ok (n := days + step - 1) (by omega) (by omega)]
  dsimp only
  rw [checkedWord_ok (n := (days + step - 1) / step * step) (by omega) (by omega)]
  dsimp only
  rw [span _ (by omega) (by omega)]

/-- No step of the search leaves its word. -/
theorem nextInWords_eq (rule : Rule) (anchor start : Date) :
    rule.nextInWords anchor start = rule.nextOnOrAfter anchor start := by
  have anchorMonth := anchor.month_inside
  have startMonth := start.month_inside
  unfold firstMonth lastMonth at anchorMonth startMonth
  cases rule with
  | monthly frequency day =>
    obtain ⟨positive, short⟩ := stride_bounds frequency
    simp only [nextInWords]
    rw [anchor.monthIndexInWords_eq, start.monthIndexInWords_eq,
      inPhaseInWords_eq (by omega) short (by omega) (by omega)]
    rfl
  | quarterly frequency monthOfQuarter day =>
    obtain ⟨positive, short⟩ := stride_bounds frequency
    have anchored := anchor.quarterIndex_eq
    have started := start.quarterIndex_eq
    simp only [nextInWords]
    rw [anchor.quarterIndexInWords_eq, start.quarterIndexInWords_eq,
      inPhaseInWords_eq (by omega) short (by omega) (by omega)]
    rfl
  | yearly frequency months day =>
    obtain ⟨positive, short⟩ := stride_bounds frequency
    have anchored := anchor.year_bounds
    have started := start.year_bounds
    simp only [nextInWords]
    rw [inPhaseInWords_eq (by omega) short (by omega) (by omega)]
    rfl
  | custom frequency unit daysOfWeek daysOfMonth monthsOfYear =>
    obtain ⟨positive, short⟩ := stride_bounds frequency
    cases unit with
    | days => exact steppedDayInWords_eq anchor start (by omega) (by omega)
    | weeks =>
      simp only [nextInWords]
      rw [checkedWord_ok (by omega) (by omega)]
      exact steppedDayInWords_eq anchor start (by omega) (by omega)
    | months =>
      simp only [nextInWords]
      rw [steppedMonthsInWords_eq anchor start (by omega) (by omega)]
      rfl
    | years =>
      simp only [nextInWords]
      rw [checkedWord_ok (by omega) (by omega)]
      simp only [bind, Except.bind]
      rw [steppedMonthsInWords_eq anchor start (by omega) (by omega)]
      rfl

end Rule
end Rota
