import Rota.Proofs.Pattern.Search

/-!
What holds of an answer whatever the rule is like: it lies neither before the day asked about nor
past the end of the series.
-/

namespace Rota

theorem firstFrom_notBefore {pick : Int → Nat → Checked (Option Date)} {start date : Date}
    {months : List (Int × Nat)} (found : firstFrom pick start months = .ok (some date)) :
    start ≤ date := by
  induction months with
  | nil => cases found
  | cons place rest ih =>
    rcases place with ⟨year, month⟩
    unfold firstFrom at found
    cases picked : pick year month with
    | error fault =>
      rw [picked] at found
      cases found
    | ok offered =>
      cases offered with
      | none =>
        rw [picked] at found
        cases found
      | some day =>
        simp only [picked, bind, Except.bind] at found
        by_cases reached : start ≤ day
        · rw [if_pos reached] at found
          cases found
          exact reached
        · rw [if_neg reached] at found
          exact ih found

theorem steppedDay_notBefore {step : Int} {anchor start date : Date} (positive : 1 ≤ step)
    (found : Rule.steppedDay step anchor start = some date) : start ≤ date := by
  have number := Date.number_addDays? found
  have rounded := Int.lt_mul_ediv_self_add (x := max 0 (start.daysFrom anchor) + step - 1)
    (show 0 < step by omega)
  rw [Int.mul_comm] at rounded
  unfold Date.daysFrom at number rounded
  rw [Date.le_def]
  omega

theorem Rule.nextOnOrAfter_notBefore {rule : Rule} {anchor start date : Date}
    (found : rule.nextOnOrAfter anchor start = .ok (some date)) : start ≤ date := by
  have strides (frequency : UInt32) : 1 ≤ stride frequency := by
    unfold stride
    omega
  cases rule with
  | monthly frequency day => exact firstFrom_notBefore found
  | quarterly frequency month day => exact firstFrom_notBefore found
  | yearly frequency months day => exact firstFrom_notBefore found
  | custom frequency unit daysOfWeek daysOfMonth monthsOfYear =>
    have least := strides frequency
    cases unit with
    | days => exact steppedDay_notBefore least (Except.ok.inj found)
    | weeks => exact steppedDay_notBefore (by omega) (Except.ok.inj found)
    | months => exact firstFrom_notBefore found
    | years => exact firstFrom_notBefore found

theorem excludes_later {ending : EndCondition} {a b : Date} (excluded : ending.excludes a = true)
    (later : a ≤ b) : ending.excludes b = true := by
  cases ending with
  | byDate endDate =>
    simp only [EndCondition.excludes, decide_eq_true_eq, Date.lt_def] at *
    rw [Date.le_def] at later
    omega
  | never => cases excluded
  | afterOccurrences _ => cases excluded

/-- The end condition decides about the answer of the rule and about nothing else. -/
theorem Series.nextOccurrence_some_iff {series : Series} {start date : Date} :
    series.nextOccurrence start = .ok (some date) ↔
      series.rule.nextOnOrAfter series.startsOn (max start series.startsOn) = .ok (some date) ∧
        series.ending.excludes date = false := by
  unfold nextOccurrence
  -- An end that is past on the start is past on every answer of the rule.
  by_cases ended : series.ending.excludes start = true
  · rw [if_pos ended]
    constructor
    · intro answered
      cases answered
    · rintro ⟨searched, inside⟩
      have reached := Rule.nextOnOrAfter_notBefore searched
      have after := (((max_spec start series.startsOn).2.2 date).mp reached).1
      rw [excludes_later ended after] at inside
      cases inside
  · rw [if_neg ended]
    cases series.rule.nextOnOrAfter series.startsOn (max start series.startsOn) with
    | error fault => simp [bind, Except.bind]
    | ok answer =>
      cases answer with
      | none => simp [bind, Except.bind, pure, Except.pure]
      | some next =>
        by_cases past : series.ending.excludes next = true
        · simp only [past, bind, Except.bind, pure, Except.pure, ↓reduceIte]
          constructor
          · intro answered
            cases answered
          · rintro ⟨same, inside⟩
            cases same
            rw [past] at inside
            cases inside
        · simp only [past, bind, Except.bind, pure, Except.pure, Except.ok.injEq, Option.some.injEq,
            Bool.false_eq_true, ↓reduceIte]
          constructor
          · rintro rfl
            exact ⟨rfl, Bool.eq_false_iff.mpr past⟩
          · exact fun same => same.1

theorem Series.nextOccurrence_notBefore {series : Series} {start date : Date}
    (found : series.nextOccurrence start = .ok (some date)) : start ≤ date := by
  have reached := Rule.nextOnOrAfter_notBefore (nextOccurrence_some_iff.mp found).1
  exact (((max_spec start series.startsOn).2.2 date).mp reached).1

end Rota
