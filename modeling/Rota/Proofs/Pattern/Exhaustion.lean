import Rota.Proofs.Pattern.NextOccurrence

/-!
The answers of one series compared with each other. Whatever ends a series, an end date or the end
of the calendar, leaves the occurrences of a checked rule up to some day, and the answer is the
first of them at or after the day asked about. So a later question has no earlier answer, and once
there is no answer there is none any more.
-/

namespace Rota

namespace IsFirst
variable {meets : Date → Prop} {start later date laterDate : Date}

theorem monotone (first : IsFirst meets start (some date))
    (second : IsFirst meets later (some laterDate)) (ordered : start ≤ later) :
    date ≤ laterDate := by
  obtain ⟨-, -, least⟩ := first
  obtain ⟨met, reached, -⟩ := second
  exact least laterDate met (Int.le_trans ordered reached)

theorem none_later (exhausted : IsFirst meets start none) (ordered : start ≤ later) :
    IsFirst meets later none :=
  fun other met after => exhausted other met (Int.le_trans ordered after)

/-- A condition that fails for good from some day on cuts the answer off. -/
theorem filter {answer : Option Date} (first : IsFirst meets start answer) (kept : Date → Bool)
    (closed : ∀ a b, a ≤ b → kept a = false → kept b = false) :
    IsFirst (fun date => meets date ∧ kept date = true) start (answer.filter kept) := by
  cases answer with
  | none => exact fun other met after => first other met.1 after
  | some date =>
    obtain ⟨met, reached, least⟩ := first
    by_cases keeps : kept date = true
    · rw [Option.filter_some_pos keeps]
      exact ⟨⟨met, keeps⟩, reached, fun other otherMet after => least other otherMet.1 after⟩
    · have lost := Bool.eq_false_iff.mpr keeps
      rw [Option.filter_some_neg lost]
      intro other otherMet after
      have gone := closed date other (least other otherMet.1 after) lost
      rw [gone] at otherMet
      cases otherMet.2

end IsFirst

namespace Series

/-- An occurrence of the rule, with the months as they are seen, that is not past the end. -/
def Occurs (series : Series) (date : Date) : Prop :=
  series.rule.Occurs scannedDays series.startsOn date ∧ series.ending.excludes date = false

/-- The series has an arithmetic fault for an answer. -/
def Faults (series : Series) (start : Date) : Prop :=
  series.ending.excludes start = false ∧ series.rule.Overflows series.startsOn start

variable {series : Series} {start later date : Date}

theorem nextOccurrence_first (valid : series.rule.Valid) (start : Date) :
    (series.Faults start → series.nextOccurrence start = .error .word) ∧
    (¬ series.Faults start → ∃ answer, series.nextOccurrence start = .ok answer ∧
      IsFirst series.Occurs start answer) := by
  obtain ⟨notBefore, clipped, -⟩ := max_spec start series.startsOn
  obtain ⟨faults, finds⟩ := nextOnOrAfter_scanned valid notBefore
  unfold Rule.Overflows at faults finds
  rw [clipped] at faults finds
  constructor
  · rintro ⟨inside, overflows⟩
    unfold nextOccurrence
    rw [if_neg (Bool.eq_false_iff.mp inside), faults overflows]
    rfl
  · intro fits
    by_cases ended : series.ending.excludes start = true
    · refine ⟨none, by rw [nextOccurrence, if_pos ended], ?_⟩
      rintro other ⟨-, inside⟩ after
      rw [excludes_later ended after] at inside
      cases inside
    · obtain ⟨found, searched, first⟩ :=
        finds fun overflows => fits ⟨Bool.eq_false_iff.mpr ended, overflows⟩
      have clippedFirst := isFirst_clipped.mp first
      refine ⟨_, nextOccurrence_of_rule searched clippedFirst.after, ?_⟩
      have cut := clippedFirst.filter (fun date => !series.ending.excludes date) (by
        intro a b ordered gone
        simp only [Bool.not_eq_eq_eq_not, Bool.not_false] at gone ⊢
        exact excludes_later gone ordered)
      exact cut.congr fun date _ => by simp only [Occurs, Bool.not_eq_true']

theorem first_of_ok (valid : series.rule.Valid) {answer : Option Date}
    (answered : series.nextOccurrence start = .ok answer) :
    ¬ series.Faults start ∧ IsFirst series.Occurs start answer := by
  obtain ⟨faulty, sound⟩ := nextOccurrence_first valid start
  by_cases faults : series.Faults start
  · rw [faulty faults] at answered
    cases answered
  · obtain ⟨found, same, first⟩ := sound faults
    rw [same] at answered
    cases answered
    exact ⟨faults, first⟩

/-- There is no answer exactly when no occurrence is left and the search ends. -/
theorem nextOccurrence_none_iff (valid : series.rule.Valid) :
    series.nextOccurrence start = .ok none ↔
      ¬ series.Faults start ∧ ∀ date, series.Occurs date → ¬ start ≤ date := by
  constructor
  · exact first_of_ok valid
  · rintro ⟨fits, gone⟩
    obtain ⟨answer, found, first⟩ := (nextOccurrence_first valid start).2 fits
    have none : IsFirst series.Occurs start none := gone
    rw [found, first.unique none]

/-- The date is its own next occurrence exactly when it is one and the search ends there. -/
theorem nextOccurrence_self_iff (valid : series.rule.Valid) :
    series.nextOccurrence date = .ok (some date) ↔
      ¬ series.Faults date ∧ series.Occurs date := by
  constructor
  · intro answered
    obtain ⟨fits, first⟩ := first_of_ok valid answered
    exact ⟨fits, first.1⟩
  · rintro ⟨fits, occurs⟩
    obtain ⟨answer, found, first⟩ := (nextOccurrence_first valid date).2 fits
    have self : IsFirst series.Occurs date (some date) :=
      ⟨occurs, Int.le_refl _, fun _ _ after => after⟩
    rw [found, first.unique self]

-- A rule that jumps past the calendar has its anchor for an occurrence, and no fault up to there.
theorem anchor_before_fault (ordered : start ≤ later) (fits : ¬ series.Faults start)
    (faults : series.Faults later) : start ≤ series.startsOn ∧ series.Occurs series.startsOn := by
  obtain ⟨inside, jumps, past⟩ := faults
  have insideBefore {date : Date} (before : date ≤ later) :
      series.ending.excludes date = false := by
    rw [Bool.eq_false_iff] at inside ⊢
    exact fun ended => inside (excludes_later ended before)
  have still : ¬ (series.startsOn < start ∨ series.startsOn.Unseen) :=
    fun overflows => fits ⟨insideBefore ordered, jumps, overflows⟩
  have seen : ¬ series.startsOn.Unseen := fun unseen => still (Or.inr unseen)
  refine ⟨Int.not_lt.mp fun after => still (Or.inl after), occurs_anchor jumps seen, ?_⟩
  rcases past with after | unseen
  · exact insideBefore (Int.le_of_lt after)
  · exact absurd unseen seen

theorem sound_later (ordered : start ≤ later) (fits : ¬ series.Faults start)
    (gone : ∀ date, series.Occurs date → ¬ start ≤ date) : ¬ series.Faults later := by
  intro faults
  obtain ⟨reached, occurs⟩ := anchor_before_fault ordered fits faults
  exact gone series.startsOn occurs reached

end Series

/-- The end condition cuts the answers off and changes none of them; no answer comes before the day
asked about or the date the series starts on; later questions have later answers; and exhaustion,
which means that no occurrence is left, is permanent. -/
theorem nextOccurrence_ordered (series : Series) (valid : series.rule.check = .ok ()) :
    (∀ endDate start date,
      ({ series with ending := .byDate endDate } : Series).nextOccurrence start = .ok (some date) ↔
        ({ series with ending := .never } : Series).nextOccurrence start = .ok (some date) ∧
          date ≤ endDate) ∧
    (∀ start date, series.nextOccurrence start = .ok (some date) →
      max start series.startsOn ≤ date) ∧
    (∀ start later date laterDate, start ≤ later →
      series.nextOccurrence start = .ok (some date) →
      series.nextOccurrence later = .ok (some laterDate) → date ≤ laterDate) ∧
    (∀ start later, start ≤ later → series.nextOccurrence start = .ok none →
      series.nextOccurrence later = .ok none) ∧
    ∀ start, series.nextOccurrence start = .ok none ↔
      ¬ series.Faults start ∧ ∀ date, series.Occurs date → ¬ start ≤ date := by
  have checked := Rule.check_ok.mp valid
  refine ⟨?_, ?_, ?_, ?_, ?_⟩
  · intro endDate start date
    rw [Series.nextOccurrence_some_iff, Series.nextOccurrence_some_iff]
    simp only [EndCondition.excludes, decide_eq_false_iff_not, and_true, Date.lt_def, Date.le_def,
      Int.not_lt]
  · intro start date answered
    exact Rule.nextOnOrAfter_notBefore (Series.nextOccurrence_some_iff.mp answered).1
  · intro start later date laterDate ordered answered laterAnswered
    exact (Series.first_of_ok checked answered).2.monotone
      (Series.first_of_ok checked laterAnswered).2 ordered
  · intro start later ordered exhausted
    obtain ⟨fits, gone⟩ := Series.first_of_ok checked exhausted
    exact (Series.nextOccurrence_none_iff checked).mpr
      ⟨Series.sound_later ordered fits gone, IsFirst.none_later gone ordered⟩
  · exact fun start => Series.nextOccurrence_none_iff checked

def monthEndsOfWinter : Series :=
  { monthEnds ⟨19754, by decide, by decide⟩ with ending := .byDate ⟨19813, by decide, by decide⟩ }

-- Over from 1 April 2024 on.
theorem winter_ends :
    monthEndsOfWinter.rule.check = .ok () ∧
    monthEndsOfWinter.nextOccurrence ⟨19783, by decide, by decide⟩ =
      .ok (some ⟨19813, by decide, by decide⟩) ∧
    monthEndsOfWinter.nextOccurrence ⟨19814, by decide, by decide⟩ = .ok none ∧
    ∀ later : Date, 19814 ≤ later.number → monthEndsOfWinter.nextOccurrence later = .ok none := by
  have ended : monthEndsOfWinter.nextOccurrence ⟨19814, by decide, by decide⟩ = .ok none := by
    decide +kernel
  refine ⟨rfl, by decide +kernel, ended, fun later reached => ?_⟩
  obtain ⟨-, -, -, permanent, -⟩ := nextOccurrence_ordered monthEndsOfWinter rfl
  exact permanent _ later reached ended

end Rota
