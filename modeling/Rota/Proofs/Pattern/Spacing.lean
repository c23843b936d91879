import Rota.Proofs.Pattern.Exhaustion

/-!
How far occurrences lie apart: a whole step for a rule that steps by days, and four weeks for one
that picks a day of a month, which it does once a month at most. So a day that is an occurrence is
the next one for every day before it that is nearer than that.
-/

namespace Rota

theorem DayRule.fits_apart {rule : DayRule} {anchor a b : Date} {length : Nat}
    (first : rule.Fits anchor (monthDays a.monthIndex) a) (second : rule.Fits anchor length b)
    (four : 28 ≤ length) (earlier : a.monthIndex < b.monthIndex) : a.number + 28 ≤ b.number := by
  have months := monthStart_le earlier
  have bounds := monthDays_bounds a.monthIndex
  have aNumber := a.number_eq
  have bNumber := b.number_eq
  cases rule with
  | dayOfMonth number =>
    have aDay : a.day = min number.toNat (monthDays a.monthIndex) := first
    have bDay : b.day = min number.toNat length := second
    omega
  | endOfMonth =>
    have aDay : a.day = monthDays a.monthIndex := first
    have bDay : b.day = length := second
    omega
  | anchorDay =>
    have aDay : a.day = min anchor.day (monthDays a.monthIndex) := first
    have bDay : b.day = min anchor.day length := second
    omega
  | nthWeekday week weekday =>
    obtain ⟨aWeekday, aInside, aPlace⟩ := first
    obtain ⟨bWeekday, -, bPlace⟩ := second
    -- More than three weeks apart and of the same weekday, they are four weeks apart.
    have nearly : a.number + 21 < b.number := by
      by_cases counted : week.toNat ≤ 4
      · rw [if_pos counted] at aPlace bPlace
        omega
      · rw [if_neg counted] at aPlace bPlace
        omega
    rw [Date.weekday_eq_iff] at aWeekday bWeekday
    omega

namespace Rule

def spacing (rule : Rule) : Int := rule.stepOfDays?.getD 28

variable {rule : Rule} {anchor a b : Date}

theorem occurs_apart (valid : rule.Valid) (first : rule.Occurs scannedDays anchor a)
    (second : rule.Occurs scannedDays anchor b) (less : a < b) :
    a.number + rule.spacing ≤ b.number := by
  obtain ⟨-, first⟩ := first
  obtain ⟨-, second⟩ := second
  rw [Date.lt_def] at less
  unfold spacing
  cases daily : rule.stepOfDays? with
  | some step =>
    simp only [daily] at first second
    obtain ⟨m, aNumber⟩ := first
    obtain ⟨n, bNumber⟩ := second
    have aSteps : step ∣ a.number - anchor.number := ⟨m, by rw [Int.mul_comm]; omega⟩
    have bSteps : step ∣ b.number - anchor.number := ⟨n, by rw [Int.mul_comm]; omega⟩
    exact step_le anchor.number aSteps bSteps less
  | none =>
    simp only [daily] at first second
    have checked := selection_valid valid
    rw [DaySelection.picks_iff checked] at first second
    obtain ⟨-, aFits⟩ := first
    obtain ⟨-, bFits⟩ := second
    have ordered := Date.month_le_of_le (Int.le_of_lt less)
    -- A month has one occurrence at most, and the one of the last month is a later one.
    by_cases same : a.monthIndex = b.monthIndex
    · rw [same] at aFits
      have day := DayRule.fits_unique aFits bFits same
      rw [Date.eq_of_month_day same day] at less
      omega
    · have inside := b.month_inside
      have whole : scannedDays a.monthIndex = monthDays a.monthIndex := by
        rw [scannedDays, if_neg (by omega)]
      rw [whole] at aFits
      exact DayRule.fits_apart aFits bFits (scannedDays_bounds _).1 (by omega)

end Rule

namespace Series
variable {series : Series} {start date : Date}

theorem nextOccurrence_of_near (valid : series.rule.Valid) {answer : Option Date}
    (answered : series.nextOccurrence start = .ok answer) (occurs : series.Occurs date)
    (ahead : start ≤ date) (near : date.daysFrom start < series.rule.spacing) :
    answer = some date := by
  obtain ⟨-, first⟩ := first_of_ok valid answered
  have least : IsFirst series.Occurs start (some date) := by
    refine ⟨occurs, ahead, fun other otherOccurs after => ?_⟩
    by_cases before : other < date
    · have apart := Rule.occurs_apart valid otherOccurs.1 occurs.1 before
      rw [Date.le_def] at after
      unfold Date.daysFrom at near
      omega
    · exact Int.not_lt.mp before
  exact first.unique least

end Series

/-- Of days that are at most `gap` apart, the last one that is not after a date is near to it. -/
theorem near_of_chain {gap : Int} {first last date : Date} {days : List Date}
    (chain : (first :: days).IsChain fun a b => b.daysFrom a ≤ gap)
    (ends : (first :: days).getLast? = some last) (after : first ≤ date)
    (before : date.daysFrom last < gap) :
    ∃ day ∈ first :: days, day ≤ date ∧ date.daysFrom day < gap := by
  induction days generalizing first with
  | nil =>
    cases ends
    exact ⟨first, List.mem_singleton.mpr rfl, after, before⟩
  | cons next rest ih =>
    rw [List.isChain_cons_cons] at chain
    obtain ⟨step, chain⟩ := chain
    by_cases reached : next ≤ date
    · obtain ⟨day, member, found⟩ := ih chain (by rwa [List.getLast?_cons_cons] at ends) reached
      exact ⟨day, List.mem_cons_of_mem _ member, found⟩
    · refine ⟨first, List.mem_cons_self, after, ?_⟩
      rw [Date.le_def] at reached
      unfold Date.daysFrom at step ⊢
      omega

end Rota
