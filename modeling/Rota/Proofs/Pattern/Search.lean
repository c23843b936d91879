import Rota.Proofs.Pattern.Occurs

/-!
The search over periods. A list of months that is in order, holds every month in phase from the
start on up to its own end, and goes past the month of the start, leads to the first day that the
rule picks at or after the start. Each kind of rule looks through such a list. A month after the
end of the calendar offers no day that counts, whatever its year wraps round to.
-/

namespace Rota

theorem alignUp_spec (anchor start : Int) {step : Int} (positive : 0 < step) :
    start ≤ alignUp anchor start step ∧ alignUp anchor start step < start + step ∧
      step ∣ alignUp anchor start step - anchor := by
  have lower := Int.emod_nonneg (start - anchor) (show step ≠ 0 by omega)
  have upper := Int.emod_lt_of_pos (start - anchor) positive
  have whole : step ∣ start - anchor - (start - anchor) % step := Int.dvd_self_sub_emod
  unfold alignUp
  dsimp only
  split
  · rename_i aligned
    rw [aligned, Int.sub_zero] at whole
    exact ⟨by omega, by omega, whole⟩
  · refine ⟨by omega, by omega, ?_⟩
    rw [show start + step - (start - anchor) % step - anchor =
      start - anchor - (start - anchor) % step + step by omega]
    exact Int.dvd_add whole (Int.dvd_refl step)

/-- Of two numbers a multiple of `step` apart, the greater is at least a whole step further. -/
theorem step_le {a b step : Int} (anchor : Int) (first : step ∣ a - anchor) (second : step ∣ b - anchor)
    (less : a < b) : a + step ≤ b := by
  have apart : step ∣ b - a := by
    have difference := Int.dvd_sub second first
    rwa [show b - anchor - (a - anchor) = b - a by omega] at difference
  have bound := Int.le_of_dvd (by omega) apart
  omega

theorem alignUp_le {anchor start step other : Int} (positive : 0 < step) (after : start ≤ other)
    (aligned : step ∣ other - anchor) : alignUp anchor start step ≤ other := by
  obtain ⟨-, near, whole⟩ := alignUp_spec anchor start positive
  by_cases less : other < alignUp anchor start step
  · have bound := step_le anchor aligned whole less
    omega
  · omega

theorem max_spec (start anchor : Date) :
    anchor ≤ max start anchor ∧ (anchor < max start anchor ↔ anchor < start) ∧
      ∀ date : Date, max start anchor ≤ date ↔ start ≤ date ∧ anchor ≤ date := by
  have chosen : max start anchor = if start ≤ anchor then anchor else start := rfl
  rw [chosen]
  simp only [Date.le_def, Date.lt_def]
  split
  · exact ⟨Int.le_refl _, by omega, by omega⟩
  · exact ⟨by omega, Iff.rfl, by omega⟩

section Search
variable {pick : Int → Nat → Checked (Option Date)} {start : Date} {months : List Int}

def OffersNothing (pick : Int → Nat → Checked (Option Date)) (start : Date) (index : Int) : Prop :=
  pick (splitMonthIndex index).1 (splitMonthIndex index).2 = .ok none ∨
    ∃ date, pick (splitMonthIndex index).1 (splitMonthIndex index).2 = .ok (some date) ∧
      date < start

theorem firstFrom_cons (index : Int) (rest : List (Int × Nat)) {found : Option Date}
    (picked : pick (splitMonthIndex index).1 (splitMonthIndex index).2 = .ok found) :
    firstFrom pick start (splitMonthIndex index :: rest) =
      match found with
      | none => .ok none
      | some date => if start ≤ date then .ok (some date) else firstFrom pick start rest := by
  cases found with
  | none => simp [firstFrom, picked, bind, Except.bind, pure, Except.pure]
  | some date =>
    by_cases reached : start ≤ date <;>
      simp [firstFrom, picked, reached, bind, Except.bind, pure, Except.pure]

theorem firstFrom_nothing (nothing : ∀ index ∈ months, OffersNothing pick start index) :
    firstFrom pick start (months.map splitMonthIndex) = .ok none := by
  induction months with
  | nil => rfl
  | cons index rest ih =>
    have tail := ih fun other member => nothing other (List.mem_cons_of_mem index member)
    rcases nothing index List.mem_cons_self with picked | ⟨date, picked, before⟩
    · rw [List.map_cons, firstFrom_cons index _ picked]
    · have early : ¬ start ≤ date := by
        rw [Date.le_def]
        rw [Date.lt_def] at before
        omega
      rw [List.map_cons, firstFrom_cons index _ picked]
      simp only [early, ↓reduceIte, tail]

section First
variable {meets : Date → Prop} {index : Int} {rest : List Int}

/-- What counts after the start is not in a month before the first of the list. -/
theorem first_month_le (least : ∀ later ∈ rest, index ≤ later) {other : Date}
    (covered : other.monthIndex ∈ index :: rest ∨ ∀ m ∈ index :: rest, m < other.monthIndex) :
    index ≤ other.monthIndex := by
  rcases covered with listed | past
  · rcases List.mem_cons.mp listed with head | later
    · omega
    · exact least _ later
  · exact Int.le_of_lt (past index List.mem_cons_self)

theorem isFirst_here (least : ∀ later ∈ rest, index ≤ later)
    (single : ∀ a b, meets a → meets b → a.monthIndex = b.monthIndex → a = b)
    (covered : ∀ date, meets date → start ≤ date →
      date.monthIndex ∈ index :: rest ∨ ∀ m ∈ index :: rest, m < date.monthIndex)
    {date : Date} (met : meets date) (inMonth : date.monthIndex = index) (reached : start ≤ date) :
    IsFirst meets start (some date) := by
  refine ⟨met, reached, ?_⟩
  intro other otherMet after
  have order := first_month_le least (covered other otherMet after)
  by_cases same : other.monthIndex = index
  · rw [single other date otherMet met (same.trans inMonth.symm)]
    exact Int.le_refl _
  · apply Int.le_of_lt
    apply Date.lt_of_month_lt
    omega

theorem isFirst_beyond (least : ∀ later ∈ rest, index ≤ later) (outside : lastMonth < index)
    (covered : ∀ date, meets date → start ≤ date →
      date.monthIndex ∈ index :: rest ∨ ∀ m ∈ index :: rest, m < date.monthIndex) :
    IsFirst meets start none := by
  intro other otherMet after
  have bound := other.month_inside
  have order := first_month_le least (covered other otherMet after)
  omega

end First

theorem firstFrom_first {meets : Date → Prop} (sorted : months.Pairwise (· ≤ ·))
    (offered : ∀ index ∈ months, index ≤ lastMonth → ∃ date,
      pick (splitMonthIndex index).1 (splitMonthIndex index).2 = .ok (some date) ∧
        date.monthIndex = index ∧ meets date)
    (beyond : ∀ index ∈ months, lastMonth < index → OffersNothing pick start index)
    (single : ∀ a b, meets a → meets b → a.monthIndex = b.monthIndex → a = b)
    (covered : ∀ date, meets date → start ≤ date →
      date.monthIndex ∈ months ∨ ∀ index ∈ months, index < date.monthIndex)
    (reaching : ∃ index ∈ months, start.monthIndex < index) :
    ∃ answer, firstFrom pick start (months.map splitMonthIndex) = .ok answer ∧
      IsFirst meets start answer := by
  induction months with
  | nil => simp at reaching
  | cons index rest ih =>
    obtain ⟨least, tailSorted⟩ := List.pairwise_cons.mp sorted
    by_cases inside : index ≤ lastMonth
    · obtain ⟨date, picked, inMonth, met⟩ := offered index List.mem_cons_self inside
      rw [List.map_cons, firstFrom_cons index _ picked]
      by_cases reached : start ≤ date
      · refine ⟨some date, by simp only [reached, ↓reduceIte], ?_⟩
        exact isFirst_here least single covered met inMonth reached
      · -- The day of this month is before the start, so the rest of the list decides.
        simp only [reached, ↓reduceIte]
        apply ih tailSorted
        · exact fun other member => offered other (List.mem_cons_of_mem index member)
        · exact fun other member => beyond other (List.mem_cons_of_mem index member)
        · intro other otherMet after
          rcases covered other otherMet after with listed | past
          · rcases List.mem_cons.mp listed with head | later
            · rw [single other date otherMet met (head.trans inMonth.symm)] at after
              exact (reached after).elim
            · exact Or.inl later
          · exact Or.inr fun m member => past m (List.mem_cons_of_mem index member)
        · obtain ⟨further, member, past⟩ := reaching
          rcases List.mem_cons.mp member with head | later
          · have reachable := Date.lt_of_month_lt (show start.monthIndex < date.monthIndex by omega)
            exact (reached (Int.le_of_lt reachable)).elim
          · exact ⟨further, later, past⟩
    · have nothing : ∀ other ∈ index :: rest, OffersNothing pick start other := by
        intro other member
        apply beyond other member
        rcases List.mem_cons.mp member with head | later
        · omega
        · have bound := least other later
          omega
      exact ⟨none, firstFrom_nothing nothing, isFirst_beyond least (by omega) covered⟩

end Search
end Rota
