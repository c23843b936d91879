import Rota.Pattern.Rule

/-!
What a rule that passes its check is known to satisfy: every number in it is in its range.
-/

namespace Rota

theorem require_ok {ε : Type} {holds : Prop} [Decidable holds] {fault : ε} :
    require holds fault = .ok () ↔ holds := by
  unfold require
  split <;> simp [*]

theorem requireSome_ok {α ε : Type} {value : Option α} {holds : α → Prop} [DecidablePred holds]
    {fault : α → ε} : requireSome value holds fault = .ok () ↔ ∀ a ∈ value, holds a := by
  cases value with
  | none => simp [requireSome]
  | some a => simp [requireSome, require_ok]

theorem checks_ok {ε : Type} {first rest : Except ε Unit} :
    (do first; rest) = .ok () ↔ first = .ok () ∧ rest = .ok () := by
  cases first with
  | error fault => simp [bind, Except.bind]
  | ok => simp [bind, Except.bind]

theorem none_outside {α : Type} {values : List α} {holds : α → Prop} [DecidablePred holds] :
    (∀ a ∈ values.find? fun a => !decide (holds a), False) ↔ ∀ a ∈ values, holds a := by
  cases found : values.find? fun a => !decide (holds a) with
  | none => simpa [List.find?_eq_none] using found
  | some a =>
    have outside := List.find?_some found
    have member := List.mem_of_find?_eq_some found
    constructor
    · intro never
      exact (never a rfl).elim
    · intro inside
      simp [inside a member] at outside

namespace DaySelection

def Valid (day : DaySelection) : Prop :=
  (∀ number ∈ day.dayOfMonth, 1 ≤ number.toNat ∧ number.toNat ≤ 31) ∧
  (∀ week ∈ day.weekOfMonth, 1 ≤ week.toNat ∧ week.toNat ≤ 5) ∧
  ∀ weekday ∈ day.dayOfWeek, weekday.toNat ≤ 6

theorem check_ok {day : DaySelection} : day.check = .ok () ↔ day.Valid := by
  unfold check Valid
  simp only [checks_ok, requireSome_ok, UInt32.le_iff_toNat_le, UInt8.le_iff_toNat_le]
  rfl

end DaySelection

namespace Rule

def Valid : Rule → Prop
  | monthly frequency day => 1 ≤ frequency.toNat ∧ frequency.toNat ≤ 12 ∧ day.Valid
  | yearly frequency months day =>
    (1 ≤ frequency.toNat ∧ frequency.toNat ≤ 10) ∧
      (∀ month ∈ months, 1 ≤ month.toNat ∧ month.toNat ≤ 12) ∧ day.Valid
  | quarterly frequency monthOfQuarter day =>
    (1 ≤ frequency.toNat ∧ frequency.toNat ≤ 4) ∧
      (∀ month ∈ monthOfQuarter, 1 ≤ month.toNat ∧ month.toNat ≤ 3) ∧ day.Valid
  | custom frequency _ daysOfWeek daysOfMonth monthsOfYear =>
    1 ≤ frequency.toNat ∧ (∀ day ∈ daysOfWeek, day.toNat ≤ 6) ∧
      (∀ day ∈ daysOfMonth, 1 ≤ day.toNat ∧ day.toNat ≤ 31) ∧
      ∀ month ∈ monthsOfYear, 1 ≤ month.toNat ∧ month.toNat ≤ 12

theorem check_ok {rule : Rule} : rule.check = .ok () ↔ rule.Valid := by
  cases rule with
  | monthly frequency day =>
    simp only [check, Valid, checks_ok, require_ok, DaySelection.check_ok,
      UInt32.le_iff_toNat_le]
    exact and_assoc
  | yearly frequency months day =>
    simp only [check, Valid, checks_ok, require_ok, requireSome_ok, none_outside,
      DaySelection.check_ok]
    simp only [UInt32.le_iff_toNat_le]
    rfl
  | quarterly frequency monthOfQuarter day =>
    simp only [check, Valid, checks_ok, require_ok, requireSome_ok, DaySelection.check_ok,
      UInt32.le_iff_toNat_le]
    rfl
  | custom frequency unit daysOfWeek daysOfMonth monthsOfYear =>
    simp only [check, Valid, checks_ok, require_ok, List.all_eq_true, decide_eq_true_eq,
      UInt32.le_iff_toNat_le, UInt8.le_iff_toNat_le]
    have positive : frequency ≠ 0 ↔ 1 ≤ frequency.toNat := by
      rw [Ne, ← UInt32.toNat_inj]
      exact Nat.pos_iff_ne_zero.symm
    rw [positive]
    rfl

end Rule
end Rota
