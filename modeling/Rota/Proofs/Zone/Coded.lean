import Mathlib.Data.List.Basic
import Rota.Proofs.Calendar.OfferedDay
import Rota.Proofs.Zone.Steady
import Rota.Zone.Coded

/-!
What makes the clock of a written table steady.
-/

namespace Rota

open Zone

namespace CodedZone

variable {since : Option Int} {before current next : Offset} {time : Int}
  {changes : List (Int × Offset)}

/-- A change to the offset that holds already may be left out. -/
theorem steadyFrom_of_repeat (step : StepsOn since before current current time)
    (steady : SteadyFrom (some time) current current changes) :
    SteadyFrom since before current changes := by
  cases changes with
  | nil => trivial
  | cons change rest =>
    obtain ⟨later, next⟩ := change
    obtain ⟨⟨ordered, rest⟩, steady⟩ := steady
    have ordered := ordered time rfl
    refine ⟨⟨fun start known => ?_, rest⟩, steady⟩
    have := step.1 start known
    omega

theorem withoutRepeats_steady (steady : SteadyFrom since before current changes) :
    SteadyFrom since before current (withoutRepeats current changes) := by
  induction changes generalizing since before current with
  | nil => trivial
  | cons change rest ih =>
    obtain ⟨time, next⟩ := change
    obtain ⟨step, steady⟩ := steady
    rw [withoutRepeats]
    split
    · next same =>
      subst same
      exact ih (steadyFrom_of_repeat step steady)
    · exact ⟨step, ih steady⟩

theorem mem_withoutRepeats {change : Int × Offset} (kept : change ∈ withoutRepeats current changes) :
    change ∈ changes := by
  induction changes generalizing current with
  | nil => exact kept
  | cons first rest ih =>
    obtain ⟨time, next⟩ := first
    rw [withoutRepeats] at kept
    split at kept
    · exact List.mem_cons_of_mem _ (ih kept)
    · rcases List.mem_cons.mp kept with rfl | kept
      · exact List.mem_cons_self
      · exact List.mem_cons_of_mem _ (ih kept)

end CodedZone

structure Offset.Small (offset : Offset) : Prop where
  above : -86400 < offset.seconds
  below : offset.seconds < 86400

/-- Changes after the first day of 1970, at whole or half minutes and two days apart, make a steady
clock. -/
theorem Zone.steadyFrom_of_apart {since : Option Int} {before current : Offset}
    {changes : List (Int × Offset)}
    (first : ∀ start ∈ since, ∀ change ∈ changes, start + 172800 ≤ change.1)
    (apart : changes.Pairwise fun one other => one.1 + 172800 ≤ other.1)
    (small : before.Small ∧ current.Small ∧ ∀ change ∈ changes, change.2.Small)
    (half : current.seconds % 30 = 0 ∧
      ∀ change ∈ changes, change.1 % 30 = 0 ∧ change.2.seconds % 30 = 0)
    (late : ∀ change ∈ changes, 86400 ≤ change.1) :
    SteadyFrom since before current changes := by
  induction changes generalizing since before current with
  | nil => trivial
  | cons change rest ih =>
    obtain ⟨time, next⟩ := change
    obtain ⟨smallBefore, smallCurrent, smallRest⟩ := small
    have smallNext := smallRest _ List.mem_cons_self
    have halfNext := half.2 _ List.mem_cons_self
    have lateNext := late _ List.mem_cons_self
    have := smallBefore.above
    have := smallCurrent.above
    have := smallBefore.below
    have := smallCurrent.below
    have := smallNext.above
    dsimp only at *
    -- Two offsets differ by less than two days, so stretches of that length keep their order.
    refine ⟨⟨fun start known => ?_, fun _ => by omega, fun _ => by omega⟩, ih ?_ ?_ ?_ ?_ ?_⟩
    · have := first start known _ List.mem_cons_self
      dsimp only at this
      omega
    · rintro _ ⟨⟩ change inside
      exact List.rel_of_pairwise_cons apart inside
    · exact apart.of_cons
    · exact ⟨smallCurrent, smallNext,
        fun change inside => smallRest change (List.mem_cons_of_mem _ inside)⟩
    · exact ⟨halfNext.2, fun change inside => half.2 change (List.mem_cons_of_mem _ inside)⟩
    · exact fun change inside => late change (List.mem_cons_of_mem _ inside)

namespace CodedZone

def FarApart (one other : Int × Offset) : Prop := one.1 + 172800 ≤ other.1

namespace YearlyChange

/-- Neither in January nor in December, and within three days of midnight of its day. -/
structure Inner (change : YearlyChange) : Prop where
  month : 2 ≤ change.month ∧ change.month ≤ 11
  week : 1 ≤ change.week
  near : -86400 ≤ change.seconds ∧ change.seconds ≤ 259200
  small : change.offset.Small
  half : change.seconds % 30 = 0 ∧ change.offset.seconds % 30 = 0

def monthIn (change : YearlyChange) (year : Int) : Int := year * 12 + (change.month - 1 : Int)

variable {one other : YearlyChange} {year : Int}

theorem wallIn_eq (inner : one.Inner) (written : 1970 ≤ year ∧ year ≤ lastYear) :
    ∃ wall, one.wallIn year = some wall ∧ wall % 30 = 0 ∧
      monthStart (one.monthIn year) * 86400 - 86400 ≤ wall ∧
      wall < monthStart (one.monthIn year + 1) * 86400 + 259200 := by
  have month := inner.month
  have near := inner.near
  have half := inner.half
  unfold lastYear at written
  obtain ⟨date, found, index, -⟩ := nthWeekdayOfMonth_inside one.weekday inner.week (by omega)
    (by omega) (show one.monthIn year = _ from rfl) (by unfold firstMonth monthIn; omega)
    (by unfold lastMonth monthIn; omega)
  have number := date.number_eq
  have day := date.day_bounds
  have next := monthStart_succ (one.monthIn year)
  rw [index] at number day
  refine ⟨_, by rw [wallIn, found], ?_, ?_, ?_⟩ <;> unfold secondsPerDay <;> omega

def Within (year time : Int) : Prop :=
  monthStart (year * 12 + 1) * 86400 - 172800 ≤ time ∧
    time < monthStart (year * 12 + 11) * 86400 + 345600

theorem within_year (inner : one.Inner) (held : other.offset.Small) {wall : Int}
    (low : monthStart (one.monthIn year) * 86400 - 86400 ≤ wall)
    (high : wall < monthStart (one.monthIn year + 1) * 86400 + 259200) :
    Within year (wall - other.offset.seconds) := by
  have month := inner.month
  have above := held.above
  have below := held.below
  have monthLow := monthStart_mono
    (show year * 12 + 1 ≤ one.monthIn year by unfold monthIn; omega)
  have monthHigh := monthStart_mono
    (show one.monthIn year + 1 ≤ year * 12 + 11 by unfold monthIn; omega)
  unfold Within
  omega

theorem far_of_month (first : one.Inner) (second : other.Inner) (earlier : one.month + 2 ≤ other.month)
    {wall wallOther : Int} (high : wall < monthStart (one.monthIn year + 1) * 86400 + 259200)
    (low : monthStart (other.monthIn year) * 86400 - 86400 ≤ wallOther) :
    wall - other.offset.seconds + 172800 ≤ wallOther - one.offset.seconds := by
  have above := first.small.above
  have below := first.small.below
  have aboveOther := second.small.above
  have belowOther := second.small.below
  have between := monthStart_le
    (show one.monthIn year + 1 < other.monthIn year by unfold monthIn; omega)
  have length := monthDays_bounds (one.monthIn year + 1)
  omega

end YearlyChange

open YearlyChange

variable {one other : YearlyChange} {year : Int}

/-- Two yearly changes that can be told apart by their months. -/
structure Alternating (one other : YearlyChange) : Prop where
  first : one.Inner
  second : other.Inner
  months : one.month + 2 ≤ other.month ∨ other.month + 2 ≤ one.month

theorem yearOf_spec (alternating : Alternating one other) (written : 1970 ≤ year ∧ year ≤ lastYear) :
    (yearOf one other year).Pairwise FarApart ∧
    ∀ change ∈ yearOf one other year, Within year change.1 ∧ change.2.Small ∧
      change.1 % 30 = 0 ∧ change.2.seconds % 30 = 0 := by
  obtain ⟨first, second, months⟩ := alternating
  obtain ⟨wall, found, half, low, high⟩ := wallIn_eq first written
  obtain ⟨wallOther, foundOther, halfOther, lowOther, highOther⟩ := wallIn_eq second written
  have within := within_year first second.small low high
  have withinOther := within_year second first.small lowOther highOther
  have := first.half
  have := second.half
  have both (a b : Int × Offset) (far : FarApart a b) :
      [a, b].Pairwise FarApart := by simpa using far
  simp only [yearOf, found, foundOther]
  split
  · next before =>
    refine ⟨both _ _ ?_, ?_⟩
    · rcases months with earlier | later
      · exact far_of_month first second earlier high lowOther
      · have := far_of_month second first later highOther low
        omega
    · simp only [List.mem_cons, List.not_mem_nil, or_false, forall_eq_or_imp, forall_eq]
      exact ⟨⟨within, first.small, by omega, by omega⟩,
        ⟨withinOther, second.small, by omega, by omega⟩⟩
  · next after =>
    refine ⟨both _ _ ?_, ?_⟩
    · rcases months with earlier | later
      · have := far_of_month first second earlier high lowOther
        omega
      · exact far_of_month second first later highOther low
    · simp only [List.mem_cons, List.not_mem_nil, or_false, forall_eq_or_imp, forall_eq]
      exact ⟨⟨withinOther, second.small, by omega, by omega⟩,
        ⟨within, first.small, by omega, by omega⟩⟩

theorem far_of_year {early late : Int} (apart : early < late) {a b : Int × Offset}
    (first : Within early a.1) (second : Within late b.1) : FarApart a b := by
  have between := monthStart_mono (show early * 12 + 11 + 1 + 1 ≤ late * 12 + 1 by omega)
  have december := monthStart_succ (early * 12 + 11)
  have january := monthStart_succ (early * 12 + 11 + 1)
  have := monthDays_bounds (early * 12 + 11)
  have := monthDays_bounds (early * 12 + 11 + 1)
  unfold Within at first second
  unfold FarApart
  omega

theorem years_spec (alternating : Alternating one other) {first : Int} (written : 1970 ≤ first)
    (count : Nat) (ends : first + count ≤ lastYear + 1) :
    ((List.range count).flatMap fun i : Nat => yearOf one other (first + i)).Pairwise FarApart ∧
    ∀ change ∈ (List.range count).flatMap fun i : Nat => yearOf one other (first + i),
      monthStart (first * 12) * 86400 ≤ change.1 ∧ change.2.Small ∧
      change.1 % 30 = 0 ∧ change.2.seconds % 30 = 0 := by
  have inside (i : Nat) (listed : i ∈ List.range count) := yearOf_spec alternating
    (show 1970 ≤ first + i ∧ first + i ≤ lastYear by rw [List.mem_range] at listed; omega)
  refine ⟨List.pairwise_flatMap.mpr ⟨fun i listed => (inside i listed).1, ?_⟩, ?_⟩
  · refine List.Pairwise.imp_of_mem (R := (· < ·)) (fun {i j} listed listedJ before => ?_)
      List.pairwise_lt_range
    intro a inA b inB
    exact far_of_year (by omega) ((inside i listed).2 a inA).1 ((inside j listedJ).2 b inB).1
  · intro change listed
    obtain ⟨i, listed, there⟩ := List.mem_flatMap.mp listed
    obtain ⟨within, rest⟩ := (inside i listed).2 change there
    refine ⟨?_, rest⟩
    have start := monthStart_mono (show first * 12 ≤ (first + i) * 12 by omega)
    have january := monthStart_succ ((first + i) * 12)
    have := monthDays_bounds ((first + i) * 12)
    unfold Within at within
    omega

end CodedZone
end Rota
