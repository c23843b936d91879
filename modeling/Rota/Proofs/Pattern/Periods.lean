import Rota.Proofs.Pattern.Search

/-!
The months that each kind of rule looks through: the first period in phase at or after the one of
the start and the one after it.
-/

namespace Rota

theorem eraseReps_loop (a : Nat) (rest kept : List Nat) :
    (List.eraseRepsBy.loop (· == ·) a rest kept).Sublist (kept.reverse ++ a :: rest) ∧
    ∀ b, b ∈ List.eraseRepsBy.loop (· == ·) a rest kept ↔ b ∈ kept ∨ b = a ∨ b ∈ rest := by
  induction rest generalizing a kept with
  | nil => simp [List.eraseRepsBy.loop, or_comm]
  | cons next rest ih =>
    by_cases same : a = next
    · subst same
      obtain ⟨sublist, members⟩ := ih a kept
      simp only [List.eraseRepsBy.loop, BEq.rfl]
      constructor
      · exact sublist.trans (List.Sublist.append_left (List.sublist_cons_self _ _) _)
      · intro b
        rw [members]
        simp
    · have different : (a == next) = false := by simpa using same
      obtain ⟨sublist, members⟩ := ih next (a :: kept)
      simp only [List.eraseRepsBy.loop, different]
      constructor
      · simpa using sublist
      · intro b
        rw [members]
        simp [or_assoc, or_left_comm]

theorem dedupSorted_pairwise (months : List UInt32) : (dedupSorted months).Pairwise (· ≤ ·) := by
  have sorted : ((months.map UInt32.toNat).mergeSort).Pairwise (· ≤ ·) := by
    have ordered := @List.pairwise_mergeSort Nat (fun a b => decide (a ≤ b))
      (by simp; omega) (by simp; omega) (months.map UInt32.toNat)
    simpa using ordered
  unfold dedupSorted List.eraseReps List.eraseRepsBy
  cases listed : (months.map UInt32.toNat).mergeSort with
  | nil => simp
  | cons first rest =>
    rw [listed] at sorted
    exact List.Pairwise.sublist (eraseReps_loop first rest []).1 sorted

theorem mem_dedupSorted {months : List UInt32} {month : Nat} :
    month ∈ dedupSorted months ↔ ∃ listed ∈ months, listed.toNat = month := by
  have members : month ∈ (months.map UInt32.toNat).mergeSort ↔
      ∃ listed ∈ months, listed.toNat = month := by simp
  rw [← members]
  unfold dedupSorted List.eraseReps List.eraseRepsBy
  cases (months.map UInt32.toNat).mergeSort with
  | nil => simp
  | cons first rest =>
    rw [(eraseReps_loop first rest []).2]
    simp

/-- The months make up a search: in order, in phase, with none left out up to their end, and past
the month of the start. -/
structure Searches (rule : Rule) (anchor start : Date) (months : List Int) : Prop where
  sorted : months.Pairwise (· ≤ ·)
  inPhase : ∀ index ∈ months, rule.InPhase anchor index
  fromFirst : ∀ index ∈ months, firstMonth ≤ index
  covered : ∀ index, rule.InPhase anchor index → start.monthIndex ≤ index →
    index ∈ months ∨ ∀ other ∈ months, other < index
  reaching : ∃ index ∈ months, start.monthIndex < index

/-- The months of two periods of equal width, a step apart, at these offsets in each. -/
def periodMonths (width period step : Int) (offsets : List Int) : List Int :=
  [period, period + step].flatMap fun number => offsets.map (width * number + ·)

theorem mem_periodMonths {width period step index : Int} {offsets : List Int} :
    index ∈ periodMonths width period step offsets ↔
      ∃ offset ∈ offsets, index = width * period + offset ∨
        index = width * period + width * step + offset := by
  simp only [periodMonths, List.flatMap_cons, List.flatMap_nil, List.append_nil,
    List.mem_append, List.mem_map, Int.mul_add]
  constructor
  · rintro (⟨offset, member, rfl⟩ | ⟨offset, member, rfl⟩)
    · exact ⟨offset, member, Or.inl rfl⟩
    · exact ⟨offset, member, Or.inr rfl⟩
  · rintro ⟨offset, member, rfl | rfl⟩
    · exact Or.inl ⟨offset, member, rfl⟩
    · exact Or.inr ⟨offset, member, rfl⟩

section Periods
variable {width step : Int} {offsets : List Int}

theorem periodMonths_sorted (period : Int) (positive : 0 < step)
    (inside : ∀ offset ∈ offsets, 0 ≤ offset ∧ offset < width)
    (sorted : offsets.Pairwise (· ≤ ·)) :
    (periodMonths width period step offsets).Pairwise (· ≤ ·) := by
  have shifted (number : Int) : (offsets.map (width * number + ·)).Pairwise (· ≤ ·) :=
    sorted.map _ fun a b ordered => by omega
  simp only [periodMonths, List.flatMap_cons, List.flatMap_nil, List.append_nil]
  apply List.pairwise_append.mpr
  refine ⟨shifted period, shifted (period + step), ?_⟩
  intro a first b second
  obtain ⟨x, memberX, rfl⟩ := List.mem_map.mp first
  obtain ⟨y, memberY, rfl⟩ := List.mem_map.mp second
  have boundX := inside x memberX
  have boundY := inside y memberY
  have whole : width * 1 ≤ width * step :=
    Int.mul_le_mul_of_nonneg_left (by omega) (by omega)
  rw [Int.mul_add]
  omega

section InPhase
variable {period anchorPeriod index : Int} (wide : 0 < width)
  (inside : ∀ offset ∈ offsets, 0 ≤ offset ∧ offset < width) (whole : step ∣ period - anchorPeriod)
include wide inside whole

theorem periodMonths_inPhase (member : index ∈ periodMonths width period step offsets) :
    step ∣ index / width - anchorPeriod ∧ index % width ∈ offsets := by
  obtain ⟨offset, listed, same⟩ := mem_periodMonths.mp member
  obtain ⟨lower, upper⟩ := inside offset listed
  rcases same with rfl | rfl
  · obtain ⟨quotient, rest⟩ := (Int.ediv_emod_unique wide).mpr
      ⟨show offset + width * period = width * period + offset by omega, lower, upper⟩
    rw [quotient, rest]
    exact ⟨whole, listed⟩
  · obtain ⟨quotient, rest⟩ := (Int.ediv_emod_unique wide).mpr
      ⟨show offset + width * (period + step) = width * period + width * step + offset by
        rw [Int.mul_add]; omega, lower, upper⟩
    rw [quotient, rest, show period + step - anchorPeriod = period - anchorPeriod + step by omega]
    exact ⟨Int.dvd_add whole (Int.dvd_refl step), listed⟩

/-- A month in phase from the first period on is one of theirs, or comes after both. -/
theorem periodMonths_covered (positive : 0 < step) (multiple : step ∣ index / width - anchorPeriod)
    (listed : index % width ∈ offsets) (least : period ≤ index / width) :
    index ∈ periodMonths width period step offsets ∨
      ∀ other ∈ periodMonths width period step offsets, other < index := by
  have parts := Int.mul_ediv_add_emod index width
  by_cases first : index / width = period
  · rw [first] at parts
    exact Or.inl (mem_periodMonths.mpr ⟨_, listed, Or.inl parts.symm⟩)
  · have second := step_le anchorPeriod whole multiple (by omega)
    by_cases next : index / width = period + step
    · rw [next, Int.mul_add] at parts
      exact Or.inl (mem_periodMonths.mpr ⟨_, listed, Or.inr parts.symm⟩)
    · refine Or.inr fun other member => ?_
      obtain ⟨offset, otherListed, same⟩ := mem_periodMonths.mp member
      have upper := (inside offset otherListed).2
      have remains := Int.emod_nonneg index (show width ≠ 0 by omega)
      have further : 0 < width * step := Int.mul_pos wide positive
      have beyond : width * (period + step + 1) ≤ width * (index / width) :=
        Int.mul_le_mul_of_nonneg_left (by omega) (by omega)
      rw [Int.mul_add, Int.mul_add] at beyond
      omega

end InPhase

/-- Two periods, from the first one in phase on, make up a search. -/
theorem searches_of_periods {rule : Rule} {anchor start : Date} {anchorPeriod : Int}
    (positive : 0 < step) (wide : 0 < width) (calendar : width ∣ firstMonth)
    (inside : ∀ offset ∈ offsets, 0 ≤ offset ∧ offset < width)
    (sorted : offsets.Pairwise (· ≤ ·)) (nonempty : ∃ offset, offset ∈ offsets)
    (phase : ∀ index, rule.InPhase anchor index ↔
      step ∣ index / width - anchorPeriod ∧ index % width ∈ offsets) :
    Searches rule anchor start (periodMonths width
      (alignUp anchorPeriod (start.monthIndex / width) step) step offsets) := by
  obtain ⟨after, -, whole⟩ :=
    alignUp_spec anchorPeriod (start.monthIndex / width) positive
  -- Only what is known of the first period counts from here on.
  obtain ⟨period, known⟩ : ∃ period, period = alignUp anchorPeriod (start.monthIndex / width) step :=
    ⟨_, rfl⟩
  rw [← known] at after whole ⊢
  have firstInside := start.month_inside.1
  have started := Int.mul_ediv_add_emod start.monthIndex width
  have remainder := Int.emod_lt_of_pos start.monthIndex wide
  have further : width * 1 ≤ width * step :=
    Int.mul_le_mul_of_nonneg_left (by omega) (by omega)
  have later : width * (start.monthIndex / width) ≤ width * period :=
    Int.mul_le_mul_of_nonneg_left after (by omega)
  constructor
  · exact periodMonths_sorted period positive inside sorted
  · intro index member
    exact (phase index).mpr (periodMonths_inPhase wide inside whole member)
  · intro index member
    obtain ⟨offset, listed, same⟩ := mem_periodMonths.mp member
    have lower := (inside offset listed).1
    -- The calendar begins with a whole period, so no month of a period from then on lies before it.
    obtain ⟨count, exactly⟩ := calendar
    have counted : count ≤ start.monthIndex / width := by
      apply Int.le_ediv_of_mul_le wide
      rw [Int.mul_comm]
      omega
    have reached : width * count ≤ width * (start.monthIndex / width) :=
      Int.mul_le_mul_of_nonneg_left counted (by omega)
    omega
  · intro index matching reached
    obtain ⟨multiple, listed⟩ := (phase index).mp matching
    have notBefore : start.monthIndex / width ≤ index / width := Int.ediv_le_ediv wide reached
    have least : period ≤ index / width := known ▸ alignUp_le positive notBefore multiple
    exact periodMonths_covered wide inside whole positive multiple listed least
  · obtain ⟨offset, listed⟩ := nonempty
    have lower := (inside offset listed).1
    refine ⟨width * period + width * step + offset,
      mem_periodMonths.mpr ⟨offset, listed, Or.inr rfl⟩, ?_⟩
    omega

theorem periodMonths_near {start : Date} {anchorPeriod index : Int} (positive : 0 < step)
    (wide : 0 < width) (inside : ∀ offset ∈ offsets, 0 ≤ offset ∧ offset < width)
    (member : index ∈ periodMonths width
      (alignUp anchorPeriod (start.monthIndex / width) step) step offsets) :
    index < start.monthIndex + 2 * (width * step) := by
  obtain ⟨-, near, -⟩ :=
    alignUp_spec anchorPeriod (start.monthIndex / width) positive
  obtain ⟨offset, listed, same⟩ := mem_periodMonths.mp member
  have upper := (inside offset listed).2
  have started := Int.mul_ediv_add_emod start.monthIndex width
  have remainder := Int.emod_nonneg start.monthIndex (show width ≠ 0 by omega)
  have further : width * 1 ≤ width * step :=
    Int.mul_le_mul_of_nonneg_left (by omega) (by omega)
  have bound : width * (alignUp anchorPeriod (start.monthIndex / width) step + 1) ≤
      width * (start.monthIndex / width + step) :=
    Int.mul_le_mul_of_nonneg_left (by omega) (by omega)
  rw [Int.mul_add, Int.mul_add] at bound
  omega

end Periods

theorem stride_eq {frequency : UInt32} (positive : 1 ≤ frequency.toNat) :
    stride frequency = (frequency.toNat : Int) := by
  unfold stride
  omega

theorem splitQuarterIndex_eq {quarter : Int} {month : Nat} (lower : 1 ≤ month) (upper : month ≤ 3) :
    splitQuarterIndex quarter month = splitMonthIndex (3 * quarter + (month - 1 : Int)) := by
  unfold splitQuarterIndex splitMonthIndex
  rw [show (3 * quarter + (month - 1 : Int)) / 12 = quarter / 4 by omega,
    show ((3 * quarter + (month - 1 : Int)) % 12).toNat + 1 = (quarter % 4).toNat * 3 + month
      by omega]

theorem splitMonthIndex_eq {year : Int} {month : Nat} (lower : 1 ≤ month) (upper : month ≤ 12) :
    splitMonthIndex (12 * year + (month - 1 : Int)) = (wrapYear year, month) := by
  unfold splitMonthIndex
  rw [show (12 * year + (month - 1 : Int)) / 12 = year by omega,
    show ((12 * year + (month - 1 : Int)) % 12).toNat + 1 = month by omega]

/-- The month with this index is the last that a word can count years up to, and the month after
it has none. -/
def overflowMonth : Int := largestYear * 12 + 11

/-- The months that the search of a rule looks through. The last conjuncts say that no index wraps
round to a year at or after that of the anchor, and that only a step of whole years can reach the
month with no successor. -/
def HasSearch (rule : Rule) (anchor start : Date) : Prop :=
  ∃ months : List Int,
    rule.nextOnOrAfter anchor start =
      firstFrom (rule.selection.rule.resolve anchor) start (months.map splitMonthIndex) ∧
    Searches rule anchor start months ∧
    ∀ index ∈ months, index < anchor.monthIndex + 4294967296 * 12 ∧ index ≠ overflowMonth

theorem monthly_hasSearch {frequency : UInt32} {day : DaySelection}
    (valid : (Rule.monthly frequency day).Valid) (anchor start : Date) :
    HasSearch (.monthly frequency day) anchor start := by
  obtain ⟨positive, small, -⟩ := valid
  have early := anchor.month_inside
  have late := start.month_inside
  refine ⟨periodMonths 1 (alignUp anchor.monthIndex (start.monthIndex / 1) frequency.toNat)
    frequency.toNat [0], ?_, ?_, ?_⟩
  · simp [Rule.nextOnOrAfter, Rule.monthlyPeriods, Rule.selection, periodMonths,
      stride_eq positive]
  · apply searches_of_periods (by omega) (by omega) (by decide) (by simp) (by simp) ⟨0, by simp⟩
    intro index
    simp [Rule.InPhase]
  · intro index member
    have near := periodMonths_near (by omega) (by omega) (by simp) member
    unfold firstMonth lastMonth overflowMonth largestYear at *
    omega

theorem quarterly_hasSearch {frequency : UInt32} {monthOfQuarter : Option UInt32}
    {day : DaySelection} (valid : (Rule.quarterly frequency monthOfQuarter day).Valid)
    (anchor start : Date) : HasSearch (.quarterly frequency monthOfQuarter day) anchor start := by
  obtain ⟨⟨positive, small⟩, validMonth, -⟩ := valid
  have early := anchor.month_inside
  have late := start.month_inside
  obtain ⟨month, known⟩ : ∃ month, month = (monthOfQuarter.getD 1).toNat := ⟨_, rfl⟩
  have named : 1 ≤ month ∧ month ≤ 3 := by
    cases monthOfQuarter with
    | none => simp [known]
    | some given => simpa [known] using validMonth given rfl
  have inside : ∀ offset ∈ [(month - 1 : Int)], 0 ≤ offset ∧ offset < 3 := by
    simp
    omega
  refine ⟨periodMonths 3 (alignUp (anchor.monthIndex / 3) (start.monthIndex / 3) frequency.toNat)
    frequency.toNat [(month - 1 : Int)], ?_, ?_, ?_⟩
  · have clamped : max 1 (min 3 month) = month := by omega
    simp [Rule.nextOnOrAfter, Rule.quarterlyPeriods, Rule.selection, periodMonths,
      stride_eq positive, Date.quarterIndex_eq, ← known, clamped,
      splitQuarterIndex_eq named.1 named.2]
  · apply searches_of_periods (by omega) (by omega) (by decide) inside (by simp) ⟨_, List.mem_cons_self⟩
    intro index
    simp only [Rule.InPhase, ← known, List.mem_singleton]
    constructor <;> (rintro ⟨whole, rest⟩; exact ⟨whole, by omega⟩)
  · intro index member
    have near := periodMonths_near (by omega) (by omega) inside member
    unfold firstMonth lastMonth overflowMonth largestYear at *
    omega

def listedMonths (months : List UInt32) (anchor : Date) : List Nat :=
  if months.isEmpty then [anchor.month] else dedupSorted months

theorem listedMonths_named {months : List UInt32} (anchor : Date)
    (valid : ∀ month ∈ months, 1 ≤ month.toNat ∧ month.toNat ≤ 12) :
    ∀ month ∈ listedMonths months anchor, 1 ≤ month ∧ month ≤ 12 := by
  intro month member
  unfold listedMonths at member
  split at member
  · have named := anchor.monthAndDay_of_date
    rw [List.mem_singleton.mp member]
    omega
  · obtain ⟨listed, given, rfl⟩ := mem_dedupSorted.mp member
    exact valid listed given

theorem listedMonths_sorted (months : List UInt32) (anchor : Date) :
    (listedMonths months anchor).Pairwise (· ≤ ·) := by
  unfold listedMonths
  split
  · simp
  · exact dedupSorted_pairwise months

theorem listedMonths_nonempty (months : List UInt32) (anchor : Date) :
    ∃ month, month ∈ listedMonths months anchor := by
  unfold listedMonths
  cases months with
  | nil => exact ⟨anchor.month, by simp⟩
  | cons first rest => exact ⟨first.toNat, by simp [mem_dedupSorted]⟩

theorem mem_listedMonths {months : List UInt32} {anchor : Date} {month : Nat} :
    month ∈ listedMonths months anchor ↔
      if months = [] then month = anchor.month else ∃ listed ∈ months, month = listed.toNat := by
  unfold listedMonths
  cases months with
  | nil => simp
  | cons first rest => simp [mem_dedupSorted, eq_comm]

def listedOffsets (months : List UInt32) (anchor : Date) : List Int :=
  (listedMonths months anchor).map fun month : Nat => (month : Int) - 1

theorem mem_listedOffsets {months : List UInt32} {anchor : Date} {offset : Int} :
    offset ∈ listedOffsets months anchor ↔
      if months = [] then offset + 1 = anchor.month
      else ∃ listed ∈ months, offset + 1 = listed.toNat := by
  simp only [listedOffsets, List.mem_map, mem_listedMonths]
  split
  · exact ⟨fun ⟨month, same, place⟩ => by omega, fun place => ⟨_, rfl, by omega⟩⟩
  · exact ⟨fun ⟨month, ⟨listed, given, same⟩, place⟩ => ⟨listed, given, by omega⟩,
      fun ⟨listed, given, place⟩ => ⟨_, ⟨listed, given, rfl⟩, by omega⟩⟩

theorem listedOffsets_sorted (months : List UInt32) (anchor : Date) :
    (listedOffsets months anchor).Pairwise (· ≤ ·) :=
  (listedMonths_sorted months anchor).map _ fun _ _ ordered => by omega

section Yearly
variable {months : List UInt32} {anchor : Date}
  (named : ∀ month ∈ listedMonths months anchor, 1 ≤ month ∧ month ≤ 12)
include named

theorem listedOffsets_inside : ∀ offset ∈ listedOffsets months anchor, 0 ≤ offset ∧ offset < 12 := by
  intro offset member
  obtain ⟨month, listed, rfl⟩ := List.mem_map.mp member
  have range := named month listed
  omega

theorem splitMonthIndex_listedOffsets (year : Int) :
    ((listedOffsets months anchor).map (12 * year + ·)).map splitMonthIndex =
      (listedMonths months anchor).map fun month => (wrapYear year, month) := by
  rw [listedOffsets, List.map_map, List.map_map]
  apply List.map_congr_left
  intro month listed
  obtain ⟨lower, upper⟩ := named month listed
  exact splitMonthIndex_eq lower upper

end Yearly

theorem yearly_hasSearch {frequency : UInt32} {months : List UInt32} {day : DaySelection}
    (valid : (Rule.yearly frequency months day).Valid) (anchor start : Date) :
    HasSearch (.yearly frequency months day) anchor start := by
  obtain ⟨⟨positive, small⟩, validMonths, -⟩ := valid
  have early := anchor.month_inside
  have late := start.month_inside
  have named := listedMonths_named anchor validMonths
  have inside := listedOffsets_inside named
  refine ⟨periodMonths 12 (alignUp (anchor.monthIndex / 12) (start.monthIndex / 12) frequency.toNat)
    frequency.toNat (listedOffsets months anchor), ?_, ?_, ?_⟩
  · simp only [Rule.nextOnOrAfter, Rule.yearlyPeriods, Rule.selection, periodMonths,
      List.flatMap_cons, List.flatMap_nil, List.append_nil, List.map_append,
      splitMonthIndex_listedOffsets named, stride_eq positive, Date.year_eq]
    rfl
  · obtain ⟨month, listed⟩ := listedMonths_nonempty months anchor
    apply searches_of_periods (by omega) (by omega) (by decide) inside
      (listedOffsets_sorted months anchor) ⟨_, List.mem_map_of_mem listed⟩
    intro index
    rw [mem_listedOffsets]
    rfl
  · intro index member
    have near := periodMonths_near (by omega) (by omega) inside member
    unfold firstMonth lastMonth overflowMonth largestYear at *
    omega

/-- The last month that lies whole steps after the month of the anchor and not after that of the
start. -/
def stepBase (step : Int) (anchor start : Date) : Int :=
  anchor.monthIndex + max 0 (start.monthIndex - anchor.monthIndex) / step * step

theorem steppedMonths_eq (step : Int) (anchor start : Date) :
    Rule.steppedMonths step anchor start =
      [stepBase step anchor start, stepBase step anchor start + step].map splitMonthIndex := by
  simp only [Rule.steppedMonths, stepBase, List.map_cons, List.map_nil, Int.add_mul, Int.one_mul,
    Int.add_assoc]

section Steps
variable {step : Int} {anchor start : Date}

-- The base is the anchor's own month when no whole step fits, and a step past it otherwise.
theorem stepBase_spec (positive : 0 < step) (ordered : anchor.monthIndex ≤ start.monthIndex) :
    (∃ steps : Nat, stepBase step anchor start = anchor.monthIndex + steps * step) ∧
    stepBase step anchor start ≤ start.monthIndex ∧
    start.monthIndex < stepBase step anchor start + step ∧
    (stepBase step anchor start = anchor.monthIndex ∨
      step ≤ stepBase step anchor start - anchor.monthIndex) := by
  have elapsed : max 0 (start.monthIndex - anchor.monthIndex) =
      start.monthIndex - anchor.monthIndex := by omega
  have notNegative : 0 ≤ (start.monthIndex - anchor.monthIndex) / step :=
    Int.ediv_nonneg (by omega) (by omega)
  have below := Int.ediv_mul_le (start.monthIndex - anchor.monthIndex)
    (show step ≠ 0 by omega)
  have above := Int.lt_ediv_add_one_mul_self (start.monthIndex - anchor.monthIndex) positive
  rw [Int.add_mul, Int.one_mul] at above
  unfold stepBase
  rw [elapsed]
  refine ⟨⟨((start.monthIndex - anchor.monthIndex) / step).toNat, ?_⟩, by omega, by omega, ?_⟩
  · rw [Int.toNat_of_nonneg notNegative]
  · by_cases still : (start.monthIndex - anchor.monthIndex) / step = 0
    · rw [still]
      exact Or.inl (by omega)
    · have whole : 1 * step ≤ (start.monthIndex - anchor.monthIndex) / step * step :=
        Int.mul_le_mul_of_nonneg_right (by omega) (by omega)
      exact Or.inr (by omega)

theorem searches_of_steps {rule : Rule} (positive : 0 < step)
    (ordered : anchor.monthIndex ≤ start.monthIndex)
    (phase : ∀ index, rule.InPhase anchor index ↔
      ∃ steps : Nat, index = anchor.monthIndex + steps * step) :
    Searches rule anchor start
      [stepBase step anchor start, stepBase step anchor start + step] := by
  obtain ⟨⟨steps, base⟩, below, above, -⟩ := stepBase_spec positive ordered
  have multiple (count : Nat) : step ∣ anchor.monthIndex + count * step - anchor.monthIndex :=
    ⟨count, by rw [Int.mul_comm]; omega⟩
  constructor
  · simp
    omega
  · intro index member
    rw [phase]
    rcases List.mem_cons.mp member with first | second
    · exact ⟨steps, first.trans base⟩
    · refine ⟨steps + 1, ?_⟩
      rw [List.mem_singleton.mp second, base, Int.natCast_add, Int.add_mul]
      omega
  · have inside := anchor.month_inside
    have notNegative : 0 ≤ (steps : Int) * step := Int.mul_nonneg (by omega) (by omega)
    simp
    omega
  · intro index matching reached
    obtain ⟨count, same⟩ := (phase index).mp matching
    by_cases first : index = stepBase step anchor start
    · exact Or.inl (by simp [first])
    · have further : stepBase step anchor start + step ≤ index := by
        apply step_le anchor.monthIndex (base ▸ multiple steps) (same ▸ multiple count)
        omega
      by_cases second : index = stepBase step anchor start + step
      · exact Or.inl (by simp [second])
      · refine Or.inr ?_
        simp
        omega
  · exact ⟨stepBase step anchor start + step, by simp, above⟩

/-- A search over steps looks at the month one step after the anchor's, or at months near the
start. -/
theorem hasSearch_of_steps {rule : Rule} (step : Int) (positive : 0 < step)
    (short : step < 4294967296 * 12) (ordered : anchor ≤ start)
    (counts : rule.nextOnOrAfter anchor start =
      firstFrom (rule.selection.rule.resolve anchor) start (Rule.steppedMonths step anchor start))
    (phase : ∀ index, rule.InPhase anchor index ↔
      ∃ steps : Nat, index = anchor.monthIndex + steps * step)
    (fits : anchor.monthIndex + step ≠ overflowMonth) : HasSearch rule anchor start := by
  have early := anchor.month_inside
  have late := start.month_inside
  have months := Date.month_le_of_le ordered
  have bounds := stepBase_spec positive months
  refine ⟨_, ?_, searches_of_steps positive months phase, ?_⟩
  · rw [counts, steppedMonths_eq]
  · unfold firstMonth lastMonth overflowMonth largestYear at *
    simp only [List.mem_cons, List.not_mem_nil, or_false]
    omega

end Steps

theorem months_hasSearch {frequency : UInt32} {daysOfWeek : List UInt8}
    {daysOfMonth monthsOfYear : List UInt32}
    (valid : (Rule.custom frequency .months daysOfWeek daysOfMonth monthsOfYear).Valid)
    {anchor start : Date} (ordered : anchor ≤ start) :
    HasSearch (.custom frequency .months daysOfWeek daysOfMonth monthsOfYear) anchor start := by
  have positive : 1 ≤ frequency.toNat := valid.1
  have small := frequency.toNat_lt
  have inside := anchor.month_inside
  apply hasSearch_of_steps frequency.toNat (by omega) (by omega) ordered
  · rw [Rule.nextOnOrAfter, stride_eq positive]
    rfl
  · exact fun index => Iff.rfl
  · unfold firstMonth lastMonth at inside
    unfold overflowMonth largestYear
    omega

/-- Counting the whole years of the rule on from the anchor once leads to the last month of the
largest year. -/
def Rule.Jumps (rule : Rule) (anchor : Date) : Prop :=
  match rule with
  | custom frequency .years _ _ _ => anchor.monthIndex + frequency.toNat * 12 = overflowMonth
  | _ => False

theorem years_hasSearch {frequency : UInt32} {daysOfWeek : List UInt8}
    {daysOfMonth monthsOfYear : List UInt32}
    (valid : (Rule.custom frequency .years daysOfWeek daysOfMonth monthsOfYear).Valid)
    {anchor start : Date} (ordered : anchor ≤ start)
    (fits : ¬ (Rule.custom frequency .years daysOfWeek daysOfMonth monthsOfYear).Jumps anchor) :
    HasSearch (.custom frequency .years daysOfWeek daysOfMonth monthsOfYear) anchor start := by
  have positive : 1 ≤ frequency.toNat := valid.1
  have small := frequency.toNat_lt
  apply hasSearch_of_steps (frequency.toNat * 12) (by omega) (by omega) ordered
  · rw [Rule.nextOnOrAfter, stride_eq positive]
    rfl
  · exact fun index => Iff.rfl
  · exact fits

end Rota
