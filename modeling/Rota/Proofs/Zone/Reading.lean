import Rota.Proofs.Zone.Coded

/-!
A test, on the characters of a written table, that its clock is steady. It reads the changes as
`readChanges` does, but tells characters apart by their codes and looks at each change once.
-/

namespace Rota.CodedZone

open Zone

section Decidable

variable (offset : Offset) (one other : YearlyChange)

instance : Decidable offset.Small :=
  decidable_of_iff (-86400 < offset.seconds ∧ offset.seconds < 86400)
    ⟨fun ⟨above, below⟩ => ⟨above, below⟩, fun small => ⟨small.above, small.below⟩⟩

instance : Decidable one.Inner :=
  decidable_of_iff ((2 ≤ one.month ∧ one.month ≤ 11) ∧ 1 ≤ one.week ∧
      (-86400 ≤ one.seconds ∧ one.seconds ≤ 259200) ∧ one.offset.Small ∧
      one.seconds % 30 = 0 ∧ one.offset.seconds % 30 = 0)
    ⟨fun ⟨month, week, near, small, half⟩ => ⟨month, week, near, small, half⟩,
      fun inner => ⟨inner.month, inner.week, inner.near, inner.small, inner.half⟩⟩

instance : Decidable (Alternating one other) :=
  decidable_of_iff (one.Inner ∧ other.Inner ∧
      (one.month + 2 ≤ other.month ∨ other.month + 2 ≤ one.month))
    ⟨fun ⟨first, second, months⟩ => ⟨first, second, months⟩,
      fun both => ⟨both.first, both.second, both.months⟩⟩

end Decidable

def stepsOn (since : Option Int) (before current next : Offset) (time : Int) : Bool :=
  (match since with
    | none => true
    | some start => decide (start < time) &&
      (decide (time < calmSince) || decide (start + current.seconds ≤ time + next.seconds)) &&
      (decide (start < calmSince) || decide (start + before.seconds ≤ time + current.seconds))) &&
  (decide (time < calmSince) || (time + current.seconds) % 60 != 1) &&
  (decide (time + current.seconds ≤ 0) || decide (0 ≤ time + next.seconds))

theorem stepsOn_sound {since : Option Int} {before current next : Offset} {time : Int}
    (goes : stepsOn since before current next time = true) :
    StepsOn since before current next time := by
  unfold stepsOn at goes
  simp only [Bool.and_eq_true, Bool.or_eq_true, decide_eq_true_eq, bne_iff_ne] at goes
  obtain ⟨⟨ordered, aligned⟩, kept⟩ := goes
  refine ⟨?_, fun calm => aligned.resolve_left (by omega), fun _ => kept.resolve_left (by omega)⟩
  rintro start ⟨⟩
  simp only [Bool.and_eq_true, Bool.or_eq_true, decide_eq_true_eq] at ordered
  omega

def tailFits (offsets : List Offset) (tail : List (List Char)) (since : Option Int)
    (current : Offset) : Bool :=
  match tail with
  | [year, a, aDay, b, bDay] =>
    match yearlyChange? offsets a aDay, yearlyChange? offsets b bDay with
    | some one, some other =>
      decide (Alternating one other ∧ (1971 ≤ integer year ∧ integer year ≤ lastYear) ∧
        current.seconds % 30 = 0 ∧
        ∀ start ∈ since, start + 172800 ≤ monthStart (integer year * 12) * 86400)
    | _, _ => true
  | _ => true

def readsSteady (offsets : List Offset) (tail : List (List Char)) (since : Option Int)
    (before current : Offset) (negative : Bool) (digits : Nat) : List Char → Bool
  | [] => tailFits offsets tail since current
  | c :: rest =>
    bif Nat.ble 97 c.toNat then
      readsSteady offsets tail since before current negative (digits * 36 + (c.toNat - 87)) rest
    else bif Nat.ble 65 c.toNat then
      match bif Nat.ble c.toNat 90 then letter? offsets c else none with
      | some next =>
        let time := since.getD 0 + bif negative then -(digits : Int) else digits
        stepsOn since before current next time &&
          readsSteady offsets tail (some time) current next false 0 rest
      | none => false
    else bif Nat.ble 48 c.toNat then
      Nat.ble c.toNat 57 &&
        readsSteady offsets tail since before current negative (digits * 36 + (c.toNat - 48)) rest
    else Nat.beq c.toNat 45 && readsSteady offsets tail since before current true digits rest

variable {offsets : List Offset} {since : Option Int} {before current : Offset} {tail : String}

theorem tailFits_steady (fits : tailFits offsets (words tail ' ') since current = true)
    (smallBefore : before.Small) (smallCurrent : current.Small) :
    SteadyFrom since before current (tailChanges offsets tail) := by
  unfold tailFits at fits
  unfold tailChanges
  split
  · next year a aDay b bDay same =>
    simp only [same] at fits
    split
    · next one other found foundOther =>
      simp only [found, foundOther, decide_eq_true_eq] at fits
      obtain ⟨alternating, written, half, first⟩ := fits
      have spec := years_spec alternating (show 1970 ≤ integer year by omega)
        (lastYear - integer year + 1).toNat (by omega)
      refine steadyFrom_of_apart (fun start known change listed => ?_) spec.1
        ⟨smallBefore, smallCurrent, fun change listed => (spec.2 change listed).2.1⟩
        ⟨half, fun change listed => (spec.2 change listed).2.2⟩ fun change listed => ?_
      · have := first start known
        have := (spec.2 change listed).1
        omega
      · have year := monthStart_mono (show 1971 * 12 ≤ integer year * 12 by omega)
        have start : monthStart (1971 * 12) = 365 := by decide
        have := (spec.2 change listed).1
        omega
    · trivial
  · trivial

section Codes

variable {c : Char}

theorem minus_iff : c = '-' ↔ c.toNat = 45 :=
  ⟨fun same => same ▸ rfl, fun same => Char.ext (UInt32.toNat_inj.mp same)⟩

theorem le_iff_toNat {a b : Char} : a ≤ b ↔ a.toNat ≤ b.toNat := by
  rw [Char.le_def, UInt32.le_iff_toNat_le]
  rfl

end Codes

theorem mem_of_letter? {c : Char} {offset : Offset} (found : letter? offsets c = some offset) :
    offset ∈ offsets := List.mem_of_getElem? found

theorem readsSteady_sound {cs : List Char} {negative : Bool} {digits : Nat}
    (small : ∀ offset ∈ offsets, offset.Small) (smallBefore : before.Small)
    (smallCurrent : current.Small)
    (reads : readsSteady offsets (words tail ' ') since before current negative digits cs = true) :
    SteadyFrom since before current
      (readChanges offsets (since.getD 0) negative digits cs ++ tailChanges offsets tail) := by
  induction cs generalizing since before current negative digits with
  | nil => exact tailFits_steady reads smallBefore smallCurrent
  | cons c rest ih =>
    have codes : 'A'.toNat = 65 ∧ 'Z'.toNat = 90 ∧ '9'.toNat = 57 ∧ '0'.toNat = 48 ∧
      'a'.toNat = 97 := ⟨rfl, rfl, rfl, rfl, rfl⟩
    rw [readsSteady] at reads
    rw [readChanges]
    simp only [minus_iff, le_iff_toNat, codes]
    simp only [cond_eq_ite, Nat.ble_eq] at reads
    -- A small letter is a digit above nine, a capital one ends a change and names its offset.
    split at reads
    · next lower =>
      rw [if_neg (by omega), if_neg (by omega), if_neg (by omega),
        show c.toNat - 97 + 10 = c.toNat - 87 by omega]
      exact ih smallBefore smallCurrent reads
    split at reads
    · next noLower upper =>
      split at reads
      · next next found =>
        obtain ⟨inside, found⟩ : c.toNat ≤ 90 ∧ letter? offsets c = some next := by
          split at found
          · next inside => exact ⟨inside, found⟩
          · cases found
        rw [Bool.and_eq_true] at reads
        have time : (if negative = true then since.getD 0 - digits else since.getD 0 + digits) =
            since.getD 0 + if negative = true then -(digits : Int) else digits := by
          split <;> omega
        simp only [if_neg (show ¬c.toNat = 45 by omega), if_pos (And.intro upper inside), found, time]
        exact ⟨stepsOn_sound reads.1, ih smallCurrent (small next (mem_of_letter? found)) reads.2⟩
      · cases reads
    split at reads
    · next noLower noUpper figure =>
      rw [Bool.and_eq_true, Nat.ble_eq] at reads
      rw [if_neg (by omega), if_neg (by omega), if_pos reads.1]
      exact ih smallBefore smallCurrent reads.2
    · rw [Bool.and_eq_true, Nat.beq_eq] at reads
      rw [if_pos reads.1]
      exact ih smallBefore smallCurrent reads.2

def offsetsOf (cs : List Char) : List Offset :=
  (cs.splitOn ' ').filterMap fun word =>
    match word.splitOn ':' with
    | [name, seconds] => some ⟨integer seconds, String.ofList name⟩
    | _ => none

def isSteady (offsets changes tail : List Char) : Bool :=
  let offsets := offsetsOf offsets
  let start := offsets.headD ⟨0, "UTC"⟩
  offsets.all (fun offset => decide offset.Small) &&
    readsSteady offsets (tail.splitOn ' ') none start start false 0 changes

inductive Spells : List String → List Char → Prop
  | nil : Spells [] []
  | cons {pieces : List String} {rest : List Char} (cs : List Char) :
      Spells pieces rest → Spells (String.ofList cs :: pieces) (cs ++ rest)

theorem Spells.flatMap_toList {pieces : List String} {cs : List Char} (spells : Spells pieces cs) :
    pieces.flatMap String.toList = cs := by
  induction spells with
  | nil => rfl
  | cons cs _ ih => rw [List.flatMap_cons, String.toList_ofList, ih]

end Rota.CodedZone
