import Rota.Calendar.Instant
import Rota.Proofs.Calendar.Month
import Rota.Proofs.Text.Digits

/-!
Dates and instants that are written read back, over the whole calendar. A leap second comes back as
one: it is written as second 60, and read from there as a fraction of a second and more.
-/

namespace Rota

open Text

theorem toList_yearText (year : Int) : (yearText year).toList =
    if 0 ≤ year ∧ year ≤ 9999 then digitsOf 4 year.toNat
    else if year < 0 then '-' :: digitsOf 4 (-year).toNat
    else '+' :: digitsOf 4 year.toNat := by
  unfold yearText
  split
  · exact toList_padded _ _
  · split <;> simp [toList_padded]

namespace Date

theorem ends_hyphen {rest : List Char} : Ends ('-' :: rest) := ends_cons (by decide)

/-- A year of four digits has no sign, and every other year has one. -/
theorem readYear_yearText (year : Int) (rest : List Char) :
    readYear ((yearText year).toList ++ '-' :: rest) = some (year, '-' :: rest) := by
  rw [toList_yearText]
  split
  · next plain =>
    have small : year.toNat < 10000 := by omega
    have length := digitsOf_length_of_lt 4 (by decide) small
    have read : Text.number 4 (digitsOf 4 year.toNat ++ '-' :: rest) = some (year.toNat, '-' :: rest) :=
      number_digitsOf (Nat.le_of_eq length) (Or.inl length)
    have unsigned : ∀ c ∈ (digitsOf 4 year.toNat ++ '-' :: rest).head?, c ≠ '-' ∧ c ≠ '+' := by
      obtain ⟨c, digits, same⟩ := List.exists_cons_of_ne_nil (digitsOf_ne_nil 4 year.toNat)
      have digit : c.isDigit = true := digitsOf_digits c (same ▸ List.mem_cons_self)
      rw [same]
      rintro d ⟨⟩
      constructor <;> rintro rfl <;> cases digit
    unfold readYear
    rw [trimStart_digitsOf]
    split
    · next same => exact absurd rfl (unsigned '-' (by rw [same]; rfl)).1
    · next same => exact absurd rfl (unsigned '+' (by rw [same]; rfl)).2
    · rw [read]
      simp only [Option.map_some, Option.some.injEq, Prod.mk.injEq, and_true]
      omega
  · split
    · next negative =>
      have read : longNumber (digitsOf 4 (-year).toNat ++ '-' :: rest) =
          some ((-year).toNat, '-' :: rest) := longNumber_digitsOf ends_hyphen
      simp only [List.cons_append, readYear, trimStart_cons (show isBlank '-' = false by decide),
        read, Option.map_some, Option.some.injEq, Prod.mk.injEq, and_true]
      omega
    · next positive =>
      have read : longNumber (digitsOf 4 year.toNat ++ '-' :: rest) =
          some (year.toNat, '-' :: rest) := longNumber_digitsOf ends_hyphen
      simp only [List.cons_append, readYear, trimStart_cons (show isBlank '+' = false by decide),
        read, Option.map_some, Option.some.injEq, Prod.mk.injEq, and_true]
      omega

theorem readPart_digitsOf {n : Nat} (small : n < 100) (rest : List Char) :
    readPart ('-' :: (digitsOf 2 n ++ rest)) = some (n, rest) := by
  rw [readPart, trimStart_cons (by decide)]
  simp [literal, trimStart_digitsOf, number_two small]

theorem toList_toText (date : Date) : date.toText.toList =
    (yearText date.year).toList ++ '-' :: (digitsOf 2 date.month ++ '-' :: digitsOf 2 date.day) := by
  simp [toText, toList_padded]

theorem ofYmd?_parts (date : Date) : ofYmd? date.year date.month date.day = some date := by
  have month := date.month_bounds
  have index : date.monthIndex = date.year * 12 + (date.month - 1 : Int) := rfl
  exact ofYmd?_eq_some.mpr ⟨month.1, month.2, index, rfl⟩

theorem readParts_toText (date : Date) (rest : List Char) :
    readParts (date.toText.toList ++ rest) = some ((date.year, date.month, date.day), rest) := by
  have month := date.month_bounds
  have day := date.day_bounds
  have length := monthDays_bounds date.monthIndex
  rw [toList_toText, readParts, List.append_assoc, List.cons_append, readYear_yearText]
  simp [readPart_digitsOf (show date.month < 100 by omega),
    readPart_digitsOf (show date.day < 100 by omega)]

theorem ofText?_toText (date : Date) : ofText? date.toText = some date := by
  have read := readParts_toText date []
  rw [List.append_nil] at read
  rw [ofText?, read]
  show (if trimStart [] = [] then ofYmd? date.year date.month date.day else none) = some date
  rw [if_pos (show trimStart [] = [] from rfl), ofYmd?_parts]

end Date

namespace Instant

theorem readClockPart_digitsOf {n : Nat} (small : n < 100) (rest : List Char) :
    readClockPart (':' :: (digitsOf 2 n ++ rest)) = some (n, rest) := by
  rw [readClockPart, trimStart_cons (by decide)]
  simp [literal, trimStart_digitsOf, number_two small]

/-- A fraction in whole units of the last of its digits. -/
theorem readFraction_point {width value : Nat} (positive : 0 < width) (short : width ≤ 9)
    (small : value < Nat.pow 10 width) (rest : List Char) :
    readFraction ('.' :: (digitsOf width value ++ 'Z' :: rest)) =
      some (value * Nat.pow 10 (9 - width), 'Z' :: rest) := by
  have length := digitsOf_length_of_lt width positive small
  have taken : takeDigits 9 0 0 (digitsOf width value ++ 'Z' :: rest) =
      (width, value, 'Z' :: rest) := by
    rw [takeDigits_append digitsOf_digits (by omega), takeDigits_ends (Or.inr (ends_cons (by decide))),
      digitsOf_value, length, Nat.zero_add]
  have letter : isDigit 'Z' = false := by decide
  rw [readFraction, taken]
  split
  · next none => simp only [Prod.mk.injEq] at none; omega
  · next same =>
    cases same
    simp [letter]

theorem readFraction_fractionText {nano : Nat} (small : nano < nanosPerSecond) (rest : List Char) :
    readFraction ((fractionText nano).toList ++ 'Z' :: rest) = some (nano, 'Z' :: rest) := by
  unfold nanosPerSecond at small
  unfold fractionText
  split
  · next none => subst none; rfl
  · split
    · next whole =>
      rw [String.toList_append, toList_padded]
      have fits : nano / 1000000 < 1000 := by omega
      refine (readFraction_point (by decide) (by decide) fits rest).trans ?_
      rw [show nano / 1000000 * Nat.pow 10 (9 - 3) = nano by simp; omega]
    · split
      · next whole =>
        rw [String.toList_append, toList_padded]
        have fits : nano / 1000 < 1000000 := by omega
        refine (readFraction_point (by decide) (by decide) fits rest).trans ?_
        rw [show nano / 1000 * Nat.pow 10 (9 - 6) = nano by simp; omega]
      · rw [String.toList_append, toList_padded]
        refine (readFraction_point (by decide) (by decide) small rest).trans ?_
        simp

theorem ofSeconds?_toSeconds (moment : Instant) :
    ofSeconds? moment.toSeconds = some { moment with nano := 0, nano_lt := .inl (by decide) } := by
  have bound := moment.second_lt
  unfold secondsPerDay at bound
  have day : moment.toSeconds / secondsPerDay = moment.day.number := by
    unfold toSeconds secondsPerDay
    omega
  have second : (moment.toSeconds % secondsPerDay).toNat = moment.second := by
    unfold toSeconds secondsPerDay
    omega
  simp [ofSeconds?, day, second, Date.ofNumber?_number]

theorem toSeconds_of_ofSeconds? {seconds : Int} {moment : Instant}
    (found : ofSeconds? seconds = some moment) : moment.toSeconds = seconds := by
  obtain ⟨day, here, same⟩ := Option.bind_eq_some_iff.mp found
  have number := Date.ofNumber?_eq_some.mp here
  cases same
  unfold toSeconds secondsPerDay at *
  dsimp only
  omega

theorem ofSeconds?_eq_some {seconds : Int} {moment : Instant} :
    ofSeconds? seconds = some moment ↔ moment.toSeconds = seconds ∧ moment.nano = 0 := by
  constructor
  · intro found
    refine ⟨toSeconds_of_ofSeconds? found, ?_⟩
    obtain ⟨day, -, same⟩ := Option.bind_eq_some_iff.mp found
    cases same
    rfl
  · rintro ⟨rfl, whole⟩
    rw [ofSeconds?_toSeconds]
    obtain ⟨day, second, nano, _, _⟩ := moment
    cases whole
    rfl

theorem exists_ofSeconds? {seconds : Int}
    (inside : firstDayNumber ≤ seconds / 86400 ∧ seconds / 86400 ≤ lastDayNumber) :
    ∃ moment, ofSeconds? seconds = some moment := by
  have found : Date.ofNumber? (seconds / secondsPerDay) = some ⟨_, inside.1, inside.2⟩ :=
    dif_pos inside
  rw [ofSeconds?, found]
  exact ⟨_, rfl⟩

theorem ofParts?_toSeconds (moment : Instant) :
    ofParts? moment.toSeconds moment.nano = some moment := by
  simp [ofParts?, ofSeconds?_toSeconds, moment.nano_lt]

theorem toList_toText (moment : Instant) : moment.toText.toList =
    moment.day.toText.toList ++ 'T' :: (digitsOf 2 (moment.second / 3600) ++
      ':' :: (digitsOf 2 (moment.second / 60 % 60) ++
        ':' :: (digitsOf 2 (moment.second % 60 + moment.nano / nanosPerSecond) ++
          ((fractionText (moment.nano % nanosPerSecond)).toList ++ ['Z'])))) := by
  simp [toText, clockText, toList_padded]

/-- The second of a minute and the fraction, as they are written, say where in the minute an instant
is, the leap second included. -/
theorem written_second (moment : Instant) :
    let written := moment.second % 60 + moment.nano / nanosPerSecond
    written ≤ 60 ∧ min written 59 = moment.second % 60 ∧
      (if written = 60 then moment.nano % nanosPerSecond + nanosPerSecond
        else moment.nano % nanosPerSecond) = moment.nano := by
  have fits := moment.nano_lt
  unfold nanosPerSecond at fits ⊢
  simp only
  refine ⟨by omega, by omega, ?_⟩
  split <;> omega

theorem ofText?_toText (moment : Instant) : ofText? moment.toText = some moment := by
  have bound := moment.second_lt
  unfold secondsPerDay at bound
  obtain ⟨small, whole, fraction⟩ := moment.written_second
  have hour : moment.second / 3600 < 24 := by omega
  have minute : moment.second / 60 % 60 < 60 := by omega
  have exact : moment.nano % nanosPerSecond < nanosPerSecond := Nat.mod_lt _ (by decide)
  have wall : moment.day.number * secondsPerDay + (moment.second / 3600 : Nat) * 3600 +
      (moment.second / 60 % 60 : Nat) * 60 + (moment.second % 60 : Nat) - 0 =
        moment.toSeconds := by
    unfold toSeconds
    omega
  have offset : readOffset ['Z'] = some (0, []) := rfl
  rw [ofText?, toList_toText]
  simp only [Date.readParts_toText, Option.bind_eq_bind, Option.bind_some, true_or, ↓reduceIte,
    trimStart_digitsOf, number_two (show moment.second / 3600 < 100 by omega),
    readClockPart_digitsOf (show moment.second / 60 % 60 < 100 by omega),
    readClockPart_digitsOf (show moment.second % 60 + moment.nano / nanosPerSecond < 100 by omega),
    readFraction_fractionText exact, offset, Date.ofYmd?_parts, whole]
  rw [if_pos ⟨hour, minute, small, rfl⟩, fraction, wall, ofParts?_toSeconds]

end Instant
end Rota
