import Rota.Proofs.Text.Digits
import Rota.Schedule.Cron

/-!
The cron expression of a daily trigger reads as the minute and hour of the trigger on every day.
-/

namespace Rota

open Text

namespace Cron

theorem skipSpacing_digitsOf {width n : Nat} {rest : List Char} :
    skipSpacing (digitsOf width n ++ rest) = digitsOf width n ++ rest := by
  obtain ⟨c, digits, same⟩ := List.exists_cons_of_ne_nil (digitsOf_ne_nil width n)
  have digit : c.isDigit = true := digitsOf_digits c (same ▸ List.mem_cons_self)
  have solid : isSpacing c = false := by
    refine Bool.eq_false_iff.mpr fun spacing => ?_
    simp only [isSpacing, Bool.or_eq_true, beq_iff_eq] at spacing
    rcases spacing with ((rfl | rfl) | rfl) | rfl <;> exact absurd digit (by decide)
  rw [same, skipSpacing]
  simp [solid]

/-- A field goes on after a number with a hyphen, a slash or a comma only. -/
structure Stops (rest : List Char) : Prop where
  digits : Ends rest
  range : literal '-' (skipSpacing rest) = none
  step : literal '/' (skipSpacing rest) = none
  list : literal ',' (skipSpacing rest) = none

variable {n : Nat} {rest : List Char} {takesAny : Bool}

theorem readNumber_digitsOf (small : n < 4294967296) (ends : Ends rest) :
    readNumber (digitsOf 0 n ++ rest) = some (n, skipSpacing rest) := by
  simp [readNumber, skipSpacing_digitsOf, longNumber_digitsOf ends, small]

theorem readSpan_digitsOf (small : n < 4294967296) (stops : Stops rest) :
    readSpan takesAny (digitsOf 0 n ++ rest) = some (.point n, skipSpacing rest) := by
  have number := readNumber_digitsOf small stops.digits
  have range : readRange readNumber (digitsOf 0 n ++ rest) = none := by
    simp [readRange, number, stops.range]
  obtain ⟨c, digits, same⟩ := List.exists_cons_of_ne_nil (digitsOf_ne_nil 0 n)
  have digit : c.isDigit = true := digitsOf_digits c (same ▸ List.mem_cons_self)
  rw [readSpan, number, range]
  · rfl
  all_goals
    rw [same]
    rintro after ⟨⟩
    exact absurd digit (by decide)

theorem readItem_digitsOf (small : n < 4294967296) (stops : Stops rest) :
    readItem takesAny (digitsOf 0 n ++ rest) = some (.span (.point n), skipSpacing rest) := by
  simp [readItem, readSpan_digitsOf small stops, stops.step]

theorem readField_digitsOf {field : Field} {values : List Nat} (small : n < 4294967296)
    (stops : Stops rest) (single : values? field [.span (.point n)] = some values) :
    readField field (digitsOf 0 n ++ rest) = some (values, skipSpacing (skipSpacing rest)) := by
  have more (fuel : Nat) :
      readMore field.takesAny fuel (skipSpacing rest) = ([], skipSpacing rest) := by
    cases fuel <;> simp [readMore, stops.list]
  simp [readField, skipSpacing_digitsOf, readItem_digitsOf small stops, more, single]

theorem skipSpacing_space : skipSpacing (' ' :: rest) = skipSpacing rest := rfl

theorem literal_digitsOf {width : Nat} {c : Char} (other : c.isDigit = false) :
    literal c (digitsOf width n ++ rest) = none := by
  obtain ⟨d, digits, same⟩ := List.exists_cons_of_ne_nil (digitsOf_ne_nil width n)
  have digit : d.isDigit = true := digitsOf_digits d (same ▸ List.mem_cons_self)
  rw [same, List.cons_append, literal]
  refine if_neg ?_
  rintro rfl
  simp [digit] at other

theorem stops_space_digitsOf {width : Nat} : Stops (' ' :: (digitsOf width n ++ rest)) where
  digits := ends_cons (by decide)
  range := by rw [skipSpacing_space, skipSpacing_digitsOf, literal_digitsOf (by decide)]
  step := by rw [skipSpacing_space, skipSpacing_digitsOf, literal_digitsOf (by decide)]
  list := by rw [skipSpacing_space, skipSpacing_digitsOf, literal_digitsOf (by decide)]

theorem readField_digitsOf_space {field : Field} {values : List Nat} (small : n < 4294967296)
    (single : values? field [.span (.point n)] = some values) (width m : Nat) (rest : List Char) :
    readField field (digitsOf 0 n ++ (' ' :: (digitsOf width m ++ rest))) =
      some (values, digitsOf width m ++ rest) := by
  rw [readField_digitsOf small stops_space_digitsOf single]
  simp [skipSpacing_space, skipSpacing_digitsOf]

theorem values?_point : values? second [.span (.point 0)] = some [0] ∧
    (∀ n < 60, values? minute [.span (.point n)] = some [n]) ∧
    ∀ n < 24, values? hour [.span (.point n)] = some [n] := by
  decide +kernel

end Cron

namespace TriggerTime

variable (time : TriggerTime)

theorem toList_cronText : time.cronText.toList =
    digitsOf 0 time.minute ++ (' ' :: (digitsOf 0 time.hour ++ " * * *".toList)) := by
  simp [cronText, digitsOf]

theorem parse_cronText : Cron.parse time.cronText = .ok time.cron := by
  have minute := time.minute_lt
  have hour := time.hour_lt
  obtain ⟨pointSecond, pointMinute, pointHour⟩ := Cron.values?_point
  have everyDay : Cron.Stops " * * *".toList := ⟨ends_cons (by decide), rfl, rfl, rfl⟩
  have seconds (rest : List Char) : Cron.readField Cron.second
      ('0' :: ' ' :: (digitsOf 0 time.minute ++ rest)) = some ([0], digitsOf 0 time.minute ++ rest) :=
    Cron.readField_digitsOf_space (by decide) pointSecond 0 time.minute rest
  have minutes := Cron.readField_digitsOf_space (by omega) (pointMinute _ minute)
  have hours := Cron.readField_digitsOf (by omega) everyDay (pointHour _ hour)
  have days : Cron.readField Cron.day (Cron.skipSpacing (Cron.skipSpacing " * * *".toList)) =
      some (Cron.day.all, ['*', ' ', '*']) := by decide
  have months : Cron.readField Cron.month ['*', ' ', '*'] = some (Cron.month.all, ['*']) := by decide
  have weekdays : Cron.readField Cron.weekday ['*'] = some (Cron.weekday.all, []) := by decide
  have years : Cron.readField Cron.year [] = none := by decide
  simp only [Cron.parse, toList_cronText, Cron.readFields, seconds, minutes, hours, days, months,
    weekdays, years, Option.bind_eq_bind, Option.bind_some]
  rfl

end TriggerTime

end Rota
