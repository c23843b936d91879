import Rota.Proofs.Text.Digits
import Rota.Proofs.Text.Trim
import Rota.Schedule.TriggerTime

/-!
Texts that are a time of day. There is one grammar for them: a number of one or two digits, a colon
and another such number, with any white space around the whole. A text of this form is read as its
two numbers, if the day has that time, and any other text is none. The written form of a time is
such a text, so it reads back as that time.
-/

namespace Rota

open Text

namespace TriggerTime

def IsField (digits : List Char) (n : Nat) : Prop :=
  (∀ c ∈ digits, c.isDigit = true) ∧ (digits.length = 1 ∨ digits.length = 2) ∧
    Nat.ofDigitChars 10 digits 0 = n

/-- The text is two numbers with a colon between them, white space at its ends apart. -/
def Spells (text : String) (hour minute : Nat) : Prop :=
  ∃ before first second after, text.toList = before ++ (first ++ ':' :: second) ++ after ∧
    (∀ c ∈ before, isBlank c = true) ∧ IsField first hour ∧ IsField second minute ∧
    ∀ c ∈ after, isBlank c = true

variable {text : String} {hour minute : Nat}

theorem fieldValue?_eq_some {cs : List Char} {n : Nat} :
    fieldValue? cs = some n ↔ IsField cs n := by
  constructor
  · intro read
    unfold fieldValue? at read
    split at read
    · next value found =>
      obtain ⟨digits, all, positive, short, same, total⟩ := number_eq_some found
      cases read
      rw [List.append_nil] at same
      exact same ▸ ⟨all, by omega, total⟩
    · cases read
  · rintro ⟨all, length, total⟩
    have read : number 2 (cs ++ []) = some (Nat.ofDigitChars 10 cs 0, []) :=
      number_append all (by omega) (by omega) (.inr (by simp [Ends]))
    rw [List.append_nil] at read
    rw [fieldValue?, read, total]

theorem IsField.digitsOf {n : Nat} (small : n < 100) : IsField (digitsOf 2 n) n :=
  ⟨digitsOf_digits, .inr (digitsOf_length_of_lt 2 (by decide) small), digitsOf_value 2 n⟩

theorem IsField.solid {digits : List Char} {n : Nat} (field : IsField digits n) :
    ∀ c ∈ digits, isBlank c = false := fun c member => isBlank_of_isDigit (field.1 c member)

theorem IsField.noColon {digits : List Char} {n : Nat} (field : IsField digits n) :
    ∀ c ∈ digits, decide (c ≠ ':') = true := by
  rintro c member
  refine decide_eq_true ?_
  rintro rfl
  exact absurd (field.1 _ member) (by decide)

theorem parse_spelled (spelled : Spells text hour minute) :
    parse text = ofHourMinute hour minute := by
  obtain ⟨before, first, second, after, same, front, firstField, secondField, back⟩ := spelled
  have solid : ∀ c ∈ first ++ ':' :: second, isBlank c = false := by
    intro c member
    rcases List.mem_append.mp member with digit | rest
    · exact firstField.solid c digit
    · rcases List.mem_cons.mp rest with rfl | digit
      · rfl
      · exact secondField.solid c digit
  have kept : trimChars text.toList = first ++ ':' :: second := by
    rw [same, trimChars_padded front solid back]
  simp only [parse, kept, List.takeWhile_append_of_pos firstField.noColon,
    List.dropWhile_append_of_pos firstField.noColon]
  simp [fieldValue?_eq_some.mpr firstField, fieldValue?_eq_some.mpr secondField]

theorem parse_unspelled (never : ∀ hour minute, ¬ Spells text hour minute) :
    parse text = .error (.notATime text) := by
  obtain ⟨before, after, same, front, back⟩ := trimChars_split text.toList
  have halves : trimChars text.toList =
      (trimChars text.toList).takeWhile (· ≠ ':') ++ (trimChars text.toList).dropWhile (· ≠ ':') :=
    List.takeWhile_append_dropWhile.symm
  unfold parse
  dsimp only
  cases first : fieldValue? ((trimChars text.toList).takeWhile (· ≠ ':')) with
  | none => rfl
  | some hour =>
    cases rest : (trimChars text.toList).dropWhile (· ≠ ':') with
    | nil => rfl
    | cons c second =>
      dsimp only
      cases read : fieldValue? second with
      | none => rfl
      | some minute =>
        -- The first character that is not before a colon is one.
        have colon := List.head?_dropWhile_not (· ≠ ':') (trimChars text.toList)
        rw [rest] at colon
        obtain rfl : c = ':' := by simpa using colon
        rw [rest] at halves
        rw [halves] at same
        exact absurd ⟨before, _, second, after, same, front, fieldValue?_eq_some.mp first,
          fieldValue?_eq_some.mp read, back⟩ (never hour minute)

/-- A text is read as a time exactly when it spells that time. -/
theorem parse_eq_ok {time : TriggerTime} :
    parse text = .ok time ↔ Spells text time.hour time.minute := by
  constructor
  · intro read
    by_cases spelled : ∃ hour minute, Spells text hour minute
    · obtain ⟨hour, minute, spelled⟩ := spelled
      rw [parse_spelled spelled] at read
      unfold ofHourMinute at read
      split at read
      · cases read
        exact spelled
      · cases read
    · rw [parse_unspelled fun hour minute found => spelled ⟨hour, minute, found⟩] at read
      cases read
  · intro spelled
    rw [parse_spelled spelled, ofHourMinute, dif_pos ⟨time.hour_lt, time.minute_lt⟩]

/-- Why the text is no time: it does not have the form of one, or the day has no such time. -/
def Refused (text : String) (fault : TimeFault) : Prop :=
  ((∀ hour minute, ¬ Spells text hour minute) ∧ fault = .notATime text) ∨
    ∃ hour minute, Spells text hour minute ∧ ¬ (hour < 24 ∧ minute < 60) ∧
      fault = .hourOrMinute hour minute

theorem parse_eq_error (never : ∀ time : TriggerTime, ¬ Spells text time.hour time.minute) :
    ∃ fault, parse text = .error fault ∧ Refused text fault := by
  by_cases spelled : ∃ hour minute, Spells text hour minute
  · obtain ⟨hour, minute, spelled⟩ := spelled
    have outside : ¬ (hour < 24 ∧ minute < 60) := fun inside =>
      never ⟨hour, minute, inside.1, inside.2⟩ spelled
    refine ⟨.hourOrMinute hour minute, ?_, .inr ⟨hour, minute, spelled, outside, rfl⟩⟩
    rw [parse_spelled spelled, ofHourMinute, dif_neg outside]
  · have formless (hour minute : Nat) (found : Spells text hour minute) : False :=
      spelled ⟨hour, minute, found⟩
    exact ⟨.notATime text, parse_unspelled formless, .inl ⟨formless, rfl⟩⟩

theorem toList_toText (time : TriggerTime) :
    time.toText.toList = digitsOf 2 time.hour ++ ':' :: digitsOf 2 time.minute := by
  simp [toText, toList_padded]

theorem spells_toText (time : TriggerTime) : Spells time.toText time.hour time.minute := by
  have hour := time.hour_lt
  have minute := time.minute_lt
  refine ⟨[], _, _, [], ?_, by simp, .digitsOf (by omega), .digitsOf (by omega), by simp⟩
  rw [toList_toText, List.nil_append, List.append_nil]

theorem parse_toText (time : TriggerTime) : parse time.toText = .ok time :=
  parse_eq_ok.mpr time.spells_toText

theorem toText_injective : Function.Injective toText := by
  intro one other same
  have read := parse_toText one
  rw [same, parse_toText] at read
  exact (Except.ok.inj read).symm

end TriggerTime
end Rota
