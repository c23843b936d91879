import Rota.Text.Reader

/-!
Numbers that are written read back. Decimal digits, padded or not, are taken up to the end of the
number, and what follows is left as it was. Thirty-two hexadecimal digits are 128 bits.
-/

namespace Rota.Text

theorem digitValue?_of_isDigit {c : Char} (digit : c.isDigit = true) :
    digitValue? c = some (c.toNat - '0'.toNat) := by
  simp only [Char.isDigit, Bool.and_eq_true, decide_eq_true_eq] at digit
  exact if_pos digit

def Ends (rest : List Char) : Prop := ∀ c ∈ rest.head?, digitValue? c = none

theorem ends_cons {c : Char} {rest : List Char} (other : digitValue? c = none) :
    Ends (c :: rest) := by
  simpa [Ends] using other

theorem isBlank_of_isDigit {c : Char} (digit : c.isDigit = true) : isBlank c = false := by
  have range : 48 ≤ c.toNat ∧ c.toNat ≤ 57 := by
    simpa [Char.isDigit, UInt32.le_iff_toNat_le] using digit
  simp only [isBlank, Bool.or_eq_false_iff, Bool.and_eq_false_iff, decide_eq_false_iff_not,
    beq_eq_false_iff_ne]
  omega

theorem trimStart_cons {c : Char} {rest : List Char} (solid : isBlank c = false) :
    trimStart (c :: rest) = c :: rest := by
  simp [trimStart, solid]

theorem takeDigits_append {digits : List Char} (all : ∀ c ∈ digits, c.isDigit = true)
    {limit : Nat} (fits : digits.length ≤ limit) (count value : Nat) (rest : List Char) :
    takeDigits limit count value (digits ++ rest) =
      takeDigits (limit - digits.length) (count + digits.length)
        (Nat.ofDigitChars 10 digits value) rest := by
  induction digits generalizing limit count value with
  | nil => rfl
  | cons c digits ih =>
    obtain ⟨limit, rfl⟩ : ∃ n, limit = n + 1 := ⟨limit - 1, by simp at fits; omega⟩
    have short : digits.length ≤ limit := by simpa using fits
    have step : takeDigits (limit + 1) count value (c :: (digits ++ rest)) =
        takeDigits limit (count + 1) (value * 10 + (c.toNat - '0'.toNat)) (digits ++ rest) := by
      simp [takeDigits, digitValue?_of_isDigit (all c List.mem_cons_self)]
    rw [List.cons_append, step, ih (fun d member => all d (List.mem_cons_of_mem c member)) short,
      Nat.ofDigitChars_cons, Nat.mul_comm value 10, List.length_cons, Nat.add_sub_add_right,
      Nat.add_right_comm count 1,
      Nat.add_assoc count]

theorem takeDigits_ends {limit count value : Nat} {rest : List Char}
    (ends : limit = 0 ∨ Ends rest) : takeDigits limit count value rest = (count, value, rest) := by
  cases rest with
  | nil => simp [takeDigits]
  | cons c rest =>
    rcases ends with rfl | ends
    · simp [takeDigits]
    · simp [takeDigits, ends c rfl]

/-- What is taken are digits, so many of them as there is room for. -/
theorem takeDigits_split (limit count value : Nat) (cs : List Char) :
    ∃ digits, (∀ c ∈ digits, c.isDigit = true) ∧ digits.length ≤ limit ∧
      cs = digits ++ (takeDigits limit count value cs).2.2 ∧
      (takeDigits limit count value cs).1 = count + digits.length ∧
      (takeDigits limit count value cs).2.1 = Nat.ofDigitChars 10 digits value := by
  fun_induction takeDigits limit count value cs with
  | case1 => exact ⟨[], by simp⟩
  | case2 count value c rest limit d digit ih =>
    obtain ⟨digits, all, fits, same, length, total⟩ := ih
    obtain ⟨first, rfl⟩ : c.isDigit = true ∧ d = c.toNat - '0'.toNat := by
      unfold digitValue? at digit
      split at digit
      · next range =>
        refine ⟨?_, (Option.some.inj digit).symm⟩
        simp only [Char.isDigit, Bool.and_eq_true, decide_eq_true_eq]
        exact range
      · cases digit
    refine ⟨c :: digits, ?_, by simpa using fits, by rw [List.cons_append, ← same], ?_, ?_⟩
    · rintro e member
      rcases List.mem_cons.mp member with rfl | later
      · exact first
      · exact all e later
    · rw [length, List.length_cons]
      omega
    · rw [total, Nat.ofDigitChars_cons, Nat.mul_comm]
  | case3 => exact ⟨[], by simp⟩

theorem number_eq_some {limit n : Nat} {cs rest : List Char} (read : number limit cs = some (n, rest)) :
    ∃ digits, (∀ c ∈ digits, c.isDigit = true) ∧ 1 ≤ digits.length ∧ digits.length ≤ limit ∧
      cs = digits ++ rest ∧ Nat.ofDigitChars 10 digits 0 = n := by
  obtain ⟨digits, all, fits, same, length, total⟩ := takeDigits_split limit 0 0 cs
  unfold number at read
  split at read
  · cases read
  · next count value left nonzero taken =>
    rw [taken] at same length total
    cases read
    have some : count ≠ 0 := by
      rintro rfl
      exact nonzero rfl
    dsimp only at same length total
    exact ⟨digits, all, by omega, fits, same, total.symm⟩

def digitsOf (width n : Nat) : List Char :=
  List.replicate (width - (Nat.toDigits 10 n).length) '0' ++ Nat.toDigits 10 n

theorem toList_padded (width n : Nat) : (padded width n).toList = digitsOf width n := by
  simp only [padded, digitsOf, String.toList_ofList]

theorem digitsOf_digits {width n : Nat} : ∀ c ∈ digitsOf width n, c.isDigit = true := by
  intro c member
  rcases List.mem_append.mp member with nought | digit
  · rw [List.eq_of_mem_replicate nought]
    rfl
  · exact Nat.isDigit_of_mem_toDigits (by decide) (by decide) digit

theorem digitsOf_value (width n : Nat) : Nat.ofDigitChars 10 (digitsOf width n) 0 = n := by
  rw [digitsOf, Nat.ofDigitChars_append, Nat.ofDigitChars_replicate_zero, Nat.mul_zero,
    Nat.ofDigitChars_ten_toDigits]

theorem digitsOf_length (width n : Nat) :
    (digitsOf width n).length = max width (Nat.toDigits 10 n).length := by
  simp only [digitsOf, List.length_append, List.length_replicate]
  omega

theorem digitsOf_length_of_lt (width : Nat) {n : Nat} (positive : 0 < width)
    (small : n < Nat.pow 10 width) : (digitsOf width n).length = width := by
  have short := (Nat.length_toDigits_le_iff (by decide) positive).mpr small
  rw [digitsOf_length]
  omega

theorem digitsOf_ne_nil (width n : Nat) : digitsOf width n ≠ [] := by
  simp [digitsOf, Nat.toDigits_ne_nil]

theorem number_append {digits : List Char} (all : ∀ c ∈ digits, c.isDigit = true) {limit : Nat}
    (positive : 1 ≤ digits.length) (fits : digits.length ≤ limit) {rest : List Char}
    (ends : digits.length = limit ∨ Ends rest) :
    number limit (digits ++ rest) = some (Nat.ofDigitChars 10 digits 0, rest) := by
  have stops : limit - digits.length = 0 ∨ Ends rest := ends.imp_left fun full => by omega
  rw [number, takeDigits_append all fits, takeDigits_ends stops]
  split
  · next none => simp only [Prod.mk.injEq] at none; omega
  · next same => cases same; rfl

theorem number_digitsOf {limit width n : Nat} {rest : List Char}
    (fits : (digitsOf width n).length ≤ limit)
    (ends : (digitsOf width n).length = limit ∨ Ends rest) :
    number limit (digitsOf width n ++ rest) = some (n, rest) := by
  have positive := List.length_pos_iff.mpr (digitsOf_ne_nil width n)
  rw [number_append digitsOf_digits positive fits ends, digitsOf_value]

theorem trimStart_digitsOf {width n : Nat} {rest : List Char} :
    trimStart (digitsOf width n ++ rest) = digitsOf width n ++ rest := by
  obtain ⟨c, digits, same⟩ := List.exists_cons_of_ne_nil (digitsOf_ne_nil width n)
  rw [same]
  exact trimStart_cons (isBlank_of_isDigit (digitsOf_digits c (same ▸ List.mem_cons_self)))

/-- A number of one or two digits takes up the whole of its two places. -/
theorem number_two {n : Nat} (small : n < 100) (rest : List Char) :
    number 2 (digitsOf 2 n ++ rest) = some (n, rest) := by
  have length := digitsOf_length_of_lt 2 (by decide) small
  exact number_digitsOf (Nat.le_of_eq length) (Or.inl length)

theorem longNumber_digitsOf {width n : Nat} {rest : List Char} (ends : Ends rest) :
    longNumber (digitsOf width n ++ rest) = some (n, rest) :=
  number_digitsOf (by simp) (Or.inr ends)

end Rota.Text
