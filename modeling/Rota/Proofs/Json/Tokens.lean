import Rota.Json.Text
import Rota.Proofs.Text.Digits

/-!
The single parts of JSON text. What was written as a string or as a whole number of 64 bits is read
back, and the reader stops where it ends.
-/

namespace Rota

open Text

namespace Text

theorem digitsValue_eq {digits : List Char} (all : ∀ c ∈ digits, c.isDigit = true) :
    digitsValue digits = Nat.ofDigitChars 10 digits 0 := by
  suffices step : ∀ value, digits.foldl (fun n c => n * 10 + (digitValue? c).getD 0) value =
      Nat.ofDigitChars 10 digits value from step 0
  induction digits with
  | nil => exact fun _ => rfl
  | cons c rest ih =>
    intro value
    rw [List.foldl_cons, ih fun d member => all d (List.mem_cons_of_mem c member),
      digitValue?_of_isDigit (all c List.mem_cons_self), Nat.ofDigitChars_cons, Option.getD_some,
      Nat.mul_comm value 10]

theorem isDigit_eq_false {c : Char} (other : digitValue? c = none) : isDigit c = false := by
  rw [isDigit, other, Option.isSome_none]

theorem isDigit_of_isDigit {c : Char} (digit : c.isDigit = true) : isDigit c = true := by
  rw [isDigit, digitValue?_of_isDigit digit, Option.isSome_some]

theorem takeWhile_digits {digits rest : List Char} (all : ∀ c ∈ digits, c.isDigit = true)
    (ends : Ends rest) : (digits ++ rest).takeWhile isDigit = digits := by
  have none_next : rest.takeWhile isDigit = [] := by
    cases rest with
    | nil => rfl
    | cons c rest => simp [isDigit_eq_false (ends c rfl)]
  rw [List.takeWhile_append_of_pos fun c member => isDigit_of_isDigit (all c member), none_next,
    List.append_nil]

theorem dropWhile_digits {digits rest : List Char} (all : ∀ c ∈ digits, c.isDigit = true)
    (ends : Ends rest) : (digits ++ rest).dropWhile isDigit = rest := by
  rw [List.dropWhile_append_of_pos fun c member => isDigit_of_isDigit (all c member)]
  cases rest with
  | nil => rfl
  | cons c rest => simp [isDigit_eq_false (ends c rfl)]

theorem exists_digit (n : Nat) :
    ∃ c digits, Nat.toDigits 10 n = c :: digits ∧ c.isDigit = true := by
  obtain ⟨c, digits, same⟩ := List.exists_cons_of_ne_nil (@Nat.toDigits_ne_nil n 10)
  exact ⟨c, digits, same,
    Nat.isDigit_of_mem_toDigits (by decide) (by decide) (same ▸ List.mem_cons_self)⟩

theorem digitChar_eq_nought : ∀ n < 10, Nat.digitChar n = '0' → n = 0 := by decide

theorem eq_zero_of_toDigits {n : Nat} {rest : List Char} (nought : Nat.toDigits 10 n = '0' :: rest) :
    n = 0 ∧ rest = [] := by
  induction n using Nat.strongRecOn generalizing rest with
  | ind n ih =>
    by_cases small : n < 10
    · rw [Nat.toDigits_of_lt_base small, List.cons.injEq] at nought
      exact ⟨digitChar_eq_nought n small nought.1, nought.2.symm⟩
    · rw [Nat.toDigits_of_base_le (by decide) (by omega)] at nought
      obtain ⟨first, digits, same, _⟩ := exists_digit (n / 10)
      rw [same, List.cons_append, List.cons.injEq] at nought
      have := (ih (n / 10) (by omega) (nought.1 ▸ same)).1
      omega

end Text

namespace Json

/-- A value that was written ends here: nothing comes next, or a mark that separates or closes. -/
def Closed (rest : List Char) : Prop := ∀ c ∈ rest.head?, c = ',' ∨ c = ']' ∨ c = '\x7d'

theorem closed_nil : Closed [] := nofun

theorem closed_cons {c : Char} {rest : List Char} (mark : c = ',' ∨ c = ']' ∨ c = '\x7d') :
    Closed (c :: rest) := by
  simpa [Closed] using mark

section Strings

theorem hexValue?_hexDigit : ∀ n < 16, hexValue? (hexDigit n) = some n := by decide

theorem readHex4_low {n : Nat} (small : n < 256) (rest : List Char) :
    readHex4 ('0' :: '0' :: hexDigit (n / 16) :: hexDigit (n % 16) :: rest) = some (n, rest) := by
  have high := hexValue?_hexDigit (n / 16) (by omega)
  have low := hexValue?_hexDigit (n % 16) (by omega)
  have nought : hexValue? '0' = some 0 := rfl
  have whole : n / 16 * 16 + n % 16 = n := by omega
  simp [readHex4, hexNumber?, high, low, nought, whole]

theorem readStringFrom_escapeChar (c : Char) (fuel : Nat) (taken rest : List Char) :
    readStringFrom (fuel + 1) taken (escapeChar c ++ rest) =
      readStringFrom fuel (c :: taken) rest := by
  fun_cases escapeChar c with
  | case1 | case2 | case3 | case4 | case5 =>
    subst_vars
    rfl
  | case6 _ _ _ _ _ control =>
    have small : c.toNat < 256 := by omega
    have scalar : ¬(0xD800 ≤ c.toNat ∧ c.toNat < 0xDC00) ∧ ¬(0xDC00 ≤ c.toNat ∧ c.toNat < 0xE000) := by
      omega
    simp [readStringFrom, readEscape, readHex4_low small, scalar, Char.ofNat_toNat]
  | case7 _ _ _ _ _ plain => simp [readStringFrom, plain]

theorem length_escapeChar (c : Char) : 1 ≤ (escapeChar c).length := by
  fun_cases escapeChar c <;> simp

theorem length_le_flatMap_escapeChar (cs : List Char) :
    cs.length ≤ (cs.flatMap escapeChar).length := by
  induction cs with
  | nil => simp
  | cons c cs ih =>
    have := length_escapeChar c
    simp only [List.flatMap_cons, List.length_append, List.length_cons]
    omega

theorem readStringFrom_escaped (cs : List Char) {fuel : Nat} (enough : cs.length < fuel)
    (taken rest : List Char) :
    readStringFrom fuel taken (cs.flatMap escapeChar ++ '"' :: rest) =
      some (taken.reverse ++ cs, rest) := by
  induction cs generalizing fuel taken with
  | nil =>
    obtain ⟨fuel, rfl⟩ : ∃ n, fuel = n + 1 := ⟨fuel - 1, by simp at enough; omega⟩
    simp [readStringFrom]
  | cons c cs ih =>
    obtain ⟨fuel, rfl⟩ : ∃ n, fuel = n + 1 := ⟨fuel - 1, by simp at enough; omega⟩
    rw [List.flatMap_cons, List.append_assoc, readStringFrom_escapeChar,
      ih (by simpa using enough), List.reverse_cons, List.append_assoc, List.singleton_append]

theorem readString_quoted (s : String) (rest : List Char) :
    readString (s.toList.flatMap escapeChar ++ '"' :: rest) = some (s, rest) := by
  have enough : s.toList.length < (s.toList.flatMap escapeChar ++ '"' :: rest).length + 1 := by
    have := length_le_flatMap_escapeChar s.toList
    simp only [List.length_append]
    omega
  simp only [readString, readStringFrom_escaped _ enough, Option.bind_eq_bind, Option.bind_some,
    List.reverse_nil, List.nil_append, String.ofList_toList, Option.pure_def]

end Strings

section Numbers

variable {rest : List Char}

theorem Closed.ends (closed : Closed rest) : Ends rest := by
  intro c next
  rcases closed c next with rfl | rfl | rfl <;> rfl

theorem Closed.readDecimals (closed : Closed rest) : readDecimals rest = some (none, rest) := by
  cases rest with
  | nil => rfl
  | cons c rest => rcases closed c rfl with rfl | rfl | rfl <;> rfl

theorem Closed.readExponent (closed : Closed rest) : readExponent rest = some (none, rest) := by
  cases rest with
  | nil => rfl
  | cons c rest => rcases closed c rfl with rfl | rfl | rfl <;> rfl

theorem readWhole_toDigits (n : Nat) (ends : Ends rest) :
    readWhole (Nat.toDigits 10 n ++ rest) = some (Nat.toDigits 10 n, rest) := by
  have all : ∀ c ∈ Nat.toDigits 10 n, c.isDigit = true := fun c member =>
    Nat.isDigit_of_mem_toDigits (by decide) (by decide) member
  obtain ⟨first, digits, same, _⟩ := exists_digit n
  by_cases nought : first = '0'
  · subst nought
    obtain ⟨rfl, rfl⟩ := eq_zero_of_toDigits same
    rfl
  · have longer : readWhole (Nat.toDigits 10 n ++ rest) =
        some (Nat.toDigits 10 n, (Nat.toDigits 10 n ++ rest).dropWhile isDigit) := by
      have taken := takeWhile_digits all ends
      rw [same, List.cons_append] at taken ⊢
      simp [readWhole, nought, taken]
    rw [longer, dropWhile_digits all ends]

def Whole64 (n : Int) : Prop := -9223372036854775808 ≤ n ∧ n < 18446744073709551616

theorem readNumber_toDigits {negative : Bool} {n : Nat} (closed : Closed rest)
    (fits : if negative then 0 < n ∧ n ≤ 9223372036854775808 else n < 18446744073709551616) :
    readNumber negative (Nat.toDigits 10 n ++ rest) =
      some (.int (if negative then -(n : Int) else n), rest) := by
  have value : digitsValue (Nat.toDigits 10 n) = n := by
    rw [digitsValue_eq fun c member => Nat.isDigit_of_mem_toDigits (by decide) (by decide) member,
      Nat.ofDigitChars_ten_toDigits]
  simp only [readNumber, readWhole_toDigits n closed.ends, closed.readDecimals, closed.readExponent,
    value, Option.bind_eq_bind, Option.bind_some]
  cases negative <;> simp_all

theorem toList_toString (n : Int) : (toString n).toList =
    if n < 0 then '-' :: Nat.toDigits 10 n.natAbs else Nat.toDigits 10 n.natAbs := by
  cases n with
  | ofNat n =>
    have positive : ¬Int.ofNat n < 0 := by simp
    rw [if_neg positive]
    exact String.toList_ofList
  | negSucc n =>
    rw [if_pos (Int.negSucc_lt_zero n)]
    show ("-" ++ Nat.repr (n + 1)).toList = '-' :: Nat.toDigits 10 (n + 1)
    simp [Nat.repr]

end Numbers

end Json
end Rota
