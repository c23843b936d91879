import Rota.Text.Case
import Rota.Uuid

/-!
Identifiers that are written read back: thirty-two hexadecimal digits are 128 bits, and the hyphens
stand where they are looked for. The short form of one is no identifier; typed in letters of either
case it begins the written one.
-/

namespace Rota

open Text

theorem hexValue?_digitChar : ∀ d < 16, hexValue? d.digitChar = some d := by decide

theorem hexNumber?_snoc {cs : List Char} {n d : Nat} (read : hexNumber? cs = some n) (small : d < 16) :
    hexNumber? (cs ++ [d.digitChar]) = some (n * 16 + d) := by
  rw [hexNumber?, List.foldlM_append, ← hexNumber?, read]
  simp [hexValue?_digitChar d small]

theorem hexNumber?_noughts (count : Nat) : hexNumber? (List.replicate count '0') = some 0 := by
  induction count with
  | zero => rfl
  | succ count ih =>
    rw [List.replicate_succ']
    exact hexNumber?_snoc (d := 0) ih (by decide)

theorem hexNumber?_toDigits (count n : Nat) :
    hexNumber? (List.replicate count '0' ++ Nat.toDigits 16 n) = some n := by
  induction n using Nat.strongRecOn with
  | _ n ih =>
    rw [Nat.toDigits_eq_if (by decide)]
    split
    · next small => simpa using hexNumber?_snoc (hexNumber?_noughts count) small
    · next large =>
      have quotient : n / 16 * 16 + n % 16 = n := Nat.div_add_mod' n 16
      rw [← List.append_assoc, hexNumber?_snoc (ih (n / 16) (by omega)) (by omega), quotient]

theorem toDigits_ascii (n : Nat) : ∀ c ∈ Nat.toDigits 16 n, c.toNat < 128 := by
  have digits : ∀ d < 16, d.digitChar.toNat < 128 := by decide
  induction n using Nat.strongRecOn with
  | _ n ih =>
    rw [Nat.toDigits_eq_if (by decide)]
    intro c member
    split at member
    · next small =>
      rw [List.mem_singleton.mp member]
      exact digits n small
    · next large =>
      rcases List.mem_append.mp member with earlier | last
      · exact ih (n / 16) (by omega) c earlier
      · rw [List.mem_singleton.mp last]
        exact digits _ (by omega)

namespace Text

/-- The lower case of ASCII letters keeps to ASCII, and no other letter comes to it. -/
theorem toNat_lt_of_toLower {c : Char} (small : c.toLower.toNat < 128) : c.toNat < 128 := by
  by_cases capital : c.val ≥ 'A'.val ∧ c.val ≤ 'Z'.val
  · exact Nat.lt_of_le_of_lt (UInt32.le_iff_toNat_le.mp capital.2) (by decide)
  · have same : c.toLower = c := dif_neg capital
    rwa [same] at small

theorem lowerFrom_ascii {cs : List Char} (ascii : ∀ c ∈ cs, c.toNat < 128) (before : List Char) :
    lowerFrom before cs = cs.map Char.toLower := by
  induction cs generalizing before with
  | nil => rfl
  | cons c rest ih =>
    obtain ⟨small, others⟩ := List.forall_mem_cons.mp ascii
    have sigma : c ≠ '\u03a3' := by
      rintro rfl
      exact absurd small (by decide)
    have dotted : c ≠ '\u0130' := by
      rintro rfl
      exact absurd small (by decide)
    simp [lowerFrom, sigma, dotted, lowerChar, small, ih others]

/-- A text that is ASCII but for the case of its letters is lowered letter by letter. -/
theorem lower_eq {text : String} {lowered : List Char}
    (same : text.toList.map Char.toLower = lowered) (ascii : ∀ c ∈ lowered, c.toNat < 128) :
    (lower text).toList = lowered := by
  have small : ∀ c ∈ text.toList, c.toNat < 128 := fun c member =>
    toNat_lt_of_toLower (ascii _ (same ▸ List.mem_map_of_mem member))
  rw [lower, String.toList_ofList, lowerFrom_ascii small, same]

end Text

namespace Uuid

theorem hexNumber?_digits (id : Uuid) : hexNumber? id.digits = some id.toNat :=
  hexNumber?_toDigits _ _

theorem digits_length (id : Uuid) : id.digits.length = 32 := by
  have bound : id.toNat < 16 ^ 32 := id.bits.isLt
  have short := (Nat.length_toDigits_le_iff (show 1 < 16 by decide) (by decide)).mpr bound
  simp only [digits, List.length_append, List.length_replicate]
  omega

theorem ofNat_toNat (id : Uuid) : ofNat id.toNat = id := by
  simp [ofNat, toNat]

theorem ofHyphenated?_groups {a b c d e : List Char} (first : a.length = 8) (second : b.length = 4)
    (third : c.length = 4) (fourth : d.length = 4) (last : e.length = 12) :
    ofHyphenated? (a ++ '-' :: (b ++ '-' :: (c ++ '-' :: (d ++ '-' :: e)))) =
      (hexNumber? (a ++ b ++ c ++ d ++ e)).map ofNat := by
  unfold ofHyphenated?
  rw [if_pos (by simp [first, second, third, fourth, last])]
  simp [first, second, third, fourth, List.drop_append, List.drop_eq_nil_of_le]

theorem ofText?_toText (id : Uuid) : ofText? id.toText = some id := by
  have length := id.digits_length
  have text : id.toText.toList = id.digits.take 8 ++ '-' :: ((id.digits.drop 8).take 4 ++
      '-' :: ((id.digits.drop 12).take 4 ++ '-' :: ((id.digits.drop 16).take 4 ++
        '-' :: id.digits.drop 20))) := by
    simp [toText]
  have long : id.toText.toList.length = 36 := by
    simp [text, length]
  have together : id.digits.take 8 ++ (id.digits.drop 8).take 4 ++ (id.digits.drop 12).take 4 ++
      (id.digits.drop 16).take 4 ++ id.digits.drop 20 = id.digits := by
    rw [← List.take_add, ← List.take_add, ← List.take_add, List.take_append_drop]
  simp only [ofText?, long, Nat.reduceEqDiff, ↓reduceIte]
  rw [text, ofHyphenated?_groups (by simp [length]) (by simp [length]) (by simp [length])
    (by simp [length]) (by simp [length]), together, hexNumber?_digits, Option.map_some, ofNat_toNat]

theorem toList_short (id : Uuid) : id.short.toList = id.digits.take 8 := String.toList_ofList

theorem length_short (id : Uuid) : id.short.toList.length = 8 := by
  rw [toList_short, List.length_take, digits_length]
  rfl

theorem short_ascii (id : Uuid) : ∀ c ∈ id.short.toList, c.toNat < 128 := by
  intro c member
  rw [toList_short] at member
  rcases List.mem_append.mp (List.mem_of_mem_take member) with nought | digit
  · rw [List.eq_of_mem_replicate nought]
    decide
  · exact toDigits_ascii _ c digit

theorem short_isPrefix (id : Uuid) : id.short.toList <+: id.toText.toList := by
  rw [toList_short, toText, String.toList_ofList]
  simp [List.append_assoc]

section Typed
variable {text : String} {id : Uuid} (typed : text.toList.map Char.toLower = id.short.toList)
include typed

theorem length_typed : text.toList.length = 8 := by
  rw [← id.length_short, ← typed, List.length_map]

theorem ofText?_typed : ofText? text = none := by
  simp [ofText?, length_typed typed]

theorem lower_typed_isPrefix : (lower text).toList <+: id.toText.toList := by
  rw [lower_eq typed id.short_ascii]
  exact id.short_isPrefix

end Typed

end Uuid
end Rota
