import Rota.Text.Blank
import Mathlib.Data.List.DropRight

/-!
Trimming a text. It takes white space off both ends and nothing else; what is trimmed stays the same
when it is trimmed again, and is blank exactly when it was blank before.
-/

namespace Rota.Text

theorem trimEnd_eq (cs : List Char) : trimEnd cs = cs.rdropWhile isBlank := rfl

/-- Taking from the end leaves the first character, and that is not white space. -/
theorem trimStart_trimChars (cs : List Char) : trimStart (trimChars cs) = trimChars cs := by
  have kept : trimChars cs <+: trimStart cs := List.rdropWhile_prefix isBlank _
  apply List.dropWhile_eq_self_iff.mpr
  intro nonempty blank
  obtain ⟨rest, same⟩ := kept
  have started : (trimStart cs).head? = some (trimChars cs)[0] := by
    rw [← same, List.head?_append_of_ne_nil _ (List.ne_nil_of_length_pos nonempty),
      List.head?_eq_getElem?, List.getElem?_eq_getElem nonempty]
  have solid := List.head?_dropWhile_not isBlank cs
  rw [trimStart] at started
  rw [started] at solid
  simp [blank] at solid

theorem trimChars_split (cs : List Char) : ∃ before after, cs = before ++ trimChars cs ++ after ∧
    (∀ c ∈ before, isBlank c = true) ∧ ∀ c ∈ after, isBlank c = true := by
  have front : cs = cs.takeWhile isBlank ++ trimStart cs := List.takeWhile_append_dropWhile.symm
  have back : (trimStart cs).reverse =
      (trimStart cs).reverse.takeWhile isBlank ++ trimStart (trimStart cs).reverse :=
    List.takeWhile_append_dropWhile.symm
  have ends : trimStart cs = trimChars cs ++ ((trimStart cs).reverse.takeWhile isBlank).reverse := by
    rw [trimChars, trimEnd, ← List.reverse_append, ← back, List.reverse_reverse]
  refine ⟨cs.takeWhile isBlank, ((trimStart cs).reverse.takeWhile isBlank).reverse, ?_,
    List.all_eq_true.mp List.all_takeWhile, fun c member => ?_⟩
  · rw [List.append_assoc, ← ends]
    exact front
  · exact List.all_eq_true.mp List.all_takeWhile c (List.mem_reverse.mp member)

theorem trimChars_padded {before cs after : List Char} (front : ∀ c ∈ before, isBlank c = true)
    (solid : ∀ c ∈ cs, isBlank c = false) (back : ∀ c ∈ after, isBlank c = true) :
    trimChars (before ++ cs ++ after) = cs := by
  have blank {padding rest : List Char} (all : ∀ c ∈ padding, isBlank c = true) :
      trimStart (padding ++ rest) = trimStart rest := List.dropWhile_append_of_pos all
  have whole (rest : List Char) (none : ∀ c ∈ rest, isBlank c = false) : trimStart rest = rest := by
    apply List.dropWhile_eq_self_iff.mpr
    intro nonempty found
    rw [none _ (List.getElem_mem nonempty)] at found
    cases found
  rw [List.append_assoc, trimChars, blank front]
  cases cs with
  | nil =>
    have gone : trimStart (after ++ []) = trimStart [] := blank back
    rw [List.append_nil] at gone
    rw [List.nil_append, gone]
    rfl
  | cons c rest =>
    have kept : trimStart (c :: rest ++ after) = c :: rest ++ after := by
      rw [List.cons_append, trimStart, List.dropWhile_cons, solid c List.mem_cons_self]
      rfl
    rw [kept, trimEnd, List.reverse_append,
      blank fun d member => back d (List.mem_reverse.mp member),
      whole _ fun d member => solid d (List.mem_reverse.mp member), List.reverse_reverse]

theorem trimChars_trimChars (cs : List Char) : trimChars (trimChars cs) = trimChars cs := by
  rw [trimChars, trimStart_trimChars, trimChars, trimEnd_eq, trimEnd_eq, List.rdropWhile_idempotent]

theorem trim_trim (s : String) : trim (trim s) = trim s := by
  simp only [trim, String.toList_ofList, trimChars_trimChars]

theorem all_trimStart (cs : List Char) : (trimStart cs).all isBlank = cs.all isBlank := by
  induction cs with
  | nil => rfl
  | cons c rest ih =>
    by_cases blank : isBlank c = true
    · simpa [trimStart, blank] using ih
    · simp [trimStart, blank]

@[simp] theorem isBlankText_trim (s : String) : isBlankText (trim s) = isBlankText s := by
  simp only [isBlankText, trim, String.toList_ofList, trimChars, trimEnd, List.all_reverse,
    all_trimStart]

end Rota.Text
