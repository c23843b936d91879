import Rota.Proofs.Json.Tokens

/-!
JSON text is read back. A value without amounts, whose numbers are whole ones of 64 bits and whose
objects name each member once, is what its text is read as, if it is not nested too deeply.
-/

namespace Rota.Json

open Text

/-- At most `depth` levels deep, and of those values that have one text only. -/
inductive Plain : Nat → Json → Prop
  | null {depth : Nat} : Plain depth .null
  | bool {depth : Nat} (value : Bool) : Plain depth (.bool value)
  | int {depth : Nat} {value : Int} (fits : Whole64 value) : Plain depth (.int value)
  | text {depth : Nat} (value : String) : Plain depth (.text value)
  | list {depth : Nat} {items : List Json} (inner : ∀ item ∈ items, Plain depth item) :
      Plain (depth + 1) (.list items)
  | object {depth : Nat} {members : List (String × Json)} (once : (members.map Prod.fst).Nodup)
      (inner : ∀ entry ∈ members, Plain depth entry.2) : Plain (depth + 1) (.object members)

namespace Plain

variable {α : Type} {depth : Nat} {write : α → Json}

theorem ofUInt8 (n : UInt8) : Plain depth (ofUInt8 n) := by
  have bound := n.toNat_lt
  exact int ⟨by omega, by omega⟩

theorem ofUInt32 (n : UInt32) : Plain depth (ofUInt32 n) := by
  have bound := n.toNat_lt
  exact int ⟨by omega, by omega⟩

theorem ofOption (plain : ∀ a, Plain depth (write a)) (value : Option α) :
    Plain depth (ofOption write value) := by
  cases value with
  | none => exact null
  | some a => exact plain a

theorem list_map (plain : ∀ a, Plain depth (write a)) (items : List α) :
    Plain (depth + 1) (.list (items.map write)) := by
  refine list fun item member => ?_
  obtain ⟨a, _, rfl⟩ := List.mem_map.mp member
  exact plain a

end Plain

/-- Members of some of these names, in this order, whose values are plain. -/
structure PlainMembers (depth : Nat) (names : List String) (members : List (String × Json)) : Prop
    where
  named : (members.map Prod.fst).Sublist names
  plain : ∀ entry ∈ members, Plain depth entry.2

namespace PlainMembers

variable {α : Type} {depth : Nat} {name : String} {names more : List String} {json : Json}
  {members others : List (String × Json)} {write : α → Json}

theorem nil : PlainMembers depth [] [] := ⟨.slnil, nofun⟩

theorem cons (plain : Plain depth json) (rest : PlainMembers depth names members) :
    PlainMembers depth (name :: names) ((name, json) :: members) where
  named := rest.named.cons_cons name
  plain := List.forall_mem_cons.mpr ⟨plain, rest.plain⟩

theorem append (first : PlainMembers depth names members)
    (second : PlainMembers depth more others) :
    PlainMembers depth (names ++ more) (members ++ others) where
  named := by
    rw [List.map_append]
    exact first.named.append second.named
  plain := List.forall_mem_append.mpr ⟨first.plain, second.plain⟩

theorem memberOf (plain : ∀ a, Plain depth (write a)) (value : Option α) :
    PlainMembers depth [name] (memberOf name write value) := by
  cases value with
  | none => exact ⟨List.nil_sublist _, nofun⟩
  | some a => exact nil.cons (plain a)

theorem memberOfList (plain : ∀ a, Plain depth (write a)) (items : List α) :
    PlainMembers (depth + 1) [name] (memberOfList name write items) := by
  cases items with
  | nil => exact ⟨List.nil_sublist _, nofun⟩
  | cons a rest => exact nil.cons (Plain.list_map plain (a :: rest))

theorem object (all : PlainMembers depth names members) (distinct : names.Nodup) :
    Plain (depth + 1) (.object members) :=
  .object (all.named.nodup distinct) all.plain

end PlainMembers

/-- The text of the value, with anything that may follow it, is read as the value; the fuel suffices
when it allows for two steps at each character. -/
def ReadBack (depth : Nat) (json : Json) : Prop :=
  ∀ (rest : List Char) (fuel : Nat), Closed rest → 2 * (writeBefore rest json).length ≤ fuel + 1 →
    readValue (fuel + 1) depth (writeBefore rest json) = some (json, rest)

section Lengths

mutual

theorem length_le_writeBefore : ∀ (rest : List Char) (json : Json),
    rest.length ≤ (writeBefore rest json).length
  | rest, .null | rest, .bool _ | rest, .int _ | rest, .amount _ | rest, .text _ => by
    rw [writeBefore, List.length_append]
    exact Nat.le_add_left _ _
  | rest, .list items => by
    have := length_le_writeItems (']' :: rest) true items
    simp only [writeBefore, List.length_cons] at this ⊢
    omega
  | rest, .object members => by
    have := length_le_writeMembers ('\x7d' :: rest) true members
    simp only [writeBefore, List.length_cons] at this ⊢
    omega

theorem length_le_writeItems : ∀ (rest : List Char) (isFirst : Bool) (items : List Json),
    rest.length ≤ (writeItems rest isFirst items).length
  | rest, _, [] => by simp [writeItems]
  | rest, isFirst, item :: items => by
    have := length_le_writeItems rest false items
    have := length_le_writeBefore (writeItems rest false items) item
    cases isFirst <;> simp only [writeItems] <;> simp <;> omega

theorem length_le_writeMembers : ∀ (rest : List Char) (isFirst : Bool)
    (members : List (String × Json)), rest.length ≤ (writeMembers rest isFirst members).length
  | rest, _, [] => by simp [writeMembers]
  | rest, isFirst, (name, value) :: members => by
    have := length_le_writeMembers rest false members
    have := length_le_writeBefore (writeMembers rest false members) value
    cases isFirst <;> simp only [writeMembers] <;> simp <;> omega

end

end Lengths

theorem skipSpace_cons (c : Char) {rest : List Char} (solid : isSpace c = false) :
    skipSpace (c :: rest) = c :: rest := by
  simp [skipSpace, solid]

theorem isSpace_of_isDigit {c : Char} (digit : c.isDigit = true) : isSpace c = false := by
  cases space : isSpace c with
  | false => rfl
  | true =>
    simp only [isSpace, Bool.or_eq_true, beq_iff_eq] at space
    rcases space with ((rfl | rfl) | rfl) | rfl <;> exact absurd digit (by decide)

theorem writeBefore_int (rest : List Char) (value : Int) : writeBefore rest (.int value) =
    if value < 0 then '-' :: (Nat.toDigits 10 value.natAbs ++ rest)
    else Nat.toDigits 10 value.natAbs ++ rest := by
  rw [writeBefore, toList_toString]
  split <;> rfl

/-- The text of a value starts with none of the characters that the reader passes over, and with no
mark that closes. -/
theorem Plain.starts {depth : Nat} {json : Json} (plain : Plain depth json) (rest : List Char) :
    ∃ c tail, writeBefore rest json = c :: tail ∧ isSpace c = false ∧ c ≠ ']' := by
  cases plain with
  | null => exact ⟨'n', _, rfl, rfl, by decide⟩
  | bool value => cases value <;> exact ⟨_, _, rfl, rfl, by decide⟩
  | text => exact ⟨'"', _, rfl, rfl, by decide⟩
  | list | object => exact ⟨_, _, rfl, rfl, by decide⟩
  | @int _ value =>
    rw [writeBefore_int]
    split
    · exact ⟨'-', _, rfl, rfl, by decide⟩
    · obtain ⟨c, digits, same, digit⟩ := exists_digit value.natAbs
      refine ⟨c, digits ++ rest, by rw [same]; rfl, isSpace_of_isDigit digit, ?_⟩
      rintro rfl
      exact absurd digit (by decide)

theorem readValue_digit {c : Char} (digit : c.isDigit = true) (fuel depth : Nat)
    (rest : List Char) :
    readValue (fuel + 1) depth (c :: rest) = readNumber false (c :: rest) := by
  rw [readValue, skipSpace_cons c (isSpace_of_isDigit digit)]
  split
  case h_8 => rfl
  all_goals
    next same =>
      injection same with same
      subst same
      exact absurd digit (by decide)

theorem readBack_int {value : Int} (fits : Whole64 value) (depth : Nat) :
    ReadBack depth (.int value) := by
  intro rest fuel closed _
  obtain ⟨low, high⟩ := fits
  rw [writeBefore_int]
  split
  · next below =>
    show readNumber true (Nat.toDigits 10 value.natAbs ++ rest) = some (.int value, rest)
    have same : -(value.natAbs : Int) = value := by omega
    rw [readNumber_toDigits closed (by simp; omega), if_pos rfl, same]
  · next positive =>
    obtain ⟨c, digits, cons, digit⟩ := exists_digit value.natAbs
    have same : (value.natAbs : Int) = value := by omega
    rw [cons, List.cons_append, readValue_digit digit, ← List.cons_append, ← cons,
      readNumber_toDigits closed (by simp; omega), if_neg (by decide), same]

theorem readBack_text (value : String) (depth : Nat) : ReadBack depth (.text value) := by
  intro rest fuel _ _
  have whole : writeBefore rest (.text value) =
      '"' :: (value.toList.flatMap escapeChar ++ '"' :: rest) := by
    simp [writeBefore, quoted]
  rw [whole, readValue, skipSpace_cons '"' rfl]
  simp [readString_quoted]

theorem readBack_word (depth : Nat) :
    ReadBack depth .null ∧ ∀ value, ReadBack depth (.bool value) := by
  refine ⟨fun rest fuel _ _ => ?_, fun value rest fuel _ _ => ?_⟩
  · rfl
  · cases value <;> rfl

theorem closed_writeItems (rest : List Char) (items : List Json) :
    Closed (writeItems (']' :: rest) false items) := by
  cases items with
  | nil => exact closed_cons (by simp)
  | cons => exact closed_cons (by simp)

theorem readItems_writeItems {depth : Nat} {items : List Json} (some_items : items ≠ [])
    (inner : ∀ item ∈ items, ReadBack depth item) (before : List Json) (rest : List Char)
    {fuel : Nat} (enough : 2 * (writeItems (']' :: rest) true items).length ≤ fuel) :
    readItems (fuel + 1) depth before (writeItems (']' :: rest) true items) =
      some (.list (before.reverse ++ items), rest) := by
  induction items generalizing before fuel with
  | nil => contradiction
  | cons item items ih =>
    have written : writeItems (']' :: rest) true (item :: items) =
        writeBefore (writeItems (']' :: rest) false items) item := rfl
    rw [written] at enough ⊢
    have shorter := length_le_writeBefore (writeItems (']' :: rest) false items) item
    have ends := length_le_writeItems (']' :: rest) false items
    rw [List.length_cons] at ends
    obtain ⟨fuel, rfl⟩ : ∃ n, fuel = n + 1 := ⟨fuel - 1, by omega⟩
    have read := inner item List.mem_cons_self _ fuel (closed_writeItems rest items) enough
    rw [readItems, read]
    -- What follows the item is the closing mark, or a comma before the next one.
    cases items with
    | nil => simp [writeItems, skipSpace_cons ']' rfl]
    | cons next more =>
      have comma : writeItems (']' :: rest) false (next :: more) =
          ',' :: writeItems (']' :: rest) true (next :: more) := rfl
      rw [comma] at enough shorter
      rw [List.length_cons] at shorter
      have later := ih (List.cons_ne_nil next more)
        (fun item member => inner item (List.mem_cons_of_mem _ member)) (item :: before)
        (show 2 * (writeItems (']' :: rest) true (next :: more)).length ≤ fuel by omega)
      rw [comma]
      simp only [Option.bind_eq_bind, Option.bind_some, skipSpace_cons ',' rfl]
      rw [later, List.reverse_cons, List.append_assoc, List.singleton_append]

theorem setMember_fresh {members : List (String × Json)} {name : String} (value : Json)
    (fresh : name ∉ members.map Prod.fst) :
    setMember members name value = members ++ [(name, value)] := by
  have kept : members.filter (fun entry => entry.1 != name) = members :=
    List.filter_eq_self.mpr fun entry member =>
      bne_iff_ne.mpr fun same => fresh (same ▸ List.mem_map_of_mem member)
  rw [setMember, kept]

theorem closed_writeMembers (rest : List Char) (members : List (String × Json)) :
    Closed (writeMembers ('\x7d' :: rest) false members) := by
  cases members with
  | nil => exact closed_cons (by simp)
  | cons => exact closed_cons (by simp)

theorem readMembers_writeMembers {depth : Nat} {members : List (String × Json)}
    (some_members : members ≠ []) (inner : ∀ entry ∈ members, ReadBack depth entry.2)
    (before : List (String × Json)) (once : ((before ++ members).map Prod.fst).Nodup)
    (rest : List Char) {fuel : Nat}
    (enough : 2 * (writeMembers ('\x7d' :: rest) true members).length ≤ fuel) :
    readMembers (fuel + 1) depth before (writeMembers ('\x7d' :: rest) true members) =
      some (.object (before ++ members), rest) := by
  induction members generalizing before fuel with
  | nil => contradiction
  | cons entry members ih =>
    obtain ⟨name, value⟩ := entry
    have written : writeMembers ('\x7d' :: rest) true ((name, value) :: members) =
        '"' :: (name.toList.flatMap escapeChar ++ '"' :: ':' ::
          writeBefore (writeMembers ('\x7d' :: rest) false members) value) := by
      simp [writeMembers, quoted]
    rw [written] at enough ⊢
    have shorter := length_le_writeBefore (writeMembers ('\x7d' :: rest) false members) value
    have ends := length_le_writeMembers ('\x7d' :: rest) false members
    simp only [List.length_cons, List.length_append] at ends enough
    obtain ⟨fuel, rfl⟩ : ∃ n, fuel = n + 1 := ⟨fuel - 1, by omega⟩
    have read := inner (name, value) List.mem_cons_self _ fuel (closed_writeMembers rest members)
      (show 2 * (writeBefore _ value).length ≤ fuel + 1 by omega)
    have fresh : name ∉ before.map Prod.fst := by
      rw [List.map_append, List.nodup_append] at once
      exact fun member => once.2.2 name member name List.mem_cons_self rfl
    rw [readMembers]
    simp only [skipSpace_cons '"' rfl, readString_quoted, Option.bind_eq_bind, Option.bind_some,
      skipSpace_cons ':' rfl, read, setMember_fresh value fresh]
    cases members with
    | nil => simp [writeMembers, skipSpace_cons '\x7d' rfl]
    | cons next more =>
      have comma : writeMembers ('\x7d' :: rest) false (next :: more) =
          ',' :: writeMembers ('\x7d' :: rest) true (next :: more) := rfl
      rw [comma] at enough shorter
      rw [List.length_cons] at shorter
      have later := ih (List.cons_ne_nil next more)
        (fun entry member => inner entry (List.mem_cons_of_mem _ member)) (before ++ [(name, value)])
        (by rwa [List.append_assoc, List.singleton_append])
        (show 2 * (writeMembers ('\x7d' :: rest) true (next :: more)).length ≤ fuel by omega)
      rw [comma]
      simp only [skipSpace_cons ',' rfl]
      rw [later, List.append_assoc, List.singleton_append]

theorem readBack_list {depth : Nat} {items : List Json} (plain : ∀ item ∈ items, Plain depth item)
    (inner : ∀ item ∈ items, ReadBack depth item) : ReadBack (depth + 1) (.list items) := by
  intro rest fuel _ enough
  have bracket : writeBefore rest (.list items) = '[' :: writeItems (']' :: rest) true items := rfl
  rw [bracket] at enough ⊢
  rw [readValue, skipSpace_cons '[' rfl]
  cases items with
  | nil => simp [writeItems, skipSpace_cons ']' rfl]
  | cons item items =>
    obtain ⟨c, tail, starts, solid, opens⟩ :=
      (plain item List.mem_cons_self).starts (writeItems (']' :: rest) false items)
    have first : writeItems (']' :: rest) true (item :: items) = c :: tail := starts
    have longer := length_le_writeItems (']' :: rest) true (item :: items)
    rw [List.length_cons] at enough longer
    obtain ⟨fuel, rfl⟩ : ∃ n, fuel = n + 1 := ⟨fuel - 1, by omega⟩
    have read := readItems_writeItems (List.cons_ne_nil item items) inner [] rest
      (show 2 * (writeItems (']' :: rest) true (item :: items)).length ≤ fuel by omega)
    rw [first] at read ⊢
    simpa [skipSpace_cons c solid, opens] using read

theorem readBack_object {depth : Nat} {members : List (String × Json)}
    (once : (members.map Prod.fst).Nodup) (inner : ∀ entry ∈ members, ReadBack depth entry.2) :
    ReadBack (depth + 1) (.object members) := by
  intro rest fuel _ enough
  have brace : writeBefore rest (.object members) =
      '\x7b' :: writeMembers ('\x7d' :: rest) true members := rfl
  rw [brace] at enough ⊢
  rw [readValue, skipSpace_cons '\x7b' rfl]
  cases members with
  | nil => simp [writeMembers, skipSpace_cons '\x7d' rfl]
  | cons entry members =>
    obtain ⟨tail, first⟩ : ∃ tail,
        writeMembers ('\x7d' :: rest) true (entry :: members) = '"' :: tail := ⟨_, rfl⟩
    have longer := length_le_writeMembers ('\x7d' :: rest) true (entry :: members)
    rw [List.length_cons] at enough longer
    obtain ⟨fuel, rfl⟩ : ∃ n, fuel = n + 1 := ⟨fuel - 1, by omega⟩
    have read := readMembers_writeMembers (List.cons_ne_nil entry members) inner [] once rest
      (show 2 * (writeMembers ('\x7d' :: rest) true (entry :: members)).length ≤ fuel by omega)
    rw [first] at read ⊢
    simpa [skipSpace_cons '"' rfl] using read

theorem Plain.readBack {depth : Nat} {json : Json} (plain : Plain depth json) :
    ReadBack depth json := by
  induction plain with
  | null => exact (readBack_word _).1
  | bool value => exact (readBack_word _).2 value
  | int fits => exact readBack_int fits _
  | text value => exact readBack_text value _
  | list inner ih => exact readBack_list inner ih
  | object once _ ih => exact readBack_object once ih

theorem ofText?_toText {json : Json} (plain : Plain 127 json) : ofText? json.toText = some json := by
  have read := plain.readBack [] (2 * (writeBefore [] json).length + 1) closed_nil (by omega)
  rw [ofText?, toText, String.toList_ofList, read]
  rfl

end Rota.Json
