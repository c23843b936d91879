import Rota.Proofs.Calendar.DateText
import Rota.Proofs.Text.Identifiers
import Rota.Task.Form

/-!
Members of objects, one by one: what is found under a name, and that a value that was written as a
member is read back from it.
-/

namespace Rota.Json

variable {α : Type} {name other : String} {members more : List (String × Json)} {value : Json}

@[simp] theorem lookup_nil : lookup [] name = none := rfl

@[simp] theorem lookup_cons : lookup ((other, value) :: members) name =
    if other = name then some value else lookup members name := by
  by_cases same : other = name <;> simp [lookup, same]

@[simp] theorem lookup_append :
    lookup (members ++ more) name = (lookup members name).or (lookup more name) := by
  simp only [lookup, List.find?_append]
  cases members.find? fun entry => entry.1 == name <;> rfl

theorem lookup_eq_none : lookup members name = none ↔ name ∉ members.map Prod.fst := by
  simp only [lookup, Option.map_eq_none_iff, List.find?_eq_none, List.mem_map, beq_iff_eq, not_exists,
    not_and]

section Written

variable {write : α → Json} {read : Json → Option α} {value : Option α} {items : List α}

@[simp] theorem lookup_memberOf :
    lookup (memberOf other write value) name = if other = name then value.map write else none := by
  cases value <;> simp [memberOf]

@[simp] theorem lookup_memberOfList : lookup (memberOfList other write items) name =
    if other = name ∧ items ≠ [] then some (.list (items.map write)) else none := by
  cases items <;> simp [memberOfList]

@[simp] theorem optional_map (back : ∀ a, read (write a) = some a) (present : ∀ a, write a ≠ null) :
    optional (value.map write) read = some value := by
  cases value with
  | none => rfl
  | some a =>
    have here := present a
    rw [Option.map_some, optional, back]
    · rfl
    · exact here

@[simp] theorem optional_ofOption (back : ∀ a, read (write a) = some a)
    (present : ∀ a, write a ≠ null) : optional (some (ofOption write value)) read = some value := by
  cases value with
  | none => rfl
  | some a =>
    show optional ((some a).map write) read = some (some a)
    exact optional_map back present

@[simp] theorem list?_map (back : ∀ a, read (write a) = some a) :
    list? read (.list (items.map write)) = some items := by
  rw [list?]
  induction items with
  | nil => rfl
  | cons a rest ih => simp [List.mapM_cons, back, ih]

@[simp] theorem defaulted_items (back : ∀ a, read (write a) = some a) :
    defaulted (if items = [] then none else some (.list (items.map write))) [] (list? read) =
      some items := by
  cases items with
  | nil => rfl
  | cons a rest =>
    show list? read (.list ((a :: rest).map write)) = some (a :: rest)
    exact list?_map back

end Written

@[simp] theorem required_some (json : Json) (read : Json → Option α) :
    required (some json) read = read json := rfl

@[simp] theorem defaulted_some (json : Json) (usual : α) (read : Json → Option α) :
    defaulted (some json) usual read = read json := rfl

@[simp] theorem defaulted_none (usual : α) (read : Json → Option α) :
    defaulted none usual read = some usual := rfl

@[simp] theorem bool?_bool (value : Bool) : (bool value).bool? = some value := rfl

@[simp] theorem text?_text (value : String) : (text value).text? = some value := rfl

@[simp] theorem text_ne_null (value : String) : text value ≠ null := nofun

@[simp] theorem ofUInt8_ne_null (n : UInt8) : ofUInt8 n ≠ null := nofun

@[simp] theorem ofUInt32_ne_null (n : UInt32) : ofUInt32 n ≠ null := nofun

@[simp] theorem ofInstant_ne_null (moment : Instant) : ofInstant moment ≠ null := nofun

@[simp] theorem ofUuid_ne_null (id : Uuid) : ofUuid id ≠ null := nofun

@[simp] theorem uint8?_ofUInt8 (n : UInt8) : (ofUInt8 n).uint8? = some n := by
  have bound := n.toNat_lt
  simp [uint8?, ofUInt8, intWithin?, int?]
  omega

@[simp] theorem uint32?_ofUInt32 (n : UInt32) : (ofUInt32 n).uint32? = some n := by
  have bound := n.toNat_lt
  simp [uint32?, ofUInt32, intWithin?, int?]
  omega

@[simp] theorem date?_ofDate (date : Date) : (ofDate date).date? = some date := by
  simp [date?, ofDate, Date.ofText?_toText]

@[simp] theorem instant?_ofInstant (moment : Instant) :
    (ofInstant moment).instant? = some moment := by
  simp [instant?, ofInstant, Instant.ofText?_toText]

@[simp] theorem uuid?_ofUuid (id : Uuid) : (ofUuid id).uuid? = some id := by
  simp [uuid?, ofUuid, Uuid.ofText?_toText]

theorem uint32?_one : (int 1).uint32? = some 1 := rfl

theorem list?_nil {read : Json → Option α} : list? read (list []) = some [] := rfl

end Rota.Json
