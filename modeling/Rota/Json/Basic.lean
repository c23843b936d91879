import Rota.Amount.Basic
import Rota.Calendar.Instant
import Rota.Uuid

/-!
Structured data: null, truth values, numbers, text, lists and objects, and how single values are
read from it. Whole numbers stay apart from amounts: an integer is read only from a whole number in
its range, an amount from any number. The first member of a name is the one that counts.
-/

namespace Rota

inductive Json where
  | null
  | bool (value : Bool)
  | int (value : Int)
  | amount (value : Amount)
  | text (value : String)
  | list (items : List Json)
  | object (members : List (String × Json))

namespace Json

instance : Inhabited Json := ⟨null⟩

def lookup (members : List (String × Json)) (name : String) : Option Json :=
  (members.find? fun entry => entry.1 == name).map Prod.snd

def member? (json : Json) (name : String) : Option Json :=
  match json with
  | object members => lookup members name
  | _ => none

/-- The named fields of a record, given as an object, or as a list of the values in order of which
the last `names.length - needed` may be left out. -/
def fields? (names : List String) (needed : Nat) : Json → Option (String → Option Json)
  | object members => some (lookup members)
  | list items =>
    if needed ≤ items.length ∧ items.length ≤ names.length then
      some (lookup (names.zip items))
    else none
  | _ => none

def bool? : Json → Option Bool
  | bool value => some value
  | _ => none

def text? : Json → Option String
  | text value => some value
  | _ => none

def int? : Json → Option Int
  | int value => some value
  | _ => none

def intWithin? (low high : Int) (json : Json) : Option Int := do
  let n ← json.int?
  if low ≤ n ∧ n ≤ high then some n else none

def uint8? (json : Json) : Option UInt8 :=
  (json.intWithin? 0 255).map fun n => UInt8.ofNat n.toNat

def uint32? (json : Json) : Option UInt32 :=
  (json.intWithin? 0 4294967295).map fun n => UInt32.ofNat n.toNat

def uint64? (json : Json) : Option UInt64 :=
  (json.intWithin? 0 18446744073709551615).map fun n => UInt64.ofNat n.toNat

def int32? (json : Json) : Option Int := json.intWithin? (-2147483648) 2147483647

def int64? (json : Json) : Option Int64 :=
  (json.intWithin? (-9223372036854775808) 9223372036854775807).map Int64.ofInt

def amount? : Json → Option Amount
  | amount value => some value
  | int n => Amount.ofDecimal? (decide (n < 0)) n.natAbs 0
  | _ => none

def list? {α : Type} (item : Json → Option α) : Json → Option (List α)
  | list items => items.mapM item
  | _ => none

def date? (json : Json) : Option Date := json.text?.bind Date.ofText?

def instant? (json : Json) : Option Instant := json.text?.bind Instant.ofText?

def uuid? (json : Json) : Option Uuid := json.text?.bind Uuid.ofText?

/-- A bare name, given as text or as an object with that name and null as its only member. -/
def name? : Json → Option String
  | text value => some value
  | object [(value, null)] => some value
  | _ => none

/-- A bare name within an object of several kinds, where an empty object does as well as null. -/
def innerName? : Json → Option String
  | object [(value, object [])] => some value
  | json => json.name?

def required {α : Type} (field : Option Json) (read : Json → Option α) : Option α := field.bind read

/-- A field that may be left out or null. -/
def optional {α : Type} (field : Option Json) (read : Json → Option α) : Option (Option α) :=
  match field with
  | none | some null => some none
  | some json => (read json).map some

def defaulted {α : Type} (field : Option Json) (value : α) (read : Json → Option α) : Option α :=
  match field with
  | none => some value
  | some json => read json

def ofOption {α : Type} (write : α → Json) : Option α → Json
  | none => null
  | some a => write a

def memberOf {α : Type} (name : String) (write : α → Json) : Option α → List (String × Json)
  | none => []
  | some a => [(name, write a)]

def memberOfList {α : Type} (name : String) (write : α → Json) (items : List α) :
    List (String × Json) :=
  if items.isEmpty then [] else [(name, list (items.map write))]

def ofNat (n : Nat) : Json := int n
def ofUInt8 (n : UInt8) : Json := int n.toNat
def ofUInt32 (n : UInt32) : Json := int n.toNat
def ofInt64 (n : Int64) : Json := int n.toInt
def ofDate (date : Date) : Json := text date.toText
def ofInstant (moment : Instant) : Json := text moment.toText
def ofUuid (id : Uuid) : Json := text id.toText

end Json
end Rota
