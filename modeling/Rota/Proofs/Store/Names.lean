import Rota.Proofs.Store.Rows
import Mathlib.Data.List.Find

/-!
Patterns by their names. Of several patterns of a tenant with one name the first created is meant,
and only that one is loaded. Rows that come after, and changes that keep names, leave it the first.
-/

namespace Rota

/-- The first of the rows that are of the tenant and have the name. -/
structure PatternRow.IsEarliest (rows : List PatternRow) (tenant : Uuid) (name : String)
    (row : PatternRow) : Prop where
  owned : row.pattern.tenant = tenant
  named : row.pattern.name = name
  earliest : ∃ before after, rows = before ++ row :: after ∧
    ∀ other ∈ before, other.pattern.tenant = tenant → other.pattern.name ≠ name

def Borne (rows : List PatternRow) (tenant : Uuid) (name : String) : Prop :=
  ∃ row ∈ rows, row.pattern.tenant = tenant ∧ row.pattern.name = name

instance (rows : List PatternRow) (tenant : Uuid) (name : String) :
    Decidable (Borne rows tenant name) :=
  inferInstanceAs (Decidable (∃ row ∈ rows, row.pattern.tenant = tenant ∧ row.pattern.name = name))

variable {rows : List PatternRow} {row other : PatternRow} {tenant : Uuid} {name : String}

namespace PatternRow

theorem isNamed_iff : (row.ownedBy tenant && row.pattern.name == name) = true ↔
    row.pattern.tenant = tenant ∧ row.pattern.name = name := by
  simp [ownedBy]

theorem find?_isEarliest :
    rows.find? (fun row => row.ownedBy tenant && row.pattern.name == name) = some row ↔
      IsEarliest rows tenant name row := by
  rw [List.find?_eq_some_iff_append, isNamed_iff]
  constructor
  · rintro ⟨⟨owned, named⟩, before, after, same, none⟩
    refine ⟨owned, named, before, after, same, fun other listed tenants names => ?_⟩
    have unnamed := none other listed
    rw [isNamed_iff.mpr ⟨tenants, names⟩] at unnamed
    cases unnamed
  · rintro ⟨owned, named, before, after, same, none⟩
    refine ⟨⟨owned, named⟩, before, after, same, fun other listed => ?_⟩
    rw [Bool.not_eq_true', Bool.eq_false_iff, Ne, isNamed_iff]
    exact fun both => none other listed both.1 both.2

theorem find?_unborne :
    rows.find? (fun row => row.ownedBy tenant && row.pattern.name == name) = none ↔
      ¬ Borne rows tenant name := by
  rw [List.find?_eq_none]
  constructor
  · rintro none ⟨row, listed, named⟩
    exact none row listed (isNamed_iff.mpr named)
  · exact fun unborne row listed named => unborne ⟨row, listed, isNamed_iff.mp named⟩

namespace IsEarliest

theorem listed (first : IsEarliest rows tenant name row) : row ∈ rows := by
  obtain ⟨-, -, before, after, rfl, -⟩ := first
  simp

theorem borne (first : IsEarliest rows tenant name row) : Borne rows tenant name :=
  ⟨row, first.listed, first.owned, first.named⟩

theorem unique (first : IsEarliest rows tenant name row) (second : IsEarliest rows tenant name other) :
    row = other :=
  Option.some.inj ((find?_isEarliest.mpr first).symm.trans (find?_isEarliest.mpr second))

theorem append (first : IsEarliest rows tenant name row) (later : List PatternRow) :
    IsEarliest (rows ++ later) tenant name row := by
  rw [← find?_isEarliest, List.find?_append, find?_isEarliest.mpr first]
  rfl

theorem map (first : IsEarliest rows tenant name row) {change : PatternRow → PatternRow}
    (keeps : ∀ row ∈ rows, (change row).pattern.tenant = row.pattern.tenant ∧
      (change row).pattern.name = row.pattern.name) :
    IsEarliest (rows.map change) tenant name (change row) := by
  have same : rows.find? ((fun row => row.ownedBy tenant && row.pattern.name == name) ∘ change) =
      rows.find? (fun row => row.ownedBy tenant && row.pattern.name == name) := by
    apply List.find?_congr
    intro row listed
    simp [ownedBy, keeps row listed]
  rw [← find?_isEarliest, List.find?_map, same, find?_isEarliest.mpr first]
  rfl

end IsEarliest

theorem isEarliest_append_singleton (apart : ¬ (other.pattern.tenant = tenant ∧
      other.pattern.name = name)) :
    IsEarliest (rows ++ [other]) tenant name row ↔ IsEarliest rows tenant name row := by
  have unfound : [other].find? (fun row => row.ownedBy tenant && row.pattern.name == name) = none := by
    rw [find?_unborne]
    rintro ⟨row, listed, named⟩
    rw [List.mem_singleton.mp listed] at named
    exact apart named
  rw [← find?_isEarliest, ← find?_isEarliest, List.find?_append, unfound, Option.or_none]

end PatternRow

open PatternRow

theorem borne_iff_first : Borne rows tenant name ↔ ∃ row, IsEarliest rows tenant name row := by
  constructor
  · intro borne
    cases found : rows.find? (fun row => row.ownedBy tenant && row.pattern.name == name) with
    | none => exact absurd borne (find?_unborne.mp found)
    | some row => exact ⟨row, find?_isEarliest.mp found⟩
  · exact fun ⟨row, first⟩ => first.borne

theorem borne_append_singleton : Borne (rows ++ [other]) tenant name ↔
    Borne rows tenant name ∨ (other.pattern.tenant = tenant ∧ other.pattern.name = name) := by
  simp [Borne, or_and_right, exists_or]

namespace Store

variable {store : Store}

theorem findPatternNamed_first (isOpen : store.isOpen = true)
    (first : IsEarliest store.patterns tenant name row) :
    store.findPatternNamed tenant name = row.load.map some := by
  unfold findPatternNamed
  rw [use_ok.mpr isOpen, find?_isEarliest.mpr first]
  rfl

theorem findPatternNamed_unborne (isOpen : store.isOpen = true)
    (unborne : ¬ Borne store.patterns tenant name) :
    store.findPatternNamed tenant name = .ok none := by
  unfold findPatternNamed
  rw [use_ok.mpr isOpen, find?_unborne.mpr unborne]
  rfl

theorem findPatternNamed_closed (closed : store.isOpen = false) :
    store.findPatternNamed tenant name = .error (.database .closed) := by
  simp [findPatternNamed, use, closed, bind, Except.bind]

end Store
end Rota
