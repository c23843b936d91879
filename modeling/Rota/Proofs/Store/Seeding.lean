import Rota.Proofs.Store.Names
import Rota.Proofs.Store.Writes

/-!
Seeding the presets. It creates one after the other, each only when no pattern has its name. An open
store fails it only where a pattern that bears such a name cannot be read, and what was created
before that stays.
-/

namespace Rota

structure Preset.Ready (preset : Preset) : Prop where
  named : Text.isBlankText preset.name = false
  trimmed : Text.trim preset.name = preset.name
  checked : preset.rule.check = .ok ()

theorem presets_ready : ∀ preset ∈ presets, preset.Ready := by
  have catalog : ∀ preset ∈ presets, Text.isBlankText preset.name = false ∧
      Text.trim preset.name = preset.name ∧ preset.rule.check = .ok () := by
    decide +kernel
  intro preset listed
  obtain ⟨named, trimmed, checked⟩ := catalog preset listed
  exact ⟨named, trimmed, checked⟩

/-- The pattern that a preset is created as: active, without end, and one that passes the checks. -/
structure Preset.Gives (preset : Preset) (tenant : Uuid) (createdBy : Option Uuid) (startsOn : Date)
    (pattern : Pattern) : Prop where
  tenant : pattern.tenant = tenant
  name : pattern.name = preset.name
  description : pattern.description = some preset.description
  series : pattern.series = { rule := preset.rule, ending := .never, startsOn }
  active : pattern.isActive = true
  createdBy : pattern.createdBy = createdBy
  valid : checkPattern pattern.name pattern.series = .ok ()

theorem Preset.Gives.rule {preset : Preset} {tenant : Uuid} {createdBy : Option Uuid}
    {startsOn : Date} {pattern : Pattern} (gives : preset.Gives tenant createdBy startsOn pattern) :
    pattern.series.rule = preset.rule := by
  rw [gives.series]

namespace Store

variable {store after : Store} {supply : Supply} {tenant : Uuid} {error : Error}

/-- Some of the presets, in their order, follow the patterns; nothing else changed. -/
def PartlySeeded (tenant : Uuid) (presets : List Preset) (store after : Store) : Prop :=
  ∃ made : List Pattern,
    after = { store with patterns := store.patterns ++ made.map fun pattern => { pattern } } ∧
    (∀ pattern ∈ made, pattern.tenant = tenant) ∧
    (made.map fun pattern => (pattern.name, pattern.series.rule)).Sublist
      (presets.map fun preset => (preset.name, preset.rule))

/-- A pattern of the tenant with the name of a preset cannot be read. -/
def Spoiled (tenant : Uuid) (presets : List Preset) (store : Store) : Prop :=
  ∃ row ∈ store.patterns, row.ownedBy tenant = true ∧ row.readable = false ∧
    row.pattern.name ∈ presets.map Preset.name

section Steps
variable {preset : Preset} {rest : List Preset} {pattern : Pattern}

theorem PartlySeeded.none (presets : List Preset) : PartlySeeded tenant presets store store :=
  ⟨[], by simp, by simp, by simp⟩

theorem PartlySeeded.skip (seeded : PartlySeeded tenant rest store after) :
    PartlySeeded tenant (preset :: rest) store after := by
  obtain ⟨made, same, owned, order⟩ := seeded
  exact ⟨made, same, owned, order.cons _⟩

theorem PartlySeeded.create (owner : pattern.tenant = tenant) (name : pattern.name = preset.name)
    (rule : pattern.series.rule = preset.rule)
    (seeded : PartlySeeded tenant rest { store with patterns := store.patterns ++ [{ pattern }] }
      after) : PartlySeeded tenant (preset :: rest) store after := by
  obtain ⟨made, rfl, owned, order⟩ := seeded
  refine ⟨pattern :: made, ?_, List.forall_mem_cons.mpr ⟨owner, owned⟩, ?_⟩
  · simp
  · rw [List.map_cons, List.map_cons, name, rule]
    exact order.cons_cons _

theorem Spoiled.skip (spoiled : Spoiled tenant rest store) :
    Spoiled tenant (preset :: rest) store := by
  obtain ⟨row, listed, owned, unreadable, named⟩ := spoiled
  exact ⟨row, listed, owned, unreadable, List.mem_cons_of_mem _ named⟩

theorem Spoiled.before
    (spoiled : Spoiled tenant rest { store with patterns := store.patterns ++ [{ pattern }] }) :
    Spoiled tenant rest store := by
  obtain ⟨row, listed, owned, unreadable, named⟩ := spoiled
  rcases List.mem_append.mp listed with old | new
  · exact ⟨row, old, owned, unreadable, named⟩
  · rw [List.mem_singleton.mp new] at unreadable
    cases unreadable

end Steps

theorem findPatternNamed_error (isOpen : store.isOpen = true) {name : String}
    (failed : store.findPatternNamed tenant name = .error error) :
    error = .database .unreadable ∧ ∃ row ∈ store.patterns, row.ownedBy tenant = true ∧
      row.readable = false ∧ row.pattern.name = name := by
  by_cases borne : Borne store.patterns tenant name
  · obtain ⟨row, first⟩ := borne_iff_first.mp borne
    rw [findPatternNamed_first isOpen first] at failed
    unfold PatternRow.load at failed
    by_cases readable : row.readable = true
    · rw [if_pos readable] at failed
      cases failed
    · rw [if_neg readable] at failed
      cases failed
      exact ⟨rfl, row, first.listed, by simp [PatternRow.ownedBy, first.owned],
        Bool.eq_false_iff.mpr readable, first.named⟩
  · rw [findPatternNamed_unborne isOpen borne] at failed
    cases failed

theorem map_error {α β ε : Type} {f : α → β} {result : Except ε α} {fault : ε} :
    result.map f = .error fault ↔ result = .error fault := by
  cases result <;> simp [Except.map]

theorem createPattern_ready {preset : Preset} (supply : Supply) (tenant : Uuid)
    (createdBy : Option Uuid) (startsOn : Date) (isOpen : store.isOpen = true) (ready : preset.Ready) :
    ∃ pattern : Pattern, preset.Gives tenant createdBy startsOn pattern ∧
      store.createPattern supply (preset.draft tenant createdBy startsOn) =
        .ok (pattern, { store with patterns := store.patterns ++ [{ pattern }] }) := by
  have passed : checkPattern preset.name (preset.draft tenant createdBy startsOn).series = .ok () :=
    checkPattern_ok.mpr ⟨ready.named, ready.checked, rfl⟩
  refine ⟨_, ?_, bind_ok.mpr ⟨(), passed, bind_ok.mpr ⟨(), use_ok.mpr isOpen, rfl⟩⟩⟩
  constructor
  · rfl
  · exact ready.trimmed
  · rfl
  · rfl
  · rfl
  · rfl
  · exact ready.trimmed.symm ▸ passed

/-- Seeding fails where a pattern cannot be read. -/
theorem seedFrom_failed {createdBy : Option Uuid} {startsOn : Date} {presets : List Preset}
    (isOpen : store.isOpen = true) (ready : ∀ preset ∈ presets, preset.Ready)
    (failed : (store.seedFrom supply tenant createdBy startsOn presets).1 = .error error) :
    error = .database .unreadable ∧ store.Spoiled tenant presets ∧
      PartlySeeded tenant presets store
        (store.seedFrom supply tenant createdBy startsOn presets).2 := by
  induction presets generalizing store supply with
  | nil => cases failed
  | cons preset rest ih =>
    obtain ⟨first, others⟩ := List.forall_mem_cons.mp ready
    unfold seedFrom at failed ⊢
    cases found : store.findPatternNamed tenant preset.name with
    | error fault =>
      rw [found] at failed
      cases failed
      obtain ⟨unreadable, row, listed, owned, spoiled, named⟩ := findPatternNamed_error isOpen found
      exact ⟨unreadable, ⟨row, listed, owned, spoiled, List.mem_cons.mpr (.inl named)⟩, .none _⟩
    | ok existing =>
      cases existing with
      | some pattern =>
        rw [found] at failed
        obtain ⟨unreadable, spoiled, seeded⟩ := ih isOpen others failed
        exact ⟨unreadable, spoiled.skip, seeded.skip⟩
      | none =>
        obtain ⟨pattern, gives, created⟩ :=
          createPattern_ready supply tenant createdBy startsOn isOpen first
        have stillOpen :
            ({ store with patterns := store.patterns ++ [{ pattern }] } : Store).isOpen = true :=
          isOpen
        simp only [found, created] at failed ⊢
        obtain ⟨unreadable, spoiled, seeded⟩ := ih stillOpen others (map_error.mp failed)
        exact ⟨unreadable, spoiled.before.skip, seeded.create gives.tenant gives.name gives.rule⟩

theorem seedPresets_closed (closed : store.isOpen = false) (createdBy : Option Uuid)
    (today : Date) : (store.seedPresets supply tenant createdBy today).2 = store := by
  simp [seedPresets, presets, seedFrom, findPatternNamed_closed closed]

end Store
end Rota
