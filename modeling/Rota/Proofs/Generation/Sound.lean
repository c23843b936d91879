import Rota.Proofs.Generation.Reached

/-!
What can go wrong with a store has not, as long as only its operations have written it: it is open,
takes tasks of any title, and every pattern in it can be read and has a rule that was checked.
-/

namespace Rota

structure Store.Sound (store : Store) : Prop where
  isOpen : store.isOpen = true
  accepting : store.refusedTitles = []
  readable : ∀ row ∈ store.patterns, row.readable = true
  checked : ∀ row ∈ store.patterns, row.pattern.series.rule.check = .ok ()

namespace Store

variable {store after : Store} {supply : Supply} {tenant : Uuid} {pattern : Pattern}

structure SamePatterns (store after : Store) : Prop where
  patterns : after.patterns = store.patterns
  isOpen : after.isOpen = store.isOpen
  refusedTitles : after.refusedTitles = store.refusedTitles

theorem AddsLeaves.samePatterns (adds : store.AddsLeaves after) : store.SamePatterns after := by
  obtain ⟨created, grown, -⟩ := adds
  exact ⟨grown.patterns, grown.isOpen, grown.refusedTitles⟩

namespace Sound

theorem empty : Store.empty.Sound :=
  { isOpen := rfl
    accepting := rfl
    readable := by simp [Store.empty]
    checked := by simp [Store.empty] }

theorem of_same (sound : store.Sound) (same : store.SamePatterns after) : after.Sound := by
  obtain ⟨patterns, isOpen, refused⟩ := same
  constructor
  · rw [isOpen]
    exact sound.isOpen
  · rw [refused]
    exact sound.accepting
  · rw [patterns]
    exact sound.readable
  · rw [patterns]
    exact sound.checked

theorem addPattern (sound : store.Sound) (passed : pattern.series.rule.check = .ok ()) :
    ({ store with patterns := store.patterns ++ [{ pattern }] } : Store).Sound := by
  refine ⟨sound.isOpen, sound.accepting, ?_, ?_⟩
  · intro row member
    rcases List.mem_append.mp member with old | new
    · exact sound.readable row old
    · rw [List.mem_singleton.mp new]
  · intro row member
    rcases List.mem_append.mp member with old | new
    · exact sound.checked row old
    · rw [List.mem_singleton.mp new]
      exact passed

theorem putPattern (sound : store.Sound) (passed : pattern.series.rule.check = .ok ()) :
    (store.putPattern pattern).Sound := by
  refine ⟨sound.isOpen, sound.accepting, ?_, ?_⟩
  · intro row member
    obtain ⟨old, listed, rfl⟩ := List.mem_map.mp member
    split
    · exact sound.readable old listed
    · exact sound.readable old listed
  · intro row member
    obtain ⟨old, listed, rfl⟩ := List.mem_map.mp member
    split
    · exact passed
    · exact sound.checked old listed

theorem seedFrom {createdBy : Option Uuid} {startsOn : Date} (presets : List Preset)
    (sound : store.Sound) : (store.seedFrom supply tenant createdBy startsOn presets).2.Sound := by
  induction presets generalizing store supply with
  | nil => exact sound
  | cons preset rest ih =>
    unfold Store.seedFrom
    split
    · exact sound
    · exact ih sound
    · split
      · exact sound
      · next created =>
        obtain ⟨passed, -, same⟩ := createPattern_ok created
        exact ih (same ▸ sound.addPattern (checkPattern_ok.mp passed).2.1)

end Sound

theorem Step.sound (step : store.Step after) (sound : store.Sound) (consistent : store.Consistent)
    (keyed : store.Keyed) : after.Sound := by
  cases step with
  | createPattern answered =>
    obtain ⟨passed, -, rfl⟩ := createPattern_ok answered
    exact sound.addPattern (checkPattern_ok.mp passed).2.1
  | updatePattern answered =>
    obtain ⟨passed, -, rfl⟩ := updatePattern_ok answered
    exact sound.putPattern (checkPattern_ok.mp passed).2.1
  | togglePattern answered =>
    obtain ⟨⟨row, listed, -, same⟩, rfl⟩ := togglePattern_ok answered
    exact sound.putPattern (same ▸ sound.checked row listed)
  | seedPresets => exact sound.seedFrom presets
  | createTemplate answered =>
    obtain ⟨row, -, -, -, -, -, rfl⟩ := createTemplate_ok answered
    exact sound.of_same ⟨rfl, rfl, rfl⟩
  | addTask answered =>
    obtain ⟨-, -, rfl | rfl⟩ := addTask_ok answered
    · exact sound
    · exact sound.of_same ⟨rfl, rfl, rfl⟩
  | saveSettings answered =>
    obtain ⟨-, rfl⟩ := saveSettings_ok answered
    exact sound.of_same ⟨rfl, rfl, rfl⟩
  | makes made => exact sound.of_same (made.keeps consistent keyed).2.samePatterns

theorem Reached.sound (reached : store.Reached) : store.Sound := by
  induction reached with
  | empty => exact .empty
  | step earlier step _ ih => exact step.sound ih earlier.consistent earlier.identified.toKeyed

end Store
end Rota
