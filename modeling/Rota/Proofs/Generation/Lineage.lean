import Rota.Proofs.Generation.RecurringPass
import Rota.Proofs.Generation.Sound

/-!
Where the tasks of a store come from, as long as only its operations have written it: an interval is
positive, and a task made of another has the content of that one. So in every store that the
operations reach nothing is in the way of making the tasks of recurring ones.
-/

namespace Rota

structure Store.Lineage (store : Store) : Prop where
  intervals : ∀ task ∈ store.tasks, ∀ interval, task.interval = some interval → 0 < interval
  copies : ∀ task ∈ store.tasks, ∀ id, task.parent = some id →
    ∃ source ∈ store.tasks, source.id = id ∧ source.sameContent task = true

namespace Store

variable {store after : Store} {made : List Task}

namespace Lineage

theorem empty : Store.empty.Lineage :=
  { intervals := by simp [Store.empty]
    copies := by simp [Store.empty] }

theorem of_tasks (lineage : store.Lineage) (same : after.tasks = store.tasks) : after.Lineage := by
  constructor
  · rw [same]
    exact lineage.intervals
  · rw [same]
    exact lineage.copies

theorem add (lineage : store.Lineage) (grown : after.tasks = store.tasks ++ made.map Task.kept)
    (new : ∀ task ∈ made, (∀ interval, task.interval = some interval → 0 < interval) ∧
      ∀ id, task.parent = some id →
        ∃ source ∈ store.tasks, source.id = id ∧ source.sameContent task = true) :
    after.Lineage := by
  constructor
  · intro task member interval
    rw [grown] at member
    rcases List.mem_append.mp member with old | added
    · exact lineage.intervals task old interval
    · obtain ⟨source, listed, rfl⟩ := List.mem_map.mp added
      exact (new source listed).1 interval
  · intro task member id named
    have known : ∃ source ∈ store.tasks, source.id = id ∧ source.sameContent task = true := by
      rw [grown] at member
      rcases List.mem_append.mp member with old | added
      · exact lineage.copies task old id named
      · obtain ⟨fresh, listed, rfl⟩ := List.mem_map.mp added
        exact (new fresh listed).2 id named
    obtain ⟨source, listed, same⟩ := known
    rw [grown]
    exact ⟨source, List.mem_append_left _ listed, same⟩

theorem addInstances (lineage : store.Lineage)
    (grown : after.tasks = store.tasks ++ made.map Task.kept)
    (sourced : ∀ task ∈ made, ∃ root ∈ store.tasks, ∃ due now id,
      task = root.instantiate due now id) : after.Lineage := by
  apply lineage.add grown
  intro task member
  obtain ⟨root, listed, due, now, id, rfl⟩ := sourced task member
  constructor
  · intro interval present
    cases present
  · intro parent named
    exact ⟨root, listed, Option.some.inj named, sameContent_instantiate root due now id⟩

theorem addTemplateInstances (lineage : store.Lineage)
    (grown : after.tasks = store.tasks ++ made.map Task.kept)
    (sourced : ∀ task ∈ made, ∃ template : Template, ∃ due now id,
      task = template.instantiate due now id) : after.Lineage := by
  apply lineage.add grown
  intro task member
  obtain ⟨template, due, now, id, rfl⟩ := sourced task member
  constructor
  · intro interval present
    cases present
  · intro parent named
    cases named

end Lineage

theorem addTask_interval {supply : Supply} {draft : TaskDraft} {task : Task}
    (answered : store.addTask supply draft = .ok (task, after)) {interval : Int64}
    (present : task.interval = some interval) : 0 < interval := by
  obtain ⟨_, _, answered⟩ := bind_ok.mp answered
  obtain ⟨_, checked, answered⟩ := bind_ok.mp answered
  obtain ⟨_, _, answered⟩ := bind_ok.mp answered
  obtain ⟨result, _, answered⟩ := bind_ok.mp answered
  cases answered
  exact requireSome_ok.mp checked interval present

theorem Makes.lineage (made : store.Makes after) (lineage : store.Lineage)
    (keyed : store.Keyed) : after.Lineage := by
  cases made with
  | @template supply template due now outcome after listed answered =>
    have stored : store.Stores template := ⟨template, listed, rfl⟩
    rcases materializeTemplate_ok stored.hasTemplate answered with rfl | ⟨-, rfl⟩
    · exact lineage
    · refine lineage.addTemplateInstances
        (show _ = store.tasks ++ [template.instantiate due now supply.id].map Task.kept from rfl) ?_
      intro task member
      rw [List.mem_singleton.mp member]
      exact ⟨template, due, now, supply.id, rfl⟩
  | @recurring supply root due now outcome after listed answered =>
    rcases materializeRecurring_ok answered with ⟨-, rfl⟩ | ⟨-, -, -, rfl⟩
    · exact lineage
    · refine lineage.addInstances
        (show _ = store.tasks ++ [root.instantiate due now supply.id].map Task.kept from rfl) ?_
      intro task member
      rw [List.mem_singleton.mp member]
      exact ⟨root, listed, due, now, supply.id, rfl⟩
  | pass answered =>
    refine lineage.addTemplateInstances (generate_grown keyed answered).tasks ?_
    intro task member
    obtain ⟨today, -, -, rfl, -⟩ := (generate_ok keyed).mp answered
    simp only [Summary.collect, List.nil_append] at member
    obtain ⟨entry, -, due, id, -, rfl⟩ := mem_instances member
    exact ⟨entry.1, due, _, id, rfl⟩
  | recurringPass answered =>
    obtain ⟨today, roots, -, found, rfl, -, sourced⟩ := generateRecurring_made answered
    refine lineage.addInstances rfl ?_
    intro task member
    obtain ⟨root, listed, due, id, -, -, rfl⟩ := sourced task member
    exact ⟨root, ((mem_recurringRoots found).mp listed).1, due, _, id, rfl⟩

theorem Step.lineage (step : store.Step after) (lineage : store.Lineage) (keyed : store.Keyed) :
    after.Lineage := by
  cases step with
  | createPattern answered => exact lineage.of_tasks (createPattern_rows answered).tasks
  | updatePattern answered => exact lineage.of_tasks (updatePattern_rows answered).tasks
  | togglePattern answered => exact lineage.of_tasks (togglePattern_rows answered).tasks
  | seedPresets => exact lineage.of_tasks (seedFrom_rows presets).tasks
  | saveSettings answered => exact lineage.of_tasks (saveSettings_rows answered).tasks
  | createTemplate answered =>
    obtain ⟨row, -, -, -, -, -, rfl⟩ := createTemplate_ok answered
    exact lineage.of_tasks rfl
  | @addTask supply draft task after answered =>
    obtain ⟨-, rootless, rfl | rfl⟩ := addTask_ok answered
    · exact lineage
    · refine lineage.add (show _ = store.tasks ++ [task].map Task.kept from rfl) ?_
      intro new member
      rw [List.mem_singleton.mp member, rootless]
      exact ⟨fun interval => addTask_interval answered, by simp⟩
  | makes made => exact made.lineage lineage keyed

theorem Reached.lineage (reached : store.Reached) : store.Lineage := by
  induction reached with
  | empty => exact .empty
  | step earlier step _ ih => exact step.lineage ih earlier.identified.toKeyed

theorem Reached.repeats (reached : store.Reached) : store.Repeats := by
  have sound := reached.sound
  have distinct := reached.identified.tasks
  refine ⟨sound.isOpen, sound.accepting, ?_, ?_⟩
  · intro a aListed b bListed _ _ same
    exact List.inj_on_of_nodup_map distinct aListed bListed same
  · intro root listed _ task member named
    obtain ⟨source, known, same, copied⟩ := reached.lineage.copies task member root.id named
    rw [← List.inj_on_of_nodup_map distinct known listed same]
    exact copied

end Store
end Rota
