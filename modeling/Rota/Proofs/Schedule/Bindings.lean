import Rota.Proofs.Schedule.TriggerText
import Rota.Proofs.Store.TenantMaps
import Rota.Schedule.Registry

/-!
Binding tenants at the times they have stored. A tenant is bound at the time that was stored last,
and binding one leaves the others as they are.
-/

namespace Rota.Registry

variable {registry : Registry} {tenant other : Uuid} {settings : Settings} {time : TriggerTime}

/-- An update step by step: a time is read, and so is its cron expression, before a binding is
touched. -/
def updateSteps (tenant : Uuid) (enabled : Bool) (text : String) :
    ExceptT TimeFault (StateM Registry) Unit := do
  if enabled then
    let time ← ofExcept (TriggerTime.parse text)
    let _ ← ofExcept (Cron.parse time.cronText)
    modify fun registry => registry.bind tenant time
  else modify fun registry => registry.unbind tenant

/-- An update is refused without a trace, or done. -/
theorem run_updateSteps (registry : Registry) (tenant : Uuid) (enabled : Bool) (text : String) :
    match (updateSteps tenant enabled text).run.run registry with
      | (.error _, after) => after = registry
      | (.ok _, after) => registry.update tenant enabled text = .ok after := by
  cases enabled with
  | false => rfl
  | true =>
    unfold updateSteps update
    cases TriggerTime.parse text with
    | error fault => rfl
    | ok time =>
      simp only [↓reduceIte, ofExcept, pure_bind]
      cases Cron.parse time.cronText <;> rfl

theorem bindStored_timed (timed : settings.runTime = time.toText) :
    registry.bindStored tenant settings = registry.bind tenant time := by
  simp [bindStored, update, timed, TriggerTime.parse_toText, Except.map]

theorem bindStored_other (apart : tenant ≠ other) :
    (registry.bindStored tenant settings).bindings.get? other = registry.bindings.get? other := by
  unfold bindStored update
  cases TriggerTime.parse settings.runTime with
  | error fault => rfl
  | ok time => simp [Except.map, bind, apart]

theorem foldl_bindStored_other (enabled : List (Uuid × Settings))
    (absent : other ∉ enabled.map Prod.fst) :
    (enabled.foldl (fun registry entry => registry.bindStored entry.1 entry.2)
      registry).bindings.get? other = registry.bindings.get? other := by
  induction enabled generalizing registry with
  | nil => rfl
  | cons entry rest ih =>
    rw [List.map_cons, List.mem_cons, not_or] at absent
    rw [List.foldl_cons, ih absent.2, bindStored_other (Ne.symm absent.1)]

theorem foldl_bindStored_timed (enabled : List (Uuid × Settings))
    (distinct : (enabled.map Prod.fst).Nodup) (listed : (tenant, settings) ∈ enabled)
    (timed : settings.runTime = time.toText) :
    (enabled.foldl (fun registry entry => registry.bindStored entry.1 entry.2)
      registry).bindings.get? tenant = some time := by
  induction enabled generalizing registry with
  | nil => cases listed
  | cons entry rest ih =>
    obtain ⟨alone, distinct⟩ := List.nodup_cons.mp distinct
    rw [List.foldl_cons]
    rcases List.mem_cons.mp listed with rfl | later
    · rw [foldl_bindStored_other rest alone, bindStored_timed timed]
      simp [bind]
    · exact ih distinct later

theorem bindAll_timed {enabled : List (Uuid × Settings)}
    (distinct : (enabled.map Prod.fst).Nodup)
    (timed : ∀ entry ∈ enabled, ∃ time : TriggerTime, entry.2.runTime = time.toText) :
    (registry.bindAll enabled).1 = enabled.length ∧
      ∀ entry ∈ enabled, ∃ time : TriggerTime, entry.2.runTime = time.toText ∧
        (registry.bindAll enabled).2.bindings.get? entry.1 = some time := by
  constructor
  · apply List.countP_eq_length.mpr
    intro entry listed
    obtain ⟨time, text⟩ := timed entry listed
    rw [text, TriggerTime.parse_toText]
    rfl
  · intro entry listed
    obtain ⟨time, text⟩ := timed entry listed
    exact ⟨time, text, foldl_bindStored_timed enabled distinct listed text⟩

end Rota.Registry
