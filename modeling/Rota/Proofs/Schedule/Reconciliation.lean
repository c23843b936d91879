import Rota.Proofs.Generation.Served
import Rota.Proofs.Schedule.Calls

/-!
Reconciling a registry with the tenants that want automation. One call is enough, whatever the
registry held before: a tenant that is not listed is bound to no time, and one that is listed to its
stored time, if that is one. Times that were saved are times, so the bindings are then those of the
tenants that have switched automation on.
-/

namespace Rota

namespace Registry

open BindingMove

variable {registry : Registry} {tenant : Uuid} {settings : Settings} {time : TriggerTime}
  {enabled : List (Uuid × Settings)}

theorem storedMoves_listed (distinct : (enabled.map Prod.fst).Nodup)
    (listed : (tenant, settings) ∈ enabled) :
    storedMoves tenant enabled = [schedule settings.runTime] := by
  induction enabled with
  | nil => cases listed
  | cons entry rest ih =>
    obtain ⟨alone, distinct⟩ := List.nodup_cons.mp distinct
    rcases List.mem_cons.mp listed with rfl | later
    · have others : ∀ entry ∈ rest, entry.1 ≠ tenant :=
        fun entry member same => alone (List.mem_map.mpr ⟨entry, member, same⟩)
      simpa [storedMoves] using fun _ _ member => others _ member
    · have apart : entry.1 ≠ tenant :=
        fun same => alone (same ▸ List.mem_map_of_mem later)
      rw [← ih distinct later]
      simp [storedMoves, apart]

theorem reconcile_listed (distinct : (enabled.map Prod.fst).Nodup)
    (listed : (tenant, settings) ∈ enabled) :
    (registry.reconcile enabled).bindings.get? tenant =
      (schedule settings.runTime).apply (registry.bindings.get? tenant) := by
  rw [reconcile_get?, if_pos (List.mem_map_of_mem listed), storedMoves_listed distinct listed]
  rfl

theorem reconcile_unlisted (absent : tenant ∉ enabled.map Prod.fst) :
    (registry.reconcile enabled).bindings.get? tenant = none := by
  rw [reconcile_get?, if_neg absent]

/-- A registry in which every tenant listed is bound to its stored time, if that is one, and no other
tenant is bound. -/
structure Settled (registry : Registry) (enabled : List (Uuid × Settings)) : Prop where
  ascending : registry.bindings.Ascending
  running : registry.isRunning = true
  bound : ∀ entry ∈ enabled, ∀ time, TriggerTime.parse entry.2.runTime = .ok time →
    registry.bindings.get? entry.1 = some time
  unbound : ∀ tenant ∉ enabled.map Prod.fst, registry.bindings.get? tenant = none

theorem reconcile_settled (ascending : registry.bindings.Ascending)
    (distinct : (enabled.map Prod.fst).Nodup) : (registry.reconcile enabled).Settled enabled where
  ascending := reconcile_ascending ascending
  running := rfl
  bound := by
    intro entry listed time timed
    rw [reconcile_listed distinct listed]
    simp [BindingMove.apply, timed]
  unbound _ absent := reconcile_unlisted absent

theorem Settled.reconcile (settled : registry.Settled enabled) :
    registry.reconcile enabled = registry := by
  have none_stale : (registry.bindings.tenants.filter fun tenant =>
      !(enabled.map Prod.fst).contains tenant) = [] := by
    apply List.filter_eq_nil_iff.mpr
    intro tenant held stale
    have listed : tenant ∉ enabled.map Prod.fst := by simpa using stale
    rw [← TenantMap.get?_isSome, settled.unbound tenant listed] at held
    cases held
  have all_bound : ∀ listed : List (Uuid × Settings), listed ⊆ enabled →
      listed.foldl (fun registry entry => registry.rebind entry.1 entry.2) registry =
        registry := by
    intro listed within
    induction listed with
    | nil => rfl
    | cons entry rest ih =>
      obtain ⟨here, later⟩ := List.cons_subset.mp within
      rw [List.foldl_cons, rebind_eq settled.ascending,
        bindStored_bound settled.ascending (settled.bound entry here), ih later]
  simp only [Registry.reconcile, none_stale, List.foldl_nil, all_bound enabled (List.Subset.refl _),
    ← settled.running]

/-- Nothing is stale in a registry without bindings, so there both calls bind the tenants listed. -/
theorem bindAll_fresh (zone : Zone) (isRunning : Bool) :
    (({ zone, isRunning } : Registry).bindAll enabled).2 =
      ({ zone, isRunning } : Registry).reconcile enabled := by
  have ascending : ({ zone, isRunning } : Registry).bindings.Ascending := .nil
  rw [reconcile_eq ascending]
  rfl

theorem isSome_schedule (text : String) :
    ((schedule text).apply none).isSome = (TriggerTime.parse text).isOk := by
  simp only [BindingMove.apply]
  cases TriggerTime.parse text <;> rfl

/-- With nothing bound before, a stored time that is no time leaves its tenant unbound. -/
theorem reconcile_fresh_isScheduled (zone : Zone) (isRunning : Bool)
    (distinct : (enabled.map Prod.fst).Nodup) (tenant : Uuid) :
    (({ zone, isRunning } : Registry).reconcile enabled).isScheduled tenant = true ↔
      ∃ settings, (tenant, settings) ∈ enabled ∧
        (TriggerTime.parse settings.runTime).isOk = true := by
  rw [isScheduled]
  by_cases listed : tenant ∈ enabled.map Prod.fst
  · obtain ⟨⟨tenant, settings⟩, member, rfl⟩ := List.mem_map.mp listed
    have only (other : Settings) (also : (tenant, other) ∈ enabled) : other = settings :=
      congrArg Prod.snd (List.inj_on_of_nodup_map distinct also member rfl)
    rw [reconcile_listed distinct member]
    change ((schedule settings.runTime).apply none).isSome = true ↔ _
    rw [isSome_schedule]
    constructor
    · exact fun timed => ⟨settings, member, timed⟩
    · rintro ⟨other, also, timed⟩
      rwa [only other also] at timed
  · rw [reconcile_unlisted listed]
    simp only [Option.isSome_none, Bool.false_eq_true, false_iff, not_exists, not_and]
    exact fun settings member => absurd (List.mem_map_of_mem member) listed

/-- The tenants that get bound are those whose stored times are times, and each is counted once. -/
theorem bindAll_count (zone : Zone) (isRunning : Bool)
    (distinct : (enabled.map Prod.fst).Nodup) :
    (({ zone, isRunning } : Registry).bindAll enabled).1 =
      (({ zone, isRunning } : Registry).bindAll enabled).2.status.length := by
  have ascending : (({ zone, isRunning } : Registry).reconcile enabled).bindings.Ascending :=
    reconcile_ascending .nil
  have tenants : {tenant | (({ zone, isRunning } : Registry).reconcile enabled).isScheduled tenant =
      true} = (((enabled.filter fun entry => (TriggerTime.parse entry.2.runTime).isOk).map
        Prod.fst).toFinset : Set Uuid) := by
    ext tenant
    simp [reconcile_fresh_isScheduled zone isRunning distinct]
  rw [bindAll_fresh, status_length ascending, tenants, Set.ncard_coe_finset,
    List.toFinset_card_of_nodup ((List.filter_sublist.map Prod.fst).nodup distinct),
    List.length_map, ← List.countP_eq_length_filter]
  rfl

end Registry

/-- The tenants that have switched automation on, each with a stored time that is one. -/
theorem Store.WellFormed.enabledSettings {store : Store} (wellFormed : store.WellFormed) :
    ∃ enabled, store.enabledSettings = .ok enabled ∧ (enabled.map Prod.fst).Nodup ∧
      (∀ entry ∈ enabled, ∃ time : TriggerTime, entry.2.runTime = time.toText) ∧
      ∀ tenant settings, (tenant, settings) ∈ enabled ↔
        store.settingsOf tenant = .ok settings ∧ settings.enabled = true := by
  refine ⟨store.settings.entries.filter fun entry => entry.2.enabled, ?_, ?_, ?_, ?_⟩
  · rw [Store.enabledSettings, Store.use_ok.mpr wellFormed.isOpen]
    rfl
  · exact (List.filter_sublist.map Prod.fst).nodup wellFormed.ascending.distinct
  · exact fun entry listed => wellFormed.timed entry (List.mem_filter.mp listed).1
  · intro tenant settings
    have asked : store.settingsOf tenant = .ok ((store.settings.get? tenant).getD {}) := by
      rw [Store.settingsOf, Store.use_ok.mpr wellFormed.isOpen]
      rfl
    rw [List.mem_filter, wellFormed.ascending.mem_entries, asked, Except.ok.injEq]
    cases store.settings.get? tenant with
    | some stored => simp
    | none =>
      -- The settings of a tenant that has saved none leave automation off.
      simp only [reduceCtorEq, false_and, Option.getD_none, false_iff, not_and]
      rintro rfl
      decide

namespace Registry

/-- Reconciling settles a registry at once: it unbinds who is not listed, binds each tenant listed at
its stored time and passes over a text that is no time; doing it again changes nothing. A new
registry gets there by binding all, which says how many are bound. With the settings of a store
whose times were all saved, the bindings are those settings, whatever they were before. -/
theorem reconcile_settles {registry : Registry} {enabled : List (Uuid × Settings)}
    (ascending : registry.bindings.Ascending) (distinct : (enabled.map Prod.fst).Nodup) :
    (∀ tenant ∉ enabled.map Prod.fst,
      (registry.reconcile enabled).bindings.get? tenant = none) ∧
    (∀ tenant settings, (tenant, settings) ∈ enabled →
      (∀ time, TriggerTime.parse settings.runTime = .ok time →
        (registry.reconcile enabled).bindings.get? tenant = some time) ∧
      ∀ fault, TriggerTime.parse settings.runTime = .error fault →
        (registry.reconcile enabled).bindings.get? tenant = registry.bindings.get? tenant) ∧
    (registry.reconcile enabled).reconcile enabled = registry.reconcile enabled ∧
    (∀ zone isRunning, let fresh : Registry := { zone, isRunning }
      (fresh.bindAll enabled).2.bindings = (fresh.reconcile enabled).bindings ∧
      (fresh.bindAll enabled).1 = (fresh.bindAll enabled).2.status.length) ∧
    ∀ store : Store, store.Served → ∃ wanted, store.enabledSettings = .ok wanted ∧
      ∀ (before : Registry) (tenant : Uuid) (time : TriggerTime),
        (before.reconcile wanted).bindings.get? tenant = some time ↔
          ∃ settings, store.settingsOf tenant = .ok settings ∧ settings.enabled = true ∧
            settings.runTime = time.toText := by
  refine ⟨fun tenant => reconcile_unlisted, ?listed, ?again, ?fresh, ?stored⟩
  case listed =>
    intro tenant settings listed
    rw [reconcile_listed distinct listed]
    constructor
    · intro time timed
      simp [BindingMove.apply, timed]
    · intro fault refused
      simp [BindingMove.apply, refused]
  case again => exact (reconcile_settled ascending distinct).reconcile
  case fresh =>
    intro zone isRunning
    exact ⟨congrArg bindings (bindAll_fresh zone isRunning), bindAll_count zone isRunning distinct⟩
  case stored =>
    intro store served
    obtain ⟨wanted, asked, once, timed, stored⟩ := served.wellFormed.enabledSettings
    refine ⟨wanted, asked, fun before tenant time => ?_⟩
    by_cases listed : tenant ∈ wanted.map Prod.fst
    · obtain ⟨⟨tenant, settings⟩, member, rfl⟩ := List.mem_map.mp listed
      obtain ⟨known, on⟩ := (stored tenant settings).mp member
      obtain ⟨own, text⟩ := timed _ member
      rw [reconcile_listed once member, text]
      simp only [BindingMove.apply, TriggerTime.parse_toText, Option.some.injEq]
      constructor
      · rintro rfl
        exact ⟨settings, known, on, text⟩
      · rintro ⟨other, also, -, otherText⟩
        obtain rfl : settings = other := Except.ok.inj (known.symm.trans also)
        exact TriggerTime.toText_injective (text.symm.trans otherText)
    · rw [reconcile_unlisted listed]
      simp only [reduceCtorEq, false_iff, not_exists, not_and]
      exact fun settings known on => absurd
        (List.mem_map_of_mem ((stored tenant settings).mpr ⟨known, on⟩)) listed

def mornings : Registry :=
  { bindings := ⟨[(.ofNat 1, ⟨9, 0, by decide, by decide⟩), (.ofNat 2, ⟨6, 30, by decide, by decide⟩),
      (.ofNat 3, ⟨8, 15, by decide, by decide⟩)]⟩ }

/-- The first tenant wants another time, the second has stored a text that is none. -/
def wishes : List (Uuid × Settings) :=
  [(.ofNat 1, { enabled := true, runTime := "7:05" }),
    (.ofNat 2, { enabled := true, runTime := "noon" })]

/-- The first tenant is bound anew, the second keeps its time and the third is unbound; the settings
of the office bind its one tenant. -/
theorem mornings_settle :
    mornings.bindings.Ascending ∧ (wishes.map Prod.fst).Nodup ∧
    (mornings.reconcile wishes).bindings.get? (.ofNat 1) = some ⟨7, 5, by decide, by decide⟩ ∧
    (mornings.reconcile wishes).bindings.get? (.ofNat 2) = some ⟨6, 30, by decide, by decide⟩ ∧
    (mornings.reconcile wishes).bindings.get? (.ofNat 3) = none ∧
    (mornings.reconcile wishes).reconcile wishes = mornings.reconcile wishes ∧
    automatedOffice.Served ∧
    ∃ wanted, automatedOffice.enabledSettings = .ok wanted ∧
      (mornings.reconcile wanted).bindings.get? (.ofNat 1) = some ⟨7, 5, by decide, by decide⟩ := by
  have ascending : mornings.bindings.Ascending := by
    unfold TenantMap.Ascending
    decide
  have distinct : (wishes.map Prod.fst).Nodup := by decide
  obtain ⟨unlisted, listed, again, -, stored⟩ := reconcile_settles ascending distinct
  obtain ⟨wanted, asked, bound⟩ := stored automatedOffice automatedOffice_served
  have early : TriggerTime.parse "7:05" = .ok ⟨7, 5, by decide, by decide⟩ := by cbv
  have noon : TriggerTime.parse "noon" = .error (.notATime "noon") := by cbv
  have text : "07:05" = (⟨7, 5, by decide, by decide⟩ : TriggerTime).toText := by decide +kernel
  refine ⟨ascending, distinct, ?_, ?_, ?_, again, automatedOffice_served, wanted, asked, ?_⟩
  · exact (listed (.ofNat 1) { enabled := true, runTime := "7:05" } (by simp [wishes])).1 _ early
  · exact (listed (.ofNat 2) { enabled := true, runTime := "noon" } (by simp [wishes])).2 _ noon
  · exact unlisted (.ofNat 3) (by decide)
  · exact (bound mornings (.ofNat 1) _).mpr ⟨{ enabled := true, runTime := "07:05" }, rfl, rfl, text⟩

end Registry
end Rota
