import Rota.Generation.Form
import Rota.Proofs.Schedule.Bindings
import Mathlib.Data.Set.Card

/-!
A registry over any sequence of calls. Each tenant has a machine of its own, which is bound to a
time or to none: a call makes it move or passes it by, and what becomes of one tenant depends on no
other. What a registry shows is read off the machines.
-/

namespace Rota

/-- How a single tenant moves between being bound to a time and to none. -/
inductive BindingMove where
  | schedule (text : String)
  | unschedule

/-- A text that is no time of day moves nothing. -/
def BindingMove.apply (bound : Option TriggerTime) : BindingMove → Option TriggerTime
  | schedule text =>
    match TriggerTime.parse text with
    | .ok time => some time
    | .error _ => bound
  | unschedule => none

namespace Registry

inductive Call where
  | update (tenant : Uuid) (enabled : Bool) (text : String)
  | bindAll (enabled : List (Uuid × Settings))
  | reconcile (enabled : List (Uuid × Settings))
  | shutdown

/-- The answer to a call, and the registry after it. An update that is refused leaves the registry
as it was; the answer to binding all is how many were bound. -/
def perform (registry : Registry) : Call → Except TimeFault (Option Nat) × Registry
  | .update tenant enabled text =>
    match registry.update tenant enabled text with
    | .ok after => (.ok none, after)
    | .error fault => (.error fault, registry)
  | .bindAll enabled => (registry.bindAll enabled).map (fun bound => .ok (some bound)) id
  | .reconcile enabled => (.ok none, registry.reconcile enabled)
  | .shutdown => (.ok none, registry.shutdown)

def after (registry : Registry) (calls : List Call) : Registry :=
  calls.foldl (fun registry call => (registry.perform call).2) registry

open BindingMove

def storedMoves (tenant : Uuid) (enabled : List (Uuid × Settings)) : List BindingMove :=
  (enabled.filter fun entry => entry.1 = tenant).map fun entry => schedule entry.2.runTime

/-- The moves that a call asks of one tenant. -/
def Call.moves (tenant : Uuid) : Call → List BindingMove
  | update other enabled text =>
    if other = tenant then [if enabled then schedule text else unschedule] else []
  | bindAll enabled => storedMoves tenant enabled
  | reconcile enabled =>
    if tenant ∈ enabled.map Prod.fst then storedMoves tenant enabled else [unschedule]
  | shutdown => [unschedule]

/-- What the machine of a tenant comes to when it is bound to no time at first. -/
def boundAfter (tenant : Uuid) (calls : List Call) : Option TriggerTime :=
  (calls.flatMap (Call.moves tenant)).foldl BindingMove.apply none

variable {registry : Registry} {tenant other : Uuid} {settings : Settings}
  {enabled : List (Uuid × Settings)}

theorem bindStored_get? (owner : Uuid) : (registry.bindStored owner settings).bindings.get? tenant =
    if owner = tenant then (schedule settings.runTime).apply (registry.bindings.get? tenant)
    else registry.bindings.get? tenant := by
  by_cases same : owner = tenant
  · subst same
    simp only [bindStored, update, ↓reduceIte, BindingMove.apply]
    cases TriggerTime.parse settings.runTime with
    | error fault => rfl
    | ok time => simp [Except.map, bind]
  · rw [if_neg same, bindStored_other same]

/-- A tenant is bound anew, or it is bound at its stored time and passed over. -/
theorem rebind_cases : registry.rebind tenant settings = registry.bindStored tenant settings ∨
    ∃ time, TriggerTime.parse settings.runTime = .ok time ∧
      registry.bindings.get? tenant = some time ∧ registry.rebind tenant settings = registry := by
  simp only [rebind]
  split
  · next kept =>
    obtain ⟨held, same⟩ : (registry.bindings.get? tenant).isSome = true ∧
        registry.bindings.get? tenant = (TriggerTime.parse settings.runTime).toOption := by
      simpa using kept
    cases timed : TriggerTime.parse settings.runTime with
    | error fault => simp [same, timed, Except.toOption] at held
    | ok time => exact Or.inr ⟨time, rfl, by rw [same, timed]; rfl, rfl⟩
  · exact Or.inl rfl

theorem rebind_get? (owner : Uuid) : (registry.rebind owner settings).bindings.get? tenant =
    (registry.bindStored owner settings).bindings.get? tenant := by
  rcases @rebind_cases registry owner settings with bound | ⟨time, timed, held, kept⟩
  · rw [bound]
  · rw [kept, bindStored_get?]
    split
    · next same => rw [← same, held, BindingMove.apply, timed]
    · rfl

/-- Binding the tenants listed one after the other, in either way, moves the machine of each by the
times that are stored for it. -/
theorem foldl_get? {bindOne : Registry → Uuid → Settings → Registry}
    (binds : ∀ registry owner settings, (bindOne registry owner settings).bindings.get? tenant =
      (registry.bindStored owner settings).bindings.get? tenant)
    (enabled : List (Uuid × Settings)) (registry : Registry) :
    (enabled.foldl (fun registry entry => bindOne registry entry.1 entry.2)
      registry).bindings.get? tenant =
        (storedMoves tenant enabled).foldl BindingMove.apply (registry.bindings.get? tenant) := by
  induction enabled generalizing registry with
  | nil => rfl
  | cons entry rest ih =>
    rw [List.foldl_cons, ih, binds, bindStored_get?]
    by_cases same : entry.1 = tenant
    · simp [storedMoves, same]
    · simp [storedMoves, same]

theorem foldl_unbind_get? (stale : List Uuid) (registry : Registry) :
    (stale.foldl unbind registry).bindings.get? tenant =
      if tenant ∈ stale then none else registry.bindings.get? tenant := by
  induction stale generalizing registry with
  | nil => rfl
  | cons other rest ih =>
    rw [List.foldl_cons, ih]
    by_cases later : tenant ∈ rest
    · simp [later]
    · simp [unbind, later, eq_comm]

/-- A tenant that is not listed and not bound has nothing to lose; one that is bound is stale. -/
theorem reconcile_get? : (registry.reconcile enabled).bindings.get? tenant =
    if tenant ∈ enabled.map Prod.fst then
      (storedMoves tenant enabled).foldl BindingMove.apply (registry.bindings.get? tenant)
    else none := by
  unfold reconcile
  simp only [foldl_get? fun _ owner _ => rebind_get? owner, foldl_unbind_get?]
  by_cases listed : tenant ∈ enabled.map Prod.fst
  · simp [listed]
  · have unmoved : storedMoves tenant enabled = [] := by
      simp only [storedMoves, List.map_eq_nil_iff, List.filter_eq_nil_iff, decide_eq_true_eq]
      exact fun entry member same => listed (List.mem_map.mpr ⟨entry, member, same⟩)
    rw [unmoved, if_neg listed]
    cases bound : registry.bindings.get? tenant with
    | none => simp
    | some time =>
      have held : tenant ∈ registry.bindings.tenants :=
        TenantMap.get?_isSome.mp (by rw [bound]; rfl)
      simp [held, listed]

/-- Of settings only the time is looked at. -/
theorem perform_update {text : String} (stored : settings.runTime = text) :
    (registry.perform (.update tenant true text)).2 = registry.bindStored tenant settings := by
  subst stored
  simp only [perform, bindStored, update, ↓reduceIte]
  cases TriggerTime.parse settings.runTime <;> rfl

/-- A call moves the machine of each tenant by the moves it asks of that tenant. -/
theorem perform_get? (call : Call) : (registry.perform call).2.bindings.get? tenant =
    (call.moves tenant).foldl BindingMove.apply (registry.bindings.get? tenant) := by
  cases call with
  | update other enabled text =>
    cases enabled with
    | false =>
      by_cases same : other = tenant
      · simp [perform, update, Call.moves, unbind, BindingMove.apply, same]
      · simp [perform, update, Call.moves, unbind, same]
    | true =>
      rw [@perform_update registry other { runTime := text } text rfl, bindStored_get?]
      by_cases same : other = tenant
      · simp [Call.moves, same]
      · simp [Call.moves, same]
  | bindAll enabled => exact foldl_get? (fun _ _ _ => rfl) enabled registry
  | reconcile enabled =>
    simp only [perform, reconcile_get?, Call.moves]
    split <;> rfl
  | shutdown => rfl

theorem bindStored_ascending (ascending : registry.bindings.Ascending) :
    (registry.bindStored tenant settings).bindings.Ascending := by
  unfold bindStored update
  cases TriggerTime.parse settings.runTime with
  | error fault => exact ascending
  | ok time => exact ascending.insert

theorem foldl_bindStored_ascending (enabled : List (Uuid × Settings))
    (ascending : registry.bindings.Ascending) :
    (enabled.foldl (fun registry entry => registry.bindStored entry.1 entry.2)
      registry).bindings.Ascending := by
  induction enabled generalizing registry with
  | nil => exact ascending
  | cons entry rest ih => exact ih (bindStored_ascending ascending)

theorem foldl_unbind_ascending (stale : List Uuid) (ascending : registry.bindings.Ascending) :
    (stale.foldl unbind registry).bindings.Ascending := by
  induction stale generalizing registry with
  | nil => exact ascending
  | cons other rest ih => exact ih ascending.erase

theorem bindStored_bound (ascending : registry.bindings.Ascending)
    (bound : ∀ time, TriggerTime.parse settings.runTime = .ok time →
      registry.bindings.get? tenant = some time) :
    registry.bindStored tenant settings = registry := by
  simp only [bindStored, update, ↓reduceIte]
  cases timed : TriggerTime.parse settings.runTime with
  | error fault => rfl
  | ok time =>
    have same : registry.bindings.insert tenant time = registry.bindings := by
      apply ascending.insert.ext ascending
      intro other
      rw [TenantMap.get?_insert]
      split
      · next here => rw [← here, bound time timed]
      · rfl
    simp [Except.map, bind, same]

/-- With one entry for each tenant, passing over a tenant that is bound at its time is no other than
binding it there again. -/
theorem rebind_eq (ascending : registry.bindings.Ascending) :
    registry.rebind tenant settings = registry.bindStored tenant settings := by
  rcases rebind_cases with bound | ⟨time, timed, held, kept⟩
  · exact bound
  · rw [kept, bindStored_bound ascending]
    intro other also
    rw [held, Except.ok.inj (timed.symm.trans also)]

theorem foldl_rebind_eq (enabled : List (Uuid × Settings))
    (ascending : registry.bindings.Ascending) :
    enabled.foldl (fun registry entry => registry.rebind entry.1 entry.2) registry =
      enabled.foldl (fun registry entry => registry.bindStored entry.1 entry.2) registry := by
  induction enabled generalizing registry with
  | nil => rfl
  | cons entry rest ih =>
    rw [List.foldl_cons, List.foldl_cons, rebind_eq ascending, ih (bindStored_ascending ascending)]

/-- Where the tenants ascend, reconciling comes to the same without passing anyone over. -/
theorem reconcile_eq (ascending : registry.bindings.Ascending) : registry.reconcile enabled =
    { enabled.foldl (fun registry entry => registry.bindStored entry.1 entry.2)
        ((registry.bindings.tenants.filter fun tenant =>
          !(enabled.map Prod.fst).contains tenant).foldl unbind registry) with
      isRunning := true } := by
  rw [reconcile, foldl_rebind_eq enabled (foldl_unbind_ascending _ ascending)]

theorem reconcile_ascending (ascending : registry.bindings.Ascending) :
    (registry.reconcile enabled).bindings.Ascending := by
  rw [reconcile_eq ascending]
  exact foldl_bindStored_ascending enabled (foldl_unbind_ascending _ ascending)

theorem perform_ascending (call : Call) (ascending : registry.bindings.Ascending) :
    (registry.perform call).2.bindings.Ascending := by
  cases call with
  | update other enabled text =>
    cases enabled with
    | false => exact ascending.erase
    | true =>
      rw [@perform_update registry other { runTime := text } text rfl]
      exact bindStored_ascending ascending
  | bindAll enabled => exact foldl_bindStored_ascending enabled ascending
  | reconcile enabled => exact reconcile_ascending ascending
  | shutdown => exact .nil

theorem after_get? (calls : List Call) (registry : Registry) :
    (registry.after calls).bindings.get? tenant =
      (calls.flatMap (Call.moves tenant)).foldl BindingMove.apply
        (registry.bindings.get? tenant) := by
  induction calls generalizing registry with
  | nil => rfl
  | cons call rest ih =>
    rw [List.flatMap_cons, List.foldl_append, ← perform_get?]
    exact ih _

theorem after_ascending (calls : List Call) (ascending : registry.bindings.Ascending) :
    (registry.after calls).bindings.Ascending := by
  induction calls generalizing registry with
  | nil => exact ascending
  | cons call rest ih => exact ih (perform_ascending call ascending)

theorem mem_status (ascending : registry.bindings.Ascending) {shown : BindingStatus} :
    shown ∈ registry.status ↔ ∃ time, registry.bindings.get? shown.tenant = some time ∧
      shown.time = time.toText ∧ shown.cron = time.cronText := by
  simp only [status, List.mem_map, Prod.exists]
  constructor
  · rintro ⟨tenant, time, held, rfl⟩
    exact ⟨time, ascending.mem_entries.mp held, rfl, rfl⟩
  · rintro ⟨time, bound, text, cron⟩
    refine ⟨shown.tenant, time, ascending.mem_entries.mpr bound, ?_⟩
    cases shown
    simp_all

theorem status_ascending (ascending : registry.bindings.Ascending) :
    registry.status.Pairwise fun a b => a.tenant.toNat < b.tenant.toNat :=
  List.pairwise_map.mpr ascending

theorem status_length (ascending : registry.bindings.Ascending) :
    registry.status.length = {tenant | registry.isScheduled tenant = true}.ncard := by
  have scheduled : {tenant | registry.isScheduled tenant = true} =
      ((registry.bindings.entries.map Prod.fst).toFinset : Set Uuid) := by
    ext tenant
    simp [isScheduled, TenantMap.get?_isSome, TenantMap.tenants]
  rw [scheduled, Set.ncard_coe_finset, List.toFinset_card_of_nodup ascending.distinct]
  simp [status]

section Moves

variable {calls : List Call}

theorem boundAfter_append (more : List Call) : boundAfter tenant (calls ++ more) =
    (more.flatMap (Call.moves tenant)).foldl BindingMove.apply (boundAfter tenant calls) := by
  simp only [boundAfter, List.flatMap_append, List.foldl_append]

theorem boundAfter_scheduled {text : String} {time : TriggerTime}
    (timed : TriggerTime.parse text = .ok time) :
    boundAfter other (calls ++ [.update tenant true text]) =
      if other = tenant then some time else boundAfter other calls := by
  rw [boundAfter_append]
  by_cases same : tenant = other
  · simp [Call.moves, BindingMove.apply, same, timed]
  · simp [Call.moves, same, Ne.symm same]

theorem boundAfter_unscheduled {text : String} :
    boundAfter other (calls ++ [.update tenant false text]) =
      if other = tenant then none else boundAfter other calls := by
  rw [boundAfter_append]
  by_cases same : tenant = other
  · simp [Call.moves, BindingMove.apply, same]
  · simp [Call.moves, same, Ne.symm same]

end Moves

def bindingCalls (enabled : List (Uuid × Settings)) : List Call :=
  enabled.map fun entry => .update entry.1 true entry.2.runTime

def unbindingCalls (registry : Registry) (enabled : List (Uuid × Settings)) : List Call :=
  (registry.bindings.tenants.filter fun tenant => !(enabled.map Prod.fst).contains tenant).map
    fun tenant => .update tenant false ""

theorem after_append (calls more : List Call) :
    registry.after (calls ++ more) = (registry.after calls).after more :=
  List.foldl_append

theorem after_bindingCalls (enabled : List (Uuid × Settings)) (registry : Registry) :
    registry.after (bindingCalls enabled) =
      enabled.foldl (fun registry entry => registry.bindStored entry.1 entry.2) registry := by
  induction enabled generalizing registry with
  | nil => rfl
  | cons entry rest ih =>
    rw [List.foldl_cons, ← ih, ← @perform_update registry entry.1 entry.2 _ rfl]
    rfl

theorem bindAll_calls : (registry.bindAll enabled).2 =
    { registry.after (bindingCalls enabled) with isRunning := true } := by
  rw [after_bindingCalls]
  rfl

theorem reconcile_calls (ascending : registry.bindings.Ascending) : registry.reconcile enabled =
    { registry.after (registry.unbindingCalls enabled ++ bindingCalls enabled) with
      isRunning := true } := by
  rw [reconcile_eq ascending, after_append, after_bindingCalls, unbindingCalls, after,
    List.foldl_map]
  rfl

/-- Whatever is asked of a new registry, it does as one machine for each tenant does: a time binds
its own tenant and no other, a text that is no time moves nothing, and binding all or reconciling is
a sequence of such steps. The machines give what is shown: who is bound, to which time, and how many
they are. As every part of a sequence is one itself, this holds after each call. -/
theorem registry_refines_machines (zone : Zone) (calls : List Call) :
    let registry := ({ zone } : Registry).after calls
    (∀ tenant, registry.bindings.get? tenant = boundAfter tenant calls) ∧
    (∀ tenant text time, TriggerTime.parse text = .ok time →
      (registry.perform (.update tenant true text)).1 = .ok none ∧
      ∀ other, boundAfter other (calls ++ [.update tenant true text]) =
        if other = tenant then some time else boundAfter other calls) ∧
    (∀ tenant text fault, TriggerTime.parse text = .error fault →
      registry.perform (.update tenant true text) = (.error fault, registry)) ∧
    (∀ tenant text, (registry.perform (.update tenant false text)).1 = .ok none ∧
      ∀ other, boundAfter other (calls ++ [.update tenant false text]) =
        if other = tenant then none else boundAfter other calls) ∧
    (∀ other, boundAfter other (calls ++ [.shutdown]) = none) ∧
    (∀ enabled, (registry.perform (.bindAll enabled)).2 =
        { registry.after (bindingCalls enabled) with isRunning := true } ∧
      (registry.perform (.reconcile enabled)).2 =
        { registry.after (registry.unbindingCalls enabled ++ bindingCalls enabled) with
          isRunning := true }) ∧
    (∀ shown, shown ∈ registry.status ↔ ∃ time, boundAfter shown.tenant calls = some time ∧
      shown.time = time.toText ∧ shown.cron = time.cronText) ∧
    (registry.status.Pairwise fun a b => a.tenant.toNat < b.tenant.toNat) ∧
    registry.toJson.member? "activeJobs" =
      some (.ofNat {tenant | (boundAfter tenant calls).isSome = true}.ncard) ∧
    ∀ tenant, registry.isScheduled tenant = (boundAfter tenant calls).isSome := by
  intro registry
  have ascending : registry.bindings.Ascending := after_ascending calls .nil
  have bound (tenant : Uuid) : registry.bindings.get? tenant = boundAfter tenant calls :=
    after_get? calls _
  have scheduled (tenant : Uuid) :
      registry.isScheduled tenant = (boundAfter tenant calls).isSome := by
    rw [isScheduled, bound]
  refine ⟨bound, ?timed, ?refused, ?_, ?closed,
    fun enabled => ⟨bindAll_calls, reconcile_calls ascending⟩, ?shown,
    status_ascending ascending, ?counted, scheduled⟩
  case timed =>
    intro tenant text time timed
    exact ⟨by simp [perform, update, timed, Except.map], fun other => boundAfter_scheduled timed⟩
  case refused =>
    intro tenant text fault refused
    simp [perform, update, refused, Except.map]
  · exact fun tenant text => ⟨rfl, fun other => boundAfter_unscheduled⟩
  case closed =>
    intro other
    rw [boundAfter_append]
    rfl
  case shown =>
    intro shown
    rw [mem_status ascending, bound]
  case counted =>
    simp only [← scheduled, ← status_length ascending]
    rfl

end Registry
end Rota
