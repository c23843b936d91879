import Rota.Schedule.NextFire
import Rota.Task.Basic
import Rota.TenantMap

/-!
The registry of daily triggers: each tenant is bound to one time of day or to none. Reconciling with
the settings of the tenants that want automation binds each at its time and unbinds all others. A
time that is none changes nothing for its tenant.
-/

namespace Rota

structure Registry where
  zone : Zone := .utc
  bindings : TenantMap TriggerTime := {}
  isRunning : Bool := false

structure BindingStatus where
  tenant : Uuid
  time : String
  cron : String
  deriving DecidableEq

namespace Registry

def bind (registry : Registry) (tenant : Uuid) (time : TriggerTime) : Registry :=
  { registry with bindings := registry.bindings.insert tenant time }

def unbind (registry : Registry) (tenant : Uuid) : Registry :=
  { registry with bindings := registry.bindings.erase tenant }

/-- Binds the tenant at the time that the text writes, or unbinds it, whatever the text. -/
def update (registry : Registry) (tenant : Uuid) (enabled : Bool) (time : String) :
    Except TimeFault Registry :=
  if enabled then (TriggerTime.parse time).map (registry.bind tenant)
  else .ok (registry.unbind tenant)

def bindStored (registry : Registry) (tenant : Uuid) (settings : Settings) : Registry :=
  match registry.update tenant true settings.runTime with
  | .ok bound => bound
  | .error _ => registry

/-- Binds a tenant at its stored time, unless it is bound at that time already. -/
def rebind (registry : Registry) (tenant : Uuid) (settings : Settings) : Registry :=
  let current := registry.bindings.get? tenant
  let wanted := (TriggerTime.parse settings.runTime).toOption
  if current.isSome && current == wanted then registry else registry.bindStored tenant settings

/-- Binds the tenants listed, and says how many of them have a time that is one. -/
def bindAll (registry : Registry) (enabled : List (Uuid × Settings)) : Nat × Registry :=
  let bound := enabled.countP fun entry => (TriggerTime.parse entry.2.runTime).isOk
  let registry := enabled.foldl (fun registry entry => registry.bindStored entry.1 entry.2) registry
  (bound, { registry with isRunning := true })

/-- Unbinds the tenants that are not listed, and binds those that are where their time has changed. -/
def reconcile (registry : Registry) (enabled : List (Uuid × Settings)) : Registry :=
  let stale := registry.bindings.tenants.filter fun tenant =>
    !(enabled.map Prod.fst).contains tenant
  let kept := stale.foldl unbind registry
  let registry := enabled.foldl (fun registry entry => registry.rebind entry.1 entry.2) kept
  { registry with isRunning := true }

def shutdown (registry : Registry) : Registry :=
  { registry with bindings := .empty, isRunning := false }

def isScheduled (registry : Registry) (tenant : Uuid) : Bool :=
  (registry.bindings.get? tenant).isSome

def status (registry : Registry) : List BindingStatus :=
  registry.bindings.entries.map fun (tenant, time) => ⟨tenant, time.toText, time.cronText⟩

def nextAfter (registry : Registry) (time : TriggerTime) (after : Instant) :
    Checked (Option Instant) :=
  time.nextAfter registry.zone after

/-- The tenants that a trigger comes for after one instant and not after another. -/
def firedBetween (registry : Registry) (since last : Instant) : Checked (List Uuid) := do
  let fired ← registry.bindings.entries.mapM fun (tenant, time) => do
    let next ← registry.nextAfter time since
    return if next.any fun moment => !last.before moment then some tenant else none
  return fired.filterMap id

end Registry
end Rota
