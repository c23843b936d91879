import Rota.Store.Basic
import Rota.Schedule.TriggerTime

/-!
The automation settings of a tenant. A tenant that has saved none has the default ones. The time of
day is saved in its two-digit form, and only when it is one.
-/

namespace Rota.Store

def settingsOf (store : Store) (tenant : Uuid) : Attempt Settings := do
  store.use
  return (store.settings.get? tenant).getD {}

def saveSettings (store : Store) (tenant : Uuid) (settings : Settings) :
    Attempt (Settings × Store) := do
  let time ← (TriggerTime.parse settings.runTime).mapError .invalidSchedule
  store.use
  let saved := { settings with runTime := time.toText }
  return (saved, { store with settings := store.settings.insert tenant saved })

def enabledSettings (store : Store) : Attempt (List (Uuid × Settings)) := do
  store.use
  return store.settings.entries.filter fun entry => entry.2.enabled

end Rota.Store
