import Rota.Store.Basic
import Rota.Task.Form

/-!
The structured form of a store, in which it is kept between runs. Only what commands write is part
of it.
-/

namespace Rota

open Json

def Store.toJson (store : Store) : Json :=
  .object [("patterns", .list (store.patterns.map fun row => row.pattern.toJson)),
    ("templates", .list (store.templates.map Template.toJson)),
    ("tasks", .list (store.tasks.map Task.toJson)),
    ("settings", .object (store.settings.entries.map fun (tenant, settings) =>
      (tenant.toText, settings.toJson)))]

def settingsMap? : Json → Option (TenantMap Settings)
  | .object members => members.foldlM (fun map (name, json) => do
    return map.insert (← Uuid.ofText? name) (← Settings.ofJson? json)) .empty
  | _ => none

def Store.ofJson? (json : Json) : Option Store := do
  let patterns ← list? Pattern.ofJson? (← json.member? "patterns")
  return {
    patterns := patterns.map fun pattern => { pattern }
    templates := ← list? Template.ofJson? (← json.member? "templates")
    tasks := ← list? Task.ofJson? (← json.member? "tasks")
    settings := ← settingsMap? (← json.member? "settings") }

end Rota
