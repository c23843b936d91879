import Rota.Config.Environment
import Rota.Error
import Rota.Resolution
import Rota.Toml.Document
import Rota.Zone.Suggest

/-!
The configuration: settings of a file, overridden by those of the environment, and defaults for
what neither gives. It loads when the file can be read and every setting has a value of its kind;
that the tenant is there and the zone is one is asked only of what needs them.
-/

namespace Rota

structure Config where
  databasePath : String := "cadence.db"
  tenant : Option Uuid := none
  user : Option Uuid := none
  timezone : String := "UTC"
  lookahead : Int := 7
  refreshSeconds : Nat := 60
  logLevel : String := "warn"
  deriving DecidableEq

inductive ConfigFault where
  | noTenant
  | negativeLookahead (days : Int)
  | unknownZone (name : String)
  deriving DecidableEq

def ConfigFault.message : ConfigFault → String
  | noTenant => "No tenant configured. Set tenant_id in cadence.toml or CADENCE_TENANT_ID."
  | negativeLookahead days => "lookahead_days must not be negative, got " ++ toString days
  | unknownZone name =>
    (Error.invalidTimezone name).message ++ ". Did you mean one of: "
      ++ ", ".intercalate (Zone.suggestions name) ++ "?"

namespace Setting

def text? : Setting → Option String
  | .text word => some word
  | _ => none

def uuid? : Setting → Option Uuid
  | .text word => Uuid.ofText? word
  | .list numbers => Uuid.ofBytes? numbers
  | _ => none

def numberWithin? (least greatest : Int) : Setting → Option Int
  | .number n => if least ≤ n ∧ n ≤ greatest then some n else none
  | _ => none

end Setting

namespace Config

def fileName : String := "cadence.toml"

def variableStart : String := "cadence_"

def keys : List String :=
  ["database_path", "tenant_id", "user_id", "timezone", "lookahead_days", "settings_refresh_secs",
    "log_level"]

def variableNames : List String :=
  "TZ" :: keys.map fun key => String.map Char.toUpper (variableStart ++ key)

def systemZone (environment : List (String × String)) : String :=
  match environment.find? fun entry => entry.1 == "TZ" with
  | some (_, name) => if (Zone.named? name).isSome then name else "UTC"
  | none => "UTC"

def valueOr {α : Type} (setting : Option Setting) (default : α) (read : Setting → Option α) :
    Option α :=
  match setting with
  | none => some default
  | some setting => read setting

def ofSettings? (given : String → Option Setting) (defaults : Config) : Option Config := do
  return {
    databasePath := ← valueOr (given "database_path") defaults.databasePath Setting.text?
    tenant := ← valueOr (given "tenant_id") none fun setting => setting.uuid?.map some
    user := ← valueOr (given "user_id") none fun setting => setting.uuid?.map some
    timezone := ← valueOr (given "timezone") defaults.timezone Setting.text?
    lookahead := ← valueOr (given "lookahead_days") defaults.lookahead
      (Setting.numberWithin? (-Nat.pow 2 63) (Nat.pow 2 63 - 1))
    refreshSeconds := ← valueOr (given "settings_refresh_secs") defaults.refreshSeconds
      fun setting => (setting.numberWithin? 0 (Nat.pow 2 64 - 1)).map Int.toNat
    logLevel := ← valueOr (given "log_level") defaults.logLevel Setting.text? }

/-- The configuration that a file's text, if there is one, and some variables make. Every variable
is read, whatever the file and the others are like. -/
def read? (file : Option String) (environment : List (String × String)) :
    Checked (Option Config) := do
  let variableSettings ← Environment.settings variableStart environment
  return do
    let members ← (file.map Toml.ofText?).getD (some [])
    ofSettings? (fun key => (Environment.setting? variableSettings key).or (members.setting? key))
      { timezone := systemZone environment }

def tenant? (config : Config) : Except ConfigFault Uuid :=
  match config.tenant with
  | some tenant => .ok tenant
  | none => .error .noTenant

/-- How far ahead tasks are made, and in which zone; the number of days is looked at first. -/
def horizon? (config : Config) : Except ConfigFault Horizon :=
  if config.lookahead < 0 then .error (.negativeLookahead config.lookahead)
  else
    match Zone.parse config.timezone with
    | .ok zone => .ok { lookahead := config.lookahead, zone }
    | .error unknown => .error (.unknownZone unknown.name)

end Config
end Rota
