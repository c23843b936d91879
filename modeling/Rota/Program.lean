import Rota.Command.Arguments
import Rota.Command.Run
import Rota.Store.Place

/-!
A whole run of the program: its arguments are read, then the configuration, then the store is
opened, and then the command runs. The first of these that fails decides how the run ends: its exit
code and what it prints.
-/

namespace Rota

inductive RunEnd where
  | usage (fault : UsageFault)
  | noConfig
  | fault (fault : RunFault)
  deriving DecidableEq

structure Finished where
  code : Nat := 0
  out : List String := []
  err : List String := []
  store : Store
  /-- The store has taken the place of the configuration file. -/
  tookConfigFile : Bool := false

def Finished.fileAfter (finished : Finished) (file : Option String) : Option String :=
  if finished.tookConfigFile then some "\x00" else file

structure Prepared where
  command : Command
  config : Config
  horizon : Horizon
  place : StorePlace

namespace RunFault

def mark : String := Text.boldColored .red "Error:" ++ " "

/-- What is printed of an error. One in what was to be kept is set off, as nothing of it was. -/
def errorLines (error : Error) : List String :=
  match error with
  | .notFound what => [mark ++ what.text]
  | .database fault => [mark ++ "Database error: " ++ fault.text]
  | error =>
    if error.kind.isConfiguration then
      [mark ++ Text.colored .yellow error.message, "Nothing was saved."]
    else [mark ++ error.message]

def lines : RunFault → List String
  | config fault => [mark ++ fault.message]
  | unready fault => [mark ++ "Migration failed: while executing migrations: " ++ fault.text]
  | failure (.error error) => errorLines error
  | failure (.fault _) => [mark ++ "a date or number is out of range"]

def code : RunFault → Nat
  | failure (.fault _) => 101
  | _ => 1

end RunFault

def versionLine : String := "cadence 0.1.0"

def usageLines : List String :=
  ["Usage: cadence <COMMAND>", "", "Commands:",
    "  generate [--date DATE] [--legacy]",
    "  schedule show | set TIME | disable",
    "  status",
    "  pattern list | presets | add NAME | toggle ID | preview ID",
    "  template add TITLE | list",
    "  serve"]

namespace RunEnd

def finish (store : Store) : RunEnd → Finished
  | .usage .helpAsked => { out := usageLines, store }
  | .usage .versionAsked => { out := [versionLine], store }
  | .usage cause => { code := 2, err := ("error: " ++ cause.message) :: usageLines, store }
  | .noConfig =>
    { code := 2
      err := [RunFault.mark ++ "Invalid configuration: a setting cannot be read"]
      store }
  | .fault cause => { code := cause.code, err := cause.lines, store }

end RunEnd

/-- What comes before the store is looked at: the arguments, the configuration, its lookahead and
zone, and whether a store can be where its path leads. -/
def prepare (arguments : List String) (file : Option String)
    (environment : List (String × String)) : Except RunEnd Prepared := do
  let command ← (Command.ofArguments arguments).mapError .usage
  let some config ← (Config.read? file environment).mapError fun fault =>
      .fault (.failure (.fault fault))
    | throw .noConfig
  let horizon ← config.horizon?.mapError fun fault => .fault (.config fault)
  let place ← (StorePlace.ofPath config.databasePath file.isSome).mapError
    fun error => .fault (.failure (.error error))
  if let some fault := place.obstacle? file then throw (.fault (.unready fault))
  return { command, config, horizon, place }

namespace Prepared

def workplace (prepared : Prepared) (supply : Supply) (milliseconds : Nat) : Workplace :=
  { config := prepared.config, horizon := prepared.horizon, supply, milliseconds }

/-- Runs the command over what is stored. A run in memory starts from nothing and leaves what was
stored elsewhere alone. -/
def run (prepared : Prepared) (supply : Supply) (milliseconds : Nat) (stored : Store) : Finished :=
  let start := if prepared.place = .memory then .empty else stored
  let (result, state) :=
    (prepared.command.run.run (prepared.workplace supply milliseconds)).run.run { store := start }
  let store := if prepared.place = .memory then stored else state.store
  let tookConfigFile := prepared.place = .configFile
  match result with
  | .ok () => { out := state.out, err := state.err, store, tookConfigFile }
  | .error fault =>
    { code := fault.code, out := state.out, err := state.err ++ fault.lines, store, tookConfigFile }

end Prepared

def runProgram (arguments : List String) (file : Option String)
    (environment : List (String × String)) (supply : Supply) (milliseconds : Nat)
    (stored : Store) : Finished :=
  match prepare arguments file environment with
  | .ok prepared => prepared.run supply milliseconds stored
  | .error ending => ending.finish stored

end Rota
