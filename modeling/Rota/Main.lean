import Rota.Json.Text
import Rota.Program
import Rota.Store.Form
import Std.Time.DateTime.Timestamp

/-!
The command line program: it looks up the time, the configuration file and the environment, keeps
the store in a file between runs, and prints what a run leaves. While serving it looks at the stored
settings again from time to time and runs the passes whose time has come.
-/

namespace Rota.Main

def clock : IO Instant := do
  let nanos := (← Std.Time.Timestamp.now).toNanosecondsSinceUnixEpoch.val
  return (Instant.ofParts? (nanos / nanosPerSecond) (nanos % nanosPerSecond).toNat).getD default

/-- Identifiers of the present time, apart from those of any other run. -/
def supply : IO Supply := do
  let clock ← clock
  let other ← IO.rand 0 (Nat.pow 2 50)
  let milliseconds := (clock.toSeconds * 1000).toNat + clock.nano / 1000000
  return { id := fun n => .ofTime milliseconds (other * Nat.pow 2 24 + n), clock }

def readFile? (path : String) : IO (Option String) := do
  try return some (← IO.FS.readFile path)
  catch
    | .noFileOrDirectory .. => return none
    | error => throw error

def environment : IO (List (String × String)) := do
  let values ← Config.variableNames.mapM fun name => do
    return (← IO.getEnv name).map fun text => (name, text)
  return values.filterMap id

def folder (path : String) : String :=
  String.ofList ((path.toList.reverse.dropWhile (· ≠ '/')).drop 1).reverse

def path? : StorePlace → Option String
  | .memory => none
  | .file path => some path
  | .configFile => some Config.fileName

def load (place : StorePlace) : IO (Option Store) := do
  let some path := path? place | return some .empty
  match ← readFile? path with
  | none | some "" => return some .empty
  | some text => return (Json.ofText? text).bind Store.ofJson?

def save (store : Store) (place : StorePlace) : IO Unit := do
  let some path := path? place | return
  unless (folder path).isEmpty do IO.FS.createDirAll (folder path)
  IO.FS.writeFile path store.toJson.toText

def print (finished : Finished) : IO UInt32 := do
  let out ← IO.getStdout
  out.putStr (textOfLines finished.out)
  out.flush
  (← IO.getStderr).putStr (textOfLines finished.err)
  return UInt32.ofNat finished.code

def tick (prepared : Prepared) (registry : Registry) (since now : Instant) : IO Unit := do
  if let .ok tenants := registry.firedBetween since now then
    for tenant in tenants do
      if let some store ← load prepared.place then
        if let .ok (_, store) := store.runScheduled (← supply) prepared.horizon tenant then
          save store prepared.place

partial def keepServing (prepared : Prepared) (registry : Registry) (since : Instant)
    (waited : Nat) : IO Unit := do
  IO.sleep 1000
  let now ← clock
  tick prepared registry since now
  if waited + 1 < max 1 prepared.config.refreshSeconds then
    keepServing prepared registry now (waited + 1)
  else
    let enabled := (← load prepared.place).bind fun store => store.enabledSettings.toOption
    keepServing prepared ((enabled.map registry.reconcile).getD registry) now 0

def serve (prepared : Prepared) (store : Store) : IO UInt32 := do
  let place := prepared.workplace (← supply) 0
  let (result, state) := (Run.startServing.run place).run.run { store }
  let _ ← print { out := state.out, err := state.err, store }
  match result with
  | .error fault => print { code := fault.code, err := fault.lines, store }
  | .ok registry =>
    keepServing prepared registry (← clock) 0
    return 0

def runPrepared (prepared : Prepared) : IO UInt32 := do
  match ← load prepared.place with
  | none => print (RunEnd.finish .empty (.fault (.unready .noStore)))
  | some store =>
    if prepared.command = .serve then serve prepared store
    else
      let supply ← supply
      let started ← IO.monoMsNow
      let finished := prepared.run supply 0 store
      save finished.store prepared.place
      let ended ← IO.monoMsNow
      print (prepared.run supply (ended - started) store)

end Rota.Main

def main (arguments : List String) : IO UInt32 := do
  let file ← Rota.Main.readFile? Rota.Config.fileName
  match Rota.prepare arguments file (← Rota.Main.environment) with
  | .ok prepared => Rota.Main.runPrepared prepared
  | .error ending => Rota.Main.print (ending.finish .empty)
