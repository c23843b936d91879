import Rota.Pattern.Rule
import Rota.Schedule.TriggerTime
import Rota.Text.FileUri
import Rota.Checked
import Rota.Uuid

/-!
What goes wrong, by cause, and the wording of each cause in one place. A failure of storage shows no
detail; every other error shows its kind and what it is about. Errors of configuration are those in
what a caller asked to be kept: a rule, a time of day or a zone.
-/

namespace Rota

inductive ErrorKind where
  | database | io | notFound | invalidInput | invalidPattern | invalidSchedule | invalidTimezone
  deriving DecidableEq, Repr

namespace ErrorKind

def all : List ErrorKind :=
  [database, io, notFound, invalidInput, invalidPattern, invalidSchedule, invalidTimezone]

def name : ErrorKind → String
  | database => "Database"
  | io => "Io"
  | notFound => "NotFound"
  | invalidInput => "InvalidInput"
  | invalidPattern => "InvalidPattern"
  | invalidSchedule => "InvalidSchedule"
  | invalidTimezone => "InvalidTimezone"

def display (detail : String) : ErrorKind → String
  | database => "Database error"
  | io => "IO error"
  | notFound => "Not found: " ++ detail
  | invalidInput => "Invalid input: " ++ detail
  | invalidPattern => "Invalid recurrence pattern: " ++ detail
  | invalidSchedule => "Invalid schedule: " ++ detail
  | invalidTimezone => "Invalid timezone: " ++ detail

def isConfiguration : ErrorKind → Bool
  | invalidPattern | invalidSchedule | invalidTimezone => true
  | _ => false

end ErrorKind

inductive StorageFault where
  | closed
  | cannotOpen
  /-- The place named for the store has no name that a file can have. -/
  | unnameable
  | uri (fault : UriFault)
  | noStore
  | unreadable
  | danglingReference
  | refused (title : String)
  deriving DecidableEq, Repr

/-- What is known of the fault; it is shown only where a run ends with it. -/
def StorageFault.text : StorageFault → String
  | closed => "attempted to acquire a connection on a closed pool"
  | cannotOpen => "error returned from database: (code: 14) unable to open database file"
  | unnameable =>
    "error communicating with database: filename passed to SQLite must not contain nul bytes"
  | uri fault => "error returned from database: " ++ fault.text
  | noStore => "error returned from database: (code: 26) file is not a database"
  | unreadable => "error occurred while decoding column \"rule\": the rule cannot be read"
  | danglingReference => "error returned from database: (code: 787) FOREIGN KEY constraint failed"
  | refused title =>
    "error returned from database: (code: 1811) no task may be titled '" ++ title ++ "'"

inductive Missing where
  | pattern (id : Uuid)
  | template (id : Uuid)
  | patternNamed (id : Uuid)
  | reference (text : String)
  deriving DecidableEq

inductive InputFault where
  | blankPatternName
  | blankTemplateTitle
  | blankTaskTitle
  | interval
  | shortReference
  | ambiguous (reference : String) (candidates : List (Uuid × String))
  | settingsDown
  deriving DecidableEq

inductive Error where
  | database (fault : StorageFault)
  | io
  | notFound (what : Missing)
  | invalidInput (fault : InputFault)
  | invalidPattern (fault : RuleFault)
  | invalidSchedule (fault : TimeFault)
  | invalidTimezone (name : String)
  deriving DecidableEq

def Missing.text : Missing → String
  | pattern id => "Pattern with id " ++ id.toText ++ " not found"
  | template id => "Template with id " ++ id.toText ++ " not found"
  | patternNamed id => "Pattern " ++ id.toText ++ " not found"
  | reference text => "No pattern found matching '" ++ text ++ "'"

def InputFault.text : InputFault → String
  | blankPatternName => "Pattern name cannot be empty"
  | blankTemplateTitle => "Template title cannot be empty"
  | blankTaskTitle => "Task title cannot be empty"
  | interval => "Recurrence interval must be a positive number of days"
  | shortReference => "Short ID must be at least 2 characters long."
  | ambiguous reference candidates =>
    "Ambiguous ID '" ++ reference ++ "', did you mean one of: " ++
      ", ".intercalate (candidates.map fun (id, name) => id.short ++ " (" ++ name ++ ")")
  | settingsDown => "settings store is down"

namespace Error

def kind : Error → ErrorKind
  | database _ => .database
  | io => .io
  | notFound _ => .notFound
  | invalidInput _ => .invalidInput
  | invalidPattern _ => .invalidPattern
  | invalidSchedule _ => .invalidSchedule
  | invalidTimezone _ => .invalidTimezone

def detail : Error → String
  | database _ => ""
  | io => ""
  | notFound what => what.text
  | invalidInput fault => fault.text
  | invalidPattern fault => fault.text
  | invalidSchedule fault => fault.text
  | invalidTimezone name => "'" ++ name ++ "' is not an IANA zone name"

def message (error : Error) : String := error.kind.display error.detail

end Error

/-- Why a computation that reads or writes the store has no answer: an arithmetic fault, which
stops everything, or an error, which a caller may report and go on. -/
inductive Failure where
  | fault (fault : Fault)
  | error (error : Error)
  deriving DecidableEq

abbrev Outcome (α : Type) := Except Failure α

def Outcome.ofChecked {α : Type} : Checked α → Outcome α
  | .ok a => .ok a
  | .error fault => .error (.fault fault)

def Outcome.ofExcept {α : Type} : Except Error α → Outcome α
  | .ok a => .ok a
  | .error error => .error (.error error)

end Rota
