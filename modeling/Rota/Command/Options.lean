import Rota.Pattern.Rule

/-!
Reading the words after a command's name, from left to right. A word that begins with a hyphen names
an option; the words after it are its values, as many as it takes, and every other word is
positional. `--` makes all that follows positional. An option is settled, and its values read, when
the next option or positional word comes or the words end; a value written in one word with its
option is read at once.
-/

namespace Rota

inductive UsageFault where
  | badValue
  /-- No value where one is needed, or none of the fixed choices. -/
  | noValue
  | unknownArgument
  | missingArgument
  | repeatedOption
  | unwantedValue
  | unknownCommand
  | noCommand
  | helpAsked
  | versionAsked
  deriving DecidableEq, Repr

def UsageFault.message : UsageFault → String
  | badValue => "a value cannot be read"
  | noValue => "an option lacks its value or has none of those it takes"
  | unknownArgument => "there is no such argument"
  | missingArgument => "an argument is missing"
  | repeatedOption => "an option is given twice"
  | unwantedValue => "an option takes no value"
  | unknownCommand => "there is no such command"
  | noCommand => "a command is missing"
  | helpAsked => "help was asked for"
  | versionAsked => "the version was asked for"

inductive Arity where
  | flag
  | one
  /-- All words up to the next option; each may hold several values with a separator between. -/
  | many (separator : Option Char)
  deriving DecidableEq, Repr

structure OptionRule (σ : Type) where
  name : String
  short : Option Char := none
  arity : Arity := .one
  /-- Reads a value into the draft. A flag is put in once, with no text. -/
  put : String → σ → Except UsageFault σ

structure CommandForm (σ : Type) where
  options : List (OptionRule σ) := []
  words : List (String → σ → σ) := []

namespace OptionRule

variable {σ : Type}

def help : OptionRule σ :=
  { name := "help", short := some 'h', arity := .flag, put := fun _ _ => .error .helpAsked }

def flag (name : String) (set : σ → σ) : OptionRule σ :=
  { name, arity := .flag, put := fun _ draft => .ok (set draft) }

def value {α : Type} (name : String) (read : String → Option α) (set : α → σ → σ) : OptionRule σ :=
  { name
    put := fun text draft =>
      match read text with
      | some a => .ok (set a draft)
      | none => .error .badValue }

def choice {α : Type} (name : String) (read : String → Option α) (set : α → σ → σ) : OptionRule σ :=
  { name
    put := fun text draft =>
      match read text with
      | some a => .ok (set a draft)
      | none => .error .noValue }

def text (name : String) (set : String → σ → σ) : OptionRule σ := value name some set

def takesMany (option : OptionRule σ) : Bool :=
  match option.arity with
  | .many _ => true
  | _ => false

def valuesOf (option : OptionRule σ) (words : List String) : List String :=
  match option.arity with
  | .many (some separator) =>
    words.flatMap fun word => (word.toList.splitOn separator).map String.ofList
  | _ => words

end OptionRule

structure Reading (σ : Type) where
  draft : σ
  words : List (String → σ → σ)
  given : List String := []
  /-- The option to be settled next, and its words in reverse. -/
  pending : Option (OptionRule σ × List String) := none
  positionalOnly : Bool := false

namespace Reading

variable {σ : Type}

def take (reading : Reading σ) (option : OptionRule σ) (words : List String) :
    Except UsageFault (Reading σ) := do
  require (words ≠ []) .noValue
  require (option.takesMany ∨ option.name ∉ reading.given) .repeatedOption
  let draft ← (option.valuesOf words).foldlM (fun draft value => option.put value draft)
    reading.draft
  return { reading with draft, given := option.name :: reading.given, pending := none }

def settle (reading : Reading σ) : Except UsageFault (Reading σ) :=
  match reading.pending with
  | none => .ok reading
  | some (option, words) => reading.take option words.reverse

def complete (reading : Reading σ) (option : OptionRule σ) (word : String) :
    Except UsageFault (Reading σ) := do
  (← reading.settle).take option [word]

def await (reading : Reading σ) (option : OptionRule σ) : Except UsageFault (Reading σ) := do
  return { ← reading.settle with pending := some (option, []) }

def long (reading : Reading σ) (options : List (OptionRule σ)) (cs : List Char) :
    Except UsageFault (Reading σ) :=
  let name := String.ofList (cs.takeWhile (· ≠ '='))
  match options.find? (fun option => option.name == name), cs.dropWhile (· ≠ '=') with
  | none, _ => .error .unknownArgument
  | some option, [] =>
    if option.arity = .flag then reading.complete option "" else reading.await option
  | some option, _ :: value =>
    if option.arity = .flag then .error .unwantedValue
    else reading.complete option (String.ofList value)

/-- Letters after one hyphen: flags, or an option with the rest as its value. -/
def short (options : List (OptionRule σ)) : List Char → Reading σ →
    Except UsageFault (Reading σ)
  | [], reading => .ok reading
  | c :: rest, reading =>
    match options.find? fun option => option.short == some c with
    | none => .error .unknownArgument
    | some option =>
      if option.arity = .flag then do short options rest (← reading.complete option "")
      else
        match rest with
        | [] => reading.await option
        | '=' :: value => reading.complete option (String.ofList value)
        | value => reading.complete option (String.ofList value)

def positional (reading : Reading σ) (word : String) : Except UsageFault (Reading σ) :=
  match reading.words with
  | [] => .error .unknownArgument
  | put :: words => do
    let reading ← reading.settle
    return { reading with draft := put word reading.draft, words }

/-- A word that names no option: a value of the pending option if that takes more. -/
def plain (reading : Reading σ) (word : String) : Except UsageFault (Reading σ) :=
  match reading.pending with
  | some (option, words) =>
    if option.takesMany ∨ words = [] then
      .ok { reading with pending := some (option, word :: words) }
    else reading.positional word
  | none => reading.positional word

def step (options : List (OptionRule σ)) (reading : Reading σ) (word : String) :
    Except UsageFault (Reading σ) :=
  if reading.positionalOnly then reading.positional word
  else
    match word.toList with
    | ['-', '-'] => .ok { reading with positionalOnly := true }
    | '-' :: '-' :: cs => reading.long options cs
    | '-' :: c :: cs => short options (c :: cs) reading
    | _ => reading.plain word

end Reading

def CommandForm.read {σ : Type} (form : CommandForm σ) (start : σ) (words : List String) :
    Except UsageFault σ := do
  let reading ← words.foldlM (Reading.step (form.options ++ [.help]))
    { draft := start, words := form.words }
  return (← reading.settle).draft

end Rota
