import Rota.Schedule.TriggerTime

/-!
Cron expressions: minute, hour, day of the month, month, weekday and, when it is given, year. A
field is a list of single values, ranges and steps over one of these; a star stands for every value
of the field, and in the two day fields so does a question mark. Months and weekdays have names.
Weekdays count from 1 for Sunday.

An expression has no seconds; it is read as if a second 0 were written before it. So one that begins
with a comma, a hyphen or a slash goes on with that second.
-/

namespace Rota

structure Cron where
  seconds : List Nat
  minutes : List Nat
  hours : List Nat
  days : List Nat
  months : List Nat
  weekdays : List Nat
  years : List Nat
  deriving DecidableEq, Repr

namespace Cron

structure Field where
  least : Nat
  greatest : Nat
  names : List (String × Nat) := []
  /-- A question mark stands for every value. -/
  takesAny : Bool := false

def second : Field := { least := 0, greatest := 59 }
def minute : Field := { least := 0, greatest := 59 }
def hour : Field := { least := 0, greatest := 23 }
def day : Field := { least := 1, greatest := 31, takesAny := true }

def month : Field :=
  { least := 1, greatest := 12
    names := [("jan", 1), ("january", 1), ("feb", 2), ("february", 2), ("mar", 3), ("march", 3),
      ("apr", 4), ("april", 4), ("may", 5), ("jun", 6), ("june", 6), ("jul", 7), ("july", 7),
      ("aug", 8), ("august", 8), ("sep", 9), ("september", 9), ("oct", 10), ("october", 10),
      ("nov", 11), ("november", 11), ("dec", 12), ("december", 12)] }

def weekday : Field :=
  { least := 1, greatest := 7, takesAny := true
    names := [("sun", 1), ("sunday", 1), ("mon", 2), ("monday", 2), ("tue", 3), ("tues", 3),
      ("tuesday", 3), ("wed", 4), ("wednesday", 4), ("thu", 5), ("thurs", 5), ("thursday", 5),
      ("fri", 6), ("friday", 6), ("sat", 7), ("saturday", 7)] }

def year : Field := { least := 1970, greatest := 2100 }

namespace Field

def range (first last : Nat) : List Nat := List.range' first (last + 1 - first)

def all (field : Field) : List Nat := range field.least field.greatest

def holds (field : Field) (n : Nat) : Bool := decide (field.least ≤ n ∧ n ≤ field.greatest)

/-- Both ends belong to the field, and the range ascends. -/
def range? (field : Field) (first last : Nat) : Option (List Nat) :=
  if field.holds first && field.holds last && decide (first ≤ last) then some (range first last)
  else none

def value? (field : Field) (name : String) : Option Nat :=
  (field.names.find? fun entry => entry.1 == name.toLower).map Prod.snd

end Field

inductive Span where
  | all
  | point (n : Nat)
  | range (first last : Nat)
  | named (first last : String)

inductive Item where
  | span (span : Span)
  | stepped (span : Span) (step : Nat)
  | name (name : String)

def Span.values? (field : Field) : Span → Option (List Nat)
  | all => some field.all
  | point n => if field.holds n then some [n] else none
  | range first last => field.range? first last
  | named first last => do field.range? (← field.value? first) (← field.value? last)

def everyNth (step : Nat) (values : List Nat) : List Nat :=
  (values.zipIdx.filter fun entry => entry.2 % step == 0).map Prod.fst

/-- A step that follows a single value runs from there to the end of the field. -/
def Item.values? (field : Field) : Item → Option (List Nat)
  | .span values => values.values? field
  | .name text => (field.value? text).map ([·])
  | .stepped (.point first) step =>
    if step = 0 then none else (field.range? first field.greatest).map (everyNth step)
  | .stepped values step =>
    if step = 0 then none else (values.values? field).map (everyNth step)

def values? (field : Field) (items : List Item) : Option (List Nat) := do
  let chosen ← items.mapM (Item.values? field)
  return field.all.filter fun n => chosen.any fun values => values.contains n

open Text

def isSpacing (c : Char) : Bool := c == ' ' || c == '\t' || c == '\r' || c == '\n'

def skipSpacing (cs : List Char) : List Char := cs.dropWhile isSpacing

def readNumber : Reader Nat := fun cs => do
  let (n, rest) ← longNumber (skipSpacing cs)
  if n < 4294967296 then some (n, skipSpacing rest) else none

def readName : Reader String := fun cs =>
  let cs := skipSpacing cs
  let letters := cs.takeWhile Char.isAlpha
  if letters.isEmpty then none
  else some (String.ofList letters, skipSpacing (cs.dropWhile Char.isAlpha))

def readRange {α : Type} (read : Reader α) : Reader (α × α) := fun cs => do
  let (first, cs) ← read cs
  let (_, cs) ← literal '-' cs
  let (last, cs) ← read cs
  return ((first, last), cs)

def readSpan (takesAny : Bool) : Reader Span := fun cs =>
  let star : Option (Span × List Char) :=
    match cs with
    | '*' :: rest => some (.all, rest)
    | '?' :: rest => if takesAny then some (.all, rest) else none
    | _ => none
  star
    <|> ((readRange readNumber cs).map fun ((first, last), rest) => (.range first last, rest))
    <|> ((readNumber cs).map fun (n, rest) => (.point n, rest))
    <|> ((readRange readName cs).map fun ((first, last), rest) => (.named first last, rest))

def readItem (takesAny : Bool) : Reader Item := fun cs =>
  let stepped : Option (Item × List Char) := do
    let (span, cs) ← readSpan takesAny cs
    let (_, cs) ← literal '/' cs
    let (step, cs) ← readNumber cs
    return (.stepped span step, cs)
  stepped
    <|> ((readSpan takesAny cs).map fun (span, rest) => (.span span, rest))
    <|> ((readName cs).map fun (name, rest) => (.name name, rest))

/-- Further items, each after a comma; a comma that no item follows is left where it is. -/
def readMore (takesAny : Bool) : Nat → List Char → List Item × List Char
  | 0, cs => ([], cs)
  | fuel + 1, cs =>
    match (literal ',' cs).bind fun (_, rest) => readItem takesAny rest with
    | none => ([], cs)
    | some (item, rest) =>
      let (items, rest) := readMore takesAny fuel rest
      (item :: items, rest)

def readField (field : Field) : Reader (List Nat) := fun cs => do
  let (first, rest) ← readItem field.takesAny (skipSpacing cs)
  let (more, rest) := readMore field.takesAny rest.length rest
  return (← values? field (first :: more), skipSpacing rest)

def readFields (cs : List Char) : Option Cron := do
  let (seconds, cs) ← readField second cs
  let (minutes, cs) ← readField minute cs
  let (hours, cs) ← readField hour cs
  let (days, cs) ← readField day cs
  let (months, cs) ← readField month cs
  let (weekdays, cs) ← readField weekday cs
  let (years, cs) := (readField year cs).getD (year.all, cs)
  if cs.isEmpty then some { seconds, minutes, hours, days, months, weekdays, years } else none

def parse (text : String) : Except TimeFault Cron :=
  match readFields ('0' :: ' ' :: text.toList) with
  | some cron => .ok cron
  | none => .error (.cronExpression text)

end Cron

def TriggerTime.cron (time : TriggerTime) : Cron :=
  { seconds := [0], minutes := [time.minute], hours := [time.hour], days := Cron.day.all,
    months := Cron.month.all, weekdays := Cron.weekday.all, years := Cron.year.all }

end Rota
