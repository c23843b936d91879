import Rota.Calendar.DateText

/-!
Points in time: a day of the calendar in UTC, a second of that day and a fraction in nanoseconds.
A leap second is the 60th second of a minute, kept as second 59 with a fraction of 10^9 or more.
The written form is RFC 3339 in UTC with the fewest of 0, 3, 6 and 9 fraction digits that are exact;
reading takes any offset.
-/

namespace Rota

def secondsPerDay : Nat := 86400
def nanosPerSecond : Nat := 1000000000

structure Instant where
  day : Date
  second : Nat
  nano : Nat
  second_lt : second < secondsPerDay
  nano_lt : nano < nanosPerSecond ∨ (second % 60 = 59 ∧ nano < 2 * nanosPerSecond)
  deriving DecidableEq

namespace Instant

def toSeconds (moment : Instant) : Int := moment.day.number * secondsPerDay + moment.second

def ofSeconds? (seconds : Int) : Option Instant := do
  let day ← Date.ofNumber? (seconds / secondsPerDay)
  return ⟨day, (seconds % secondsPerDay).toNat, 0, by unfold secondsPerDay; omega,
    .inl (by decide)⟩

/-- As `ofSeconds?`, with a fraction; none when the fraction does not go with the second. -/
def ofParts? (seconds : Int) (nano : Nat) : Option Instant := do
  let whole ← ofSeconds? seconds
  if fits : nano < nanosPerSecond ∨ (whole.second % 60 = 59 ∧ nano < 2 * nanosPerSecond) then
    some { whole with nano := nano, nano_lt := fits }
  else none

def midnight (day : Date) : Instant := ⟨day, 0, 0, by decide, .inl (by decide)⟩

instance : Inhabited Instant := ⟨midnight default⟩

def before (a b : Instant) : Bool :=
  a.toSeconds < b.toSeconds || (a.toSeconds == b.toSeconds && a.nano < b.nano)

/-- Whole seconds from one instant to a later one, or below zero to an earlier one; a part of a
second does not count. -/
def secondsFrom (later earlier : Instant) : Int :=
  Int.tdiv
    ((later.toSeconds - earlier.toSeconds) * nanosPerSecond + (later.nano - earlier.nano : Int))
    nanosPerSecond

def latest (a b : Instant) : Instant := if a.before b then b else a

def fractionText (nano : Nat) : String :=
  if nano = 0 then ""
  else if nano % 1000000 = 0 then "." ++ Text.padded 3 (nano / 1000000)
  else if nano % 1000 = 0 then "." ++ Text.padded 6 (nano / 1000)
  else "." ++ Text.padded 9 nano

/-- Hour, minute and second with colons; a fraction of a second or more shows as second 60. -/
def clockText (second nano : Nat) : String :=
  Text.padded 2 (second / 3600) ++ ":" ++ Text.padded 2 (second / 60 % 60) ++ ":" ++
    Text.padded 2 (second % 60 + nano / nanosPerSecond) ++ fractionText (nano % nanosPerSecond)

def toText (moment : Instant) : String :=
  moment.day.toText ++ "T" ++ clockText moment.second moment.nano ++ "Z"

instance : ToString Instant := ⟨toText⟩

open Text in
def readClockPart : Reader Nat := fun cs => do
  let (_, cs) ← literal ':' (trimStart cs)
  number 2 (trimStart cs)

open Text in
/-- The digits after a point, as nanoseconds; digits past the ninth are dropped. -/
def readFraction : Reader Nat
  | '.' :: cs =>
    match takeDigits 9 0 0 cs with
    | (0, _, _) => none
    | (count, value, rest) => some (value * Nat.pow 10 (9 - count), rest.dropWhile isDigit)
  | cs => some (0, cs)

open Text in
def readTwoDigits : Reader Nat
  | a :: b :: rest => do
    let high ← digitValue? a
    let low ← digitValue? b
    return (high * 10 + low, rest)
  | _ => none

open Text in
/-- The offset from UTC in seconds: `Z`, the letters UTC, or a sign, hours and minutes, which may
have colons or white space between them. The minus sign U+2212 counts as a hyphen. -/
def readOffset : Reader Int := fun cs =>
  match trimStart cs with
  | 'Z' :: rest => some (0, rest)
  | 'z' :: rest => some (0, rest)
  | [] => none
  | a :: rest =>
    if String.ofList ((a :: rest).take 3 |>.map Char.toUpper) = "UTC" then
      some (0, (a :: rest).drop 3)
    else if a = '+' ∨ a = '-' ∨ a = '−' then do
      let (hours, rest) ← readTwoDigits rest
      let (minutes, rest) ← readTwoDigits (rest.dropWhile fun c => c == ':' || isBlank c)
      if minutes < 60 ∧ hours < 24 then
        let offset : Int := hours * 3600 + minutes * 60
        some (if a = '+' then offset else -offset, rest)
      else none
    else none

def ofText? (s : String) : Option Instant := do
  let ((year, month, day), cs) ← Date.readParts s.toList
  let cs ← match cs with
    | c :: rest => if c = 'T' ∨ c = 't' ∨ c = ' ' then some rest else none
    | [] => none
  let (hour, cs) ← Text.number 2 (Text.trimStart cs)
  let (minute, cs) ← readClockPart cs
  let (second, cs) ← readClockPart cs
  let (nano, cs) ← readFraction cs
  let (offset, cs) ← readOffset cs
  let date ← Date.ofYmd? year month day
  if hour < 24 ∧ minute < 60 ∧ second ≤ 60 ∧ Text.trimStart cs = [] then
    let wall : Int := date.number * secondsPerDay + hour * 3600 + minute * 60 + min second 59
    ofParts? (wall - offset) (if second = 60 then nano + nanosPerSecond else nano)
  else none

end Instant
end Rota
