import Rota.Calendar.Month
import Rota.Zone.Basic
import Rota.Pattern.Rule

/-!
Layouts for local times. A layout is a text with fields, each a percent sign and a letter; a number
field may have its padding changed by a sign before the letter. A field that does not exist makes
the whole layout unusable.
-/

namespace Rota

namespace Date

def ordinal (date : Date) : Nat := date.dayOfYear + 1

def weekFrom (date : Date) (weekday : Weekday) : Nat :=
  let since := (date.weekday.index + 7 - weekday.index) % 7
  (date.ordinal + 6 - since) / 7

/-- The ISO year and week: a week belongs to the year that has its Thursday. -/
def isoWeek (date : Date) : Int × Nat :=
  let mondayBased := (date.weekday.index + 6) % 7
  let thursday := date.number - mondayBased + 3
  let year := yearOfNumber thursday
  (year, ((thursday - yearStart year) / 7).toNat + 1)

end Date

inductive Padding where
  | bare | zero | space
  deriving DecidableEq, Repr

inductive NumberField where
  | year | century | yearOfCentury | isoYear | isoYearOfCentury | quarter | month | day
  | sundayWeek | mondayWeek | isoWeek | weekdayFromSunday | weekdayFromMonday | ordinal
  | hour | hour12 | minute | second | nano | timestamp
  deriving DecidableEq, Repr

inductive OffsetStyle where
  | plain
  | colon
  | seconds
  | hours
  deriving DecidableEq, Repr

inductive Field where
  | literal (text : List Char)
  | number (field : NumberField) (padding : Padding)
  | shortMonth | longMonth | shortWeekday | longWeekday | lowerHalf | upperHalf
  | zoneName
  | offset (style : OffsetStyle)
  /-- A point and the fewest digits that are exact; nothing for a whole second. -/
  | fraction
  | fractionDigits (point : Bool) (digits : Nat)
  | rfc3339
  deriving DecidableEq, Repr

structure LocalTime where
  date : Date
  second : Nat
  nano : Nat
  offset : Offset

namespace Zone

def localTime (zone : Zone) (moment : Instant) : Checked LocalTime := do
  let date ← zone.localDate moment
  let wall := zone.wallClock moment.toSeconds
  return ⟨date, (wall % secondsPerDay).toNat, moment.nano, zone.offsetAt moment.toSeconds⟩

end Zone

namespace Layout

def zeroed (field : NumberField) : Field := .number field .zero

def dash : Field := .literal ['-']
def slash : Field := .literal ['/']
def colon : Field := .literal [':']
def blank : Field := .literal [' ']

def clock : List Field := [zeroed .hour, colon, zeroed .minute, colon, zeroed .second]

def americanDate : List Field :=
  [zeroed .month, slash, zeroed .day, slash, zeroed .yearOfCentury]

def ofLetter? : Char → Option (List Field)
  | 'A' => some [.longWeekday]
  | 'B' => some [.longMonth]
  | 'C' => some [zeroed .century]
  | 'D' => some americanDate
  | 'F' => some [zeroed .year, dash, zeroed .month, dash, zeroed .day]
  | 'G' => some [zeroed .isoYear]
  | 'H' => some [zeroed .hour]
  | 'I' => some [zeroed .hour12]
  | 'M' => some [zeroed .minute]
  | 'P' => some [.lowerHalf]
  | 'R' => some [zeroed .hour, colon, zeroed .minute]
  | 'S' => some [zeroed .second]
  | 'T' => some clock
  | 'U' => some [zeroed .sundayWeek]
  | 'V' => some [zeroed .isoWeek]
  | 'W' => some [zeroed .mondayWeek]
  | 'X' => some clock
  | 'Y' => some [zeroed .year]
  | 'Z' => some [.zoneName]
  | 'a' => some [.shortWeekday]
  | 'b' => some [.shortMonth]
  | 'c' => some ([.shortWeekday, blank, .shortMonth, blank, .number .day .space, blank] ++ clock ++
      [blank, zeroed .year])
  | 'd' => some [zeroed .day]
  | 'e' => some [.number .day .space]
  | 'f' => some [zeroed .nano]
  | 'g' => some [zeroed .isoYearOfCentury]
  | 'h' => some [.shortMonth]
  | 'j' => some [zeroed .ordinal]
  | 'k' => some [.number .hour .space]
  | 'l' => some [.number .hour12 .space]
  | 'm' => some [zeroed .month]
  | 'n' => some [.literal ['\n']]
  | 'p' => some [.upperHalf]
  | 'q' => some [.number .quarter .bare]
  | 'r' => some [zeroed .hour12, colon, zeroed .minute, colon, zeroed .second, blank, .upperHalf]
  | 's' => some [.number .timestamp .bare]
  | 't' => some [.literal ['\t']]
  | 'u' => some [.number .weekdayFromMonday .bare]
  | 'v' => some [.number .day .space, dash, .shortMonth, dash, zeroed .year]
  | 'w' => some [.number .weekdayFromSunday .bare]
  | 'x' => some americanDate
  | 'y' => some [zeroed .yearOfCentury]
  | 'z' => some [.offset .plain]
  | '+' => some [.rfc3339]
  | '%' => some [.literal ['%']]
  | _ => none

def padding? : Char → Option Padding
  | '-' => some .bare
  | '0' => some .zero
  | '_' => some .space
  | _ => none

def repadded? (padding : Padding) : List Field → Option (List Field)
  | [.number field _] => some [.number field padding]
  | _ => none

def directive? : List Char → Option (List Field × List Char)
  | ':' :: ':' :: ':' :: 'z' :: rest => some ([.offset .hours], rest)
  | ':' :: ':' :: 'z' :: rest => some ([.offset .seconds], rest)
  | ':' :: 'z' :: rest => some ([.offset .colon], rest)
  | '.' :: 'f' :: rest => some ([.fraction], rest)
  | '.' :: '3' :: 'f' :: rest => some ([.fractionDigits true 3], rest)
  | '.' :: '6' :: 'f' :: rest => some ([.fractionDigits true 6], rest)
  | '.' :: '9' :: 'f' :: rest => some ([.fractionDigits true 9], rest)
  | '3' :: 'f' :: rest => some ([.fractionDigits false 3], rest)
  | '6' :: 'f' :: rest => some ([.fractionDigits false 6], rest)
  | '9' :: 'f' :: rest => some ([.fractionDigits false 9], rest)
  | c :: rest =>
    match padding? c, rest with
    | some padding, d :: rest => do return (← repadded? padding (← ofLetter? d), rest)
    | some _, [] => none
    | none, _ => do return (← ofLetter? c, rest)
  | [] => none

def fieldsFrom : Nat → List Char → Option (List Field)
  | 0, cs => if cs.isEmpty then some [] else none
  | _ + 1, [] => some []
  | fuel + 1, '%' :: rest => do
    let (fields, rest) ← directive? rest
    return fields ++ (← fieldsFrom fuel rest)
  | fuel + 1, c :: rest => do return .literal [c] :: (← fieldsFrom fuel rest)

def fields? (layout : String) : Option (List Field) :=
  fieldsFrom layout.toList.length layout.toList

/-- Two digits of a number below 100. A larger one, which only a century can be, keeps its last
digit and has its other digits as one character counted on from zero. -/
def twoDigits (n : Nat) (padding : Padding) : List Char :=
  let ones := Char.ofNat (48 + n % 10)
  match n / 10, padding with
  | 0, .bare => [ones]
  | 0, .space => [' ', ones]
  | tens, _ => [Char.ofNat (48 + tens), ones]

/-- A number of at least `width` digits; with a sign when it is negative or when asked for. -/
def widely (width : Nat) (n : Int) (padding : Padding) (signed : Bool) : List Char :=
  let digits := Nat.toDigits 10 n.natAbs
  let sign := if n < 0 then ['-'] else if signed then ['+'] else []
  let width := if signed then width + 1 else width
  let missing := width - (sign.length + digits.length)
  match padding with
  | .bare => sign ++ digits
  | .zero => sign ++ List.replicate missing '0' ++ digits
  | .space => List.replicate missing ' ' ++ sign ++ digits

def yearDigits (year : Int) (padding : Padding) : List Char :=
  if 1000 ≤ year ∧ year ≤ 9999 then Nat.toDigits 10 year.toNat
  else widely 4 year padding (!decide (0 ≤ year ∧ year ≤ 9999))

def hour12 (time : LocalTime) : Nat :=
  let hour := time.second / 3600 % 12
  if hour = 0 then 12 else hour

def numberText (time : LocalTime) (field : NumberField) (padding : Padding) : List Char :=
  let date := time.date
  let two (n : Nat) := twoDigits n padding
  let one (n : Nat) := [Char.ofNat (48 + n)]
  match field with
  | .year => yearDigits date.year padding
  | .century => two (date.year / 100 % 256).toNat
  | .yearOfCentury => two (date.year % 100).toNat
  | .isoYear => yearDigits date.isoWeek.1 padding
  | .isoYearOfCentury => two (date.isoWeek.1 % 100).toNat
  | .quarter => one ((date.month - 1) / 3 + 1)
  | .month => two date.month
  | .day => two date.day
  | .sundayWeek => two (date.weekFrom .sun)
  | .mondayWeek => two (date.weekFrom .mon)
  | .isoWeek => two date.isoWeek.2
  | .weekdayFromSunday => one date.weekday.index
  | .weekdayFromMonday => one ((date.weekday.index + 6) % 7 + 1)
  | .ordinal => widely 3 date.ordinal padding false
  | .hour => two (time.second / 3600)
  | .hour12 => two (hour12 time)
  | .minute => two (time.second / 60 % 60)
  | .second => two (time.second % 60 + time.nano / nanosPerSecond)
  | .nano => widely 9 (time.nano % nanosPerSecond : Nat) padding false
  | .timestamp =>
    widely 9 (date.number * secondsPerDay + time.second - time.offset.seconds) padding false

def longMonthNames : List String :=
  ["January", "February", "March", "April", "May", "June", "July", "August", "September",
    "October", "November", "December"]

def offsetText (offset : Int) (style : OffsetStyle) : String :=
  let sign := if offset < 0 then "-" else "+"
  let seconds := offset.natAbs
  let minutes := (seconds + 30) / 60
  match style with
  | .plain => sign ++ Text.padded 2 (minutes / 60) ++ Text.padded 2 (minutes % 60)
  | .colon => sign ++ Text.padded 2 (minutes / 60) ++ ":" ++ Text.padded 2 (minutes % 60)
  | .seconds => sign ++ Text.padded 2 (seconds / 3600) ++ ":" ++
      Text.padded 2 (seconds / 60 % 60) ++ ":" ++ Text.padded 2 (seconds % 60)
  | .hours => sign ++ Text.padded 2 (seconds / 3600)

def isAfternoon (time : LocalTime) : Bool := 12 ≤ time.second / 3600

def fieldText (time : LocalTime) : Field → String
  | .literal text => String.ofList text
  | .number field padding => String.ofList (numberText time field padding)
  | .shortMonth => (monthName? time.date.month).getD ""
  | .longMonth => longMonthNames[time.date.month - 1]?.getD ""
  | .shortWeekday => time.date.weekday.shortName
  | .longWeekday => time.date.weekday.name
  | .lowerHalf => if isAfternoon time then "pm" else "am"
  | .upperHalf => if isAfternoon time then "PM" else "AM"
  | .zoneName => time.offset.abbreviation
  | .offset style => offsetText time.offset.seconds style
  | .fraction => Instant.fractionText (time.nano % nanosPerSecond)
  | .fractionDigits point digits =>
    (if point then "." else "") ++
      Text.padded digits (time.nano % nanosPerSecond / Nat.pow 10 (9 - digits))
  | .rfc3339 => time.date.toText ++ "T" ++ Instant.clockText time.second time.nano ++
      offsetText time.offset.seconds .colon

def render (layout : String) (time : LocalTime) : Checked String :=
  match fields? layout with
  | none => .error .layout
  | some fields => .ok (String.join (fields.map (fieldText time)))

end Layout
end Rota
