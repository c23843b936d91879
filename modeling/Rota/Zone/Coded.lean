import Rota.Calendar.Month
import Rota.Zone.Basic
import Rota.Text.Reader

/-!
Zone tables in a compact written form, and the way from there to a `Zone`.
-/

namespace Rota

/-- The offsets of a zone are listed as abbreviation and seconds, and go by the letters A, B, C and
so on; the zone begins with A. Each change is the number of seconds since the one before, the first
since the start of 1970, in base 36 with lower-case digits, followed by the letter of the new
offset. Where a yearly rule takes over, the tail gives its first year and two changes: a letter and
month.week.weekday/seconds, the last of which counts from midnight of that day on the wall clock as
it stands before the change. Week 5 is the last of the month. -/
structure CodedZone where
  name : String
  offsets : String
  changes : List String
  tail : String

namespace CodedZone

def lastYear : Int := 2099

def words (s : String) (separator : Char) : List (List Char) := s.toList.splitOn separator

def natural (cs : List Char) : Nat := cs.foldl (fun n c => n * 10 + (c.toNat - '0'.toNat)) 0

def integer : List Char → Int
  | '-' :: cs => -(natural cs : Int)
  | cs => natural cs

def offsetList (coded : CodedZone) : List Offset :=
  (words coded.offsets ' ').filterMap fun word =>
    match word.splitOn ':' with
    | [name, seconds] => some ⟨integer seconds, String.ofList name⟩
    | _ => none

def letter? (offsets : List Offset) (c : Char) : Option Offset := offsets[c.toNat - 'A'.toNat]?

/-- Reads changes from the front: the sign and digits of the one being read, then its letter. -/
def readChanges (offsets : List Offset) (time : Int) (negative : Bool) (digits : Nat) :
    List Char → List (Int × Offset)
  | [] => []
  | c :: rest =>
    if c = '-' then readChanges offsets time true digits rest
    else if 'A' ≤ c ∧ c ≤ 'Z' then
      let next := if negative then time - digits else time + digits
      match letter? offsets c with
      | some offset => (next, offset) :: readChanges offsets next false 0 rest
      | none => readChanges offsets next false 0 rest
    else
      let digit := if c ≤ '9' then c.toNat - '0'.toNat else c.toNat - 'a'.toNat + 10
      readChanges offsets time negative (digits * 36 + digit) rest

structure YearlyChange where
  offset : Offset
  month : Nat
  week : Nat
  weekday : Weekday
  seconds : Int

def YearlyChange.wallIn (change : YearlyChange) (year : Int) : Option Int :=
  match nthWeekdayOfMonth year change.month change.week change.weekday with
  | .ok (some date) => some (date.number * secondsPerDay + change.seconds)
  | _ => none

def yearlyChange? (offsets : List Offset) (letter rule : List Char) : Option YearlyChange := do
  let offset ← letter? offsets (← letter.head?)
  match rule.splitOn '/' with
  | [day, seconds] =>
    match day.splitOn '.' with
    | [month, week, weekday] =>
      return ⟨offset, natural month, natural week, ← Weekday.ofIndex? (natural weekday),
        integer seconds⟩
    | _ => none
  | _ => none

def yearOf (one other : YearlyChange) (year : Int) : List (Int × Offset) :=
  match one.wallIn year, other.wallIn year with
  | some a, some b =>
    let a := (a - other.offset.seconds, one.offset)
    let b := (b - one.offset.seconds, other.offset)
    if a.1 ≤ b.1 then [a, b] else [b, a]
  | _, _ => []

def tailChanges (offsets : List Offset) (tail : String) : List (Int × Offset) :=
  match words tail ' ' with
  | [year, a, aDay, b, bDay] =>
    match yearlyChange? offsets a aDay, yearlyChange? offsets b bDay with
    | some one, some other =>
      let first := integer year
      (List.range (lastYear - first + 1).toNat).flatMap fun (i : Nat) =>
        yearOf one other (first + i)
    | _, _ => []
  | _ => []

def withoutRepeats (current : Offset) : List (Int × Offset) → List (Int × Offset)
  | [] => []
  | (time, next) :: rest =>
    if next = current then withoutRepeats current rest
    else (time, next) :: withoutRepeats next rest

def toZone (coded : CodedZone) (name : String) : Zone :=
  let offsets := coded.offsetList
  let start := offsets.headD ⟨0, "UTC"⟩
  let changes := readChanges offsets 0 false 0 (coded.changes.flatMap String.toList) ++
    tailChanges offsets coded.tail
  ⟨name, start, withoutRepeats start changes⟩

end CodedZone
end Rota
