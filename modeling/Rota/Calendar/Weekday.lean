/-!
The seven days of the week, numbered from Sunday.
-/

namespace Rota

inductive Weekday where
  | sun | mon | tue | wed | thu | fri | sat
  deriving DecidableEq, Repr

namespace Weekday

def all : List Weekday := [.sun, .mon, .tue, .wed, .thu, .fri, .sat]

def ofIndex? : Nat → Option Weekday
  | 0 => some .sun
  | 1 => some .mon
  | 2 => some .tue
  | 3 => some .wed
  | 4 => some .thu
  | 5 => some .fri
  | 6 => some .sat
  | _ => none

def index : Weekday → Nat
  | .sun => 0
  | .mon => 1
  | .tue => 2
  | .wed => 3
  | .thu => 4
  | .fri => 5
  | .sat => 6

def name : Weekday → String
  | .sun => "Sunday"
  | .mon => "Monday"
  | .tue => "Tuesday"
  | .wed => "Wednesday"
  | .thu => "Thursday"
  | .fri => "Friday"
  | .sat => "Saturday"

def shortName : Weekday → String
  | .sun => "Sun"
  | .mon => "Mon"
  | .tue => "Tue"
  | .wed => "Wed"
  | .thu => "Thu"
  | .fri => "Fri"
  | .sat => "Sat"

theorem ofIndex?_index (day : Weekday) : ofIndex? day.index = some day := by
  cases day <;> rfl

theorem index_lt (day : Weekday) : day.index < 7 := by
  cases day <;> decide

theorem index_of_ofIndex? {n : Nat} {day : Weekday} (found : ofIndex? n = some day) :
    day.index = n := by
  unfold ofIndex? at found
  split at found <;> cases found <;> rfl

end Weekday
end Rota
