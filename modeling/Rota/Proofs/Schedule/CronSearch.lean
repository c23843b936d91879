import Rota.Proofs.Calendar.Month
import Rota.Schedule.NextFire

/-!
The search for the next fire of a cron expression as one pass. Year by year, month by month and day by
day it comes down to going through the days of one list, each with whether the start bounds it.
-/

namespace Rota

section Find

variable {α β γ : Type} {find : α → Checked (Option β)} {items more : List α}

theorem findFirst_append : findFirst find (items ++ more) =
    (do match ← findFirst find items with
        | some found => return some found
        | none => findFirst find more) := by
  induction items with
  | nil => rfl
  | cons item rest ih =>
    rw [List.cons_append, findFirst, findFirst]
    cases find item with
    | error fault => rfl
    | ok found =>
      cases found with
      | none => exact ih
      | some found => rfl

theorem findFirst_flatMap {find : γ → Checked (Option β)} {part : α → List γ} :
    findFirst find (items.flatMap part) =
      findFirst (fun item => findFirst find (part item)) items := by
  induction items with
  | nil => rfl
  | cons item rest ih =>
    rw [List.flatMap_cons, findFirst_append, ih]
    rfl

theorem findFirst_filterMap {find : γ → Checked (Option β)} {read : α → Option γ} :
    findFirst find (items.filterMap read) =
      findFirst (fun item => match read item with
        | none => .ok none
        | some found => find found) items := by
  induction items with
  | nil => rfl
  | cons item rest ih =>
    rw [findFirst, ← ih, List.filterMap_cons]
    cases read item with
    | none => rfl
    | some found => rfl

theorem findFirst_map {find : γ → Checked (Option β)} {read : α → γ} :
    findFirst find (items.map read) = findFirst (fun item => find (read item)) items := by
  induction items with
  | nil => rfl
  | cons item rest ih => rw [List.map_cons, findFirst, findFirst, ih]

theorem findFirst_congr {other : α → Checked (Option β)}
    (same : ∀ item ∈ items, find item = other item) : findFirst find items = findFirst other items := by
  induction items with
  | nil => rfl
  | cons item rest ih =>
    rw [findFirst, findFirst, same item List.mem_cons_self,
      ih fun item listed => same item (List.mem_cons_of_mem _ listed)]

end Find

theorem mem_boundedBy {values : List Nat} {bound : Option Nat} {n : Nat} {atBound : Bool} :
    (n, atBound) ∈ boundedBy values bound ↔
      n ∈ values ∧ (∀ least ∈ bound, least ≤ n) ∧ atBound = bound.any (n == ·) := by
  cases bound with
  | none =>
    rw [boundedBy, List.mem_map]
    constructor
    · rintro ⟨value, listed, ⟨⟩⟩
      exact ⟨listed, nofun, rfl⟩
    · rintro ⟨listed, -, rfl⟩
      exact ⟨n, listed, rfl⟩
  | some least =>
    simp only [boundedBy, List.mem_map, List.mem_filter, decide_eq_true_eq]
    constructor
    · rintro ⟨value, ⟨listed, above⟩, ⟨⟩⟩
      exact ⟨listed, by rintro _ ⟨⟩; exact above, rfl⟩
    · rintro ⟨listed, above, rfl⟩
      exact ⟨n, ⟨listed, above least rfl⟩, rfl⟩

theorem boundedBy_ascending {values : List Nat} (ascending : values.Pairwise (· < ·))
    (bound : Option Nat) : (boundedBy values bound).Pairwise fun one other => one.1 < other.1 := by
  cases bound with
  | none => exact List.pairwise_map.mpr ascending
  | some least => exact List.pairwise_map.mpr (ascending.filter _)

theorem Cron.Field.mem_range {first last n : Nat} : n ∈ range first last ↔ first ≤ n ∧ n ≤ last := by
  rw [range, List.mem_range'_1]
  omega

theorem Cron.Field.range_ascending (first last : Nat) : (range first last).Pairwise (· < ·) :=
  List.pairwise_lt_range'

theorem Cron.Field.range_cons {first last : Nat} (inside : first ≤ last) :
    range first last = first :: range (first + 1) last := by
  have longer : last + 1 - first = last + 1 - (first + 1) + 1 := by omega
  rw [range, range, longer, List.range'_succ]

theorem Cron.Field.range_nil {first last : Nat} (past : last < first) : range first last = [] := by
  have none : last + 1 - first = 0 := by omega
  rw [range, none]
  rfl

namespace Cron

variable (cron : Cron)

/-- The days of a month that the search comes to, each with whether the start bounds it. -/
def datesOfMonth (year month : Nat) (start : Option WallTime) : List (Date × Bool) :=
  (cron.daysOfMonth (monthLength year month) start).filterMap fun (day, bounded) =>
    (Date.ofYmd? year month day).map fun date => (date, bounded)

def datesOfYear (year : Nat) (start : Option WallTime) : List (Date × Bool) :=
  (boundedBy cron.months (start.map fun start => start.date.month)).flatMap fun (month, bounded) =>
    cron.datesOfMonth year month (start.filter fun _ => bounded)

def yearsFrom (start : WallTime) : List Nat :=
  cron.years.filter fun (year : Nat) => decide (start.date.year ≤ year)

def datesFrom (start : WallTime) : List (Date × Bool) :=
  match cron.yearsFrom start with
  | [] => []
  | first :: rest =>
    cron.datesOfYear first (some start) ++ rest.flatMap fun year => cron.datesOfYear year none

def firesOn (zone : Zone) (start : Option WallTime) (visit : Date × Bool) : Checked (Option Instant) :=
  cron.firesOnDay zone visit.1 (cron.secondsOfDay (start.filter fun _ => visit.2))

variable {cron} {zone : Zone}

theorem firesInMonth_eq {year month : Nat} {start : Option WallTime} :
    cron.firesInMonth zone year month start =
      findFirst (cron.firesOn zone start) (cron.datesOfMonth year month start) := by
  rw [datesOfMonth, findFirst_filterMap, firesInMonth]
  refine findFirst_congr fun (day, bounded) _ => ?_
  dsimp only
  cases Date.ofYmd? year month day <;> rfl

/-- Days that the start does not bound are looked at from their first second on. -/
theorem firesOn_free {start : Option WallTime} {visit : Date × Bool} (free : visit.2 = false) :
    cron.firesOn zone start visit = cron.firesOn zone none visit := by
  rw [firesOn, firesOn, free]
  cases start <;> rfl

theorem bounded_of_datesOfMonth_none {year month : Nat} {visit : Date × Bool}
    (listed : visit ∈ cron.datesOfMonth year month none) : visit.2 = false := by
  obtain ⟨⟨day, bounded⟩, offered, found⟩ := List.mem_filterMap.mp listed
  obtain ⟨date, -, rfl⟩ := Option.map_eq_some_iff.mp found
  rw [daysOfMonth] at offered
  exact (mem_boundedBy.mp offered).2.2

theorem firesInYear_eq {year : Nat} {start : Option WallTime} :
    cron.firesInYear zone year start =
      findFirst (cron.firesOn zone start) (cron.datesOfYear year start) := by
  rw [datesOfYear, findFirst_flatMap, firesInYear]
  refine findFirst_congr fun (month, bounded) _ => ?_
  dsimp only
  rw [firesInMonth_eq]
  cases bounded with
  | true => cases start <;> rfl
  | false =>
    have free : (start.filter fun _ => false) = none := by simp
    rw [free]
    exact findFirst_congr fun visit listed => (firesOn_free (bounded_of_datesOfMonth_none listed)).symm

theorem bounded_of_datesOfYear_none {year : Nat} {visit : Date × Bool}
    (listed : visit ∈ cron.datesOfYear year none) : visit.2 = false := by
  obtain ⟨⟨month, bounded⟩, -, listed⟩ := List.mem_flatMap.mp listed
  exact bounded_of_datesOfMonth_none listed

theorem firesFrom_eq {start : WallTime} :
    cron.firesFrom zone start =
      findFirst (cron.firesOn zone (some start)) (cron.datesFrom start) := by
  rw [firesFrom, datesFrom, ← yearsFrom]
  cases cron.yearsFrom start with
  | nil => rfl
  | cons first rest =>
    have later : findFirst (fun year => cron.firesInYear zone year none) rest =
        findFirst (cron.firesOn zone (some start))
          (rest.flatMap fun year => cron.datesOfYear year none) := by
      rw [findFirst_flatMap]
      refine findFirst_congr fun year _ => ?_
      rw [firesInYear_eq]
      exact findFirst_congr fun visit listed => (firesOn_free (bounded_of_datesOfYear_none listed)).symm
    dsimp only
    rw [findFirst_append, firesInYear_eq, later]
    cases findFirst (cron.firesOn zone (some start)) (cron.datesOfYear first (some start)) with
    | error fault => rfl
    | ok found => cases found <;> rfl

end Cron

end Rota
