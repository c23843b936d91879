import Mathlib.Data.List.Sort
import Rota.Proofs.Schedule.CronSearch

/-!
The search for the next fire of a daily trigger goes through the days from the start on, up to the last
day of 2100.
-/

namespace Rota

def WallTime.inDay (start : WallTime) : Nat := start.hour * 3600 + start.minute * 60 + start.second

namespace TriggerTime

variable (time : TriggerTime)

def inDay : Nat := time.hour * 3600 + time.minute * 60

theorem inDay_lt : time.inDay < 86400 := by
  have hour := time.hour_lt
  have minute := time.minute_lt
  unfold inDay
  omega

theorem secondsOfDay_free : time.cron.secondsOfDay none = [time.inDay] := by
  simp [Cron.secondsOfDay, cron, boundedBy, inDay]

theorem secondsOfDay_bounded {start : WallTime} (clock : start.minute < 60 ∧ start.second < 60) :
    time.cron.secondsOfDay (some start) =
      if start.inDay ≤ time.inDay then [time.inDay] else [] := by
  have minute := time.minute_lt
  unfold inDay WallTime.inDay
  -- The start bounds the minute in its own hour only, and the second in its own minute.
  simp only [Cron.secondsOfDay, cron, boundedBy, Option.map_some, List.filter_cons, List.filter_nil,
    decide_eq_true_eq]
  rcases Nat.lt_trichotomy start.hour time.hour with before | same | after
  · have apart : (time.hour == start.hour) = false := by simpa using Nat.ne_of_gt before
    rw [if_pos (by omega), if_pos (by omega)]
    simp [apart]
  · have equal : (time.hour == start.hour) = true := by simpa using same.symm
    rw [if_pos (by omega)]
    rcases Nat.lt_trichotomy start.minute time.minute with sooner | level | later
    · have apart : (time.minute == start.minute) = false := by simpa using Nat.ne_of_gt sooner
      rw [if_pos (by omega)]
      simp [equal, apart, Nat.le_of_lt sooner, Option.filter]
    · by_cases full : start.second = 0
      · rw [if_pos (by omega)]
        simp [equal, level, full, Option.filter]
      · rw [if_neg (by omega)]
        simp [equal, level, full, Option.filter]
    · rw [if_neg (by omega)]
      simp [equal, Nat.not_le.mpr later, Option.filter]
  · rw [if_neg (by omega), if_neg (by omega)]
    rfl

variable {time} {date : Date} {bounded : Bool}

theorem mem_days {day : Nat} : day ∈ time.cron.days ↔ 1 ≤ day ∧ day ≤ 31 := Cron.Field.mem_range

theorem mem_months {month : Nat} : month ∈ time.cron.months ↔ 1 ≤ month ∧ month ≤ 12 :=
  Cron.Field.mem_range

theorem mem_years {year : Nat} : year ∈ time.cron.years ↔ 1970 ≤ year ∧ year ≤ 2100 :=
  Cron.Field.mem_range

theorem mem_daysOfMonth {day length : Nat} (short : length ≤ 31) {start : Option WallTime}
    (placed : ∀ wall ∈ start, 1 ≤ wall.date.day ∧ wall.date.day ≤ length) :
    (day, bounded) ∈ time.cron.daysOfMonth length start ↔
      (1 ≤ day ∧ day ≤ length) ∧ (∀ wall ∈ start, wall.date.day ≤ day) ∧
        bounded = start.any fun wall => wall.date.day = day := by
  have offered : day ∈ time.cron.days.filter (fun day => decide (day ≤ length)) ↔
      1 ≤ day ∧ day ≤ length := by
    rw [List.mem_filter, mem_days, decide_eq_true_eq]
    omega
  cases start with
  | none =>
    rw [Cron.daysOfMonth, mem_boundedBy, offered]
    simp
  | some wall =>
    have inside := placed wall rfl
    have kept : time.cron.days.contains wall.date.day = true := by
      rw [List.contains_iff_mem, mem_days]
      omega
    simp only [Cron.daysOfMonth, Nat.min_eq_left inside.2, kept, Bool.and_true, List.map_id']
    rw [mem_boundedBy, offered]
    simp [eq_comm, Bool.beq_eq_decide_eq]

theorem mem_datesOfMonth_day {year month : Nat} (named : 1 ≤ month ∧ month ≤ 12)
    (start : Option WallTime) :
    (date, bounded) ∈ time.cron.datesOfMonth year month start ↔
      (date.day, bounded) ∈ time.cron.daysOfMonth (monthLength year month) start ∧
        date.monthIndex = (year : Int) * 12 + ((month : Int) - 1) := by
  simp only [Cron.datesOfMonth, List.mem_filterMap, Option.map_eq_some_iff, Prod.mk.injEq,
    Prod.exists]
  constructor
  · rintro ⟨day, flag, listed, found, same, rfl, rfl⟩
    obtain ⟨-, -, index, rfl⟩ := Date.ofYmd?_eq_some.mp same
    exact ⟨listed, index⟩
  · rintro ⟨listed, index⟩
    exact ⟨date.day, bounded, listed, date, Date.ofYmd?_eq_some.mpr ⟨named.1, named.2, index, rfl⟩,
      rfl, rfl⟩

theorem any_day_eq_any_date {start : Option WallTime}
    (together : ∀ wall ∈ start, wall.date.monthIndex = date.monthIndex) :
    (start.any fun wall => decide (wall.date.day = date.day)) =
      start.any fun wall => decide (wall.date = date) := by
  cases start with
  | none => rfl
  | some wall =>
    refine decide_eq_decide.mpr ⟨fun days => ?_, fun dates => dates ▸ rfl⟩
    exact Date.eq_of_month_day (together wall rfl) days

theorem mem_datesOfMonth {year month : Nat} {start : Option WallTime} (named : 1 ≤ month ∧ month ≤ 12)
    (placed : ∀ wall ∈ start, wall.date.year = year ∧ wall.date.month = month) :
    (date, bounded) ∈ time.cron.datesOfMonth year month start ↔
      (date.year = year ∧ date.month = month) ∧ (∀ wall ∈ start, wall.date ≤ date) ∧
        bounded = start.any fun wall => wall.date = date := by
  have index : date.monthIndex = (year : Int) * 12 + ((month : Int) - 1) ↔
      date.year = year ∧ (date.month : Int) = month := Date.monthIndex_eq_iff (by omega)
  rw [mem_datesOfMonth_day named]
  by_cases here : date.monthIndex = (year : Int) * 12 + ((month : Int) - 1)
  case neg =>
    refine iff_of_false (fun listed => here listed.2) fun inside => here (index.mpr ?_)
    exact ⟨inside.1.1, congrArg Nat.cast inside.1.2⟩
  case pos =>
    have same := index.mp here
    have length : monthDays date.monthIndex = monthLength year month := by
      rw [monthDays, here]
      congr <;> omega
    -- Within one month the days decide how dates compare.
    have together (wall : WallTime) (known : wall ∈ start) :
        wall.date.monthIndex = date.monthIndex := by
      have := placed wall known
      rw [here, Date.monthIndex_eq_iff (by omega)]
      exact ⟨this.1, congrArg Nat.cast this.2⟩
    have order : (∀ wall ∈ start, wall.date.day ≤ date.day) ↔ ∀ wall ∈ start, wall.date ≤ date :=
      forall₂_congr fun wall known => (Date.le_iff_day_le (together wall known)).symm
    have day := date.day_bounds
    rw [length] at day
    rw [mem_daysOfMonth (length ▸ (monthDays_bounds _).2) fun wall known => ?_, order,
      any_day_eq_any_date together]
    · constructor
      · rintro ⟨⟨-, rest⟩, -⟩
        exact ⟨⟨same.1, Int.ofNat.inj same.2⟩, rest⟩
      · rintro ⟨-, rest⟩
        exact ⟨⟨day, rest⟩, here⟩
    · rw [← length, ← together wall known]
      exact wall.date.day_bounds

theorem mem_datesOfMonth_free {year month : Nat} (named : 1 ≤ month ∧ month ≤ 12) :
    (date, bounded) ∈ time.cron.datesOfMonth year month none ↔
      (date.year = year ∧ date.month = month) ∧ bounded = false := by
  have placed : ∀ wall ∈ (none : Option WallTime),
      wall.date.year = year ∧ wall.date.month = month := by simp
  rw [mem_datesOfMonth named placed]
  simp

theorem mem_datesOfYear_free {year : Nat} :
    (date, bounded) ∈ time.cron.datesOfYear year none ↔ date.year = year ∧ bounded = false := by
  have named := date.month_bounds
  simp only [Cron.datesOfYear, List.mem_flatMap, Prod.exists, mem_boundedBy, mem_months,
    Option.map_none, Option.filter_none]
  constructor
  · rintro ⟨month, flag, ⟨inside, -⟩, listed⟩
    obtain ⟨⟨same, -⟩, free⟩ := (mem_datesOfMonth_free inside).mp listed
    exact ⟨same, free⟩
  · rintro ⟨same, free⟩
    have unbounded : ∀ least ∈ (none : Option Nat), least ≤ date.month := by simp
    exact ⟨date.month, false, ⟨named, unbounded, rfl⟩,
      (mem_datesOfMonth_free named).mpr ⟨⟨same, rfl⟩, free⟩⟩

theorem mem_datesOfYear_bounded {year : Nat} {wall : WallTime} (placed : wall.date.year = year) :
    (date, bounded) ∈ time.cron.datesOfYear year (some wall) ↔
      date.year = year ∧ wall.date ≤ date ∧ bounded = decide (wall.date = date) := by
  have named := date.month_bounds
  have inMonth {month : Nat} (inside : 1 ≤ month ∧ month ≤ 12) (same : wall.date.month = month) :
      (date, bounded) ∈ time.cron.datesOfMonth year month (some wall) ↔
        (date.year = year ∧ date.month = month) ∧ wall.date ≤ date ∧
          bounded = decide (wall.date = date) := by
    rw [mem_datesOfMonth inside (by rintro _ ⟨⟩; exact ⟨placed, same⟩)]
    simp
  simp only [Cron.datesOfYear, List.mem_flatMap, Prod.exists, mem_boundedBy, mem_months,
    Option.map_some, Option.any_some, Option.mem_some_iff, forall_eq']
  -- The start goes on bounding the days in its own month, and in no later one.
  constructor
  · rintro ⟨month, flag, ⟨inside, least, rfl⟩, listed⟩
    rcases Nat.lt_or_eq_of_le least with later | same
    · have free : ((some wall).filter fun _ => month == wall.date.month) = none := by
        simp [Option.filter, Nat.ne_of_gt later]
      rw [free, mem_datesOfMonth_free inside] at listed
      obtain ⟨⟨sameYear, sameMonth⟩, free⟩ := listed
      have after := Date.lt_of_month (placed.trans sameYear.symm) (sameMonth ▸ later)
      refine ⟨sameYear, Int.le_of_lt after, ?_⟩
      have apart : wall.date ≠ date := fun same => by
        rw [same] at after
        exact Int.lt_irrefl _ after
      simp [free, apart]
    · have kept : ((some wall).filter fun _ => month == wall.date.month) = some wall := by
        simp [Option.filter, same]
      rw [kept, inMonth inside same] at listed
      exact ⟨listed.1.1, listed.2⟩
  · rintro ⟨sameYear, after, flagged⟩
    rcases Nat.lt_trichotomy wall.date.month date.month with later | same | earlier
    · have free : ((some wall).filter fun _ => date.month == wall.date.month) = none := by
        simp [Option.filter, Nat.ne_of_gt later]
      have apart : wall.date ≠ date := fun same => Nat.ne_of_lt later (same ▸ rfl)
      refine ⟨date.month, date.month == wall.date.month, ⟨named, Nat.le_of_lt later, rfl⟩, ?_⟩
      rw [free, mem_datesOfMonth_free named, flagged, decide_eq_false apart]
      exact ⟨⟨sameYear, rfl⟩, rfl⟩
    · have kept : ((some wall).filter fun _ => date.month == wall.date.month) = some wall := by
        simp [Option.filter, same]
      refine ⟨date.month, date.month == wall.date.month, ⟨named, Nat.le_of_eq same, rfl⟩, ?_⟩
      rw [kept, inMonth named same]
      exact ⟨⟨sameYear, rfl⟩, after, flagged⟩
    · have before := Date.lt_of_month (sameYear.trans placed.symm) earlier
      exact absurd after (Int.not_le.mpr before)

theorem of_mem_datesOfMonth {year month : Nat} {start : Option WallTime} {visit : Date × Bool}
    (listed : visit ∈ time.cron.datesOfMonth year month start) :
    visit.1.year = year ∧ visit.1.month = month := by
  obtain ⟨⟨day, flag⟩, -, found⟩ := List.mem_filterMap.mp listed
  obtain ⟨date, same, rfl⟩ := Option.map_eq_some_iff.mp found
  obtain ⟨lower, upper, index, -⟩ := Date.ofYmd?_eq_some.mp same
  have same := (Date.monthIndex_eq_iff (by omega)).mp index
  exact ⟨same.1, Int.ofNat.inj same.2⟩

theorem of_mem_datesOfYear {year : Nat} {start : Option WallTime} {visit : Date × Bool}
    (listed : visit ∈ time.cron.datesOfYear year start) : visit.1.year = year := by
  obtain ⟨⟨month, flag⟩, -, listed⟩ := List.mem_flatMap.mp listed
  exact (of_mem_datesOfMonth listed).1

def Before (one other : Date × Bool) : Prop := one.1 < other.1

theorem daysOfMonth_ascending (length : Nat) (start : Option WallTime) :
    (time.cron.daysOfMonth length start).Pairwise fun one other => one.1 < other.1 := by
  have days : (time.cron.days.filter fun day => decide (day ≤ length)).Pairwise (· < ·) :=
    (Cron.Field.range_ascending _ _).filter _
  cases start with
  | none => exact boundedBy_ascending days none
  | some wall => exact List.pairwise_map.mpr (boundedBy_ascending days _)

theorem datesOfMonth_ascending (year month : Nat) (start : Option WallTime) :
    (time.cron.datesOfMonth year month start).Pairwise Before := by
  refine List.pairwise_filterMap.mpr ((daysOfMonth_ascending _ _).imp ?_)
  rintro ⟨day, flag⟩ ⟨later, flagLater⟩ before visit found other foundOther
  obtain ⟨date, same, rfl⟩ := Option.map_eq_some_iff.mp found
  obtain ⟨dateLater, sameLater, rfl⟩ := Option.map_eq_some_iff.mp foundOther
  obtain ⟨-, -, index, rfl⟩ := Date.ofYmd?_eq_some.mp same
  obtain ⟨-, -, indexLater, rfl⟩ := Date.ofYmd?_eq_some.mp sameLater
  have order := Date.le_iff_day_le (indexLater.trans index.symm)
  exact Int.not_le.mp fun reversed => Nat.not_le.mpr before (order.mp reversed)

theorem datesOfYear_ascending (year : Nat) (start : Option WallTime) :
    (time.cron.datesOfYear year start).Pairwise Before := by
  refine List.pairwise_flatMap.mpr ⟨fun _ _ => datesOfMonth_ascending _ _ _, ?_⟩
  refine (boundedBy_ascending (Cron.Field.range_ascending _ _) _).imp ?_
  intro month later before visit listed other listedOther
  have same := of_mem_datesOfMonth listed
  have sameOther := of_mem_datesOfMonth listedOther
  exact Date.lt_of_month (same.1.trans sameOther.1.symm) (by rw [same.2, sameOther.2]; exact before)

theorem yearsFrom_eq {start : WallTime} (placed : 1970 ≤ start.date.year) :
    time.cron.yearsFrom start = Cron.Field.range start.date.year.toNat 2100 := by
  have ascending : (time.cron.yearsFrom start).Pairwise (· < ·) :=
    (Cron.Field.range_ascending _ _).filter _
  refine ascending.eq_of_mem_iff (Cron.Field.range_ascending _ _) fun year => ?_
  rw [Cron.yearsFrom, List.mem_filter, mem_years, Cron.Field.mem_range, decide_eq_true_eq]
  omega

def laterDates (time : TriggerTime) (first : Nat) : List (Date × Bool) :=
  (Cron.Field.range (first + 1) 2100).flatMap fun year => time.cron.datesOfYear year none

theorem mem_laterDates {first : Nat} : (date, bounded) ∈ time.laterDates first ↔
    (first < date.year ∧ date.year ≤ 2100) ∧ bounded = false := by
  simp only [laterDates, List.mem_flatMap, Cron.Field.mem_range, mem_datesOfYear_free]
  constructor
  · rintro ⟨year, inside, same, free⟩
    exact ⟨by omega, free⟩
  · rintro ⟨inside, free⟩
    exact ⟨date.year.toNat, by omega, by omega, free⟩

theorem datesFrom_cons {start : WallTime} {first : Nat} (same : start.date.year = first)
    (placed : 1970 ≤ first ∧ first ≤ 2100) :
    time.cron.datesFrom start =
      time.cron.datesOfYear first (some start) ++ time.laterDates first := by
  rw [Cron.datesFrom, yearsFrom_eq (by omega), same, Int.toNat_natCast,
    Cron.Field.range_cons placed.2]
  rfl

theorem datesFrom_nil {start : WallTime} (late : 2100 < start.date.year) :
    time.cron.datesFrom start = [] := by
  rw [Cron.datesFrom, yearsFrom_eq (by omega), Cron.Field.range_nil (by omega)]

theorem datesFrom_ascending {start : WallTime} {first : Nat} (same : start.date.year = first)
    (placed : 1970 ≤ first ∧ first ≤ 2100) : (time.cron.datesFrom start).Pairwise Before := by
  rw [datesFrom_cons same placed]
  refine List.pairwise_append.mpr ⟨datesOfYear_ascending _ _, ?_, fun visit here other later => ?_⟩
  · refine List.pairwise_flatMap.mpr ⟨fun _ _ => datesOfYear_ascending _ _, ?_⟩
    refine (Cron.Field.range_ascending _ _).imp ?_
    intro year later before visit listed other listedOther
    have := of_mem_datesOfYear listed
    have := of_mem_datesOfYear listedOther
    exact Date.lt_of_year_lt (by omega)
  · have := of_mem_datesOfYear here
    have := (mem_laterDates.mp later).1
    exact Date.lt_of_year_lt (by omega)

theorem mem_datesFrom {start : WallTime} {first : Nat} (same : start.date.year = first)
    (placed : 1970 ≤ first ∧ first ≤ 2100) : (date, bounded) ∈ time.cron.datesFrom start ↔
      start.date ≤ date ∧ date.year ≤ 2100 ∧ bounded = decide (start.date = date) := by
  rw [datesFrom_cons same placed, List.mem_append, mem_datesOfYear_bounded same, mem_laterDates]
  constructor
  · rintro (⟨sameYear, after, flagged⟩ | ⟨later, free⟩)
    · exact ⟨after, by omega, flagged⟩
    · have after : start.date < date := Date.lt_of_year_lt (by omega)
      have apart : start.date ≠ date := fun same => by
        rw [same] at after
        exact Int.lt_irrefl _ after
      exact ⟨Int.le_of_lt after, later.2, free.trans (decide_eq_false apart).symm⟩
  · rintro ⟨after, early, flagged⟩
    rcases Int.lt_or_eq_of_le (Date.year_le_of_le after) with before | equal
    · have apart : start.date ≠ date := fun same => Int.ne_of_lt before (same ▸ rfl)
      exact .inr ⟨by omega, flagged.trans (decide_eq_false apart)⟩
    · exact .inl ⟨equal.symm.trans same, after, flagged⟩

/-- 31 December 2100, the last day on which anything fires. -/
def lastFireDay : Int := 47846

theorem year_le_iff : date.year ≤ 2100 ↔ date.number ≤ lastFireDay := by
  have ends : monthStart (2101 * 12) = lastFireDay + 1 := by decide
  rw [show date.year ≤ 2100 ↔ date.year < 2101 by omega, Date.year_lt_iff, ends]
  omega

def daysFrom (first : Int) : Nat → List Date
  | 0 => []
  | count + 1 => (Date.ofNumber? first).toList ++ daysFrom (first + 1) count

theorem mem_daysFrom {first : Int} {count : Nat} :
    date ∈ daysFrom first count ↔ first ≤ date.number ∧ date.number < first + count := by
  induction count generalizing first with
  | zero =>
    rw [daysFrom]
    refine iff_of_false List.not_mem_nil ?_
    omega
  | succ count ih =>
    rw [daysFrom, List.mem_append, Option.mem_toList, Date.ofNumber?_eq_some, ih]
    omega

theorem daysFrom_ascending (first : Int) (count : Nat) : (daysFrom first count).Pairwise (· < ·) := by
  induction count generalizing first with
  | zero => exact List.Pairwise.nil
  | succ count ih =>
    refine List.pairwise_append.mpr ⟨?_, ih _, fun date here later there => ?_⟩
    · cases Date.ofNumber? first <;> simp
    · rw [Option.mem_toList, Date.ofNumber?_eq_some] at here
      have after := (mem_daysFrom.mp there).1
      rw [Date.lt_def]
      omega

def daysTo2100 (first : Int) : List Date := daysFrom first (lastFireDay + 1 - first).toNat

theorem mem_daysTo2100 {first : Int} :
    date ∈ daysTo2100 first ↔ first ≤ date.number ∧ date.year ≤ 2100 := by
  rw [daysTo2100, mem_daysFrom, year_le_iff]
  omega

theorem daysTo2100_nil {first : Int} (late : lastFireDay < first) : daysTo2100 first = [] := by
  have none : (lastFireDay + 1 - first).toNat = 0 := by omega
  rw [daysTo2100, none]
  rfl

/-- The list of the search is every day from the start on; the start bounds its own day alone. -/
theorem datesFrom_eq {start : WallTime} (placed : 1970 ≤ start.date.year) :
    time.cron.datesFrom start =
      (daysTo2100 start.date.number).map fun date => (date, decide (start.date = date)) := by
  obtain ⟨first, same⟩ : ∃ first : Nat, start.date.year = first :=
    ⟨start.date.year.toNat, by omega⟩
  rcases Nat.lt_or_ge 2100 first with late | early
  · have beyond : lastFireDay < start.date.number := by
      rw [← Int.not_le, ← year_le_iff]
      omega
    rw [datesFrom_nil (by omega), daysTo2100_nil beyond]
    rfl
  -- Both lists ascend and have the same members.
  have irreflexive : Std.Irrefl Before := ⟨fun visit => Int.lt_irrefl _⟩
  have oneWay : Std.Antisymm Before :=
    ⟨fun one other before after => absurd (Int.lt_trans before after) (Int.lt_irrefl _)⟩
  refine (datesFrom_ascending same ⟨by omega, early⟩).eq_of_mem_iff
    (List.pairwise_map.mpr (daysFrom_ascending _ _)) ?_
  rintro ⟨date, bounded⟩
  rw [mem_datesFrom same ⟨by omega, early⟩, List.mem_map]
  constructor
  · rintro ⟨after, early, rfl⟩
    exact ⟨date, mem_daysTo2100.mpr ⟨after, early⟩, rfl⟩
  · rintro ⟨date, listed, ⟨⟩⟩
    have inside := mem_daysTo2100.mp listed
    exact ⟨inside.1, inside.2, rfl⟩

variable (time) in
/-- What the search finds on a day from its first second on. -/
def firesOn (zone : Zone) (date : Date) : Checked (Option Instant) :=
  if zone.showsDay date then .ok (zone.onlyTime? date time.inDay) else .error .skippedDay

theorem firesOnDay_eq {zone : Zone} :
    time.cron.firesOnDay zone date [time.inDay] = time.firesOn zone date := by
  have weekday : time.cron.weekdays.contains (date.weekday.index + 1) = true := by
    rw [List.contains_iff_mem]
    have := date.weekday.index_lt
    exact Cron.Field.mem_range.mpr (show 1 ≤ _ ∧ _ ≤ 7 by omega)
  rw [Cron.firesOnDay, weekday, firesOn]
  cases zone.showsDay date <;> simp

theorem cron_firesOn_free {zone : Zone} {start : Option WallTime} :
    time.cron.firesOn zone start (date, false) = time.firesOn zone date := by
  rw [Cron.firesOn_free rfl, Cron.firesOn, Option.filter_none, secondsOfDay_free, firesOnDay_eq]

theorem cron_firesOn_bounded {zone : Zone} {start : WallTime}
    (clock : start.minute < 60 ∧ start.second < 60) :
    time.cron.firesOn zone (some start) (date, true) =
      if start.inDay ≤ time.inDay then time.firesOn zone date else .ok none := by
  have kept : ((some start).filter fun _ => true) = some start := rfl
  rw [Cron.firesOn, kept, secondsOfDay_bounded time clock]
  split
  · exact firesOnDay_eq
  · rfl

theorem daysTo2100_cons {first : Int} (early : first ≤ lastFireDay)
    (named : Date.ofNumber? first = some date) :
    daysTo2100 first = date :: daysTo2100 (first + 1) := by
  have longer : (lastFireDay + 1 - first).toNat = (lastFireDay + 1 - (first + 1)).toNat + 1 := by omega
  rw [daysTo2100, longer, daysFrom, named]
  rfl

variable (time) in
/-- The first day whose time of day is not before a reading of the wall clock. -/
def firstDay (wall : Int) : Int := (wall - time.inDay + 86399) / 86400

theorem firesFrom_eq_daysTo2100 {zone : Zone} {start : WallTime} (placed : 1970 ≤ start.date.year)
    (clock : start.minute < 60 ∧ start.second < 60) :
    time.cron.firesFrom zone start = findFirst (time.firesOn zone) (daysTo2100
      (if start.inDay ≤ time.inDay then start.date.number else start.date.number + 1)) := by
  rw [Cron.firesFrom_eq, datesFrom_eq placed, findFirst_map]
  -- The start bounds the time of day on its own date only.
  have later (date : Date) (other : start.date ≠ date) :
      time.cron.firesOn zone (some start) (date, decide (start.date = date)) =
        time.firesOn zone date := by
    rw [decide_eq_false other, cron_firesOn_free]
  have here : time.cron.firesOn zone (some start) (start.date, true) =
      if start.inDay ≤ time.inDay then time.firesOn zone start.date else .ok none :=
    cron_firesOn_bounded clock
  by_cases early : start.inDay ≤ time.inDay
  · rw [if_pos early] at here ⊢
    refine findFirst_congr fun date _ => ?_
    by_cases same : start.date = date
    · subst same
      rw [decide_eq_true rfl, here]
    · exact later date same
  · rw [if_neg early] at here ⊢
    rcases Int.lt_or_le lastFireDay start.date.number with past | inside
    · rw [daysTo2100_nil past, daysTo2100_nil (by omega)]
      rfl
    · rw [daysTo2100_cons inside (Date.ofNumber?_number _), findFirst, decide_eq_true rfl, here]
      refine findFirst_congr fun date listed => later date ?_
      rintro rfl
      have := (mem_daysTo2100.mp listed).1
      omega

theorem exists_wallTime {zone : Zone} {moment wall : Int} (reads : zone.wallClock moment = wall)
    (inside : 0 ≤ wall ∧ wall < 86400 * 1000000) :
    ∃ start, zone.wallTime? moment = some start ∧ 1970 ≤ start.date.year ∧
      (start.minute < 60 ∧ start.second < 60) ∧ start.inDay < 86400 ∧
      start.date.number * 86400 + start.inDay = wall := by
  have perDay : (secondsPerDay : Int) = 86400 := rfl
  obtain ⟨date, found⟩ : ∃ date, Date.ofNumber? (wall / 86400) = some date := by
    have first : firstDayNumber ≤ wall / 86400 := by unfold firstDayNumber; omega
    have last : wall / 86400 ≤ lastDayNumber := by unfold lastDayNumber; omega
    exact ⟨⟨_, first, last⟩, dif_pos ⟨first, last⟩⟩
  have number := Date.ofNumber?_eq_some.mp found
  obtain ⟨second, split⟩ : ∃ second : Nat, wall % 86400 = second :=
    ⟨(wall % 86400).toNat, by omega⟩
  refine ⟨⟨date, second / 3600, second / 60 % 60, second % 60⟩, ?_, ?_, ?_, ?_, ?_⟩
  · simp only [Zone.wallTime?, reads, perDay, found, split, Int.toNat_natCast, Option.bind_eq_bind,
      Option.bind_some, Option.pure_def]
  · exact Date.le_year_iff.mpr (show 0 ≤ date.number by omega)
  · dsimp only
    omega
  · simp only [WallTime.inDay]
    omega
  · simp only [WallTime.inDay]
    omega

theorem nextAfter_eq {zone : Zone} {after : Instant} {wall : Int}
    (reads : zone.wallClock (after.toSeconds + 1) = wall) (inside : 0 ≤ wall ∧ wall < 86400 * 1000000)
    (known : (Instant.ofSeconds? (after.toSeconds + 1)).isSome) :
    time.nextAfter zone after = findFirst (time.firesOn zone) (daysTo2100 (time.firstDay wall)) := by
  obtain ⟨start, read, year, clock, inDay, parts⟩ := exists_wallTime reads inside
  have present : ¬ (Instant.ofSeconds? (after.toSeconds + 1)).isNone = true := by
    rw [Option.isNone_iff_eq_none, ← Option.not_isSome_iff_eq_none, Decidable.not_not, known]
  have notBefore : ¬ start.date.year < 0 := by omega
  have first : (if start.inDay ≤ time.inDay then start.date.number else start.date.number + 1) =
      time.firstDay wall := by
    have := time.inDay_lt
    unfold firstDay
    split <;> omega
  rw [nextAfter, Cron.nextAfter, if_neg present, read]
  dsimp only
  rw [if_neg notBefore, firesFrom_eq_daysTo2100 year clock, first]

end TriggerTime

end Rota
