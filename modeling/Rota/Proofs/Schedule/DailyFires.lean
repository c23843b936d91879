import Rota.Proofs.Calendar.DateText
import Rota.Proofs.Schedule.CronText
import Rota.Proofs.Schedule.DaySearch
import Rota.Proofs.Zone.Named

/-!
The fires of a daily trigger, each found by a search from the one before. On the clock of a named zone
they go through the days in order: a day has one fire when the trigger's time of day comes up on it
just once, and none otherwise. A day that the clock does not show ends them with a fault.
-/

namespace Rota

namespace Zone

variable {zone : Zone} {date : Date} {moment : Instant}

/-- The first or the last second of the day comes up just once. -/
def ShowsDay (zone : Zone) (date : Date) : Prop :=
  (∃ moment, zone.ShowsOnce (date.number * 86400) moment) ∨
    ∃ moment, zone.ShowsOnce (date.number * 86400 + 86399) moment

theorem length_timesAt_eq_one (steady : zone.Steady) {wall : Int} :
    ((zone.timesAt wall).length == 1) = true ↔ ∃ moment, zone.ShowsOnce wall moment := by
  rw [beq_iff_eq, List.length_eq_one_iff]
  exact exists_congr fun _ => timesAt_eq_singleton steady

theorem showsDay_iff (steady : zone.Steady) : zone.showsDay date = true ↔ zone.ShowsDay date := by
  rw [showsDay, Bool.or_eq_true, length_timesAt_eq_one steady, length_timesAt_eq_one steady]
  rfl

theorem onlyTime?_eq_some (steady : zone.Steady) {second : Nat} :
    zone.onlyTime? date second = some moment ↔
      ∃ time, zone.ShowsOnce (date.number * 86400 + second) time ∧
        Instant.ofSeconds? time = some moment := by
  have perDay : (secondsPerDay : Int) = 86400 := rfl
  rw [onlyTime?, perDay]
  constructor
  · intro found
    split at found
    · next time only => exact ⟨time, (timesAt_eq_singleton steady).mp only, found⟩
    · cases found
  · rintro ⟨time, once, found⟩
    rw [(timesAt_eq_singleton steady).mpr once]
    exact found

end Zone

theorem mem_takeWhile_of_ascending {days : List Date} (ascending : days.Pairwise (· < ·))
    {kept : Date → Bool} {date : Date} :
    date ∈ days.takeWhile kept ↔ date ∈ days ∧ ∀ day ∈ days, day ≤ date → kept day = true := by
  induction days with
  | nil => simp
  | cons first rest ih =>
    have later {day : Date} (listed : day ∈ rest) : first < day :=
      List.rel_of_pairwise_cons ascending listed
    rw [List.takeWhile_cons]
    by_cases holds : kept first = true
    · rw [if_pos holds, List.mem_cons, List.mem_cons, ih ascending.of_cons]
      constructor
      · rintro (rfl | ⟨listed, all⟩)
        · refine ⟨.inl rfl, fun day listed early => ?_⟩
          rcases List.mem_cons.mp listed with rfl | there
          · exact holds
          · exact absurd early (Int.not_le.mpr (later there))
        · exact ⟨.inr listed, List.forall_mem_cons.mpr ⟨fun _ => holds, all⟩⟩
      · rintro ⟨rfl | listed, all⟩
        · exact .inl rfl
        · exact .inr ⟨listed, (List.forall_mem_cons.mp all).2⟩
    · rw [if_neg holds]
      refine iff_of_false List.not_mem_nil fun ⟨listed, all⟩ => holds ?_
      refine all first List.mem_cons_self ?_
      rcases List.mem_cons.mp listed with rfl | there
      · exact Int.le_refl _
      · exact Int.le_of_lt (later there)

namespace TriggerTime

variable (time : TriggerTime) (zone : Zone) (after : Instant)

def readingOn (date : Date) : Int := date.number * 86400 + time.inDay

def searched : List Date := daysTo2100 (time.firstDay (zone.wallClock (after.toSeconds + 1)))

def sweep : List Date → Nat → Checked (List Instant)
  | _, 0 => .ok []
  | [], _ + 1 => .ok []
  | date :: rest, count + 1 =>
    if zone.showsDay date then
      match zone.onlyTime? date time.inDay with
      | none => sweep rest (count + 1)
      | some fire => do return fire :: (← sweep rest count)
    else .error .skippedDay

def firesAmong (days : List Date) : List Instant :=
  (days.takeWhile zone.showsDay).filterMap fun date => zone.onlyTime? date time.inDay

def fires : List Instant := time.firesAmong zone (time.searched zone after)

def ComesUpOnce (date : Date) : Prop := ∃ moment, zone.ShowsOnce (time.readingOn date) moment

/-- The search after an instant gets to the day: it lies in the years with fires, and the clock shows
each day on the way there. -/
def Reaches (date : Date) : Prop :=
  date.year ≤ 2100 ∧
    ∀ day ≤ date, zone.wallClock (after.toSeconds + 1) ≤ time.readingOn day → zone.ShowsDay day

def Unbroken : Prop := ∀ date : Date, date.year ≤ 2100 → time.Reaches zone after date

/-- The fires after an instant of a day, told by the clock alone. -/
structure DailyFires (today : Date) (fires : List Instant) : Prop where
  ascending : fires.Pairwise fun one other => one.toSeconds < other.toSeconds
  later : ∀ fire ∈ fires, after.toSeconds < fire.toSeconds
  dated : ∀ fire ∈ fires, ∃ date, zone.localDate fire = .ok date ∧
    zone.ShowsOnce (time.readingOn date) fire.toSeconds ∧ time.Reaches zone after date
  oncePerDay : fires.Pairwise fun one other => zone.localDate one ≠ zone.localDate other
  daily : ∀ date, today < date → time.ComesUpOnce zone date → time.Reaches zone after date →
    ∃! fire, fire ∈ fires ∧ zone.localDate fire = .ok date

variable {time zone after} {date today : Date} {fire : Instant} {count : Nat}

theorem sweep_eq (days : List Date) (count : Nat) :
    time.sweep zone days count =
      if count ≤ (time.firesAmong zone days).length ∨ days.all zone.showsDay then
        .ok ((time.firesAmong zone days).take count)
      else .error .skippedDay := by
  induction days generalizing count with
  | nil => cases count <;> simp [sweep, firesAmong]
  | cons date rest ih =>
    cases count with
    | zero => simp [sweep]
    | succ count =>
      rw [sweep]
      by_cases shown : zone.showsDay date = true
      · rw [if_pos shown]
        cases found : zone.onlyTime? date time.inDay with
        | none =>
          have same : time.firesAmong zone (date :: rest) = time.firesAmong zone rest := by
            simp [firesAmong, shown, found]
          rw [same, List.all_cons, shown, Bool.true_and]
          exact ih (count + 1)
        | some fire =>
          have same : time.firesAmong zone (date :: rest) = fire :: time.firesAmong zone rest := by
            simp [firesAmong, shown, found]
          rw [same, List.all_cons, shown, Bool.true_and, List.length_cons, ih count]
          simp only [Nat.add_le_add_iff_right]
          split <;> rfl
      · -- No fire is found from a day on that the clock skips.
        have none : time.firesAmong zone (date :: rest) = [] := by simp [firesAmong, shown]
        simp [none, shown]

theorem firstDay_le {wall : Int} : time.firstDay wall ≤ date.number ↔ wall ≤ time.readingOn date := by
  unfold firstDay readingOn
  omega

theorem mem_searched : date ∈ time.searched zone after ↔
    zone.wallClock (after.toSeconds + 1) ≤ time.readingOn date ∧ date.year ≤ 2100 := by
  rw [searched, mem_daysTo2100, firstDay_le]

theorem searched_ascending : (time.searched zone after).Pairwise (· < ·) := daysFrom_ascending _ _

theorem sweep_succ {first : Int} (begun : 0 ≤ first)
    (goesOn : ∀ date ∈ daysTo2100 first, ∀ fire, zone.onlyTime? date time.inDay = some fire →
      time.cron.firesAfter zone fire count = time.sweep zone (daysTo2100 (date.number + 1)) count) :
    (do match ← findFirst (time.firesOn zone) (daysTo2100 first) with
        | none => return []
        | some fire => return fire :: (← time.cron.firesAfter zone fire count)) =
      time.sweep zone (daysTo2100 first) (count + 1) := by
  -- By induction on the days that are left: a day without a fire is passed over by both sides.
  obtain ⟨left, span⟩ : ∃ left : Nat, lastFireDay + 1 - first ≤ left := ⟨_, Int.self_le_toNat _⟩
  induction left generalizing first with
  | zero =>
    rw [daysTo2100_nil (by omega)]
    rfl
  | succ left ih =>
    rcases Int.lt_or_le lastFireDay first with past | inside
    · rw [daysTo2100_nil past]
      rfl
    · obtain ⟨date, named⟩ : ∃ date, Date.ofNumber? first = some date := by
        unfold lastFireDay at inside
        have bounds : firstDayNumber ≤ first ∧ first ≤ lastDayNumber := by
          unfold firstDayNumber lastDayNumber
          omega
        exact ⟨_, dif_pos bounds⟩
      have number := Date.ofNumber?_eq_some.mp named
      have rest := @ih (first + 1) (by omega) (fun later listed => goesOn later ?_) (by omega)
      · rw [daysTo2100_cons inside named] at goesOn ⊢
        rw [findFirst, sweep, firesOn]
        by_cases shown : zone.showsDay date = true
        · rw [if_pos shown, if_pos shown]
          cases found : zone.onlyTime? date time.inDay with
          | none => exact rest
          | some fire =>
            rw [← number, ← goesOn date List.mem_cons_self fire found]
            rfl
        · rw [if_neg shown, if_neg shown]
          rfl
      · have := mem_daysTo2100.mp listed
        exact mem_daysTo2100.mpr ⟨by omega, this.2⟩

section Steady

variable (steady : zone.Steady) (small : ∀ moment, (zone.offsetAt moment).Small)

include small in
/-- A clock that shows 1970 or later is steady from there on. -/
theorem calmSince_le {moment : Int} (reads : 0 ≤ zone.wallClock moment) : Zone.calmSince ≤ moment := by
  have offset := small moment
  unfold Zone.wallClock at reads
  unfold Zone.calmSince
  have := offset.below
  omega

include steady in
theorem reads_of_onlyTime? (found : zone.onlyTime? date time.inDay = some fire) :
    zone.ShowsOnce (time.readingOn date) fire.toSeconds := by
  obtain ⟨moment, once, same⟩ := (Zone.onlyTime?_eq_some steady).mp found
  rw [Instant.toSeconds_of_ofSeconds? same]
  exact once

include steady small in
theorem wallClock_after_fire (found : zone.onlyTime? date time.inDay = some fire)
    (begun : 0 ≤ date.number) :
    zone.wallClock (fire.toSeconds + 1) = time.readingOn date + 1 := by
  have reads := (reads_of_onlyTime? steady found fire.toSeconds).mpr rfl
  have minute : zone.wallClock fire.toSeconds % 60 = 0 := by
    rw [reads]
    unfold readingOn inDay
    omega
  have late : 0 ≤ zone.wallClock fire.toSeconds := by
    rw [reads]
    unfold readingOn
    omega
  rw [Zone.wallClock_succ steady (calmSince_le small late) minute, reads]

include small in
theorem nextAfter_eq_findFirst (inside : 0 ≤ zone.wallClock (after.toSeconds + 1) ∧
    zone.wallClock (after.toSeconds + 1) < 86400 * 1000000) :
    time.cron.nextAfter zone after = findFirst (time.firesOn zone) (time.searched zone after) := by
  refine nextAfter_eq rfl inside ?_
  have offset := small (after.toSeconds + 1)
  have above := offset.above
  have below := offset.below
  unfold Zone.wallClock at inside
  rw [Option.isSome_iff_exists]
  refine Instant.exists_ofSeconds? ?_
  unfold firstDayNumber lastDayNumber
  omega

include steady small in
theorem firesAfter_eq_sweep (inside : 0 ≤ zone.wallClock (after.toSeconds + 1) ∧
    zone.wallClock (after.toSeconds + 1) < 86400 * 1000000) :
    time.cron.firesAfter zone after count = time.sweep zone (time.searched zone after) count := by
  induction count generalizing after with
  | zero =>
    rw [Cron.firesAfter]
    cases time.searched zone after <;> rfl
  | succ count ih =>
    have begun : 0 ≤ time.firstDay (zone.wallClock (after.toSeconds + 1)) := by
      have := time.inDay_lt
      unfold firstDay
      omega
    rw [Cron.firesAfter, nextAfter_eq_findFirst small inside]
    -- One second after a fire the clock is one second on, so the search begins with the next day.
    refine sweep_succ begun fun date listed fire found => ?_
    obtain ⟨reached, early⟩ := mem_daysTo2100.mp listed
    rw [year_le_iff] at early
    unfold lastFireDay at early
    have reads := wallClock_after_fire steady small found (by omega)
    have inDay := time.inDay_lt
    have nextDay : time.firstDay (zone.wallClock (fire.toSeconds + 1)) = date.number + 1 := by
      rw [reads]
      unfold firstDay readingOn
      omega
    rw [ih, searched, nextDay]
    rw [reads]
    unfold readingOn
    omega

include steady in
theorem mem_fires : fire ∈ time.fires zone after ↔
    ∃ date, time.Reaches zone after date ∧
      zone.wallClock (after.toSeconds + 1) ≤ time.readingOn date ∧
      zone.onlyTime? date time.inDay = some fire := by
  rw [fires, firesAmong, List.mem_filterMap]
  refine exists_congr fun date => ?_
  rw [mem_takeWhile_of_ascending searched_ascending, mem_searched, Reaches]
  constructor
  · rintro ⟨⟨⟨reached, early⟩, shown⟩, found⟩
    refine ⟨⟨early, fun day before due => ?_⟩, reached, found⟩
    have inside := (Date.year_le_of_le before).trans early
    exact (Zone.showsDay_iff steady).mp (shown day (mem_searched.mpr ⟨due, inside⟩) before)
  · rintro ⟨⟨early, shown⟩, reached, found⟩
    refine ⟨⟨⟨reached, early⟩, fun day listed before => ?_⟩, found⟩
    exact (Zone.showsDay_iff steady).mpr (shown day before (mem_searched.mp listed).1)

include steady in
theorem localDate_of_onlyTime? (found : zone.onlyTime? date time.inDay = some fire) :
    zone.localDate fire = .ok date := by
  rw [Zone.localDate_eq_ok, (reads_of_onlyTime? steady found fire.toSeconds).mpr rfl]
  have := time.inDay_lt
  unfold readingOn
  omega

include steady small in
theorem toSeconds_lt {day : Date} {other : Instant} (begun : 0 ≤ day.number) (ordered : date < day)
    (found : zone.onlyTime? date time.inDay = some fire)
    (foundOther : zone.onlyTime? day time.inDay = some other) : fire.toSeconds < other.toSeconds := by
  have reads := (reads_of_onlyTime? steady found fire.toSeconds).mpr rfl
  have once := reads_of_onlyTime? steady foundOther
  have readsOther := (once other.toSeconds).mpr rfl
  have before : time.readingOn date < time.readingOn day := by
    rw [Date.lt_def] at ordered
    unfold readingOn
    omega
  have calm : Zone.calmSince ≤ other.toSeconds := by
    refine calmSince_le small ?_
    rw [readsOther]
    unfold readingOn
    omega
  -- After a reading that comes up once the clock shows later ones.
  rcases Int.lt_trichotomy fire.toSeconds other.toSeconds with sooner | same | later
  · exact sooner
  · rw [same] at reads
    omega
  · have := Zone.lt_wallClock steady once calm later
    omega

variable (time) in
include steady small in
theorem fires_ascending (inside : 0 ≤ zone.wallClock (after.toSeconds + 1)) :
    (time.fires zone after).Pairwise fun one other =>
      one.toSeconds < other.toSeconds ∧ zone.localDate one ≠ zone.localDate other := by
  refine List.pairwise_filterMap.mpr ?_
  refine (searched_ascending.sublist (List.takeWhile_sublist _)).imp_of_mem ?_
  intro date day _ listed ordered fire found other foundOther
  have due := (mem_searched.mp ((List.takeWhile_sublist _).subset listed)).1
  have inDay := time.inDay_lt
  unfold readingOn at due
  refine ⟨toSeconds_lt steady small (by omega) ordered found foundOther, ?_⟩
  rw [localDate_of_onlyTime? steady found, localDate_of_onlyTime? steady foundOther]
  rintro ⟨⟩
  exact Int.lt_irrefl _ ordered

include steady small in
theorem fires_later (inside : 0 ≤ zone.wallClock (after.toSeconds + 1))
    (fired : fire ∈ time.fires zone after) : after.toSeconds < fire.toSeconds := by
  obtain ⟨date, -, due, found⟩ := (mem_fires steady).mp fired
  have once := reads_of_onlyTime? steady found
  have reads := (once fire.toSeconds).mpr rfl
  refine Int.not_le.mp fun early => ?_
  have := Zone.lt_wallClock steady once (calmSince_le small (by omega))
    (show fire.toSeconds < after.toSeconds + 1 by omega)
  omega

include steady small in
/-- A later day on which the time of day comes up just once is not passed over. -/
theorem due_of_comesUpOnce {moment : Int} (today_nonneg : 0 ≤ today.number)
    (here : zone.localDate after = .ok today) (later : today < date)
    (once : zone.ShowsOnce (time.readingOn date) moment) :
    zone.wallClock (after.toSeconds + 1) ≤ time.readingOn date := by
  rw [Zone.localDate_eq_ok] at here
  rw [Date.lt_def] at later
  have reads := (once moment).mpr rfl
  have calm : Zone.calmSince ≤ after.toSeconds := calmSince_le small (by omega)
  have ahead : zone.wallClock after.toSeconds < time.readingOn date := by
    unfold readingOn
    omega
  -- The clock may go back over midnight, but not to behind a reading that it shows once.
  have following : after.toSeconds < moment := by
    rcases Int.lt_trichotomy after.toSeconds moment with following | same | passed
    · exact following
    · rw [same] at ahead
      omega
    · have := Zone.lt_wallClock steady once (calmSince_le small (by omega)) passed
      omega
  rcases Int.lt_or_eq_of_le following with next | same
  · exact Int.le_of_lt (Zone.wallClock_lt steady once (by omega) next)
  · rw [← reads, ← same]

include small in
theorem exists_onlyTime? (steady : zone.Steady) {moment : Int}
    (span : 0 ≤ date.number ∧ date.year ≤ 2100)
    (once : zone.ShowsOnce (time.readingOn date) moment) :
    ∃ fire, zone.onlyTime? date time.inDay = some fire := by
  have reads := (once moment).mpr rfl
  have offset := small moment
  have above := offset.above
  have below := offset.below
  have inDay := time.inDay_lt
  have early := year_le_iff.mp span.2
  unfold Zone.wallClock readingOn at reads
  unfold lastFireDay at early
  obtain ⟨fire, found⟩ : ∃ fire, Instant.ofSeconds? moment = some fire := by
    refine Instant.exists_ofSeconds? ?_
    unfold firstDayNumber lastDayNumber
    omega
  exact ⟨fire, (Zone.onlyTime?_eq_some steady).mpr ⟨moment, once, found⟩⟩

include steady small in
theorem fires_dailyFires (today_nonneg : 0 ≤ today.number)
    (here : zone.localDate after = .ok today) :
    time.DailyFires zone after today (time.fires zone after) := by
  have started := Zone.localDate_eq_ok.mp here
  have inside : 0 ≤ zone.wallClock (after.toSeconds + 1) :=
    Zone.wallClock_nonneg_succ steady (by omega)
  have ascending := fires_ascending time steady small inside
  constructor
  case ascending => exact ascending.imp And.left
  case later => exact fun fire => fires_later steady small inside
  case dated =>
    intro fire fired
    obtain ⟨date, reached, -, found⟩ := (mem_fires steady).mp fired
    exact ⟨date, localDate_of_onlyTime? steady found, reads_of_onlyTime? steady found, reached⟩
  case oncePerDay => exact ascending.imp And.right
  case daily =>
    rintro date later ⟨moment, once⟩ reached
    have begun : 0 ≤ date.number := by
      rw [Date.lt_def] at later
      omega
    obtain ⟨fire, found⟩ := exists_onlyTime? small steady ⟨begun, reached.1⟩ once
    have due := due_of_comesUpOnce steady small today_nonneg here later once
    have dated := localDate_of_onlyTime? steady found
    refine ⟨fire, ⟨(mem_fires steady).mpr ⟨date, reached, due, found⟩, dated⟩, ?_⟩
    rintro other ⟨fired, same⟩
    obtain ⟨day, -, -, foundOther⟩ := (mem_fires steady).mp fired
    rw [localDate_of_onlyTime? steady foundOther] at same
    cases same
    exact Option.some.inj (foundOther.symm.trans found)

include steady small in
theorem search_inside (here : zone.localDate after = .ok today) (begun : 0 ≤ today.number)
    (early : today.year ≤ 2100) : 0 ≤ zone.wallClock (after.toSeconds + 1) ∧
      zone.wallClock (after.toSeconds + 1) < 86400 * 1000000 := by
  have started := Zone.localDate_eq_ok.mp here
  refine ⟨Zone.wallClock_nonneg_succ steady (by omega), ?_⟩
  have above := (small after.toSeconds).above
  have below := (small (after.toSeconds + 1)).below
  have early := year_le_iff.mp early
  unfold lastFireDay at early
  unfold Zone.wallClock at started ⊢
  omega

include steady in
theorem all_shown_iff :
    (time.searched zone after).all zone.showsDay = true ↔ time.Unbroken zone after := by
  rw [List.all_eq_true]
  constructor
  · intro shown date early
    refine ⟨early, fun day before due => (Zone.showsDay_iff steady).mp (shown day ?_)⟩
    exact mem_searched.mpr ⟨due, (Date.year_le_of_le before).trans early⟩
  · intro unbroken date listed
    obtain ⟨due, early⟩ := mem_searched.mp listed
    exact (Zone.showsDay_iff steady).mpr ((unbroken date early).2 date (Int.le_refl _) due)

include steady small in
theorem mem_fires_of_firesAfter {answer : List Instant}
    (inside : 0 ≤ zone.wallClock (after.toSeconds + 1) ∧
      zone.wallClock (after.toSeconds + 1) < 86400 * 1000000)
    (answered : time.cron.firesAfter zone after count = .ok answer) (fired : fire ∈ answer) :
    fire ∈ time.fires zone after := by
  rw [firesAfter_eq_sweep steady small inside, sweep_eq, ← fires] at answered
  split at answered
  · cases answered
    exact List.mem_of_mem_take fired
  · cases answered

end Steady

/-- The cron expression reads as the trigger's time on every day. On the clock of a named zone it fires
daily, and a run of searches comes to the fires one by one. Past the last of them it finds none, or it
has a fault when a day on the way is one that the clock skips. -/
theorem fires_daily {name : String} (named : Zone.named? name = some zone)
    (here : zone.localDate after = .ok today) (span : 1970 ≤ today.year ∧ today.year ≤ 2098) :
    Cron.parse time.cronText = .ok time.cron ∧
    ∃ fires, time.DailyFires zone after today fires ∧ ∀ count,
      (count ≤ fires.length ∨ time.Unbroken zone after →
        time.cron.firesAfter zone after count = .ok (fires.take count)) ∧
      (fires.length < count → ¬ time.Unbroken zone after →
        time.cron.firesAfter zone after count = .error .skippedDay) := by
  obtain ⟨steady, small⟩ := Zone.named?_steady named
  have begun : 0 ≤ today.number := Date.le_year_iff.mp span.1
  have inside := search_inside steady small here begun (by omega)
  refine ⟨time.parse_cronText, time.fires zone after, fires_dailyFires steady small begun here,
    fun count => ?_⟩
  have shown : (time.searched zone after).all zone.showsDay = true ↔ time.Unbroken zone after :=
    all_shown_iff steady
  rw [firesAfter_eq_sweep steady small inside, sweep_eq, ← fires]
  refine ⟨fun found => if_pos (found.imp_right shown.mpr), fun beyond broken => if_neg ?_⟩
  rintro (within | all)
  · exact Nat.not_le.mpr beyond within
  · exact broken (shown.mp all)

def lateEvening : TriggerTime := ⟨23, 45, by decide, by decide⟩

/-- Midnight after 14 August 2015 was put back by half an hour there. -/
def pyongyang : Zone :=
  ⟨"Asia/Pyongyang", ⟨30180, "LMT"⟩,
    [(-1948782180, ⟨30600, "KST"⟩), (-1830414600, ⟨32400, "JST"⟩), (-768646800, ⟨32400, "KST"⟩),
      (1439564400, ⟨30600, "KST"⟩), (1525446000, ⟨32400, "KST"⟩)]⟩

theorem named?_pyongyang : Zone.named? "Asia/Pyongyang" = some pyongyang := by decide +kernel

def dayBefore : Date := ⟨16660, by decide, by decide⟩ -- 13 August 2015
def dayPutBack : Date := ⟨16661, by decide, by decide⟩
def dayAfter : Date := ⟨16662, by decide, by decide⟩

def noonBefore : Instant := ⟨dayBefore, 10800, 0, by decide, .inl (by decide)⟩ -- Noon in Pyongyang

theorem pyongyang_fires :
    pyongyang.localDate noonBefore = .ok dayBefore ∧
    Cron.parse lateEvening.cronText = .ok lateEvening.cron ∧
    ∃ fires, lateEvening.DailyFires pyongyang noonBefore dayBefore fires ∧
      (∃! fire, fire ∈ fires ∧ pyongyang.localDate fire = .ok dayAfter) ∧ ∀ count,
      (count ≤ fires.length ∨ lateEvening.Unbroken pyongyang noonBefore →
        lateEvening.cron.firesAfter pyongyang noonBefore count = .ok (fires.take count)) ∧
      (fires.length < count → ¬ lateEvening.Unbroken pyongyang noonBefore →
        lateEvening.cron.firesAfter pyongyang noonBefore count = .error .skippedDay) := by
  have here : pyongyang.localDate noonBefore = .ok dayBefore := by decide +kernel
  obtain ⟨steady, -⟩ := Zone.named?_steady named?_pyongyang
  obtain ⟨parsed, fires, daily, runs⟩ :=
    @fires_daily lateEvening _ _ _ _ named?_pyongyang here (by decide +kernel)
  refine ⟨here, parsed, fires, daily, daily.daily dayAfter (by decide) ?once ?reached, runs⟩
  case once => exact ⟨1439651700, (Zone.timesAt_eq_singleton steady).mp (by decide +kernel)⟩
  case reached =>
    refine ⟨by decide +kernel, fun day before due => (Zone.showsDay_iff steady).mp ?_⟩
    have reads : pyongyang.wallClock (noonBefore.toSeconds + 1) = 1439467201 := by decide +kernel
    have inDay : lateEvening.inDay = 85500 := rfl
    have late : day.number ≤ 16662 := before
    rw [reads, readingOn, inDay] at due
    have days : day = dayBefore ∨ day = dayPutBack ∨ day = dayAfter := by
      rcases (show day.number = 16660 ∨ day.number = 16661 ∨ day.number = 16662 by omega) with
        same | same | same
      · exact .inl (Date.ext same)
      · exact .inr (.inl (Date.ext same))
      · exact .inr (.inr (Date.ext same))
    rcases days with rfl | rfl | rfl <;> decide +kernel

/-- The day exists, and no run of searches has a fire on it: its 23:45 comes up twice. -/
theorem pyongyang_day_passed_over :
    Zone.named? "Asia/Pyongyang" = some pyongyang ∧
    pyongyang.localDate noonBefore = .ok dayBefore ∧
    (∃ moment, pyongyang.localDate moment = .ok dayPutBack) ∧
    lateEvening.cron.firesAfter pyongyang noonBefore 2 =
      .ok [⟨dayBefore, 53100, 0, by decide, .inl (by decide)⟩,
        ⟨dayAfter, 54900, 0, by decide, .inl (by decide)⟩] ∧
    ∀ count answer, lateEvening.cron.firesAfter pyongyang noonBefore count = .ok answer →
      ∀ fire ∈ answer, pyongyang.localDate fire ≠ .ok dayPutBack := by
  have here : pyongyang.localDate noonBefore = .ok dayBefore := by decide +kernel
  refine ⟨named?_pyongyang, here, ⟨.midnight dayPutBack, by decide +kernel⟩, by decide +kernel, ?_⟩
  intro count answer answered fire fired dated
  obtain ⟨steady, small⟩ := Zone.named?_steady named?_pyongyang
  have inside := search_inside steady small here (by decide) (by decide +kernel)
  obtain ⟨date, -, -, found⟩ :=
    (mem_fires steady).mp (mem_fires_of_firesAfter steady small inside answered fired)
  rw [localDate_of_onlyTime? steady found] at dated
  cases dated
  have none : pyongyang.onlyTime? dayPutBack lateEvening.inDay = none := by decide +kernel
  rw [none] at found
  cases found

end TriggerTime

end Rota
