import Rota.Proofs.Schedule.DailyFires

/-!
What the next fire of a daily trigger is, told by instants. A trigger is due at the full minute of its
time of day, on each day whose clock shows that reading just once. A search comes to the first instant
at which it is due, and a run of searches leaves none out, although the clock may go back in between.
-/

namespace Rota

theorem Instant.before_whole {one other : Instant} (whole : other.nano = 0) :
    one.before other = true ↔ one.toSeconds < other.toSeconds := by
  simp [before, whole]

namespace TriggerTime

variable (time : TriggerTime) (zone : Zone) (after : Instant)

/-- At the instant the clock shows the trigger's time of day to the second, as it does at no other
instant of that day. -/
def Due (moment : Instant) : Prop :=
  moment.nano = 0 ∧ ∃ date, zone.localDate moment = .ok date ∧
    zone.ShowsOnce (time.readingOn date) moment.toSeconds

/-- The first instant after another at which the trigger is due. -/
structure IsNextFire (fire : Instant) : Prop where
  later : after.before fire
  due : time.Due zone fire
  least : ∀ other, after.before other → other.before fire → ¬ time.Due zone other

/-- Fires after an instant, with none left out up to the last of them. -/
structure IsFireRun (fires : List Instant) : Prop where
  ascending : fires.Pairwise fun one other => one.before other
  later : ∀ fire ∈ fires, after.before fire
  due : ∀ fire ∈ fires, time.Due zone fire
  unmissed : ∀ fire ∈ fires, ∀ other, after.before other → other.before fire →
    time.Due zone other → other ∈ fires

/-- No instant after `after` at which the trigger is due, up to the end of 2100, is left out. -/
def Exhausts (fires : List Instant) : Prop :=
  ∀ other date, after.before other → time.Due zone other → zone.localDate other = .ok date →
    date.year ≤ 2100 → other ∈ fires

variable {time zone after} {date today : Date} {fire moment : Instant} {fires : List Instant}
  {count : Nat}

theorem IsFireRun.next (run : time.IsFireRun zone after [fire]) : time.IsNextFire zone after fire where
  later := run.later fire List.mem_cons_self
  due := run.due fire List.mem_cons_self
  least other later earlier due := by
    have listed := run.unmissed fire List.mem_cons_self other later earlier due
    obtain rfl := List.mem_singleton.mp listed
    rw [Instant.before_whole due.1] at earlier
    exact Int.lt_irrefl _ earlier

theorem firesAfter_one : time.cron.firesAfter zone after 1 =
    (time.nextAfter zone after).map Option.toList := by
  rw [Cron.firesAfter, nextAfter]
  rcases time.cron.nextAfter zone after with fault | (- | fire) <;> rfl

section Steady

variable (steady : zone.Steady) (small : ∀ moment, (zone.offsetAt moment).Small)

include steady in
theorem onlyTime?_iff_due : zone.onlyTime? date time.inDay = some moment ↔
    moment.nano = 0 ∧ zone.localDate moment = .ok date ∧
      zone.ShowsOnce (time.readingOn date) moment.toSeconds := by
  constructor
  · intro found
    obtain ⟨second, -, same⟩ := (Zone.onlyTime?_eq_some steady).mp found
    exact ⟨(Instant.ofSeconds?_eq_some.mp same).2, localDate_of_onlyTime? steady found,
      reads_of_onlyTime? steady found⟩
  · rintro ⟨whole, -, once⟩
    exact (Zone.onlyTime?_eq_some steady).mpr ⟨_, once, Instant.ofSeconds?_eq_some.mpr ⟨rfl, whole⟩⟩

include steady small in
/-- The fires are the instants after `after` at which the trigger is due, as far as the search gets. -/
theorem mem_fires_iff_due (inside : 0 ≤ zone.wallClock (after.toSeconds + 1)) :
    moment ∈ time.fires zone after ↔ after.before moment ∧ time.Due zone moment ∧
      ∀ date, zone.localDate moment = .ok date → time.Reaches zone after date := by
  rw [mem_fires steady]
  constructor
  · rintro ⟨date, reached, passed, found⟩
    obtain ⟨whole, dated, once⟩ := (onlyTime?_iff_due steady).mp found
    have later := fires_later steady small inside
      ((mem_fires steady).mpr ⟨date, reached, passed, found⟩)
    refine ⟨(Instant.before_whole whole).mpr later, ⟨whole, date, dated, once⟩, fun day same => ?_⟩
    rw [dated] at same
    cases same
    exact reached
  · rintro ⟨later, ⟨whole, date, dated, once⟩, reached⟩
    refine ⟨date, reached date dated, ?_, (onlyTime?_iff_due steady).mpr ⟨whole, dated, once⟩⟩
    -- The search begins a second after `after`, where the clock has not gone past the reading.
    rw [Instant.before_whole whole] at later
    have onward : after.toSeconds + 1 ≤ moment.toSeconds := later
    rcases Int.lt_or_eq_of_le onward with next | same
    · exact Int.le_of_lt (Zone.wallClock_lt steady once (calmSince_le small inside) next)
    · rw [same, (once moment.toSeconds).mpr rfl]

include steady small in
theorem reaches_of_before (inside : 0 ≤ zone.wallClock (after.toSeconds + 1))
    (fired : fire ∈ time.fires zone after) (later : after.toSeconds < moment.toSeconds)
    (earlier : moment.toSeconds < fire.toSeconds) (here : zone.localDate moment = .ok date) :
    time.Reaches zone after date := by
  obtain ⟨day, ⟨early, shown⟩, -, found⟩ := (mem_fires steady).mp fired
  have calm := calmSince_le small inside
  -- The clock may go back before the fire, but has not shown its reading or a later one.
  have passed := Zone.wallClock_lt steady (reads_of_onlyTime? steady found) (by omega) earlier
  rw [Zone.localDate_eq_ok] at here
  have within : date ≤ day := by
    have inDay := time.inDay_lt
    unfold readingOn at passed
    rw [Date.le_def]
    omega
  exact ⟨(Date.year_le_of_le within).trans early,
    fun other before => shown other (Int.le_trans before within)⟩

include steady small in
theorem fires_isFireRun (inside : 0 ≤ zone.wallClock (after.toSeconds + 1)) :
    time.IsFireRun zone after ((time.fires zone after).take count) := by
  have all (fire : Instant) (fired : fire ∈ (time.fires zone after).take count) :=
    (mem_fires_iff_due steady small inside).mp (List.mem_of_mem_take fired)
  have ascending : (time.fires zone after).Pairwise fun one other => one.toSeconds < other.toSeconds :=
    (fires_ascending time steady small inside).imp And.left
  constructor
  case later => exact fun fire fired => (all fire fired).1
  case due => exact fun fire fired => (all fire fired).2.1
  case ascending =>
    refine (ascending.sublist (List.take_sublist count _)).imp_of_mem ?_
    intro one other _ fired earlier
    exact (Instant.before_whole (all other fired).2.1.1).mpr earlier
  case unmissed =>
    intro fire fired other later earlier due
    rw [Instant.before_whole due.1] at later
    rw [Instant.before_whole (all fire fired).2.1.1] at earlier
    have listed : other ∈ time.fires zone after := by
      refine (mem_fires_iff_due steady small inside).mpr
        ⟨(Instant.before_whole due.1).mpr later, due, fun date dated => ?_⟩
      exact reaches_of_before steady small inside (List.mem_of_mem_take fired) later earlier dated
    -- Fires past the ones taken are later than each of these.
    rw [← List.take_append_drop count (time.fires zone after)] at listed ascending
    rcases List.mem_append.mp listed with taken | left
    · exact taken
    · have := (List.pairwise_append.mp ascending).2.2 fire fired other left
      omega

include steady small in
theorem fires_exhausts (inside : 0 ≤ zone.wallClock (after.toSeconds + 1))
    (unbroken : time.Unbroken zone after) : time.Exhausts zone after (time.fires zone after) := by
  intro other date later due dated early
  refine (mem_fires_iff_due steady small inside).mpr ⟨later, due, fun day same => ?_⟩
  rw [dated] at same
  cases same
  exact unbroken date early

include steady small in
theorem firesAfter_cases (inside : 0 ≤ zone.wallClock (after.toSeconds + 1) ∧
    zone.wallClock (after.toSeconds + 1) < 86400 * 1000000) :
    (time.cron.firesAfter zone after count = .ok ((time.fires zone after).take count) ∧
      (count ≤ (time.fires zone after).length ∨ time.Unbroken zone after)) ∨
    (time.cron.firesAfter zone after count = .error .skippedDay ∧ ¬ time.Unbroken zone after) := by
  rw [firesAfter_eq_sweep steady small inside, sweep_eq, ← fires]
  have shown : (time.searched zone after).all zone.showsDay = true ↔ time.Unbroken zone after :=
    all_shown_iff steady
  split
  · next found => exact .inl ⟨rfl, found.imp_right shown.mp⟩
  · next broken => exact .inr ⟨rfl, fun unbroken => broken (.inr (shown.mpr unbroken))⟩

include steady small in
/-- What a run of searches comes to; one that is shorter than asked for has all there is. -/
theorem isFireRun_of_firesAfter (inside : 0 ≤ zone.wallClock (after.toSeconds + 1) ∧
      zone.wallClock (after.toSeconds + 1) < 86400 * 1000000)
    (answered : time.cron.firesAfter zone after count = .ok fires) :
    time.IsFireRun zone after fires ∧ (fires.length < count → time.Exhausts zone after fires) := by
  rcases firesAfter_cases steady small inside with ⟨goes, whole⟩ | ⟨fails, -⟩
  · cases answered.symm.trans goes
    refine ⟨fires_isFireRun steady small inside.1, fun few => ?_⟩
    rw [List.length_take] at few
    rcases whole with enough | unbroken
    · omega
    · rw [List.take_of_length_le (by omega)]
      exact fires_exhausts steady small inside.1 unbroken
  · cases answered.symm.trans fails

end Steady

/-- A search comes to the first instant at which the trigger is due, and a run of searches to all of
them in order. A run that is shorter than asked for has every fire up to the end of 2100, and only a day
that the clock skips ends one with a fault. -/
theorem nextAfter_unmissed {name : String} (named : Zone.named? name = some zone)
    (here : zone.localDate after = .ok today) (span : 1970 ≤ today.year ∧ today.year ≤ 2098) :
    Cron.parse time.cronText = .ok time.cron ∧
    (∀ fire, time.nextAfter zone after = .ok (some fire) → time.IsNextFire zone after fire) ∧
    ∀ count,
      (∀ fires, time.cron.firesAfter zone after count = .ok fires →
        time.IsFireRun zone after fires ∧
          (fires.length < count → time.Exhausts zone after fires)) ∧
      ∀ fault, time.cron.firesAfter zone after count = .error fault →
        fault = .skippedDay ∧ ¬ time.Unbroken zone after := by
  obtain ⟨steady, small⟩ := Zone.named?_steady named
  have inside := search_inside steady small here (Date.le_year_iff.mp span.1) (by omega)
  refine ⟨time.parse_cronText, fun fire found => ?_, fun count => ⟨fun fires answered => ?_, ?_⟩⟩
  · -- A single search is a run for one fire.
    have one : time.cron.firesAfter zone after 1 = .ok [fire] := by
      rw [firesAfter_one, found]
      rfl
    exact (isFireRun_of_firesAfter steady small inside one).1.next
  · exact isFireRun_of_firesAfter steady small inside answered
  · intro fault failed
    rcases firesAfter_cases steady small inside with ⟨goes, -⟩ | ⟨fails, broken⟩
    · cases failed.symm.trans goes
    · cases failed.symm.trans fails
      exact ⟨rfl, broken⟩

/-- 23:45 in Pyongyang, on the day before the clock is put back and on the day after. -/
def eveningBefore : Instant := ⟨dayBefore, 53100, 0, by decide, .inl (by decide)⟩
def eveningAfter : Instant := ⟨dayAfter, 54900, 0, by decide, .inl (by decide)⟩

/-- In the evening between them 23:45 comes up twice, so no instant of it is due. -/
theorem pyongyang_unmissed :
    lateEvening.cron.firesAfter pyongyang noonBefore 2 = .ok [eveningBefore, eveningAfter] ∧
    lateEvening.IsFireRun pyongyang noonBefore [eveningBefore, eveningAfter] ∧
    lateEvening.IsNextFire pyongyang eveningBefore eveningAfter := by
  have noon : pyongyang.localDate noonBefore = .ok dayBefore := by decide +kernel
  have evening : pyongyang.localDate eveningBefore = .ok dayBefore := by decide +kernel
  have runs : lateEvening.cron.firesAfter pyongyang noonBefore 2 =
      .ok [eveningBefore, eveningAfter] := by decide +kernel
  obtain ⟨-, -, all⟩ := nextAfter_unmissed named?_pyongyang noon (by decide +kernel)
  obtain ⟨-, next, -⟩ := nextAfter_unmissed named?_pyongyang evening (by decide +kernel)
  exact ⟨runs, ((all 2).1 _ runs).1, next _ (by decide +kernel)⟩

end TriggerTime
end Rota
