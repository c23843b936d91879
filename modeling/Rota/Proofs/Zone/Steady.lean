import Rota.Zone.Basic

/-!
Wall clocks that are steady: of two stretches of time with an offset of their own the later one both
begins and ends with the later reading. Such a clock may skip readings and show others twice, but a
reading that it shows just once divides time in two: earlier instants show earlier readings and
later instants later ones.
-/

namespace Rota.Zone

/-- Ten days before 1970. Clocks need to be steady from here on only. -/
def calmSince : Int := -864000

/-- A change at `time` between the offsets `current` and `next`, after a stretch of the offset `before`
and from `since` on one of the offset `current`. Later stretches begin and end with later readings,
and no change comes one second after a full minute or takes the clock back out of 1970. -/
def StepsOn (since : Option Int) (before current next : Offset) (time : Int) : Prop :=
  (∀ start ∈ since, start < time ∧
    (calmSince ≤ time → start + current.seconds ≤ time + next.seconds) ∧
    (calmSince ≤ start → start + before.seconds ≤ time + current.seconds)) ∧
  (calmSince ≤ time → (time + current.seconds) % 60 ≠ 1) ∧
  (0 < time + current.seconds → 0 ≤ time + next.seconds)

def SteadyFrom (since : Option Int) (before current : Offset) : List (Int × Offset) → Prop
  | [] => True
  | (time, next) :: rest =>
    StepsOn since before current next time ∧ SteadyFrom (some time) current next rest

def Steady (zone : Zone) : Prop := SteadyFrom none zone.start zone.start zone.changes

variable {zone : Zone} {since : Option Int} {before current : Offset} {changes : List (Int × Offset)}
  {time moment start wall : Int}

theorem all_le_iff : (since.all fun start => decide (start ≤ time)) = true ↔
    ∀ start ∈ since, start ≤ time := by
  cases since <;> simp

theorem mem_timesFrom (steady : SteadyFrom since before current changes) :
    time ∈ timesFrom current since wall changes ↔
      (∀ start ∈ since, start ≤ time) ∧
        time + (offsetFrom current time changes).seconds = wall := by
  induction changes generalizing since before current with
  | nil =>
    simp only [timesFrom, offsetFrom, all_le_iff]
    split
    · next begun =>
      rw [List.mem_singleton]
      constructor
      · rintro rfl
        exact ⟨begun, by omega⟩
      · rintro ⟨-, reads⟩
        omega
    · next late =>
      refine iff_of_false List.not_mem_nil ?_
      rintro ⟨begun, reads⟩
      exact late fun start known => by have := begun start known; omega
  | cons change rest ih =>
    obtain ⟨ends, next⟩ := change
    obtain ⟨⟨ordered, -⟩, steady⟩ := steady
    simp only [timesFrom, List.mem_append, ih steady, offsetFrom, Bool.and_eq_true, all_le_iff,
      decide_eq_true_eq]
    -- The reading comes up in this stretch or from the next change on.
    constructor
    · rintro (here | ⟨begun, reads⟩)
      · split at here
        · next inside =>
          rw [List.mem_singleton] at here
          subst here
          exact ⟨inside.1, by rw [if_pos inside.2]; omega⟩
        · exact absurd here List.not_mem_nil
      · have after := begun ends rfl
        refine ⟨fun start known => ?_, by rw [if_neg (by omega), reads]⟩
        have := (ordered start known).1
        omega
    · rintro ⟨begun, reads⟩
      by_cases inside : time < ends
      · rw [if_pos inside] at reads
        obtain rfl : time = wall - current.seconds := by omega
        rw [if_pos ⟨begun, inside⟩]
        exact .inl List.mem_cons_self
      · rw [if_neg inside] at reads
        exact .inr ⟨by simpa using inside, reads⟩

theorem timesFrom_ascending (steady : SteadyFrom since before current changes) :
    (timesFrom current since wall changes).Pairwise (· < ·) := by
  induction changes generalizing since before current with
  | nil =>
    rw [timesFrom]
    split <;> simp
  | cons change rest ih =>
    obtain ⟨ends, next⟩ := change
    obtain ⟨-, steady⟩ := steady
    rw [timesFrom]
    refine List.pairwise_append.mpr ⟨?_, ih steady, fun one here other there => ?_⟩
    · split <;> simp
    · have after := ((mem_timesFrom steady).mp there).1 ends rfl
      split at here
      · next inside =>
        rw [Bool.and_eq_true, decide_eq_true_eq] at inside
        rw [List.mem_singleton] at here
        omega
      · exact absurd here List.not_mem_nil

theorem mem_timesAt (steady : zone.Steady) :
    time ∈ zone.timesAt wall ↔ zone.wallClock time = wall := by
  simp [timesAt, mem_timesFrom steady, wallClock, offsetAt]

theorem localDate_eq_ok {moment : Instant} {date : Date} :
    zone.localDate moment = .ok date ↔ zone.wallClock moment.toSeconds / 86400 = date.number := by
  have perDay : (secondsPerDay : Int) = 86400 := rfl
  rw [eq_comm (b := date.number), ← Date.ofNumber?_eq_some, localDate, perDay]
  cases Date.ofNumber? (zone.wallClock moment.toSeconds / 86400) <;> simp

/-- The instant at which the clock shows a reading, when there is just one. -/
def ShowsOnce (zone : Zone) (wall time : Int) : Prop :=
  ∀ other, zone.wallClock other = wall ↔ other = time

theorem timesAt_eq_singleton (steady : zone.Steady) :
    zone.timesAt wall = [time] ↔ zone.ShowsOnce wall time := by
  constructor
  · intro only other
    rw [← mem_timesAt steady, only, List.mem_singleton]
  · intro only
    have ascending : (zone.timesAt wall).Pairwise (· < ·) := timesFrom_ascending steady
    have members (other : Int) : other ∈ zone.timesAt wall ↔ other = time := by
      rw [mem_timesAt steady, only]
    match zone.timesAt wall, ascending, members with
    | [], _, members => exact absurd ((members time).mpr rfl) List.not_mem_nil
    | [one], _, members => rw [(members one).mp List.mem_cons_self]
    | one :: two :: rest, ascending, members =>
      have first := (members one).mp List.mem_cons_self
      have second := (members two).mp (List.mem_cons_of_mem _ List.mem_cons_self)
      have apart : one < two := List.rel_of_pairwise_cons ascending List.mem_cons_self
      omega

theorem reading_ge (steady : SteadyFrom (some start) before current changes)
    (calm : calmSince ≤ start) (reached : start ≤ time) :
    start + current.seconds ≤ time + (offsetFrom current time changes).seconds := by
  induction changes generalizing start before current with
  | nil => simp only [offsetFrom]; omega
  | cons change rest ih =>
    obtain ⟨ends, next⟩ := change
    obtain ⟨⟨ordered, -⟩, steady⟩ := steady
    have ordered := ordered start rfl
    rw [offsetFrom]
    split
    · omega
    · have later := ih steady (by omega) (by omega)
      omega

/-- A reading that an instant is not before, and that comes before the end of an earlier stretch, is
shown again from that instant on. -/
theorem shown_later (steady : SteadyFrom (some start) before current changes)
    (calm : calmSince ≤ start) (reached : start ≤ moment) (ended : wall < start + before.seconds)
    (reads : moment + (offsetFrom current moment changes).seconds ≤ wall) :
    ∃ other, moment ≤ other ∧ other + (offsetFrom current other changes).seconds = wall := by
  induction changes generalizing start before current with
  | nil =>
    refine ⟨wall - current.seconds, ?_, ?_⟩ <;> simp only [offsetFrom] at reads ⊢ <;> omega
  | cons change rest ih =>
    obtain ⟨ends, next⟩ := change
    obtain ⟨⟨ordered, -⟩, steady⟩ := steady
    have ordered := ordered start rfl
    rw [offsetFrom] at reads
    split at reads
    · next here =>
      refine ⟨wall - current.seconds, by omega, ?_⟩
      rw [offsetFrom, if_pos (by omega)]
      omega
    · next there =>
      obtain ⟨other, after, reads⟩ := ih steady (by omega) (by omega) (by omega) reads
      refine ⟨other, after, ?_⟩
      rw [offsetFrom, if_neg (by omega)]
      exact reads

theorem shown_before (steady : SteadyFrom since before current changes)
    (reached : ∀ start ∈ since, start ≤ moment) (calm : calmSince ≤ moment) (earlier : moment < time)
    (reads : time + (offsetFrom current time changes).seconds ≤
      moment + (offsetFrom current moment changes).seconds) :
    ∃ other, (∀ start ∈ since, start ≤ other) ∧ other ≤ moment ∧
      other + (offsetFrom current other changes).seconds =
        time + (offsetFrom current time changes).seconds := by
  induction changes generalizing since before current with
  | nil => simp only [offsetFrom] at reads; omega
  | cons change rest ih =>
    obtain ⟨ends, next⟩ := change
    obtain ⟨⟨ordered, -⟩, steady⟩ := steady
    by_cases both : time < ends
    · simp only [offsetFrom, if_pos both, if_pos (show moment < ends by omega)] at reads
      omega
    · simp only [offsetFrom, if_neg both] at reads ⊢
      by_cases here : moment < ends
      · -- The change lies between the two, and the stretch before it has shown the reading already.
        rw [if_pos here] at reads
        have low := reading_ge steady (by omega) (show ends ≤ time by omega)
        refine ⟨time + (offsetFrom next time rest).seconds - current.seconds, ?_, by omega, ?_⟩
        · intro start known
          have := ordered start known
          omega
        · rw [if_pos (by omega)]
          omega
      · rw [if_neg here] at reads
        obtain ⟨other, started, before, same⟩ := ih steady (by simpa using here) reads
        have inside := started ends rfl
        refine ⟨other, ?_, before, ?_⟩
        · intro start known
          have := ordered start known
          omega
        · rw [if_neg (by omega), same]

theorem shown_after (steady : SteadyFrom since before current changes)
    (reached : ∀ start ∈ since, start ≤ time) (calm : calmSince ≤ time) (later : time < moment)
    (reads : moment + (offsetFrom current moment changes).seconds ≤
      time + (offsetFrom current time changes).seconds) :
    ∃ other, moment ≤ other ∧
      other + (offsetFrom current other changes).seconds =
        time + (offsetFrom current time changes).seconds := by
  induction changes generalizing since before current with
  | nil => simp only [offsetFrom] at reads; omega
  | cons change rest ih =>
    obtain ⟨ends, next⟩ := change
    obtain ⟨⟨ordered, -⟩, steady⟩ := steady
    by_cases both : moment < ends
    · simp only [offsetFrom, if_pos both, if_pos (show time < ends by omega)] at reads
      omega
    · simp only [offsetFrom, if_neg both] at reads ⊢
      by_cases here : time < ends
      · rw [if_pos here] at reads ⊢
        obtain ⟨other, after, same⟩ := shown_later steady (by omega) (by omega) (by omega) reads
        exact ⟨other, after, by rw [if_neg (by omega), same]⟩
      · rw [if_neg here] at reads ⊢
        obtain ⟨other, after, same⟩ := ih steady (by simpa using here) reads
        exact ⟨other, after, by rw [if_neg (by omega), same]⟩

theorem wallClock_lt (steady : zone.Steady) (once : zone.ShowsOnce wall time)
    (calm : calmSince ≤ moment) (earlier : moment < time) : zone.wallClock moment < wall := by
  have reads : zone.wallClock time = wall := (once time).mpr rfl
  refine Int.not_le.mp fun late => ?_
  rw [← reads] at late
  obtain ⟨other, -, before, same⟩ := shown_before steady nofun calm earlier late
  have := (once other).mp (same.trans reads)
  omega

theorem lt_wallClock (steady : zone.Steady) (once : zone.ShowsOnce wall time)
    (calm : calmSince ≤ time) (later : time < moment) : wall < zone.wallClock moment := by
  have reads : zone.wallClock time = wall := (once time).mpr rfl
  refine Int.not_le.mp fun early => ?_
  rw [← reads] at early
  obtain ⟨other, after, same⟩ := shown_after steady nofun calm later early
  have := (once other).mp (same.trans reads)
  omega

theorem offsetFrom_succ (steady : SteadyFrom since before current changes) (calm : calmSince ≤ time)
    (minute : (time + (offsetFrom current time changes).seconds) % 60 = 0) :
    offsetFrom current (time + 1) changes = offsetFrom current time changes := by
  induction changes generalizing since before current with
  | nil => rfl
  | cons change rest ih =>
    obtain ⟨ends, next⟩ := change
    obtain ⟨⟨-, aligned, -⟩, steady⟩ := steady
    rw [offsetFrom] at minute
    rw [offsetFrom, offsetFrom]
    by_cases here : time < ends
    · rw [if_pos here] at minute ⊢
      have still : time + 1 < ends := by
        refine Int.not_le.mp fun passed => ?_
        obtain rfl : ends = time + 1 := by omega
        have := aligned (by omega)
        omega
      rw [if_pos still]
    · rw [if_neg here] at minute ⊢
      rw [if_neg (by omega)]
      exact ih steady minute

theorem wallClock_succ (steady : zone.Steady) (calm : calmSince ≤ time)
    (minute : zone.wallClock time % 60 = 0) :
    zone.wallClock (time + 1) = zone.wallClock time + 1 := by
  unfold wallClock offsetAt
  rw [offsetFrom_succ steady calm minute]
  omega

theorem offsetFrom_start (steady : SteadyFrom (some start) before current changes) :
    offsetFrom current start changes = current := by
  cases changes with
  | nil => rfl
  | cons change rest => exact if_pos (steady.1.1 start rfl).1

theorem reading_nonneg_succ (steady : SteadyFrom since before current changes)
    (reads : 0 ≤ time + (offsetFrom current time changes).seconds) :
    0 ≤ time + 1 + (offsetFrom current (time + 1) changes).seconds := by
  induction changes generalizing since before current with
  | nil => simp only [offsetFrom] at reads ⊢; omega
  | cons change rest ih =>
    obtain ⟨ends, next⟩ := change
    obtain ⟨⟨-, -, kept⟩, steady⟩ := steady
    rw [offsetFrom] at reads ⊢
    by_cases here : time < ends
    · rw [if_pos here] at reads
      by_cases still : time + 1 < ends
      · rw [if_pos still]
        omega
      · rw [if_neg still]
        obtain rfl : ends = time + 1 := by omega
        rw [offsetFrom_start steady]
        exact kept (by omega)
    · rw [if_neg here] at reads
      rw [if_neg (by omega)]
      exact ih steady reads

/-- A clock that shows 1970 does not go back out of it. -/
theorem wallClock_nonneg_succ (steady : zone.Steady) (reads : 0 ≤ zone.wallClock time) :
    0 ≤ zone.wallClock (time + 1) := reading_nonneg_succ steady reads

end Rota.Zone
