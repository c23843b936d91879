import Rota.Proofs.Pattern.Exhaustion

/-!
The list of coming occurrences. An answer of a series is its own next occurrence, so the dates of
which that is true are what the list goes through: each look starts on the day after the one before,
and the list has the first of them, with none left out and none twice. How many are asked for
decides only where it stops.
-/

namespace Rota

/-- The first `count` dates from `start` on that meet a condition, or all of them if there are
fewer. -/
structure IsFirstRun (meets : Date → Prop) (start : Date) (count : Nat) (dates : List Date) :
    Prop where
  ascending : dates.Pairwise fun one other => one < other
  onward : ∀ date ∈ dates, start ≤ date
  sound : ∀ date ∈ dates, meets date
  bounded : dates.length ≤ count
  unmissed : ∀ listed ∈ dates, ∀ date, meets date → start ≤ date → date < listed → date ∈ dates
  exhaustive : dates.length < count → ∀ date, meets date → start ≤ date → date ∈ dates

theorem Date.succ?_eq_none {date : Date} (ends : date.succ? = none) (other : Date) :
    other ≤ date := by
  have first := date.first_le
  have last := other.le_last
  unfold succ? addDays? ofNumber? at ends
  rw [le_def]
  split at ends
  · cases ends
  · omega

namespace IsFirstRun

variable {meets : Date → Prop} {start next following : Date} {count : Nat} {dates : List Date}

theorem nil : IsFirstRun meets start 0 [] where
  ascending := .nil
  onward := by simp
  sound := by simp
  bounded := Nat.le_refl 0
  unmissed := by simp
  exhaustive := fun fewer => absurd fewer (Nat.lt_irrefl 0)

theorem of_none (gone : IsFirst meets start none) : IsFirstRun meets start count [] where
  ascending := .nil
  onward := by simp
  sound := by simp
  bounded := Nat.zero_le count
  unmissed := by simp
  exhaustive := fun _ date met after => absurd after (gone date met)

/-- What comes after the first date comes on the day after it at the earliest. -/
theorem cons (first : IsFirst meets start (some next)) (followed : next.succ? = some following)
    (rest : IsFirstRun meets following count dates) :
    IsFirstRun meets start (count + 1) (next :: dates) := by
  obtain ⟨met, reached, least⟩ := first
  have number := Date.number_addDays? followed
  have later (date : Date) (member : date ∈ dates) : next < date := by
    have onward := rest.onward date member
    rw [Date.le_def] at onward
    rw [Date.lt_def]
    omega
  have beyond (date : Date) (meeting : meets date) (after : start ≤ date) :
      date = next ∨ following ≤ date := by
    have bound := least date meeting after
    by_cases same : date = next
    · exact .inl same
    · have apart : date.number ≠ next.number := fun equal => same (Date.ext equal)
      rw [Date.le_def] at bound ⊢
      exact .inr (by omega)
  constructor
  case ascending => exact List.pairwise_cons.mpr ⟨later, rest.ascending⟩
  case onward =>
    intro date member
    rcases List.mem_cons.mp member with rfl | listed
    · exact reached
    · exact Int.le_trans reached (Int.le_of_lt (later date listed))
  case sound =>
    intro date member
    rcases List.mem_cons.mp member with rfl | listed
    · exact met
    · exact rest.sound date listed
  case bounded => exact Nat.succ_le_succ rest.bounded
  case unmissed =>
    intro listed member date meeting after before
    rcases beyond date meeting after with rfl | onward
    · exact List.mem_cons_self
    · rcases List.mem_cons.mp member with rfl | counted
      · rw [Date.lt_def] at before
        rw [Date.le_def] at onward
        omega
      · exact List.mem_cons_of_mem _ (rest.unmissed listed counted date meeting onward before)
  case exhaustive =>
    intro fewer date meeting after
    rcases beyond date meeting after with rfl | onward
    · exact List.mem_cons_self
    · have short : dates.length < count := Nat.lt_of_succ_lt_succ fewer
      exact List.mem_cons_of_mem _ (rest.exhaustive short date meeting onward)

theorem singleton (first : IsFirst meets start (some next)) (ends : next.succ? = none) :
    IsFirstRun meets start (count + 1) [next] := by
  obtain ⟨met, reached, least⟩ := first
  have only (date : Date) (meeting : meets date) (after : start ≤ date) : date ∈ [next] :=
    List.mem_singleton.mpr
      (Date.ext (Int.le_antisymm (Date.succ?_eq_none ends date) (least date meeting after)))
  constructor
  case ascending => exact List.pairwise_singleton _ _
  case onward => simpa using reached
  case sound => simpa using met
  case bounded => simp
  case unmissed => exact fun _ _ date meeting after _ => only date meeting after
  case exhaustive => exact fun _ => only

end IsFirstRun

namespace Series

variable {series : Series} {start next following date : Date} {count : Nat} {dates : List Date}

def Falls (series : Series) (date : Date) : Prop := series.nextOccurrence date = .ok (some date)

-- A fault can begin after the date the series starts on, and only if it starts on one that is seen.
theorem fits_of_first (fits : ¬ series.Faults start)
    (first : IsFirst series.Occurs start (some date)) : ¬ series.Faults date := by
  obtain ⟨occurs, reached, least⟩ := first
  intro faults
  obtain ⟨before, anchored⟩ := anchor_before_fault reached fits faults
  have onAnchor : date = series.startsOn :=
    Date.ext (Int.le_antisymm (least series.startsOn anchored before) occurs.1.1)
  obtain ⟨inside, jumps, after | unseen⟩ := faults
  · rw [onAnchor] at after
    exact Int.lt_irrefl _ after
  · refine fits ⟨?_, jumps, .inr unseen⟩
    rw [Bool.eq_false_iff] at inside ⊢
    exact fun ended => inside (excludes_later ended reached)

/-- An answer is the first date from the day asked about on that is its own next occurrence. -/
theorem falls_first (valid : series.rule.Valid) {answer : Option Date}
    (answered : series.nextOccurrence start = .ok answer) : IsFirst series.Falls start answer := by
  obtain ⟨fits, first⟩ := first_of_ok valid answered
  cases answer with
  | none => exact fun other falls => first other ((nextOccurrence_self_iff valid).mp falls).2
  | some date =>
    have falls := (nextOccurrence_self_iff valid).mpr ⟨fits_of_first fits first, first.1⟩
    exact ⟨falls, first.2.1, fun other otherFalls =>
      first.2.2 other ((nextOccurrence_self_iff valid).mp otherFalls).2⟩

theorem upcoming_none (gone : series.nextOccurrence start = .ok none) (count : Nat) :
    series.upcoming start (count + 1) = .ok [] := by
  rw [upcoming, gone]
  rfl

theorem upcoming_last (answered : series.nextOccurrence start = .ok (some next))
    (ends : next.succ? = none) (count : Nat) : series.upcoming start (count + 1) = .ok [next] := by
  rw [upcoming, answered]
  simp only [bind, Except.bind, ends]
  rfl

theorem upcoming_cons (answered : series.nextOccurrence start = .ok (some next))
    (followed : next.succ? = some following) (count : Nat) :
    series.upcoming start (count + 1) =
      (series.upcoming following count).map fun dates => next :: dates := by
  rw [upcoming, answered]
  simp only [bind, Except.bind, followed]
  cases series.upcoming following count <;> rfl

theorem upcoming_succ_ok (answered : series.upcoming start (count + 1) = .ok dates) :
    (series.nextOccurrence start = .ok none ∧ dates = []) ∨
    ∃ next, series.nextOccurrence start = .ok (some next) ∧
      ((next.succ? = none ∧ dates = [next]) ∨
        ∃ following rest, next.succ? = some following ∧
          series.upcoming following count = .ok rest ∧ dates = next :: rest) := by
  cases looked : series.nextOccurrence start with
  | error fault =>
    rw [upcoming, looked] at answered
    cases answered
  | ok answer =>
    cases answer with
    | none =>
      rw [upcoming_none looked] at answered
      cases answered
      exact .inl ⟨rfl, rfl⟩
    | some next =>
      refine .inr ⟨next, rfl, ?_⟩
      cases followed : next.succ? with
      | none =>
        rw [upcoming_last looked followed] at answered
        cases answered
        exact .inl ⟨rfl, rfl⟩
      | some following =>
        rw [upcoming_cons looked followed] at answered
        cases listed : series.upcoming following count with
        | error fault =>
          rw [listed] at answered
          cases answered
        | ok rest =>
          rw [listed] at answered
          cases answered
          exact .inr ⟨following, rest, rfl, listed, rfl⟩

theorem upcoming_isFirstRun (valid : series.rule.Valid)
    (answered : series.upcoming start count = .ok dates) :
    IsFirstRun series.Falls start count dates := by
  induction count generalizing start dates with
  | zero =>
    cases answered
    exact .nil
  | succ count ih =>
    rcases upcoming_succ_ok answered with ⟨gone, rfl⟩ | ⟨next, found, stopped | goesOn⟩
    · exact .of_none (falls_first valid gone)
    · obtain ⟨ends, rfl⟩ := stopped
      exact .singleton (falls_first valid found) ends
    · obtain ⟨following, rest, followed, listed, rfl⟩ := goesOn
      exact (ih listed).cons (falls_first valid found) followed

theorem upcoming_take (answered : series.upcoming start count = .ok dates) {fewer : Nat}
    (within : fewer ≤ count) : series.upcoming start fewer = .ok (dates.take fewer) := by
  induction fewer generalizing start count dates with
  | zero => rfl
  | succ fewer ih =>
    obtain ⟨count, rfl⟩ : ∃ less, count = less + 1 := ⟨count - 1, by omega⟩
    rcases upcoming_succ_ok answered with ⟨gone, rfl⟩ | ⟨next, found, stopped | goesOn⟩
    · exact upcoming_none gone fewer
    · obtain ⟨ends, rfl⟩ := stopped
      rw [upcoming_last found ends, List.take_succ_cons, List.take_nil]
    · obtain ⟨following, rest, followed, listed, rfl⟩ := goesOn
      rw [upcoming_cons found followed, ih listed (Nat.le_of_succ_le_succ within),
        List.take_succ_cons]
      rfl

theorem upcoming_append (answered : series.upcoming start count = .ok dates)
    (full : dates.length = count) {last : Date} (ends : dates.getLast? = some last)
    (followed : last.succ? = some following) (more : Nat) :
    series.upcoming start (count + more) =
      (series.upcoming following more).map fun further => dates ++ further := by
  induction count generalizing start dates with
  | zero =>
    cases answered
    cases ends
  | succ count ih =>
    rw [Nat.add_right_comm]
    rcases upcoming_succ_ok answered with ⟨-, rfl⟩ | ⟨next, found, stopped | goesOn⟩
    · cases full
    · obtain ⟨ended, rfl⟩ := stopped
      obtain rfl : next = last := Option.some.inj ends
      rw [ended] at followed
      cases followed
    · obtain ⟨onward, rest, advanced, listed, rfl⟩ := goesOn
      rw [upcoming_cons found advanced]
      cases rest with
      | nil =>
        -- The first date is the last one too, and nothing else was asked for.
        obtain rfl : next = last := Option.some.inj ends
        obtain rfl : onward = following := Option.some.inj (advanced.symm.trans followed)
        obtain rfl : count = 0 := (Nat.succ.inj full).symm
        rw [Nat.zero_add]
        rfl
      | cons second rest =>
        rw [List.getLast?_cons_cons] at ends
        rw [ih listed (Nat.succ.inj full) ends]
        cases series.upcoming following more <;> rfl

end Series

/-- A list of coming occurrences has the first dates from a day on that are their own next
occurrence, as many as were asked for or all there are. A shorter list is the beginning of a longer
one, which goes on from the day after the last date of the shorter one. -/
theorem upcoming_first_run (series : Series) (checked : series.rule.check = .ok ()) (start : Date)
    (count : Nat) {dates : List Date} (answered : series.upcoming start count = .ok dates) :
    IsFirstRun (fun date => series.nextOccurrence date = .ok (some date)) start count dates ∧
    (∀ fewer ≤ count, ∃ beginning, series.upcoming start fewer = .ok beginning ∧
      beginning <+: dates) ∧
    ∀ last, dates.length = count → dates.getLast? = some last → last ≠ .last →
      ∃ following, last.succ? = some following ∧
        ∀ more, series.upcoming start (count + more) =
          (series.upcoming following more).map fun further => dates ++ further := by
  refine ⟨Series.upcoming_isFirstRun (Rule.check_ok.mp checked) answered, ?_, ?_⟩
  · exact fun fewer within => ⟨_, Series.upcoming_take answered within, List.take_prefix _ _⟩
  · intro last full ends inside
    cases followed : last.succ? with
    | none =>
      exact absurd (Date.ext (Int.le_antisymm last.le_last (Date.succ?_eq_none followed .last)))
        inside
    | some following =>
      exact ⟨following, rfl, Series.upcoming_append answered full ends followed⟩

/-- 29 February, 31 March and, found from 1 April on, 30 April 2024. -/
theorem month_ends_listed :
    (monthEnds ⟨19754, by decide, by decide⟩).rule.check = .ok () ∧
    (monthEnds ⟨19754, by decide, by decide⟩).upcoming ⟨19754, by decide, by decide⟩ 2 =
      .ok [⟨19782, by decide, by decide⟩, ⟨19813, by decide, by decide⟩] ∧
    IsFirstRun (monthEnds ⟨19754, by decide, by decide⟩).Falls ⟨19754, by decide, by decide⟩ 2
      [⟨19782, by decide, by decide⟩, ⟨19813, by decide, by decide⟩] ∧
    (monthEnds ⟨19754, by decide, by decide⟩).upcoming ⟨19754, by decide, by decide⟩ 3 =
      .ok [⟨19782, by decide, by decide⟩, ⟨19813, by decide, by decide⟩,
        ⟨19843, by decide, by decide⟩] := by
  have listed : (monthEnds ⟨19754, by decide, by decide⟩).upcoming ⟨19754, by decide, by decide⟩ 2 =
      .ok [⟨19782, by decide, by decide⟩, ⟨19813, by decide, by decide⟩] := by decide +kernel
  obtain ⟨run, -, continued⟩ := upcoming_first_run _ rfl _ 2 listed
  obtain ⟨following, followed, onward⟩ := continued ⟨19813, by decide, by decide⟩ rfl rfl
    (by decide)
  refine ⟨rfl, listed, run, (onward 1).trans ?_⟩
  obtain rfl : following = ⟨19814, by decide, by decide⟩ :=
    Option.some.inj (followed.symm.trans rfl)
  decide +kernel

end Rota
