import Rota.Generation.Overview
import Rota.Proofs.Generation.Sound
import Rota.Proofs.Pattern.Exhaustion
import Rota.Proofs.Pattern.Words

/-!
Where a series with a checked rule has a fault for an answer, and what that fault takes along. A
list of coming occurrences, a pass over templates, an overview and its counts have the fault exactly
when a series that they look at has it, and a result otherwise.
-/

namespace Rota

namespace Series

variable {series : Series} {start later : Date}

theorem nextOccurrence_failsWhen (valid : series.rule.Valid) (start : Date) :
    FailsWhen (series.nextOccurrence start) .word (series.Faults start) := by
  obtain ⟨faulty, sound⟩ := nextOccurrence_first valid start
  refine ⟨faulty, fun fits => ?_⟩
  obtain ⟨answer, found, -⟩ := sound fits
  exact ⟨answer, found⟩

/-- The first of `count` looks from `start` on has the fault, or the one after the day that the
series starts on was found. -/
def FaultsWithin (series : Series) (start : Date) (count : Nat) : Prop :=
  (1 ≤ count ∧ series.Faults start) ∨
    (2 ≤ count ∧ start ≤ series.startsOn ∧
      ∃ following, series.startsOn.succ? = some following ∧ series.Faults following)

/-- Where there is an answer but a fault later on, the answer is the day the series starts on. -/
theorem answer_before_fault (valid : series.rule.Valid) {answer : Option Date}
    (answered : series.nextOccurrence start = .ok answer) (ordered : start ≤ later)
    (faults : series.Faults later) : start ≤ series.startsOn ∧ answer = some series.startsOn := by
  obtain ⟨fits, first⟩ := first_of_ok valid answered
  obtain ⟨reached, occurs⟩ := anchor_before_fault ordered fits faults
  have anchored : IsFirst series.Occurs start (some series.startsOn) :=
    ⟨occurs, reached, fun _ other _ => other.1.1⟩
  exact ⟨reached, first.unique anchored⟩

/-- After an answer, a fault can only come from the day after it on. -/
theorem faultsWithin_succ (valid : series.rule.Valid) {answer : Option Date} {count : Nat}
    (answered : series.nextOccurrence start = .ok answer) :
    series.FaultsWithin start (count + 1) ↔ ∃ next following, answer = some next ∧
      next.succ? = some following ∧ series.FaultsWithin following count := by
  constructor
  · rintro (⟨-, faults⟩ | ⟨long, reached, following, next, faults⟩)
    · exact absurd faults (first_of_ok valid answered).1
    · have number := Date.number_addDays? next
      rw [Date.le_def] at reached
      obtain ⟨-, same⟩ := answer_before_fault valid answered
        (show start.number ≤ following.number by omega) faults
      exact ⟨series.startsOn, following, same, next, Or.inl ⟨by omega, faults⟩⟩
  · rintro ⟨next, following, rfl, followed, within⟩
    have number := Date.number_addDays? followed
    have begun : start ≤ next ∧ series.startsOn ≤ next :=
      ((max_spec start series.startsOn).2.2 next).mp
        (Rule.nextOnOrAfter_notBefore (nextOccurrence_some_iff.mp answered).1)
    rw [Date.le_def, Date.le_def] at begun
    rcases within with ⟨long, faults⟩ | ⟨-, reached, -⟩
    · obtain ⟨reached, same⟩ := answer_before_fault valid answered
        (show start.number ≤ following.number by omega) faults
      cases same
      exact Or.inr ⟨by omega, reached, following, followed, faults⟩
    · rw [Date.le_def] at reached
      omega

theorem upcoming_failsWhen (valid : series.rule.Valid) (start : Date) (count : Nat) :
    FailsWhen (series.upcoming start count) .word (series.FaultsWithin start count) := by
  induction count generalizing start with
  | zero => exact .of_ok rfl (by simp [FaultsWithin])
  | succ count ih =>
    apply (nextOccurrence_failsWhen valid start).bind
    · exact fun faults => Or.inl ⟨by omega, faults⟩
    · intro answer answered _
      refine FailsWhen.congr ?_ (faultsWithin_succ valid answered)
      cases answer with
      | none => exact .of_ok rfl (by simp)
      | some next =>
        cases followed : next.succ? with
        | none =>
          simp only [followed]
          exact .of_ok rfl (by simp [followed])
        | some following =>
          simp only [followed]
          exact ((ih following).bind_total fun dates _ => ⟨next :: dates, rfl⟩).congr
            (by simp [followed])

end Series

/-- An active pattern of the tenant has the fault. -/
def Store.Faults (store : Store) (tenant : Uuid) (today : Date) : Prop :=
  ∃ row ∈ store.patterns, row.pattern.tenant = tenant ∧ row.pattern.isActive = true ∧
    row.pattern.series.Faults today

namespace Store.Sound

variable {store : Store} {horizon : Horizon} {tenant : Uuid} {now : Instant} {today : Date}

theorem loadPatterns (sound : store.Sound) (meets : Pattern → Bool) :
    store.loadPatterns tenant meets = .ok (store.patternsWhere tenant meets) :=
  loadPatterns_iff.mpr ⟨sound.isOpen, fun row listed _ _ => sound.readable row listed, rfl⟩

theorem answer_failsWhen (sound : store.Sound) {meets : Pattern → Bool} {pattern : Pattern}
    (loaded : pattern ∈ store.patternsWhere tenant meets) (today : Date) :
    FailsWhen (pattern.series.nextOccurrence today) .word (pattern.series.Faults today) := by
  obtain ⟨row, listed, -, -, rfl⟩ := mem_patternsWhere.mp loaded
  exact Series.nextOccurrence_failsWhen (Rule.check_ok.mp (sound.checked row listed)) today

theorem resolve_failsWhen {series : Series}
    (answers : FailsWhen (series.nextOccurrence today) .word (series.Faults today)) :
    FailsWhen (horizon.resolve series today) .word (series.Faults today) := by
  apply answers.bind_total
  intro answer _
  cases answer with
  | none => exact ⟨_, rfl⟩
  | some candidate => exact ⟨_, rfl⟩

theorem resolvePatterns_failsWhen (sound : store.Sound) :
    FailsWhen (resolvePatterns horizon today (store.patternsWhere tenant Pattern.isActive)) .word
      (store.Faults tenant today) := by
  refine (FailsWhen.mapM (fun pattern => pattern.series.Faults today) ?_).congr ?_
  · intro pattern loaded
    exact (resolve_failsWhen (sound.answer_failsWhen loaded today)).bind_total
      fun resolution _ => ⟨(pattern.id, resolution), rfl⟩
  · constructor
    · rintro ⟨row, listed, owned, active, faults⟩
      exact ⟨row.pattern, mem_patternsWhere.mpr ⟨row, listed, owned, active, rfl⟩, faults⟩
    · rintro ⟨pattern, loaded, faults⟩
      obtain ⟨row, listed, owned, active, rfl⟩ := mem_patternsWhere.mp loaded
      exact ⟨row, listed, owned, active, faults⟩

theorem generate_failsWhen (sound : store.Sound) (supply : Supply)
    (day : horizon.today now = .ok today) :
    FailsWhen (store.generate supply horizon tenant now) (.fault .word)
      (store.Faults tenant today) := by
  unfold Store.generate activePatterns?
  rw [day, sound.loadPatterns, templates?_open sound.isOpen]
  exact sound.resolvePatterns_failsWhen.ofChecked.bind_total fun resolutions _ => ⟨_, rfl⟩

theorem overviewRow_failsWhen {pattern : Pattern} (templates : List Template)
    (answers : FailsWhen (pattern.series.nextOccurrence today) .word
      (pattern.series.Faults today)) :
    FailsWhen (overviewRow today templates pattern) .word
      (pattern.isActive = true ∧ pattern.series.Faults today) := by
  unfold overviewRow
  by_cases active : pattern.isActive = true
  · simp only [active, ↓reduceIte]
    exact (answers.bind_total fun nextRun _ => ⟨_, rfl⟩).congr (by simp)
  · simp only [active]
    exact .of_ok rfl (by simp)

theorem overview_failsWhen (sound : store.Sound) (day : horizon.today now = .ok today) :
    FailsWhen (store.overview horizon tenant now) (.fault .word) (store.Faults tenant today) := by
  obtain ⟨templates, listed, -⟩ := templatesBoundTo_open sound.isOpen
    ((store.patternsWhere tenant fun _ => true).map Pattern.id)
  unfold overview patterns?
  rw [day, sound.loadPatterns]
  simp only [Outcome.ofChecked, Outcome.ofExcept, bind, Except.bind]
  rw [listed]
  dsimp only
  refine ((FailsWhen.mapM (fun pattern => pattern.isActive = true ∧ pattern.series.Faults today)
    ?_).congr ?_).ofChecked
  · intro pattern loaded
    exact overviewRow_failsWhen templates (sound.answer_failsWhen loaded today)
  · constructor
    · rintro ⟨row, listed, owned, active, faults⟩
      exact ⟨row.pattern, mem_patternsWhere.mpr ⟨row, listed, owned, rfl, rfl⟩, active, faults⟩
    · rintro ⟨pattern, loaded, active, faults⟩
      obtain ⟨row, listed, owned, -, rfl⟩ := mem_patternsWhere.mp loaded
      exact ⟨row, listed, owned, active, faults⟩

theorem stats_failsWhen (sound : store.Sound) (day : horizon.today now = .ok today)
    {weekEnd : Date} (week : today.addDays? 7 = some weekEnd) :
    FailsWhen (store.stats horizon tenant now) (.fault .word) (store.Faults tenant today) := by
  unfold stats
  rw [day]
  simp only [Outcome.ofChecked, bind, Except.bind]
  rw [week]
  exact (sound.overview_failsWhen day).bind_total fun rows _ => ⟨_, rfl⟩

end Store.Sound

/-- Only years counted from a December on, to the largest year there is, lead to the fault: for
days after the one the series starts on, or for any if that is one of the calendar's last three. -/
theorem Series.faults_iff {series : Series} {start : Date} :
    series.Faults start ↔ series.ending.excludes start = false ∧
      (∃ frequency daysOfWeek daysOfMonth monthsOfYear,
        series.rule = .custom frequency .years daysOfWeek daysOfMonth monthsOfYear ∧
        series.startsOn.month = 12 ∧ series.startsOn.year + frequency.toNat = largestYear) ∧
      (series.startsOn < start ∨ series.startsOn.Unseen) := by
  have month := series.startsOn.month_eq
  have year := series.startsOn.year_eq
  unfold Faults Rule.Overflows
  refine and_congr_right fun _ => and_congr_left fun _ => ?_
  constructor
  · intro jumps
    match ruled : series.rule, jumps with
    | .custom frequency .years daysOfWeek daysOfMonth monthsOfYear, jumps =>
      have target : series.startsOn.monthIndex + frequency.toNat * 12 = largestYear * 12 + 11 :=
        jumps
      exact ⟨frequency, daysOfWeek, daysOfMonth, monthsOfYear, rfl, by omega, by omega⟩
  · rintro ⟨frequency, daysOfWeek, daysOfMonth, monthsOfYear, ruled, inDecember, target⟩
    rw [ruled]
    show series.startsOn.monthIndex + frequency.toNat * 12 = largestYear * 12 + 11
    omega

/-- No sum and no product of the search leaves its word. What is left is the month that has no
successor, to which only whole years from a December lead: a series with a checked rule comes to it
exactly when it faults, and so does what looks at the series of a store. -/
theorem reached_failsWhen (series : Series) (start : Date) {store : Store}
    (reached : store.Reached) :
    series.rule.nextInWords series.startsOn start =
      series.rule.nextOnOrAfter series.startsOn start ∧
    (series.Faults start ↔ series.ending.excludes start = false ∧
      (∃ frequency daysOfWeek daysOfMonth monthsOfYear,
        series.rule = .custom frequency .years daysOfWeek daysOfMonth monthsOfYear ∧
        series.startsOn.month = 12 ∧ series.startsOn.year + frequency.toNat = largestYear) ∧
      (series.startsOn < start ∨ series.startsOn.Unseen)) ∧
    (series.rule.check = .ok () →
      FailsWhen (series.nextOccurrence start) .word (series.Faults start) ∧
      ∀ count, FailsWhen (series.upcoming start count) .word (series.FaultsWithin start count)) ∧
    (∀ row ∈ store.patterns, row.pattern.series.rule.check = .ok ()) ∧
    ∀ (horizon : Horizon) tenant now today, horizon.today now = .ok today →
      (∀ supply, FailsWhen (store.generate supply horizon tenant now) (.fault .word)
        (store.Faults tenant today)) ∧
      FailsWhen (store.overview horizon tenant now) (.fault .word) (store.Faults tenant today) ∧
      ∀ weekEnd, today.addDays? 7 = some weekEnd →
        FailsWhen (store.stats horizon tenant now) (.fault .word) (store.Faults tenant today) := by
  have sound := reached.sound
  refine ⟨series.rule.nextInWords_eq _ _, Series.faults_iff, fun checked => ?_, sound.checked,
    fun horizon tenant now today day => ⟨?_, ?_, ?_⟩⟩
  · have valid := Rule.check_ok.mp checked
    exact ⟨Series.nextOccurrence_failsWhen valid start,
      fun count => Series.upcoming_failsWhen valid start count⟩
  · exact fun supply => sound.generate_failsWhen supply day
  · exact sound.overview_failsWhen day
  · exact fun weekEnd week => sound.stats_failsWhen day week

def auditStart : Date := ⟨20058, by decide, by decide⟩ -- 1 December 2024

/-- The second audit would be due in the year 2147483647. -/
def audit : Pattern :=
  { filingPattern 2 true with
    name := "Audit"
    series :=
      { rule := .custom 2147481623 .years [] [] [], ending := .never, startsOn := auditStart } }

def auditing : Store := { patterns := [{ pattern := audit }] }

theorem auditing_created :
    ∃ pattern, Store.empty.createPattern (opening 2)
      { tenant := .ofNat 1, name := "Audit", series := audit.series } = .ok (pattern, auditing) :=
  ok_of_store (by decide +kernel)

/-- From the second day on, the accepted pattern has a fault for an answer, and so has everything
that looks at it. -/
theorem accepted_pattern_faults :
    (Store.empty.createPattern (opening 2)
      { tenant := .ofNat 1, name := "Audit", series := audit.series }).toOption.map Prod.snd =
        some auditing ∧
    audit.series.nextOccurrence ⟨20059, by decide, by decide⟩ = .error .word ∧
    audit.series.upcoming ⟨20059, by decide, by decide⟩ 1 = .error .word ∧
    (auditing.generate filingSupply {} (.ofNat 1) (.midnight ⟨20059, by decide, by decide⟩)
      ).map Prod.fst = .error (.fault .word) ∧
    auditing.overview {} (.ofNat 1) (.midnight ⟨20059, by decide, by decide⟩) =
      .error (.fault .word) ∧
    auditing.stats {} (.ofNat 1) (.midnight ⟨20059, by decide, by decide⟩) =
      .error (.fault .word) := by
  refine ⟨by decide +kernel, by decide +kernel, by decide +kernel, ?_, ?_, ?_⟩
  · rfl
  · rfl
  · rfl

theorem audit_answers_once :
    auditing.Reached ∧ audit.series.rule.check = .ok () ∧
    (∃ result, auditing.generate filingSupply {} (.ofNat 1) (.midnight auditStart) = .ok result) ∧
    auditing.generate filingSupply {} (.ofNat 1) (.midnight ⟨20059, by decide, by decide⟩) =
      .error (.fault .word) ∧
    audit.series.nextOccurrence ⟨20059, by decide, by decide⟩ = .error .word := by
  obtain ⟨pattern, created⟩ := auditing_created
  have reached : auditing.Reached := .step .empty (.createPattern created)
    ⟨⟨by decide +kernel, .nil⟩, .nil⟩
  obtain ⟨-, faultsWhen, answers, -, looks⟩ :=
    reached_failsWhen audit.series ⟨20059, by decide, by decide⟩ reached
  have still : ¬ auditing.Faults (.ofNat 1) auditStart := by
    rintro ⟨row, listed, -, -, -, -, after | unseen⟩
    · rw [List.mem_singleton.mp listed] at after
      exact absurd after (by decide)
    · rw [List.mem_singleton.mp listed] at unseen
      exact absurd unseen.2 (by decide +kernel)
  have faults : audit.series.Faults ⟨20059, by decide, by decide⟩ := faultsWhen.mpr
    ⟨rfl, ⟨2147481623, [], [], [], rfl, by decide +kernel, by decide +kernel⟩, Or.inl (by decide)⟩
  have fault : auditing.Faults (.ofNat 1) ⟨20059, by decide, by decide⟩ :=
    ⟨{ pattern := audit }, List.mem_singleton.mpr rfl, rfl, rfl, faults⟩
  refine ⟨reached, rfl, ?_, ?_, (answers rfl).1.fails faults⟩
  · exact ((looks {} (.ofNat 1) (.midnight auditStart) auditStart (by decide +kernel)).1
      filingSupply).returns still
  · exact ((looks {} (.ofNat 1) _ ⟨20059, by decide, by decide⟩ (by decide +kernel)).1
      filingSupply).fails fault

end Rota
