import Rota.Proofs.Generation.Faults

/-!
The overview told by the pass. Both load the patterns of the tenant and look at their series, but
the pass asks for the active ones only and goes through the templates one by one, where the overview
asks for all patterns and groups the templates under them. Where both have an answer they agree on
every date and every count. What only the overview fails for is a paused pattern that cannot be
read.
-/

namespace Rota

/-- The latest of some instants, or none of none. -/
def IsLatest (moments : List Instant) : Option Instant → Prop
  | none => moments = []
  | some latest => latest ∈ moments ∧ ∀ moment ∈ moments, latest.before moment = false

theorem Instant.before_iff {a b : Instant} :
    a.before b = true ↔
      a.toSeconds < b.toSeconds ∨ (a.toSeconds = b.toSeconds ∧ a.nano < b.nano) := by
  simp [before]

theorem Instant.not_before_iff {a b : Instant} :
    a.before b = false ↔
      b.toSeconds < a.toSeconds ∨ (a.toSeconds = b.toSeconds ∧ b.nano ≤ a.nano) := by
  rw [← Bool.not_eq_true, before_iff]
  omega

theorem IsLatest.snoc {moments : List Instant} {latest : Option Instant}
    (found : IsLatest moments latest) (moment : Instant) :
    IsLatest (moments ++ [moment])
      (some ((latest.map (Instant.latest · moment)).getD moment)) := by
  have itself (other : Instant) : other.before other = false :=
    Instant.not_before_iff.mpr (Or.inr ⟨rfl, Nat.le_refl _⟩)
  cases latest with
  | none =>
    cases found
    exact ⟨List.mem_singleton.mpr rfl, by simp [itself]⟩
  | some latest =>
    obtain ⟨member, last⟩ := found
    simp only [Option.map_some, Option.getD_some, Instant.latest, IsLatest, List.mem_append,
      List.mem_singleton]
    by_cases earlier : latest.before moment = true
    · rw [if_pos earlier]
      refine ⟨Or.inr rfl, ?_⟩
      rintro other (known | rfl)
      · have past := Instant.not_before_iff.mp (last other known)
        rw [Instant.before_iff] at earlier
        rw [Instant.not_before_iff]
        omega
      · exact itself other
    · rw [if_neg earlier]
      refine ⟨Or.inl member, ?_⟩
      rintro other (known | rfl)
      · exact last other known
      · exact Bool.eq_false_iff.mpr earlier

theorem IsLatest.foldl {seen : List Instant} {latest : Option Instant}
    (found : IsLatest seen latest) (rest : List Instant) :
    IsLatest (seen ++ rest) (rest.foldl
      (fun latest moment => some ((latest.map (Instant.latest · moment)).getD moment)) latest) := by
  induction rest generalizing seen latest with
  | nil =>
    rw [List.append_nil]
    exact found
  | cons moment rest ih =>
    have next := ih (found.snoc moment)
    rw [List.append_assoc] at next
    exact next

theorem latestOf?_isLatest (moments : List Instant) : IsLatest moments (latestOf? moments) :=
  IsLatest.foldl (show IsLatest [] none from rfl) moments

def Resolution.isDue : Resolution → Bool
  | due _ => true
  | _ => false

/-- With a lookahead of seven days, due is due this week. -/
theorem Horizon.resolution_isDue {horizon : Horizon} {today weekEnd : Date}
    {nextRun : Option Date} (weekly : horizon.lookahead = 7)
    (week : today.addDays? 7 = some weekEnd) :
    (horizon.resolution today nextRun).isDue =
      nextRun.any fun next => decide (today ≤ next ∧ next ≤ weekEnd) := by
  have number := Date.number_addDays? week
  cases nextRun with
  | none => rfl
  | some next =>
    have within : horizon.reaches next today = decide (today ≤ next ∧ next ≤ weekEnd) := by
      unfold reaches
      rw [weekly]
      apply decide_eq_decide.mpr
      rw [Date.le_def, Date.le_def]
      unfold Date.daysFrom
      omega
    rw [Option.any_some, ← within, resolution, classify]
    cases horizon.reaches next today <;> rfl

namespace Store

/-- All patterns of the tenant can be read, the paused ones too. -/
def Readable (store : Store) (tenant : Uuid) : Prop :=
  ∀ row ∈ store.patterns, row.pattern.tenant = tenant → row.readable = true

/-- A row of the overview tells of a pattern what is stored, and what a pass on the same day comes
to for it: `resolutions` is what that pass makes of the patterns, and `summary` what it did. -/
structure Shows (store : Store) (horizon : Horizon) (tenant : Uuid) (today : Date)
    (resolutions : List (Uuid × Resolution)) (summary : Summary) (pattern : Pattern)
    (row : OverviewRow) : Prop where
  id : row.pattern = pattern.id
  isActive : row.isActive = pattern.isActive
  description : row.description = pattern.series.rule.describe
  templateCount : row.templateCount = (store.boundTo tenant pattern.id).length
  name : row.name = match store.boundTo tenant pattern.id with
    | [] => pattern.name
    | first :: _ => first.work.title
  lastRun : IsLatest ((store.boundTo tenant pattern.id).filterMap Template.lastGenerated)
    row.lastRun
  paused : pattern.isActive = false → row.nextRun = none
  resolved : pattern.isActive = true →
    resolutions.find? (fun entry => entry.1 == pattern.id) =
      some (pattern.id, horizon.resolution today row.nextRun)
  parts : pattern.isActive = true → ∀ template ∈ store.boundTo tenant pattern.id,
    store.part horizon today template =
        store.resolvedPart template (horizon.resolution today row.nextRun) ∧
      (store.part horizon today template = .exhausted ↔ row.nextRun = none)
  tasks : ∀ template ∈ store.boundTo tenant pattern.id, ∀ task ∈ summary.tasks,
    task.template = some template.id → task.dueDate = row.nextRun

variable {store : Store} {horizon : Horizon} {tenant : Uuid} {now : Instant} {today : Date}
  {supply : Supply} {pattern : Pattern} {template : Template} {row : OverviewRow}
  {rows : List OverviewRow}

def rowOf (store : Store) (tenant : Uuid) (pattern : Pattern) (nextRun : Option Date) :
    OverviewRow :=
  let bound := store.boundTo tenant pattern.id
  { pattern := pattern.id
    name := (bound.head?.map fun template => template.work.title).getD pattern.name
    description := pattern.series.rule.describe
    nextRun
    lastRun := latestOf? (bound.filterMap Template.lastGenerated)
    isActive := pattern.isActive
    templateCount := bound.length }

def row? (store : Store) (tenant : Uuid) (today : Date) (pattern : Pattern) :
    Checked OverviewRow :=
  (if pattern.isActive then pattern.series.nextOccurrence today else .ok none).map
    (store.rowOf tenant pattern)

theorem overviewRow_eq {templates : List Template}
    (bound : templates.filter (fun template => template.pattern == some pattern.id) =
      store.boundTo tenant pattern.id) :
    overviewRow today templates pattern = store.row? tenant today pattern := by
  unfold overviewRow row? rowOf
  rw [bound]
  split
  · cases pattern.series.nextOccurrence today <;> rfl
  · rfl

theorem overview_rows (isOpen : store.isOpen = true) (patterns : List Pattern) :
    ∃ templates, store.templatesBoundTo tenant (patterns.map Pattern.id) = .ok templates ∧
      patterns.mapM (overviewRow today templates) = patterns.mapM (store.row? tenant today) := by
  obtain ⟨templates, loaded, bound⟩ := templatesBoundTo_open isOpen (patterns.map Pattern.id)
  refine ⟨templates, loaded, mapM_congr fun pattern member => ?_⟩
  exact overviewRow_eq (bound pattern.id (List.mem_map_of_mem member))

theorem overview_ok (day : horizon.today now = .ok today) :
    store.overview horizon tenant now = .ok rows ↔
      store.isOpen = true ∧ store.Readable tenant ∧
        (store.patternsWhere tenant fun _ => true).mapM (store.row? tenant today) = .ok rows := by
  unfold overview
  rw [day]
  constructor
  · intro answered
    obtain ⟨_, seen, answered⟩ := bind_ok.mp answered
    obtain ⟨patterns, loaded, answered⟩ := bind_ok.mp answered
    obtain ⟨templates, bound, answered⟩ := bind_ok.mp answered
    cases seen
    rw [Outcome.ofExcept_ok] at loaded bound
    rw [Outcome.ofChecked_ok] at answered
    obtain ⟨isOpen, readable, rfl⟩ := loadPatterns_iff.mp loaded
    obtain ⟨_, same, grouped⟩ := store.overview_rows isOpen _
    rw [bound] at same
    cases same
    exact ⟨isOpen, fun row listed owned => readable row listed owned rfl, grouped ▸ answered⟩
  · rintro ⟨isOpen, readable, answered⟩
    obtain ⟨templates, bound, grouped⟩ := store.overview_rows isOpen _
    have loaded : store.patterns? tenant = .ok (store.patternsWhere tenant fun _ => true) :=
      loadPatterns_iff.mpr ⟨isOpen, fun row listed owned _ => readable row listed owned, rfl⟩
    refine bind_ok.mpr ⟨today, rfl, bind_ok.mpr ⟨_, Outcome.ofExcept_ok.mpr loaded, ?_⟩⟩
    refine bind_ok.mpr ⟨_, Outcome.ofExcept_ok.mpr bound, Outcome.ofChecked_ok.mpr ?_⟩
    rw [grouped, answered]

theorem patterns?_failsWhen (isOpen : store.isOpen = true) :
    FailsWhen (store.patterns? tenant) (.database .unreadable) (¬ store.Readable tenant) := by
  unfold patterns? loadPatterns
  rw [use_ok.mpr isOpen]
  refine (FailsWhen.mapM (fun row => row.readable = false) ?_).congr ?_
  · intro row _
    unfold PatternRow.load
    by_cases readable : row.readable = true
    · rw [if_pos readable]
      exact .of_ok rfl (by simp [readable])
    · rw [if_neg readable]
      exact ⟨fun _ => rfl, fun met => absurd (Bool.eq_false_iff.mpr readable) met⟩
  · simp [Readable, PatternRow.ownedBy, and_assoc]

theorem overview_unreadable (day : horizon.today now = .ok today) (isOpen : store.isOpen = true)
    (unreadable : ¬ store.Readable tenant) :
    store.overview horizon tenant now = .error (.error (.database .unreadable)) := by
  unfold overview
  rw [day, (patterns?_failsWhen isOpen).fails unreadable]
  rfl

theorem row?_returns :
    (∃ row, store.row? tenant today pattern = .ok row) ↔
      (pattern.isActive = true →
        ∃ resolution, horizon.resolve pattern.series today = .ok resolution) := by
  unfold row?
  rw [Horizon.resolve_eq]
  by_cases active : pattern.isActive = true
  · simp [active, map_ok]
  · simp [active, map_ok]

theorem generate_returns (supply : Supply) (keyed : store.Keyed)
    (day : horizon.today now = .ok today) :
    (∃ result, store.generate supply horizon tenant now = .ok result) ↔
      store.Answers horizon tenant today := by
  constructor
  · rintro ⟨⟨summary, after⟩, answered⟩
    obtain ⟨other, same, answers, -⟩ := (generate_ok keyed).mp answered
    rw [day] at same
    cases same
    exact answers
  · intro answers
    exact ⟨(_, _), (generate_ok keyed).mpr ⟨today, day, answers, rfl, rfl⟩⟩

theorem overview_returns (day : horizon.today now = .ok today) :
    (∃ rows, store.overview horizon tenant now = .ok rows) ↔
      store.Answers horizon tenant today ∧ store.Readable tenant := by
  simp only [overview_ok day, exists_and_left, mapM_returns]
  constructor
  · rintro ⟨isOpen, readable, answered⟩
    refine ⟨⟨isOpen, fun row listed owned active => ⟨readable row listed owned, ?_⟩⟩, readable⟩
    have known : row.pattern ∈ store.patternsWhere tenant fun _ => true :=
      mem_patternsWhere.mpr ⟨row, listed, owned, rfl, rfl⟩
    exact row?_returns.mp (answered row.pattern known) active
  · rintro ⟨answers, readable⟩
    refine ⟨answers.1, readable, ?_⟩
    intro pattern known
    obtain ⟨row, listed, owned, -, rfl⟩ := mem_patternsWhere.mp known
    exact row?_returns.mpr fun active => (answers.2 row listed owned active).2

theorem boundTo_patternRow (keyed : store.Keyed) {row : PatternRow}
    (listed : row ∈ store.patterns)
    (member : template ∈ store.boundTo row.pattern.tenant row.pattern.id) :
    store.patternRow template = some row := by
  obtain ⟨-, owned, bound⟩ := mem_boundTo.mp member
  unfold patternRow
  rw [bound, owned]
  exact keyed.findPattern_row listed

theorem collect_made (keyed : store.Keyed) (listed : template ∈ store.templates) {task : Task}
    (made : task ∈ (({ tenant } : Summary).collect now supply
      (store.parts horizon today tenant)).tasks)
    (source : task.template = some template.id) :
    ∃ due, store.part horizon today template = .made due ∧ task.dueDate = some due := by
  simp only [Summary.collect, List.nil_append] at made
  obtain ⟨entry, known, due, id, isMade, rfl⟩ := mem_instances made
  obtain ⟨other, member, rfl⟩ := List.mem_map.mp known
  have same : other = template :=
    keyed.template_unique (List.mem_filter.mp member).1 listed (Option.some.inj source)
  subst same
  exact ⟨due, isMade, rfl⟩

theorem row?_shows (keyed : store.Keyed) {patterns : List Pattern}
    {resolutions : List (Uuid × Resolution)}
    (answered : store.activePatterns? tenant = .ok patterns)
    (looked : resolvePatterns horizon today patterns = .ok resolutions)
    (listed : pattern ∈ store.patternsWhere tenant fun _ => true)
    (told : store.row? tenant today pattern = .ok row) :
    store.Shows horizon tenant today resolutions
      (({ tenant } : Summary).collect now supply (store.parts horizon today tenant))
      pattern row := by
  obtain ⟨kept, known, rfl, -, rfl⟩ := mem_patternsWhere.mp listed
  obtain ⟨nextRun, found, rfl⟩ := map_ok.mp told
  have row {template : Template}
      (member : template ∈ store.boundTo kept.pattern.tenant kept.pattern.id) :
      store.patternRow template = some kept := boundTo_patternRow keyed known member
  have resolved (active : kept.pattern.isActive = true) :
      horizon.resolve kept.pattern.series today = .ok (horizon.resolution today nextRun) := by
    rw [if_pos active] at found
    rw [Horizon.resolve_eq, found]
    rfl
  exact
    { id := rfl
      isActive := rfl
      description := rfl
      templateCount := rfl
      name := by
        unfold rowOf
        cases store.boundTo kept.pattern.tenant kept.pattern.id <;> rfl
      lastRun := latestOf?_isLatest _
      paused := by
        intro paused
        rw [paused] at found
        exact (Except.ok.inj found).symm
      -- The pass has one entry for the pattern, and it comes from the same look at the series.
      resolved := by
        intro active
        have entry := looked_of_resolved keyed answered looked kept.pattern.id
        rw [keyed.findPattern_row known] at entry
        dsimp only at entry
        rw [if_pos active, resolved active] at entry
        obtain ⟨resolution, same, inside⟩ := entry
        cases same
        exact inside
      parts := by
        intro active template member
        rw [part_active (row member) active (resolved active), resolvedPart_exhausted,
          Horizon.resolution_exhausted_iff]
        exact ⟨rfl, Iff.rfl⟩
      tasks := by
        intro template member task made source
        obtain ⟨due, isMade, dated⟩ := collect_made keyed (mem_boundTo.mp member).1 made source
        rw [dated]
        by_cases active : kept.pattern.isActive = true
        · rw [part_active (row member) active (resolved active)] at isMade
          exact (Horizon.resolution_due_iff.mp (resolvedPart_made.mp isMade).1).1.symm
        · -- Of a paused pattern no task is made.
          rw [part_paused (row member) active] at isMade
          split at isMade
          · cases isMade
          · cases isMade }

theorem stats_ok (day : horizon.today now = .ok today) {weekEnd : Date}
    (week : today.addDays? 7 = some weekEnd)
    (told : store.overview horizon tenant now = .ok rows) :
    store.stats horizon tenant now = .ok
      { total := rows.length
        active := rows.countP OverviewRow.isActive
        dueThisWeek := rows.countP fun row =>
          row.nextRun.any fun next => decide (today ≤ next ∧ next ≤ weekEnd) } := by
  unfold stats
  rw [day]
  simp only [Outcome.ofChecked, bind, Except.bind]
  rw [week]
  dsimp only
  rw [told]
  rfl

theorem patternsWhere_filter (store : Store) (tenant : Uuid) (meets : Pattern → Bool) :
    store.patternsWhere tenant meets = (store.patternsWhere tenant fun _ => true).filter meets := by
  unfold patternsWhere
  rw [List.filter_map, List.filter_filter]
  congr 1
  apply List.filter_congr
  intro row _
  simp [Bool.and_comm]

theorem dueThisWeek_eq (weekly : horizon.lookahead = 7) {weekEnd : Date}
    (week : today.addDays? 7 = some weekEnd) {resolutions : List (Uuid × Resolution)}
    (looked : resolvePatterns horizon today (store.patternsWhere tenant Pattern.isActive) =
      .ok resolutions)
    (told : (store.patternsWhere tenant fun _ => true).mapM (store.row? tenant today) =
      .ok rows) :
    (rows.countP fun row =>
        row.nextRun.any fun next => decide (today ≤ next ∧ next ≤ weekEnd)) =
      resolutions.countP fun entry => entry.2.isDue := by
  -- Neither list is part of the other, so both are counted along the patterns they come from.
  let due (pattern : Pattern) : Bool :=
    (horizon.resolve pattern.series today).toOption.any Resolution.isDue
  have entries : (resolutions.countP fun entry => entry.2.isDue) =
      (store.patternsWhere tenant Pattern.isActive).countP due := by
    apply mapM_countP looked
    intro pattern entry resolved
    simp only [due, (resolveOne_ok.mp resolved).2]
    rfl
  have shown : (rows.countP fun row =>
      row.nextRun.any fun next => decide (today ≤ next ∧ next ≤ weekEnd)) =
        (store.patternsWhere tenant fun _ => true).countP fun pattern =>
          due pattern && pattern.isActive := by
    apply mapM_countP told
    intro pattern row told
    obtain ⟨nextRun, found, rfl⟩ := map_ok.mp told
    simp only [due, Horizon.resolve_eq]
    by_cases active : pattern.isActive = true
    · rw [if_pos active] at found
      rw [found, active, Bool.and_true]
      exact (Horizon.resolution_isDue weekly week).symm
    · rw [if_neg active] at found
      cases found
      rw [Bool.eq_false_iff.mpr active, Bool.and_false]
      rfl
  rw [entries, shown, patternsWhere_filter store tenant Pattern.isActive, List.countP_filter]

end Store

/-- The overview has an answer when a pass at the same instant has one and every pattern of the
tenant can be read; then the two agree, on the dates as well as on the counts. -/
theorem overview_agrees {store : Store} {horizon : Horizon} {now : Instant} {today weekEnd : Date}
    (keyed : store.Keyed) (day : horizon.today now = .ok today)
    (week : today.addDays? 7 = some weekEnd) (tenant : Uuid) (supply : Supply) :
    ((∃ rows, store.overview horizon tenant now = .ok rows) ↔
      (∃ result, store.generate supply horizon tenant now = .ok result) ∧
        store.Readable tenant) ∧
    (store.isOpen = true → ¬ store.Readable tenant →
      store.overview horizon tenant now = .error (.error (.database .unreadable))) ∧
    ∀ rows, store.overview horizon tenant now = .ok rows →
      ∃ summary after patterns resolutions stats,
        store.generate supply horizon tenant now = .ok (summary, after) ∧
        store.activePatterns? tenant = .ok patterns ∧
        resolvePatterns horizon today patterns = .ok resolutions ∧
        store.stats horizon tenant now = .ok stats ∧
        summary = ({ tenant } : Summary).collect now supply (store.parts horizon today tenant) ∧
        List.Forall₂ (store.Shows horizon tenant today resolutions summary)
          (store.patternsWhere tenant fun _ => true) rows ∧
        (horizon.lookahead = 7 →
          stats.dueThisWeek = resolutions.countP fun entry => entry.2.isDue) := by
  refine ⟨?_, fun isOpen => Store.overview_unreadable day isOpen, ?_⟩
  · rw [Store.overview_returns day, Store.generate_returns supply keyed day]
  · intro rows told
    -- An overview that returns has looked at every series that a pass looks at.
    have answers := (Store.overview_returns day).mp ⟨rows, told⟩
    obtain ⟨⟨summary, after⟩, passed⟩ :=
      (Store.generate_returns supply keyed day).mpr answers.1
    obtain ⟨_, sameDay, -, rfl, rfl⟩ := (Store.generate_ok keyed).mp passed
    rw [day] at sameDay
    cases sameDay
    obtain ⟨patterns, resolutions, loaded, looked⟩ := answers_iff.mp answers.1
    obtain ⟨-, -, listed⟩ := (Store.overview_ok day).mp told
    refine ⟨_, _, patterns, resolutions, _, passed, loaded, looked,
      Store.stats_ok day week told, rfl, ?_, ?_⟩
    · refine (mapM_forall₂ listed).imp ?_
      rintro pattern row ⟨known, shown⟩
      exact Store.row?_shows keyed loaded looked known shown
    · intro weekly
      obtain ⟨-, -, rfl⟩ := Store.loadPatterns_iff.mp loaded
      exact Store.dueThisWeek_eq weekly week looked listed

theorem filing_overview_agrees :
    (filing true).Keyed ∧ ({} : Horizon).today filingDay = .ok filingDay.day ∧
    filingDay.day.addDays? 7 = some ⟨19835, by decide, by decide⟩ ∧
    ∃ rows stats,
      (filing true).overview {} (.ofNat 1) filingDay = .ok rows ∧
      rows.map (fun row => (row.name, row.nextRun)) =
        [("Return", some filingDue), ("Statement", none)] ∧
      (filing true).stats {} (.ofNat 1) filingDay = .ok stats ∧ stats.dueThisWeek = 1 := by
  have keyed : (filing true).Keyed := ⟨by decide +kernel, by decide +kernel⟩
  have day : ({} : Horizon).today filingDay = .ok filingDay.day := by decide +kernel
  have week : filingDay.day.addDays? 7 = some ⟨19835, by decide, by decide⟩ := by decide +kernel
  have readable : (filing true).Readable (.ofNat 1) := by
    unfold Store.Readable
    decide +kernel
  obtain ⟨returns, -, agree⟩ := overview_agrees keyed day week (.ofNat 1) filingSupply
  obtain ⟨rows, told⟩ := returns.mpr ⟨⟨_, rfl⟩, readable⟩
  obtain ⟨summary, after, patterns, resolutions, stats, -, loaded, looked, counted, -, -, due⟩ :=
    agree rows told
  refine ⟨keyed, day, week, rows, stats, told, ?_, counted, ?_⟩
  · cases told
    decide +kernel
  · rw [due rfl]
    cases loaded
    cases looked
    decide +kernel

/-- A paused pattern that cannot be read takes the rows of all patterns along, while the pass, which
does not ask for it, has its answer. -/
theorem unreadable_paused_unlisted :
    (filing false).Keyed ∧
    ((filing false).generate filingSupply {} (.ofNat 1) filingDay).isOk = true ∧
    (filing false).overview {} (.ofNat 1) filingDay = .error (.error (.database .unreadable)) ∧
    ((filing false).patternsWhere (.ofNat 1) fun _ => true).length = 2 := by
  refine ⟨⟨by decide +kernel, by decide +kernel⟩, ?_, ?_, ?_⟩
  · decide +kernel
  · rfl
  · decide +kernel

end Rota
