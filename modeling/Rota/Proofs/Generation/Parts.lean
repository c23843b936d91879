import Rota.Generation.Pass
import Rota.Proofs.Store.Instances

/-!
A pass as the sum of its parts. The part of a template is read off the template, the row of its
pattern, its instances before the pass and whether the store refuses its title; no other template
has a say in it. A step of the pass takes the part of one template, and taking it leaves the parts
of all templates with other identifiers as they were.
-/

namespace Rota

/-- What a pass comes to for one template. -/
inductive Part where
  /-- Nothing to be done and nothing to be told. -/
  | idle
  | exhausted
  | notDue
  | duplicate
  | made (due : Date)
  | failed (message : String)
  deriving DecidableEq

def Part.isMade : Part → Bool
  | made _ => true
  | _ => false

def Part.isFailed : Part → Bool
  | failed _ => true
  | _ => false

theorem Part.isMade_iff {part : Part} : part.isMade = true ↔ ∃ due, part = .made due := by
  cases part <;> simp [isMade]

/-- The part of a template, by the row of its pattern. A pass has an answer only if the series of
every active pattern has one. -/
def Template.part (horizon : Horizon) (today : Date) (template : Template)
    (row : Option PatternRow) (hasInstance : Date → Bool) (refused : Bool) : Part :=
  match template.pattern, row with
  | none, _ => .idle
  | some _, none => .failed missingPatternMessage
  | some _, some row =>
    if row.pattern.isActive then
      match horizon.resolve row.pattern.series today with
      | .ok .exhausted => .exhausted
      | .ok (.notDue _) => .notDue
      | .ok (.due date) =>
        if hasInstance date then .duplicate
        else if refused then .failed (Error.database (.refused template.work.title)).message
        else .made date
      | .error _ => .idle
    else if row.readable then .idle
    else .failed (Error.database .unreadable).message

namespace Horizon

def resolution (horizon : Horizon) (today : Date) : Option Date → Resolution
  | none => .exhausted
  | some candidate => horizon.classify today candidate

theorem resolve_eq (horizon : Horizon) (series : Series) (today : Date) :
    horizon.resolve series today =
      (series.nextOccurrence today).map (horizon.resolution today) := by
  unfold resolve
  cases series.nextOccurrence today with
  | error fault => rfl
  | ok nextRun => cases nextRun <;> rfl

variable {horizon : Horizon} {today due : Date} {nextRun : Option Date}

theorem resolution_due_iff :
    horizon.resolution today nextRun = .due due ↔
      nextRun = some due ∧ horizon.reaches due today = true := by
  cases nextRun with
  | none => simp [resolution]
  | some candidate =>
    simp only [resolution, classify, Option.some.injEq]
    by_cases reached : horizon.reaches candidate today = true
    · rw [if_pos reached, Resolution.due.injEq]
      constructor
      · rintro rfl
        exact ⟨rfl, reached⟩
      · exact fun same => same.1
    · rw [if_neg reached]
      constructor
      · intro same
        cases same
      · rintro ⟨rfl, isReached⟩
        exact absurd isReached reached

theorem resolution_exhausted_iff :
    horizon.resolution today nextRun = .exhausted ↔ nextRun = none := by
  cases nextRun with
  | none => simp [resolution]
  | some candidate =>
    simp only [resolution, classify]
    split <;> simp

end Horizon

namespace Store

def patternRow (store : Store) (template : Template) : Option PatternRow :=
  template.pattern.bind fun id => store.patterns.find? (PatternRow.isFor template.tenant id)

def part (store : Store) (horizon : Horizon) (today : Date) (template : Template) : Part :=
  template.part horizon today (store.patternRow template) (store.hasInstance template)
    (store.refuses template)

def resolvedPart (store : Store) (template : Template) : Resolution → Part
  | .exhausted => .exhausted
  | .notDue _ => .notDue
  | .due date =>
    if store.hasInstance template date then .duplicate
    else if store.refuses template then
      .failed (Error.database (.refused template.work.title)).message
    else .made date

variable {store : Store} {horizon : Horizon} {today : Date} {template : Template}
  {row : PatternRow} {id : Uuid} {resolution : Resolution} {due : Date}

/-- A due occurrence has its task already, or its title is refused, or its task is made. -/
theorem resolvedPart_due (store : Store) (template : Template) (date : Date) :
    (store.hasInstance template date = true ∧
      store.resolvedPart template (.due date) = .duplicate) ∨
    (store.hasInstance template date = false ∧ store.refuses template = true ∧
      store.resolvedPart template (.due date) =
        .failed (Error.database (.refused template.work.title)).message) ∨
    (store.hasInstance template date = false ∧ store.refuses template = false ∧
      store.resolvedPart template (.due date) = .made date) := by
  cases present : store.hasInstance template date with
  | true => simp [resolvedPart, present]
  | false => cases refused : store.refuses template <;> simp [resolvedPart, present, refused]

theorem resolvedPart_made :
    store.resolvedPart template resolution = .made due ↔
      resolution = .due due ∧ store.hasInstance template due = false ∧
        store.refuses template = false := by
  cases resolution with
  | exhausted => simp [resolvedPart]
  | notDue date => simp [resolvedPart]
  | due date =>
    rw [Resolution.due.injEq]
    rcases store.resolvedPart_due template date with
      ⟨present, part⟩ | ⟨-, refused, part⟩ | ⟨absent, accepted, part⟩
    · rw [part]
      simp only [reduceCtorEq, false_iff]
      rintro ⟨rfl, absent, -⟩
      exact Bool.noConfusion (present.symm.trans absent)
    · simp [part, refused]
    · rw [part, Part.made.injEq, accepted]
      exact ⟨fun same => ⟨same, same ▸ absent, rfl⟩, fun made => made.1⟩

theorem resolvedPart_exhausted :
    store.resolvedPart template resolution = .exhausted ↔ resolution = .exhausted := by
  cases resolution with
  | exhausted => simp [resolvedPart]
  | notDue date => simp [resolvedPart]
  | due date =>
    rcases store.resolvedPart_due template date with ⟨-, part⟩ | ⟨-, -, part⟩ | ⟨-, -, part⟩ <;>
      simp [part]

theorem resolvedPart_busy : store.resolvedPart template resolution ≠ .idle := by
  cases resolution with
  | exhausted => simp [resolvedPart]
  | notDue date => simp [resolvedPart]
  | due date =>
    rcases store.resolvedPart_due template date with ⟨-, part⟩ | ⟨-, -, part⟩ | ⟨-, -, part⟩ <;>
      simp [part]

theorem patternRow_mem (found : store.patternRow template = some row) :
    row ∈ store.patterns ∧ row.pattern.tenant = template.tenant := by
  obtain ⟨id, -, found⟩ := Option.bind_eq_some_iff.mp found
  exact ⟨List.mem_of_find?_eq_some found, (PatternRow.isFor_iff.mp (List.find?_some found)).1⟩

theorem part_unbound (unbound : template.pattern = none) :
    store.part horizon today template = .idle := by
  unfold part Template.part
  rw [unbound]

theorem part_missing (bound : template.pattern = some id)
    (missing : store.patternRow template = none) :
    store.part horizon today template = .failed missingPatternMessage := by
  unfold part Template.part
  rw [bound, missing]

theorem part_active (found : store.patternRow template = some row)
    (active : row.pattern.isActive = true)
    (resolved : horizon.resolve row.pattern.series today = .ok resolution) :
    store.part horizon today template = store.resolvedPart template resolution := by
  obtain ⟨id, bound, -⟩ := Option.bind_eq_some_iff.mp found
  unfold part Template.part
  rw [found, bound]
  dsimp only
  rw [if_pos active, resolved]
  cases resolution <;> rfl

theorem part_paused (found : store.patternRow template = some row)
    (paused : ¬ row.pattern.isActive = true) :
    store.part horizon today template =
      if row.readable then .idle else .failed (Error.database .unreadable).message := by
  obtain ⟨id, bound, -⟩ := Option.bind_eq_some_iff.mp found
  unfold part Template.part
  rw [found, bound]
  dsimp only
  rw [if_neg paused]

end Store

/-- What the look at the patterns comes to, in terms of the rows: it has an entry for each active
pattern of the tenant, and for no other. -/
def Looked (horizon : Horizon) (tenant : Uuid) (today : Date) (rows : List PatternRow)
    (resolutions : List (Uuid × Resolution)) : Prop :=
  ∀ id, match rows.find? (PatternRow.isFor tenant id) with
    | none => resolutions.find? (fun entry => entry.1 == id) = none
    | some row =>
      if row.pattern.isActive then
        ∃ resolution, horizon.resolve row.pattern.series today = .ok resolution ∧
          resolutions.find? (fun entry => entry.1 == id) = some (id, resolution)
      else resolutions.find? (fun entry => entry.1 == id) = none

namespace Progress

def take (now : Instant) (progress : Progress) (template : Template) : Part → Progress
  | .idle => progress
  | .exhausted => progress.countExhausted
  | .notDue => progress.countNotDue
  | .duplicate => progress.countDuplicate
  | .failed message => progress.note template.id template.work.title message
  | .made due =>
    let task := template.instantiate due now progress.supply.id
    progress.record template.id template.work
      (.ok (.created task, progress.store.withInstance template task now))

end Progress

section Look
variable {store : Store} {horizon : Horizon} {tenant : Uuid} {today : Date}

/-- The active patterns of the tenant can be read, and their series have an answer. -/
def Store.Answers (store : Store) (horizon : Horizon) (tenant : Uuid) (today : Date) : Prop :=
  store.isOpen = true ∧ ∀ row ∈ store.patterns, row.pattern.tenant = tenant →
    row.pattern.isActive = true →
    row.readable = true ∧ ∃ resolution, horizon.resolve row.pattern.series today = .ok resolution

theorem resolveOne_ok {pattern : Pattern} {entry : Uuid × Resolution} :
    (do return (pattern.id, ← horizon.resolve pattern.series today) : Checked _) = .ok entry ↔
      entry.1 = pattern.id ∧ horizon.resolve pattern.series today = .ok entry.2 := by
  rcases entry with ⟨id, resolution⟩
  cases horizon.resolve pattern.series today with
  | error fault => simp [bind, Except.bind]
  | ok found => simp [bind, Except.bind, pure, Except.pure, eq_comm]

theorem answers_iff :
    store.Answers horizon tenant today ↔ ∃ patterns resolutions,
      store.activePatterns? tenant = .ok patterns ∧
        resolvePatterns horizon today patterns = .ok resolutions := by
  constructor
  · rintro ⟨isOpen, answers⟩
    obtain ⟨resolutions, resolved⟩ : ∃ resolutions,
        resolvePatterns horizon today (store.patternsWhere tenant Pattern.isActive) =
          .ok resolutions := by
      apply mapM_returns.mpr
      intro pattern member
      obtain ⟨row, listed, owned, active, rfl⟩ := Store.mem_patternsWhere.mp member
      obtain ⟨resolution, resolved⟩ := (answers row listed owned active).2
      exact ⟨(row.pattern.id, resolution), resolveOne_ok.mpr ⟨rfl, resolved⟩⟩
    have readable (row : PatternRow) (listed : row ∈ store.patterns)
        (owned : row.pattern.tenant = tenant) (active : row.pattern.isActive = true) :
        row.readable = true := (answers row listed owned active).1
    exact ⟨_, resolutions, Store.loadPatterns_iff.mpr ⟨isOpen, readable, rfl⟩, resolved⟩
  · rintro ⟨patterns, resolutions, answered, resolved⟩
    obtain ⟨isOpen, readable, rfl⟩ := Store.loadPatterns_iff.mp answered
    refine ⟨isOpen, fun row listed owned active => ⟨readable row listed owned active, ?_⟩⟩
    obtain ⟨entry, found⟩ := mapM_returns.mp ⟨resolutions, resolved⟩ row.pattern
      (Store.mem_patternsWhere.mpr ⟨row, listed, owned, active, rfl⟩)
    exact ⟨entry.2, (resolveOne_ok.mp found).2⟩

theorem mem_resolutions {patterns : List Pattern} {resolutions : List (Uuid × Resolution)}
    (answered : store.activePatterns? tenant = .ok patterns)
    (resolved : resolvePatterns horizon today patterns = .ok resolutions)
    {entry : Uuid × Resolution} :
    entry ∈ resolutions ↔ ∃ row ∈ store.patterns, row.pattern.tenant = tenant ∧
      row.pattern.isActive = true ∧ row.readable = true ∧ entry.1 = row.pattern.id ∧
      horizon.resolve row.pattern.series today = .ok entry.2 := by
  obtain ⟨-, readable, rfl⟩ := Store.loadPatterns_iff.mp answered
  rw [mem_of_mapM resolved]
  constructor
  · rintro ⟨pattern, known, found⟩
    obtain ⟨row, listed, owned, active, rfl⟩ := Store.mem_patternsWhere.mp known
    have place := resolveOne_ok.mp found
    exact ⟨row, listed, owned, active, readable row listed owned active, place.1, place.2⟩
  · rintro ⟨row, listed, owned, active, -, same, found⟩
    exact ⟨row.pattern, Store.mem_patternsWhere.mpr ⟨row, listed, owned, active, rfl⟩,
      resolveOne_ok.mpr ⟨same, found⟩⟩

theorem looked_of_resolved (keyed : store.Keyed) {patterns : List Pattern}
    {resolutions : List (Uuid × Resolution)}
    (answered : store.activePatterns? tenant = .ok patterns)
    (resolved : resolvePatterns horizon today patterns = .ok resolutions) :
    Looked horizon tenant today store.patterns resolutions := by
  intro id
  have entries {entry : Uuid × Resolution} : entry ∈ resolutions ↔ _ :=
    mem_resolutions answered resolved
  cases found : store.patterns.find? (PatternRow.isFor tenant id) with
  | none =>
    dsimp only
    rw [List.find?_eq_none]
    intro entry member same
    obtain ⟨row, listed, owned, -, -, named, -⟩ := entries.mp member
    have absent := List.find?_eq_none.mp found row listed
    rw [PatternRow.isFor_iff] at absent
    exact absent ⟨owned, named.symm.trans (eq_of_beq same)⟩
  | some row =>
    have key := PatternRow.isFor_iff.mp (List.find?_some found)
    have listed := List.mem_of_find?_eq_some found
    have unique {other : PatternRow} (known : other ∈ store.patterns)
        (same : other.pattern.id = id) : other = row :=
      keyed.pattern_unique known listed (same.trans key.2.symm)
    by_cases active : row.pattern.isActive = true
    · dsimp only
      rw [if_pos active]
      obtain ⟨readable, resolution, answer⟩ :=
        (answers_iff.mpr ⟨patterns, resolutions, answered, resolved⟩).2 row listed key.1 active
      refine ⟨resolution, answer, ?_⟩
      have member : (id, resolution) ∈ resolutions :=
        entries.mpr ⟨row, listed, key.1, active, readable, key.2.symm, answer⟩
      -- There may be no other entry under this identifier, since it belongs to one row only.
      cases looked : resolutions.find? (fun entry => entry.1 == id) with
      | none => exact absurd (beq_self_eq_true id) (List.find?_eq_none.mp looked _ member)
      | some entry =>
        have named : entry.1 = id := by simpa using List.find?_some looked
        obtain ⟨other, known, -, -, -, same, answer'⟩ :=
          entries.mp (List.mem_of_find?_eq_some looked)
        rw [unique known (same.symm.trans named), answer] at answer'
        rw [← named, Except.ok.inj answer']
    · dsimp only
      rw [if_neg active, List.find?_eq_none]
      intro entry member same
      obtain ⟨other, known, -, busy, -, named, -⟩ := entries.mp member
      rw [unique known (named.symm.trans (eq_of_beq same))] at busy
      exact active busy

end Look

section Step
variable {horizon : Horizon} {today : Date} (now : Instant) {tenant : Uuid}
  {resolutions : List (Uuid × Resolution)} {progress : Progress} {template : Template}

theorem stepTemplate_part (isOpen : progress.store.isOpen = true)
    (stored : progress.store.hasTemplate template = true)
    (own : progress.summary.tenant = tenant) (owned : template.tenant = tenant)
    (looked : Looked horizon tenant today progress.store.patterns resolutions) :
    stepTemplate resolutions now progress template =
      progress.take now template (progress.store.part horizon today template) := by
  subst own
  unfold stepTemplate Store.part Store.patternRow Template.part
  -- Both look at the pattern bound, at the row under its identifier and at what it resolved to.
  cases bound : template.pattern with
  | none => rfl
  | some id =>
    have entry := looked id
    dsimp only [Option.bind]
    rw [owned]
    cases found : progress.store.patterns.find? (PatternRow.isFor progress.summary.tenant id) with
    | none =>
      rw [found] at entry
      dsimp only at entry ⊢
      rw [entry, Store.findPattern_eq isOpen, found]
      rfl
    | some row =>
      rw [found] at entry
      dsimp only at entry ⊢
      by_cases active : row.pattern.isActive = true
      · rw [if_pos active] at entry ⊢
        obtain ⟨resolution, resolved, listed⟩ := entry
        rw [listed, resolved]
        cases resolution with
        | exhausted => rfl
        | notDue date => rfl
        | due date =>
          dsimp only
          rw [Store.materializeTemplate_eq progress.supply isOpen stored,
            ← Store.hasInstance_find?]
          cases existing : progress.store.tasks.find? (Task.isInstanceOf template date) with
          | some task => rfl
          | none =>
            by_cases refused : progress.store.refuses template = true
            · simp [refused, Progress.take, Progress.record]
            · simp [refused, Progress.take]
      · rw [if_neg active] at entry ⊢
        rw [entry, Store.findPattern_eq isOpen, found]
        cases readable : row.readable with
        | true => simp [PatternRow.load, readable, Except.map, Progress.take]
        | false => simp [PatternRow.load, readable, Except.map, Progress.take]

/-- Taking a part changes nothing that the part of another template is read off. -/
theorem take_part_other (part : Part) {other : Template} (apart : template.id ≠ other.id) :
    (progress.take now template part).store.part horizon today other =
      progress.store.part horizon today other := by
  cases part with
  | made due =>
    have unrelated (day : Date) :
        (template.instantiate due now progress.supply.id).isInstanceOf other day = false := by
      rw [Bool.eq_false_iff]
      intro related
      exact apart (Template.isFor_iff.mp (Template.isInstanceOf_instantiate.mp related).1).2
    have instances : (progress.take now template (.made due)).store.hasInstance other =
        progress.store.hasInstance other := by
      funext day
      simp [Progress.take, Progress.record, unrelated]
    unfold Store.part
    rw [instances]
    rfl
  | idle | exhausted | notDue | duplicate | failed _ => rfl

theorem take_hasTemplate (part : Part) (other : Template) :
    (progress.take now template part).store.hasTemplate other =
      progress.store.hasTemplate other := by
  cases part with
  | made due => simp [Progress.take, Progress.record]
  | idle | exhausted | notDue | duplicate | failed _ => rfl

theorem take_frame (progress : Progress) (template : Template) (part : Part) :
    (progress.take now template part).store.isOpen = progress.store.isOpen ∧
    (progress.take now template part).store.patterns = progress.store.patterns ∧
    (progress.take now template part).summary.tenant = progress.summary.tenant := by
  cases part <;> exact ⟨rfl, rfl, rfl⟩

end Step

section Pass
variable {horizon : Horizon} {today : Date} (now : Instant) {tenant : Uuid}
  {resolutions : List (Uuid × Resolution)}

/-- Each template takes the part that it had before the pass. -/
theorem foldl_stepTemplate (part : Template → Part) (templates : List Template)
    (distinct : (templates.map Template.id).Nodup) (owned : ∀ t ∈ templates, t.tenant = tenant)
    (progress : Progress) (isOpen : progress.store.isOpen = true)
    (own : progress.summary.tenant = tenant)
    (stored : ∀ t ∈ templates, progress.store.hasTemplate t = true)
    (looked : Looked horizon tenant today progress.store.patterns resolutions)
    (parts : ∀ t ∈ templates, progress.store.part horizon today t = part t) :
    templates.foldl (stepTemplate resolutions now) progress =
      templates.foldl (fun progress t => progress.take now t (part t)) progress := by
  induction templates generalizing progress with
  | nil => rfl
  | cons first rest ih =>
    have firstMember : first ∈ first :: rest := List.mem_cons_self
    have later {t : Template} (member : t ∈ rest) : t ∈ first :: rest :=
      List.mem_cons_of_mem _ member
    rw [List.map_cons, List.nodup_cons] at distinct
    have step := stepTemplate_part now isOpen (stored first firstMember) own
      (owned first firstMember) looked
    rw [parts first firstMember] at step
    rw [List.foldl_cons, List.foldl_cons, step]
    obtain ⟨sameOpen, samePatterns, sameTenant⟩ :=
      take_frame now progress first (part first)
    -- Everything that the parts of the rest are read off is still there after this step.
    apply ih distinct.2
    · intro t member
      exact owned t (later member)
    · exact sameOpen.trans isOpen
    · exact sameTenant.trans own
    · intro t member
      rw [take_hasTemplate]
      exact stored t (later member)
    · rw [samePatterns]
      exact looked
    · intro t member
      have apart : first.id ≠ t.id := by
        intro same
        exact distinct.1 (same ▸ List.mem_map_of_mem member)
      rw [take_part_other now _ apart]
      exact parts t (later member)

end Pass

section Answers
variable {store after : Store} {supply : Supply} {horizon : Horizon} {tenant : Uuid}
  {now : Instant} {summary : Summary}

/-- A pass over templates is the steps over those of the tenant, once the patterns are loaded and
looked at. -/
theorem Store.generate_by_steps :
    store.generate supply horizon tenant now = .ok (summary, after) ↔
      ∃ today patterns resolutions, horizon.today now = .ok today ∧
        store.activePatterns? tenant = .ok patterns ∧
        resolvePatterns horizon today patterns = .ok resolutions ∧
        let last := (store.templates.filter fun template => template.tenant == tenant).foldl
          (stepTemplate resolutions now) (.start store supply tenant)
        summary = last.summary ∧ after = last.store := by
  constructor
  · intro answered
    obtain ⟨today, day, answered⟩ := bind_ok.mp answered
    obtain ⟨patterns, loaded, answered⟩ := bind_ok.mp answered
    obtain ⟨templates, listed, answered⟩ := bind_ok.mp answered
    obtain ⟨resolutions, resolved, answered⟩ := bind_ok.mp answered
    rw [Outcome.ofChecked_ok] at day resolved
    rw [Outcome.ofExcept_ok] at loaded listed
    rw [templates?_open (loadPatterns_ok.mp loaded).1] at listed
    cases listed
    cases answered
    exact ⟨today, patterns, resolutions, day, loaded, resolved, rfl, rfl⟩
  · rintro ⟨today, patterns, resolutions, day, loaded, resolved, rfl, rfl⟩
    have listed : store.templates? tenant = .ok _ := templates?_open (loadPatterns_ok.mp loaded).1
    exact bind_ok.mpr ⟨today, Outcome.ofChecked_ok.mpr day,
      bind_ok.mpr ⟨patterns, Outcome.ofExcept_ok.mpr loaded,
        bind_ok.mpr ⟨_, Outcome.ofExcept_ok.mpr listed,
          bind_ok.mpr ⟨resolutions, Outcome.ofChecked_ok.mpr resolved, rfl⟩⟩⟩⟩

theorem Store.generateRecurring_by_steps :
    store.generateRecurring supply horizon tenant now = .ok (summary, after) ↔
      ∃ today roots last, horizon.today now = .ok today ∧ store.recurringRoots tenant = .ok roots ∧
        roots.foldlM (stepRoot horizon today now) (.start store supply tenant) = .ok last ∧
        summary = last.summary ∧ after = last.store := by
  constructor
  · intro answered
    obtain ⟨today, day, answered⟩ := bind_ok.mp answered
    obtain ⟨roots, found, answered⟩ := bind_ok.mp answered
    obtain ⟨last, walked, answered⟩ := bind_ok.mp answered
    rw [Outcome.ofChecked_ok] at day walked
    rw [Outcome.ofExcept_ok] at found
    cases answered
    exact ⟨today, roots, last, day, found, walked, rfl, rfl⟩
  · rintro ⟨today, roots, last, day, found, walked, rfl, rfl⟩
    exact bind_ok.mpr ⟨today, Outcome.ofChecked_ok.mpr day,
      bind_ok.mpr ⟨roots, Outcome.ofExcept_ok.mpr found,
        bind_ok.mpr ⟨last, Outcome.ofChecked_ok.mpr walked, rfl⟩⟩⟩

end Answers
end Rota
