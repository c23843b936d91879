import Rota.Proofs.Generation.Parts

/-!
What a pass comes to as a whole. Its summary is collected from the parts of the tenant's templates
in the order of creation, and the store after it has the tasks of that summary behind the others and
a stamp on the templates that made them. A template that fails adds its entry to the errors and
nothing else, wherever it stands.
-/

namespace Rota

def Part.failure? (template : Template) : Part → Option FailedSource
  | .failed message => some ⟨template.id, template.work.title, message⟩
  | _ => none

def instances (now : Instant) : Supply → List (Template × Part) → List Task
  | _, [] => []
  | supply, (template, .made due) :: rest =>
    template.instantiate due now supply.id ::
      instances now (supply.drop template.work.idsNeeded) rest
  | supply, _ :: rest => instances now supply rest

def Summary.collect (summary : Summary) (now : Instant) (supply : Supply)
    (parts : List (Template × Part)) : Summary :=
  { summary with
    count := summary.count + parts.countP fun entry => entry.2.isMade
    tasks := summary.tasks ++ instances now supply parts
    duplicates := summary.duplicates + parts.countP fun entry => entry.2 == .duplicate
    notDue := summary.notDue + parts.countP fun entry => entry.2 == .notDue
    exhausted := summary.exhausted + parts.countP fun entry => entry.2 == .exhausted
    errors := summary.errors ++ parts.filterMap fun entry => entry.2.failure? entry.1 }

namespace Store

def parts (store : Store) (horizon : Horizon) (today : Date) (tenant : Uuid) :
    List (Template × Part) :=
  (store.templates.filter fun template => template.tenant == tenant).map fun template =>
    (template, store.part horizon today template)

def isMadeBy (parts : List (Template × Part)) (row : Template) : Bool :=
  parts.any fun entry => entry.2.isMade && row.isFor entry.1.tenant entry.1.id

def withParts (store : Store) (now : Instant) (parts : List (Template × Part))
    (tasks : List Task) : Store :=
  { store with
    tasks := store.tasks ++ tasks.map Task.kept
    templates := store.templates.map fun row => if isMadeBy parts row then row.stamp now else row }

end Store

section Collect
variable (now : Instant) {progress : Progress} {template : Template}

theorem take_quiet (progress : Progress) {part : Part} (quiet : part.isMade = false) :
    (progress.take now template part).store = progress.store ∧
      (progress.take now template part).supply = progress.supply := by
  cases part with
  | made due => cases quiet
  | idle | exhausted | notDue | duplicate | failed _ => exact ⟨rfl, rfl⟩

theorem instances_quiet {part : Part} (quiet : part.isMade = false) (supply : Supply)
    (rest : List (Template × Part)) :
    instances now supply ((template, part) :: rest) = instances now supply rest := by
  cases part with
  | made due => cases quiet
  | idle | exhausted | notDue | duplicate | failed _ => rfl

theorem withParts_quiet {part : Part} (quiet : part.isMade = false) (store : Store)
    (rest : List (Template × Part)) (tasks : List Task) :
    store.withParts now ((template, part) :: rest) tasks = store.withParts now rest tasks := by
  have same (row : Template) :
      Store.isMadeBy ((template, part) :: rest) row = Store.isMadeBy rest row := by
    simp [Store.isMadeBy, quiet]
  simp [Store.withParts, same]

-- Stamping a row again at the same instant changes nothing, so one stamp stands for several.
theorem withParts_made (due : Date) (store : Store) (task : Task)
    (rest : List (Template × Part)) (tasks : List Task) :
    (store.withInstance template task now).withParts now rest tasks =
      store.withParts now ((template, .made due) :: rest) (task :: tasks) := by
  have rows (row : Template) : Store.isMadeBy ((template, .made due) :: rest) row =
      (row.isFor template.tenant template.id || Store.isMadeBy rest row) := rfl
  have stamped (row : Template) :
      Store.isMadeBy rest (row.stamp now) = Store.isMadeBy rest row := rfl
  simp only [Store.withParts, Store.withInstance, List.map_cons, List.append_assoc,
    List.singleton_append, List.map_map, rows]
  congr 1
  apply List.map_congr_left
  intro row _
  rw [Function.comp_apply]
  by_cases first : row.isFor template.tenant template.id = true
  · rw [if_pos first, stamped, first, Bool.true_or, if_pos rfl]
    split <;> rfl
  · rw [if_neg first, Bool.eq_false_iff.mpr first, Bool.false_or]

theorem take_collect (part : Part) (rest : List (Template × Part)) :
    (progress.take now template part).summary.collect now
        (progress.take now template part).supply rest =
      progress.summary.collect now progress.supply ((template, part) :: rest) := by
  cases part <;>
    simp [Progress.take, Progress.record, Progress.countDuplicate, Progress.countNotDue,
      Progress.countExhausted, Progress.note, Summary.collect, instances, Part.isMade,
      Part.failure?, Nat.add_comm, Nat.add_assoc]

theorem take_withParts (part : Part) (rest : List (Template × Part)) :
    (progress.take now template part).store.withParts now rest
        (instances now (progress.take now template part).supply rest) =
      progress.store.withParts now ((template, part) :: rest)
        (instances now progress.supply ((template, part) :: rest)) := by
  by_cases made : part.isMade = true
  · obtain ⟨due, rfl⟩ := Part.isMade_iff.mp made
    exact withParts_made now due progress.store _ rest _
  · rw [Bool.not_eq_true] at made
    obtain ⟨sameStore, sameSupply⟩ := take_quiet now progress made
    rw [sameStore, sameSupply, instances_quiet now made, withParts_quiet now made]

-- The supply runs along: what the rest takes begins where the first part left off.
theorem foldl_take (parts : List (Template × Part)) (progress : Progress) :
    (parts.foldl (fun progress entry => progress.take now entry.1 entry.2) progress).summary =
        progress.summary.collect now progress.supply parts ∧
      (parts.foldl (fun progress entry => progress.take now entry.1 entry.2) progress).store =
        progress.store.withParts now parts (instances now progress.supply parts) := by
  induction parts generalizing progress with
  | nil => simp [Summary.collect, Store.withParts, Store.isMadeBy, instances]
  | cons entry rest ih =>
    rcases entry with ⟨template, part⟩
    obtain ⟨summary, store⟩ := ih (progress.take now template part)
    rw [List.foldl_cons]
    exact ⟨summary.trans (take_collect now part rest), store.trans (take_withParts now part rest)⟩

end Collect

section Pass
variable {store after : Store} {supply : Supply} {horizon : Horizon} {tenant : Uuid}
  {now : Instant} {today : Date} {summary : Summary}

theorem hasTemplate_of_mem {template : Template} (listed : template ∈ store.templates) :
    store.hasTemplate template = true := by
  unfold Store.hasTemplate
  exact List.any_eq_true.mpr ⟨template, listed, Template.isFor_iff.mpr ⟨rfl, rfl⟩⟩

/-- The loop of a pass collects the parts that the templates had before it. -/
theorem foldl_stepTemplate_start (supply : Supply) (now : Instant) (keyed : store.Keyed)
    (isOpen : store.isOpen = true)
    {resolutions : List (Uuid × Resolution)}
    (looked : Looked horizon tenant today store.patterns resolutions) :
    let parts := store.parts horizon today tenant
    let progress := (store.templates.filter fun template => template.tenant == tenant).foldl
      (stepTemplate resolutions now) (.start store supply tenant)
    progress.summary = ({ tenant } : Summary).collect now supply parts ∧
      progress.store = store.withParts now parts (instances now supply parts) := by
  have loop := foldl_stepTemplate now (store.part horizon today)
    (store.templates.filter fun template => template.tenant == tenant)
    (keyed.templates.sublist (List.filter_sublist.map _))
    (fun template member => eq_of_beq (List.mem_filter.mp member).2)
    (.start store supply tenant) isOpen rfl
    (fun template member => hasTemplate_of_mem (List.mem_filter.mp member).1)
    looked (fun _ _ => rfl)
  have taken := foldl_take now (store.parts horizon today tenant)
    (.start store supply tenant)
  rw [Store.parts, List.foldl_map] at taken
  dsimp only
  rw [loop]
  exact taken

theorem Store.generate_ok (keyed : store.Keyed) :
    store.generate supply horizon tenant now = .ok (summary, after) ↔
      ∃ today, horizon.today now = .ok today ∧ store.Answers horizon tenant today ∧
        summary = ({ tenant } : Summary).collect now supply (store.parts horizon today tenant) ∧
        after = store.withParts now (store.parts horizon today tenant)
          (instances now supply (store.parts horizon today tenant)) := by
  rw [generate_by_steps]
  constructor
  · rintro ⟨today, patterns, resolutions, day, loaded, resolved, rfl, rfl⟩
    have answers := answers_iff.mpr ⟨patterns, resolutions, loaded, resolved⟩
    exact ⟨today, day, answers,
      foldl_stepTemplate_start supply now keyed answers.1 (looked_of_resolved keyed loaded resolved)⟩
  · rintro ⟨today, day, answers, rfl, rfl⟩
    obtain ⟨patterns, resolutions, loaded, resolved⟩ := answers_iff.mp answers
    obtain ⟨summary, stored⟩ := foldl_stepTemplate_start supply now keyed answers.1
      (looked_of_resolved keyed loaded resolved)
    exact ⟨today, patterns, resolutions, day, loaded, resolved, summary.symm, stored.symm⟩

theorem instances_length (supply : Supply) (parts : List (Template × Part)) :
    (instances now supply parts).length = parts.countP fun entry => entry.2.isMade := by
  induction parts generalizing supply with
  | nil => rfl
  | cons entry rest ih =>
    rcases entry with ⟨template, part⟩
    cases part <;> simp [instances, Part.isMade, ih]

/-- Every part but an idle one is counted once. -/
theorem collect_sum (parts : List (Template × Part)) :
    let summary := ({ tenant } : Summary).collect now supply parts
    summary.count + summary.duplicates + summary.notDue + summary.exhausted +
      summary.errors.length = parts.countP fun entry => entry.2 != .idle := by
  simp only [Summary.collect, Nat.zero_add, List.nil_append]
  induction parts with
  | nil => rfl
  | cons entry rest ih =>
    rcases entry with ⟨template, part⟩
    rw [List.countP_cons, List.countP_cons, List.countP_cons, List.countP_cons, List.countP_cons,
      List.filterMap_cons, ← ih]
    cases part <;> simp [Part.isMade, Part.failure?] <;> omega

/-- The template is bound to a pattern that is active or missing, or paused and unreadable. -/
def Store.concerns (store : Store) (template : Template) : Bool :=
  template.pattern.isSome &&
    match store.patternRow template with
    | none => true
    | some row => row.pattern.isActive || !row.readable

theorem part_idle_iff (answers : store.Answers horizon tenant today) {template : Template}
    (owned : template.tenant = tenant) :
    store.part horizon today template = .idle ↔ store.concerns template = false := by
  unfold Store.concerns
  cases bound : template.pattern with
  | none => simp [Store.part_unbound bound]
  | some id =>
    cases found : store.patternRow template with
    | none => simp [Store.part_missing bound found]
    | some row =>
      by_cases active : row.pattern.isActive = true
      · obtain ⟨listed, mine⟩ := Store.patternRow_mem found
        obtain ⟨resolution, resolved⟩ := (answers.2 row listed (mine.trans owned) active).2
        rw [Store.part_active found active resolved]
        simp [active, Store.resolvedPart_busy]
      · rw [Store.part_paused found active]
        cases readable : row.readable <;> simp [active, readable]

theorem isMadeBy_parts (keyed : store.Keyed) {row : Template} (listed : row ∈ store.templates) :
    Store.isMadeBy (store.parts horizon today tenant) row =
      (row.tenant == tenant && (store.part horizon today row).isMade) := by
  rw [Bool.eq_iff_iff]
  simp only [Store.isMadeBy, Store.parts, List.any_map, List.any_eq_true, List.mem_filter,
    Function.comp_apply, Bool.and_eq_true, beq_iff_eq, Template.isFor_iff]
  constructor
  · rintro ⟨template, ⟨member, owned⟩, made, -, same⟩
    rw [keyed.template_unique listed member same]
    exact ⟨owned, made⟩
  · rintro ⟨owned, made⟩
    exact ⟨row, ⟨listed, owned⟩, made, rfl, rfl⟩

theorem instances_sources (supply : Supply) (parts : List (Template × Part)) :
    ((instances now supply parts).filterMap Task.template).Sublist
      (parts.map fun entry => entry.1.id) := by
  induction parts generalizing supply with
  | nil => exact List.Sublist.refl _
  | cons entry rest ih =>
    rcases entry with ⟨template, part⟩
    rw [List.map_cons]
    by_cases made : part.isMade = true
    · obtain ⟨due, rfl⟩ := Part.isMade_iff.mp made
      rw [instances, List.filterMap_cons]
      exact (ih _).cons_cons _
    · rw [instances_quiet now (Bool.eq_false_iff.mpr made)]
      exact (ih _).cons _

theorem failures_sources (parts : List (Template × Part)) :
    ((parts.filterMap fun entry => entry.2.failure? entry.1).map FailedSource.source).Sublist
      (parts.map fun entry => entry.1.id) := by
  induction parts with
  | nil => exact List.Sublist.refl _
  | cons entry rest ih =>
    rcases entry with ⟨template, part⟩
    rw [List.map_cons, List.filterMap_cons]
    cases part with
    | failed message => exact ih.cons_cons _
    | idle => exact ih.cons _
    | exhausted => exact ih.cons _
    | notDue => exact ih.cons _
    | duplicate => exact ih.cons _
    | made due => exact ih.cons _

theorem instances_filter (supply : Supply) (parts : List (Template × Part)) :
    instances now supply (parts.filter fun entry => !entry.2.isFailed) =
      instances now supply parts := by
  induction parts generalizing supply with
  | nil => rfl
  | cons entry rest ih =>
    rcases entry with ⟨template, part⟩
    cases part with
    | made due => exact congrArg (List.cons _) (ih _)
    | idle => exact ih supply
    | exhausted => exact ih supply
    | notDue => exact ih supply
    | duplicate => exact ih supply
    | failed message => exact ih supply

/-- A failing part leaves everything but the errors as it is. -/
theorem collect_filter (supply : Supply) (parts : List (Template × Part)) :
    ({ tenant } : Summary).collect now supply parts =
      { ({ tenant } : Summary).collect now supply
          (parts.filter fun entry => !entry.2.isFailed) with
        errors := parts.filterMap fun entry => entry.2.failure? entry.1 } := by
  have counted (counts : Part → Bool) (sound : ∀ part, counts part = true → part.isFailed = false) :
      (parts.filter fun entry => !entry.2.isFailed).countP (fun entry => counts entry.2) =
        parts.countP fun entry => counts entry.2 := by
    rw [List.countP_filter]
    apply List.countP_congr
    intro entry _
    by_cases counted : counts entry.2 = true
    · simp [counted, sound entry.2 counted]
    · simp [counted]
  unfold Summary.collect
  rw [counted Part.isMade (by intro part; cases part <;> simp [Part.isMade, Part.isFailed]),
    counted (· == .duplicate) (by intro part; cases part <;> simp [Part.isFailed]),
    counted (· == .notDue) (by intro part; cases part <;> simp [Part.isFailed]),
    counted (· == .exhausted) (by intro part; cases part <;> simp [Part.isFailed]),
    instances_filter]
  simp

def Store.isSound (store : Store) (horizon : Horizon) (today : Date) (tenant : Uuid)
    (template : Template) : Bool :=
  template.tenant == tenant && !(store.part horizon today template).isFailed

theorem parts_sound :
    (store.parts horizon today tenant).filter (fun entry => !entry.2.isFailed) =
      (store.templates.filter (store.isSound horizon today tenant)).map fun template =>
        (template, store.part horizon today template) := by
  rw [Store.parts, List.filter_map, List.filter_filter]
  congr 1
  apply List.filter_congr
  intro template _
  exact Bool.and_comm _ _

variable (now) in
/-- Templates that fail may come, go or change places: the pass does the same for the others. -/
theorem collect_other (supply : Supply) {templates : List Template}
    (same : templates.filter (store.isSound horizon today tenant) =
      store.templates.filter (store.isSound horizon today tenant)) :
    let other := ({ tenant } : Summary).collect now supply
      (({ store with templates } : Store).parts horizon today tenant)
    let summary := ({ tenant } : Summary).collect now supply (store.parts horizon today tenant)
    { other with errors := summary.errors } = summary := by
  have sound : (({ store with templates } : Store).parts horizon today tenant).filter
        (fun entry => !entry.2.isFailed) =
      (store.parts horizon today tenant).filter fun entry => !entry.2.isFailed := by
    rw [parts_sound, parts_sound, ← same]
    rfl
  dsimp only
  rw [collect_filter supply (store.parts horizon today tenant), ← sound, collect_filter supply
    (({ store with templates } : Store).parts horizon today tenant)]

/-- What a pass that has an answer comes to. -/
theorem generate_by_parts (keyed : store.Keyed)
    (answered : store.generate supply horizon tenant now = .ok (summary, after)) :
    ∃ today, horizon.today now = .ok today ∧ store.Answers horizon tenant today ∧
      summary = ({ tenant } : Summary).collect now supply (store.parts horizon today tenant) ∧
      after = { store with
        tasks := store.tasks ++ summary.tasks.map Task.kept
        templates := store.templates.map fun row =>
          if row.tenant == tenant && (store.part horizon today row).isMade then row.stamp now
          else row } ∧
      summary.count = summary.tasks.length ∧
      summary.count + summary.duplicates + summary.notDue + summary.exhausted +
          summary.errors.length =
        (store.templates.filter fun template =>
          template.tenant == tenant && store.concerns template).length ∧
      (summary.tasks.filterMap Task.template).Sublist (store.templates.map Template.id) ∧
      (summary.errors.map FailedSource.source).Sublist (store.templates.map Template.id) ∧
      ∀ templates, ({ store with templates } : Store).Keyed →
        templates.filter (store.isSound horizon today tenant) =
          store.templates.filter (store.isSound horizon today tenant) →
        ∃ other last,
          ({ store with templates } : Store).generate supply horizon tenant now =
            .ok (other, last) ∧
          { other with errors := summary.errors } = summary ∧ last.tasks = after.tasks := by
  obtain ⟨today, day, answers, rfl, rfl⟩ := (Store.generate_ok keyed).mp answered
  have ordered : ((store.parts horizon today tenant).map fun entry => entry.1.id).Sublist
      (store.templates.map Template.id) := by
    rw [Store.parts, List.map_map]
    exact List.filter_sublist.map _
  refine ⟨today, day, answers, rfl, ?_, ?_, ?_, ?_, ?_, ?_⟩
  · unfold Store.withParts
    congr 1
    apply List.map_congr_left
    intro row listed
    rw [isMadeBy_parts keyed listed]
  · simp [Summary.collect, instances_length]
  · rw [collect_sum, Store.parts, List.countP_map, ← List.countP_eq_length_filter,
      List.countP_filter]
    apply List.countP_congr
    intro template _
    simp only [Function.comp_apply, Bool.and_eq_true, bne_iff_ne, beq_iff_eq]
    constructor
    · rintro ⟨busy, owned⟩
      refine ⟨owned, ?_⟩
      rw [← Bool.not_eq_false]
      exact fun quiet => busy ((part_idle_iff answers owned).mpr quiet)
    · rintro ⟨owned, concerned⟩
      refine ⟨?_, owned⟩
      intro idle
      rw [(part_idle_iff answers owned).mp idle] at concerned
      cases concerned
  · exact (instances_sources supply _).trans ordered
  · exact (failures_sources _).trans ordered
  · intro templates otherKeyed same
    refine ⟨_, _, (Store.generate_ok otherKeyed).mpr ⟨today, day, answers, rfl, rfl⟩, ?_, ?_⟩
    · exact collect_other now supply same
    · have tasks := congrArg Summary.tasks (collect_other now supply same)
      simp only [Summary.collect, List.nil_append] at tasks
      simp only [Store.withParts]
      rw [tasks]

end Pass

def filingStart : Date := ⟨19723, by decide, by decide⟩ -- 1 January 2024

def filingDay : Instant := .midnight ⟨19828, by decide, by decide⟩ -- 15 April 2024

def filingDue : Date := ⟨19833, by decide, by decide⟩ -- 20 April 2024

def filingPattern (id : Nat) (isActive : Bool) : Pattern :=
  { id := .ofNat id
    tenant := .ofNat 1
    name := "Filing"
    description := none
    series :=
      { rule := .monthly 1 { dayOfMonth := some 20 }, ending := .never, startsOn := filingStart }
    isActive
    createdBy := none
    createdAt := .midnight filingStart
    updatedAt := .midnight filingStart }

def filingTemplate (id pattern : Nat) (title : String) : Template :=
  { id := .ofNat id
    tenant := .ofNat 1
    pattern := some (.ofNat pattern)
    work := { title }
    lastGenerated := none
    createdAt := .midnight filingStart
    updatedAt := .midnight filingStart }

/-- One template of an active pattern, one of a paused pattern and one of a pattern that is gone. -/
def filing (pausedReadable : Bool) : Store :=
  { patterns :=
      [{ pattern := filingPattern 2 true },
        { pattern := filingPattern 3 false, readable := pausedReadable }]
    templates :=
      [filingTemplate 4 2 "Return", filingTemplate 5 3 "Statement", filingTemplate 6 7 "Notice"] }

def filingSupply : Supply := { id := fun n => .ofNat (100 + n), clock := filingDay }

theorem filing_pass_accounted :
    (filing true).Keyed ∧ ∃ summary after,
      (filing true).generate filingSupply {} (.ofNat 1) filingDay = .ok (summary, after) ∧
        summary.count = summary.tasks.length ∧
        summary.count + summary.duplicates + summary.notDue + summary.exhausted +
          summary.errors.length = 2 := by
  have keyed : (filing true).Keyed := ⟨by decide +kernel, by decide +kernel⟩
  have returns : ((filing true).generate filingSupply {} (.ofNat 1) filingDay).isOk = true := by
    decide +kernel
  cases answered : (filing true).generate filingSupply {} (.ofNat 1) filingDay with
  | error failure =>
    rw [answered] at returns
    cases returns
  | ok result =>
    obtain ⟨today, -, -, -, -, counted, total, -⟩ := generate_by_parts keyed answered
    exact ⟨keyed, result.1, result.2, rfl, counted, total.trans (by decide +kernel)⟩

/-- The template of a paused pattern whose rule cannot be read is told of as a failure. -/
theorem paused_unreadable_reported :
    ((filing false).generate filingSupply {} (.ofNat 1) filingDay).toOption.map (fun result =>
        (result.1.count + result.1.duplicates + result.1.notDue + result.1.exhausted +
          result.1.errors.length, result.1.errors.map FailedSource.source)) =
      some (3, [.ofNat 5, .ofNat 6]) ∧
    (filing false).patternRow (filingTemplate 5 3 "Statement") =
      some { pattern := filingPattern 3 false, readable := false } ∧
    ((filing false).templates.filter fun template =>
      ((filing false).patternRow template).all fun row => row.pattern.isActive).length = 2 := by
  refine ⟨?_, ?_, ?_⟩
  · decide +kernel
  · decide +kernel
  · decide +kernel

end Rota
