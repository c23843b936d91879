import Rota.Proofs.Generation.Requests
import Rota.Proofs.Store.Isolation

/-!
Tenants do not see each other. A pass is isolated step by step, as every step makes at most one task
of a template or a recurring task of its tenant; so is everything else that a tenant can ask for.
From there two tenants that do something in either order find the same answers and the same rows.
-/

namespace Rota

open Store

variable {store : Store} {tenant : Uuid} {supply : Supply} {summary : Summary}
  {horizon : Horizon} {today : Date} {now : Instant}

def Progress.split (progress : Progress) : (Supply × Summary) × Store :=
  ((progress.supply, progress.summary), progress.store)

theorem record_isolated {made : Store → Attempt (Materialized × Store)} (source : Uuid)
    (work : Work) (isolated : Isolated tenant (Session.settle made).run store) :
    Isolated tenant
      (fun store => (Progress.record ⟨store, supply, summary⟩ source work (made store)).split)
      store := by
  have alone := isolated.alone
  have confined := isolated.confined
  rw [Session.run_settle] at confined
  rcases found : made store with fault | ⟨task | existing, after⟩ <;> rw [found] at alone confined
  · refine ⟨?_, ?_, ?_⟩ <;> rw [found]
    exacts [by rw [alone]; rfl, by rw [alone]; rfl, confined]
  · refine ⟨?_, ?_, ?_⟩ <;> rw [found]
    exacts [by rw [alone]; rfl, by rw [alone]; rfl, confined]
  · -- A duplicate leaves the pass with the store that it has.
    refine ⟨?_, ?_, ?_⟩ <;> rw [found]
    exacts [by rw [alone]; rfl, by rw [alone]; rfl, .refl store]

section Templates
variable {template : Template} {resolutions : List (Uuid × Resolution)}

theorem stepTemplate_isolated (owned : template.tenant = tenant) (theirs : summary.tenant = tenant)
    (stored : store.hasTemplate template = true) :
    Isolated tenant
      (fun store => (stepTemplate resolutions now ⟨store, supply, summary⟩ template).split)
      store := by
  unfold stepTemplate
  cases template.pattern with
  | none => exact ⟨rfl, rfl, .refl store⟩
  | some pattern =>
    rcases found : resolutions.find? fun entry => entry.1 == pattern with _ | ⟨_, resolution⟩
    · have asked : (store.only tenant).findPattern summary.tenant pattern =
        store.findPattern summary.tenant pattern := by rw [theirs, findPattern_only]
      simp only [found]
      rcases paused : store.findPattern summary.tenant pattern with fault | _ | _ <;>
        rw [paused] at asked <;> refine ⟨?_, ?_, ?_⟩ <;> simp only [asked, paused]
      exacts [rfl, rfl, .refl store, rfl, rfl, .refl store, rfl, rfl, .refl store]
    · simp only [found]
      cases resolution with
      | exhausted => exact ⟨rfl, rfl, .refl store⟩
      | notDue date => exact ⟨rfl, rfl, .refl store⟩
      | due date => exact record_isolated _ _ (materializeTemplate_isolated owned stored)

theorem foldl_stepTemplate_isolated (templates : List Template)
    (owned : ∀ template ∈ templates, template.tenant = tenant) (theirs : summary.tenant = tenant)
    (stored : ∀ template ∈ templates, store.hasTemplate template = true) :
    Isolated tenant
      (fun store => (templates.foldl (stepTemplate resolutions now) ⟨store, supply, summary⟩).split)
      store := by
  induction templates generalizing store supply summary with
  | nil => exact ⟨rfl, rfl, .refl store⟩
  | cons first rest ih =>
    have present := stored first List.mem_cons_self
    have stepped : Isolated tenant (fun store =>
        (stepTemplate resolutions now ⟨store, supply, summary⟩ first).split) store :=
      stepTemplate_isolated (owned first List.mem_cons_self) theirs present
    apply stepped.andThen fun tally store =>
      (rest.foldl (stepTemplate resolutions now) ⟨store, tally.1, tally.2⟩).split
    apply ih
    · exact fun template listed => owned template (List.mem_cons_of_mem _ listed)
    · exact (stepTemplate_tenant _ _ _ _).trans theirs
    · intro template listed
      have there := stored template (List.mem_cons_of_mem _ listed)
      exact ((stepTemplate_frame resolutions now ⟨store, supply, summary⟩ first).2 template).trans there

theorem generate_isolated :
    Isolated tenant (Session.settle fun store => store.generate supply horizon tenant now).run
      store := by
  apply Isolated.asking rfl
  intro today _
  apply Isolated.asking (congrArg Outcome.ofExcept activePatterns?_only)
  intro patterns loaded
  apply Isolated.asking (congrArg Outcome.ofExcept templates?_only)
  intro templates listed
  apply Isolated.asking rfl
  intro resolutions _
  have mine : templates = store.templates.filter fun template => template.tenant == tenant := by
    rw [Outcome.ofExcept_ok] at loaded listed
    rw [templates?_open (loadPatterns_ok.mp loaded).1] at listed
    exact (Except.ok.inj listed).symm
  have owned : ∀ template ∈ templates, template.tenant = tenant := by
    intro template member
    rw [mine] at member
    simpa using (List.mem_filter.mp member).2
  have stored : ∀ template ∈ templates, store.hasTemplate template = true := by
    intro template member
    rw [mine] at member
    exact hasTemplate_of_mem (List.mem_filter.mp member).1
  have walked : Isolated tenant (fun store => (templates.foldl (stepTemplate resolutions now)
      (.start store supply tenant)).split) store :=
    foldl_stepTemplate_isolated templates owned rfl stored
  exact walked.map fun tally => Except.ok tally.2

end Templates

section Roots
variable {root : Task}

theorem takeRoot_isolated (owned : root.tenant = tenant) (stored : store.hasTask root = true)
    (answer : Option Date) :
    Isolated tenant (fun store =>
      (Progress.takeRoot ⟨store, supply, summary⟩ horizon today now root answer).split) store := by
  cases answer with
  | none => exact ⟨rfl, rfl, .refl store⟩
  | some due =>
    simp only [Progress.takeRoot]
    by_cases near : horizon.reaches due today = true
    · simp only [if_pos near]
      exact record_isolated _ _ (materializeRecurring_isolated owned stored)
    · simp only [if_neg near]
      exact ⟨rfl, rfl, .refl store⟩

/-- What a pass over some recurring tasks answers, and the store after it or where it stopped. -/
def Store.walkRoots (horizon : Horizon) (today : Date) (now : Instant) (roots : List Task)
    (tally : Supply × Summary) (store : Store) : Checked Summary × Store :=
  let start : Progress := ⟨store, tally.1, tally.2⟩
  ((roots.foldlM (stepRoot horizon today now) start).map Progress.summary,
    (start.walk horizon today now roots).store)

theorem walkRoots_cons {answer : Option Date} (found : root.nextDue today = .ok answer)
    (rest : List Task) (store : Store) :
    store.walkRoots horizon today now (root :: rest) (supply, summary) =
      let next := Progress.takeRoot ⟨store, supply, summary⟩ horizon today now root answer
      next.store.walkRoots horizon today now rest (next.supply, next.summary) := by
  simp only [walkRoots, List.foldlM_cons, Progress.walk, stepRoot_eq found]
  rfl

theorem walkRoots_stopped {fault : Fault} (found : root.nextDue today = .error fault)
    (rest : List Task) (store : Store) :
    store.walkRoots horizon today now (root :: rest) (supply, summary) = (.error fault, store) := by
  have stopped : stepRoot horizon today now ⟨store, supply, summary⟩ root = .error fault := by
    simp [stepRoot, Horizon.resolveTask, found, bind, Except.bind]
  simp only [walkRoots, List.foldlM_cons, Progress.walk, stopped]
  rfl

theorem takeRoot_stored {other : Task} {answer : Option Date}
    (found : root.nextDue today = .ok answer) (progress : Progress)
    (stored : progress.store.hasTask other = true) :
    (progress.takeRoot horizon today now root answer).store.hasTask other = true := by
  obtain ⟨made, grew, -⟩ := stepRoot_grew (stepRoot_eq found)
  rw [grew.store]
  exact hasTask_withTasks stored

theorem walkRoots_isolated (roots : List Task) (owned : ∀ root ∈ roots, root.tenant = tenant)
    (stored : ∀ root ∈ roots, store.hasTask root = true) :
    Isolated tenant (Store.walkRoots horizon today now roots (supply, summary)) store := by
  induction roots generalizing store supply summary with
  | nil => exact ⟨rfl, rfl, .refl store⟩
  | cons first rest ih =>
    have present := stored first List.mem_cons_self
    cases found : first.nextDue today with
    | error fault =>
      apply Isolated.congr (walkRoots_stopped found rest)
      exact ⟨rfl, rfl, .refl store⟩
    | ok answer =>
      apply Isolated.congr (walkRoots_cons found rest)
      have taken : Isolated tenant (fun store =>
          (Progress.takeRoot ⟨store, supply, summary⟩ horizon today now first answer).split) store :=
        takeRoot_isolated (owned first List.mem_cons_self) present answer
      apply taken.andThen fun tally store => store.walkRoots horizon today now rest tally
      apply ih
      · exact fun root listed => owned root (List.mem_cons_of_mem _ listed)
      · exact fun root listed =>
          takeRoot_stored found _ (stored root (List.mem_cons_of_mem _ listed))

theorem generateRecurring_session (store : Store) :
    ((store.generateRecurring supply horizon tenant now).map Prod.fst,
      store.afterRecurring supply horizon tenant now) = Session.run (do
        let today ← Session.ask fun _ => Outcome.ofChecked (horizon.today now)
        let roots ← Session.ask fun store => Outcome.ofExcept (store.recurringRoots tenant)
        fun store =>
          let walked := store.walkRoots horizon today now roots (supply, { tenant })
          (Outcome.ofChecked walked.1, walked.2)) store := by
  rw [Session.run_bind, Session.run_ask]
  unfold generateRecurring afterRecurring
  cases horizon.today now with
  | error fault => rfl
  | ok today =>
    simp only [Outcome.ofChecked]
    rw [Session.run_bind, Session.run_ask]
    cases store.recurringRoots tenant with
    | error fault => rfl
    | ok roots =>
      have tallied (walked : Checked Progress) :
          (Outcome.ofChecked walked >>= fun progress : Progress =>
            (pure (progress.summary, progress.store) : Outcome _)).map Prod.fst =
          Outcome.ofChecked (walked.map Progress.summary) := by
        cases walked <;> rfl
      exact Prod.ext (tallied _) rfl

theorem generateRecurring_isolated :
    Isolated tenant (fun store =>
      ((store.generateRecurring supply horizon tenant now).map Prod.fst,
        store.afterRecurring supply horizon tenant now)) store := by
  apply Isolated.congr generateRecurring_session
  apply Isolated.bind (.ask rfl)
  intro today _
  apply Isolated.bind (.ask (congrArg Outcome.ofExcept recurringRoots_only))
  intro roots found
  have known : ∀ root ∈ roots, root ∈ store.tasks ∧ root.tenant = tenant := by
    intro root listed
    obtain ⟨there, owned, -⟩ := (mem_recurringRoots (Outcome.ofExcept_ok.mp found)).mp listed
    exact ⟨there, owned⟩
  have walked : Isolated tenant (Store.walkRoots horizon today now roots (supply, { tenant }))
      store := by
    apply walkRoots_isolated
    · exact fun root listed => (known root listed).2
    · exact fun root listed => hasTask_of_mem (known root listed).1
  exact walked.map Outcome.ofChecked

end Roots

section Questions

theorem overview_only :
    (store.only tenant).overview horizon tenant now = store.overview horizon tenant now := by
  simp only [overview, patterns?_only, templatesBoundTo_only]

theorem stats_only :
    (store.only tenant).stats horizon tenant now = store.stats horizon tenant now := by
  simp only [stats, overview_only]

end Questions

/-- What is to be made a task of, or looked for by its content, is the tenant's. -/
def Request.Admitted {α : Type} (tenant : Uuid) (store : Store) : Request α → Prop
  | findRecurringInstance root _ => root.tenant = tenant
  | materializeTemplate template _ _ =>
    template.tenant = tenant ∧ store.hasTemplate template = true
  | materializeRecurring root _ _ => root.tenant = tenant ∧ store.hasTask root = true
  | _ => True

theorem Request.Admitted.only {α : Type} {request : Request α} :
    request.Admitted tenant (store.only tenant) ↔ request.Admitted tenant store := by
  cases request with
  | materializeTemplate template due now =>
    exact and_congr_right fun owned => by rw [hasTemplate_only owned]
  | materializeRecurring root due now =>
    exact and_congr_right fun owned => by rw [hasTask_only owned]
  | _ => exact Iff.rfl

theorem Request.perform_isolated {α : Type} (request : Request α)
    (admitted : request.Admitted tenant store) :
    Isolated tenant (fun store => request.perform tenant supply store) store := by
  cases request with
  | createPattern draft => exact createPattern_isolated rfl
  | findPattern id => exact .ask findPattern_only
  | findPatternNamed name => exact .ask (findPatternNamed_only name)
  | patterns => exact .ask patterns?_only
  | activePatterns => exact .ask activePatterns?_only
  | updatePattern id change => exact updatePattern_isolated change
  | togglePattern id => exact togglePattern_isolated
  | seedPresets createdBy today => exact seedFrom_isolated createdBy _ _
  | createTemplate draft => exact createTemplate_isolated rfl
  | findTemplate id => exact .ask findTemplate_only
  | templates => exact .ask templates?_only
  | templatesBoundTo ids => exact .ask (templatesBoundTo_only ids)
  | addTask draft => exact addTask_isolated rfl
  | findTask id => exact .ask findTask_only
  | tasksOfTemplate template => exact .ask (congrArg _ (tasksWhere_only _))
  | recurringRoots => exact .ask recurringRoots_only
  | instancesOf parent => exact .ask (congrArg _ (tasksWhere_only _))
  | findTemplateInstance template due => exact .ask (findTemplateInstance_only template due)
  | findRecurringInstance root due => exact .ask (findRecurringInstance_only admitted due)
  | materializeTemplate template due now =>
    exact materializeTemplate_isolated admitted.1 admitted.2
  | materializeRecurring root due now => exact materializeRecurring_isolated admitted.1 admitted.2
  | settings => exact .ask settingsOf_only
  | saveSettings wanted => exact saveSettings_isolated wanted
  | generate horizon now => exact generate_isolated
  | generateRecurring horizon now => exact generateRecurring_isolated
  | overview horizon now => exact .ask overview_only
  | stats horizon now => exact .ask stats_only

namespace Request

variable {α : Type} {request : Request α} {other : Store}

theorem admitted_congr (same : other.only tenant = store.only tenant) :
    request.Admitted tenant other ↔ request.Admitted tenant store := by
  rw [← Admitted.only, same, Admitted.only]

theorem perform_congr (supply : Supply) (same : other.only tenant = store.only tenant)
    (admitted : request.Admitted tenant store) :
    (request.perform tenant supply other).1 = (request.perform tenant supply store).1 ∧
      (request.perform tenant supply other).2.only tenant =
        (request.perform tenant supply store).2.only tenant := by
  obtain ⟨answer, own, -⟩ : Isolated tenant (fun store => request.perform tenant supply store)
    store := request.perform_isolated admitted
  obtain ⟨otherAnswer, otherOwn, -⟩ : Isolated tenant
    (fun store => request.perform tenant supply store) other :=
    request.perform_isolated ((admitted_congr same).mpr admitted)
  rw [← otherAnswer, ← otherOwn, same]
  exact ⟨answer, own⟩

theorem perform_confined (supply : Supply) (admitted : request.Admitted tenant store) :
    Confined tenant store (request.perform tenant supply store).2 :=
  (request.perform_isolated admitted).confined

end Request

/-- What a tenant asks for is answered from the tenant's rows, and changes no others. So what two
tenants ask for comes to the same in either order: the same answers, and the same rows for each. The
identifiers and the clock come from outside and are the same in what is compared. -/
theorem requests_isolated {α : Type} (request : Request α) (tenant : Uuid) (supply : Supply)
    (store : Store) (admitted : request.Admitted tenant store) :
    (∀ other : Store, other.only tenant = store.only tenant →
      (request.perform tenant supply other).1 = (request.perform tenant supply store).1 ∧
      (request.perform tenant supply other).2.only tenant =
        (request.perform tenant supply store).2.only tenant) ∧
    (∀ bystander, bystander ≠ tenant →
      (request.perform tenant supply store).2.only bystander = store.only bystander) ∧
    ∀ (β : Type) (theirs : Request β) (neighbour : Uuid) (ids : Supply), neighbour ≠ tenant →
      theirs.Admitted neighbour store →
      let ours := request.perform tenant supply store
      let others := theirs.perform neighbour ids store
      (request.perform tenant supply others.2).1 = ours.1 ∧
      (theirs.perform neighbour ids ours.2).1 = others.1 ∧
      ∀ anyone, (theirs.perform neighbour ids ours.2).2.only anyone =
        (request.perform tenant supply others.2).2.only anyone := by
  have unseen := Request.perform_confined supply admitted
  refine ⟨fun other same => Request.perform_congr supply same admitted, unseen, ?_⟩
  intro β theirs neighbour ids apart fine ours others
  -- Whoever comes second finds the rows that were there at first.
  have oursUnseen : ours.2.only neighbour = store.only neighbour := unseen neighbour apart
  have othersUnseen : others.2.only tenant = store.only tenant :=
    Request.perform_confined ids fine tenant apart.symm
  obtain ⟨ourAnswer, ourRows⟩ := Request.perform_congr supply othersUnseen admitted
  obtain ⟨theirAnswer, theirRows⟩ := Request.perform_congr ids oursUnseen fine
  have after := Request.perform_confined supply
    ((Request.admitted_congr othersUnseen).mpr admitted)
  have theirsAfter := Request.perform_confined ids ((Request.admitted_congr oursUnseen).mpr fine)
  refine ⟨ourAnswer, theirAnswer, fun anyone => ?_⟩
  by_cases atHome : anyone = tenant
  · subst atHome
    exact (theirsAfter anyone apart.symm).trans ourRows.symm
  · by_cases nextDoor : anyone = neighbour
    · subst nextDoor
      exact theirRows.trans (after anyone apart).symm
    · calc (theirs.perform neighbour ids ours.2).2.only anyone
          _ = ours.2.only anyone := theirsAfter anyone nextDoor
          _ = store.only anyone := unseen anyone atHome
          _ = others.2.only anyone :=
            (Request.perform_confined ids fine anyone nextDoor).symm
          _ = (request.perform tenant supply others.2).2.only anyone := (after anyone atHome).symm

/-- The office shared with a neighbour who has backups of the same content to make. -/
def sharedOffice : Store :=
  { office with tasks := [backup, { backup with id := .ofNat 7, tenant := .ofNat 3 }] }

theorem backup_made_in_private :
    office.only (.ofNat 1) = sharedOffice.only (.ofNat 1) ∧
    Request.Admitted (.ofNat 1) sharedOffice (.materializeRecurring backup backupDue filingDay) ∧
    (.ofNat 3 : Uuid) ≠ .ofNat 1 ∧
    let made := Request.perform (.ofNat 1) (opening 200) sharedOffice
      (.materializeRecurring backup backupDue filingDay)
    made.1 = .ok (.created (backup.instantiate backupDue filingDay (opening 200).id)) ∧
    (Request.perform (.ofNat 1) (opening 200) office
      (.materializeRecurring backup backupDue filingDay)).1 = made.1 ∧
    made.2.only (.ofNat 3) = sharedOffice.only (.ofNat 3) ∧
    made.2.only (.ofNat 1) ≠ sharedOffice.only (.ofNat 1) ∧
    (Request.perform (.ofNat 3) (opening 300) made.2 (.generateRecurring {} filingDay)).1 =
      (Request.perform (.ofNat 3) (opening 300) sharedOffice (.generateRecurring {} filingDay)).1 := by
  have same : office.only (.ofNat 1) = sharedOffice.only (.ofNat 1) := by decide +kernel
  have fine : Request.Admitted (.ofNat 1) sharedOffice
      (.materializeRecurring backup backupDue filingDay) := ⟨rfl, by decide +kernel⟩
  have apart : (.ofNat 3 : Uuid) ≠ .ofNat 1 := by decide
  obtain ⟨determined, unseen, swapped⟩ := requests_isolated
    (.materializeRecurring backup backupDue filingDay) (.ofNat 1) (opening 200) sharedOffice fine
  refine ⟨same, fine, apart, by decide +kernel, (determined office same).1, unseen _ apart,
    by decide +kernel, ?_⟩
  exact (swapped _ (.generateRecurring {} filingDay) (.ofNat 3) (opening 300) apart trivial).2.1

end Rota
