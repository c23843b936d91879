import Rota.Proofs.Command.Effects
import Rota.Proofs.Generation.Reached
import Rota.Proofs.Schedule.Bindings
import Rota.Proofs.Store.Seeding
import Rota.Proofs.Store.Statements

/-!
A run of the program that ends in an error leaves what is stored as it was: each command looks, then
writes at most once, and what it does after that is sure. Seeding the presets is the exception, as
it creates them one after the other.
-/

namespace Rota

namespace Store

variable {store : Store} {supply : Supply} {tenant : Uuid} {error : Error}

section Passes
variable {horizon : Horizon} {now : Instant}

/-- Templates and patterns are read before anything is made. -/
theorem generate_error (failed : store.generate supply horizon tenant now = .error (.error error)) :
    store.activePatterns? tenant = .error error ∨ store.templates? tenant = .error error := by
  obtain stopped | ⟨today, -, failed⟩ := bind_error.mp failed
  · exact absurd stopped Outcome.ofChecked_error
  obtain unread | ⟨patterns, -, failed⟩ := bind_error.mp failed
  · exact .inl (Outcome.ofExcept_error.mp unread)
  obtain unread | ⟨templates, -, failed⟩ := bind_error.mp failed
  · exact .inr (Outcome.ofExcept_error.mp unread)
  obtain stopped | ⟨resolutions, -, failed⟩ := bind_error.mp failed
  · exact absurd stopped Outcome.ofChecked_error
  · cases failed

theorem generateRecurring_error
    (failed : store.generateRecurring supply horizon tenant now = .error (.error error)) :
    store.recurringRoots tenant = .error error := by
  obtain stopped | ⟨today, -, failed⟩ := bind_error.mp failed
  · exact absurd stopped Outcome.ofChecked_error
  obtain unread | ⟨roots, -, failed⟩ := bind_error.mp failed
  · exact Outcome.ofExcept_error.mp unread
  obtain stopped | ⟨progress, -, failed⟩ := bind_error.mp failed
  · exact absurd stopped Outcome.ofChecked_error
  · cases failed

end Passes
end Store

namespace Run

theorem generate_traceless (date : Option Date) (ofRecurring : Bool) :
    Traceless (generate date ofRecurring) := by
  apply looks_tenant.then
  intro tenant
  apply looks_read.then
  intro place
  apply (traceless_passing _).then
  intro _ _ summary _
  -- The tasks are stored by now. A day that cannot be told stops the run as a fault.
  apply (sure_checked _).bind
  intro today
  apply (sure_say _).bind
  intro _
  by_cases failed : summary.hasErrors = true
  · rw [if_pos failed]
    exact sure_warn _
  · rw [if_neg failed]
    exact sure_pure _

theorem status_looks : Looks status := by
  apply looks_tenant.bind
  intro tenant
  apply looks_read.bind
  intro place
  apply looks_get.bind
  intro state
  apply looks_now.bind
  intro now
  apply (looks_outcome _).bind
  intro stats
  apply (looks_reading _).bind
  intro settings
  exact looks_say _

theorem serve_looks : Looks serve := by
  apply Looks.bind
  · apply looks_read.bind
    intro place
    apply (looks_reading _).bind
    intro enabled
    apply (looks_say _).bind
    intro _
    exact looks_pure _
  · intro _
    exact looks_say _

theorem sayNextRun_looks (settings : Settings) : Looks (sayNextRun settings) := by
  unfold sayNextRun
  by_cases enabled : settings.enabled = true
  · rw [if_pos enabled]
    apply looks_read.bind
    intro place
    apply (looks_attempt _).bind
    intro time
    apply looks_now.bind
    intro now
    apply (looks_checked _).bind
    intro next
    cases next with
    | none => exact looks_pure _
    | some next =>
      apply (looks_checked _).bind
      intro localTime
      apply (looks_checked _).bind
      intro text
      exact looks_say _
  · rw [if_neg enabled]
    exact looks_pure _

theorem sayNextRun_sure {settings : Settings} {time : TriggerTime}
    (timed : settings.runTime = time.toText) : Sure (sayNextRun settings) := by
  have read : (TriggerTime.parse settings.runTime).mapError Error.invalidSchedule = .ok time := by
    rw [timed, TriggerTime.parse_toText]
    rfl
  unfold sayNextRun
  by_cases enabled : settings.enabled = true
  · rw [if_pos enabled, read]
    apply sure_read.bind
    intro place
    apply (sure_attempt _).bind
    intro time
    apply sure_now.bind
    intro now
    apply (sure_checked _).bind
    intro next
    cases next with
    | none => exact sure_pure _
    | some next =>
      apply (sure_checked _).bind
      intro localTime
      apply (sure_checked _).bind
      intro text
      exact sure_say _
  · rw [if_neg enabled]
    exact sure_pure _

theorem showSchedule_looks : Looks showSchedule := by
  apply looks_tenant.bind
  intro tenant
  apply (looks_reading _).bind
  intro settings
  apply looks_read.bind
  intro place
  apply looks_now.bind
  intro now
  apply (looks_say _).bind
  intro _
  exact sayNextRun_looks settings

theorem setSchedule_traceless (change : ScheduleChange) : Traceless (setSchedule change) := by
  apply looks_tenant.then
  intro tenant
  apply (looks_reading _).then
  intro settings
  apply (traceless_writing _).then
  intro place state saved written
  -- The next run is worked out from the time as it was saved, which reads back.
  obtain ⟨time, timed⟩ : ∃ time : TriggerTime, saved.runTime = time.toText := by
    rw [result_writing] at written
    split at written
    · next answered =>
      cases written
      obtain ⟨⟨time, -, rfl⟩, -⟩ := Store.saveSettings_ok answered
      exact ⟨time, rfl⟩
    · cases written
  apply sure_read.bind
  intro place
  apply (sure_say _).bind
  intro _
  apply (sayNextRun_sure timed).bind
  intro _
  exact sure_say _

theorem disableSchedule_traceless : Traceless disableSchedule := by
  apply looks_tenant.then
  intro tenant
  apply (looks_reading _).then
  intro settings
  apply (traceless_writing _).then
  intro _ _ _ _
  exact sure_say _

theorem listPatterns_looks : Looks listPatterns := by
  apply looks_tenant.bind
  intro tenant
  apply looks_read.bind
  intro place
  apply looks_get.bind
  intro state
  apply looks_now.bind
  intro now
  apply (looks_outcome _).bind
  intro rows
  apply looks_today.bind
  intro today
  apply looks_now.bind
  intro now
  exact looks_say _

theorem addPattern_traceless (draft : NewPattern) : Traceless (addPattern draft) := by
  apply looks_tenant.then
  intro tenant
  apply looks_today.then
  intro today
  apply looks_read.then
  intro place
  apply (traceless_writing _).then
  intro _ _ pattern _
  -- Only the next date is still to be told of the pattern that is stored.
  apply (sure_say _).bind
  intro _
  apply (sure_checked _).bind
  intro next
  cases next with
  | none => exact sure_say _
  | some date => exact sure_say _

theorem togglePattern_traceless (reference : String) : Traceless (togglePattern reference) := by
  apply looks_tenant.then
  intro tenant
  apply (looks_reading _).then
  intro id
  apply (traceless_writing _).then
  intro _ _ pattern _
  exact sure_say _

theorem previewPattern_looks (reference : String) (count : Nat) (start : Option Date) :
    Looks (previewPattern reference count start) := by
  apply looks_tenant.bind
  intro tenant
  apply (looks_reading _).bind
  intro id
  apply (looks_reading _).bind
  intro found
  cases found with
  | none => exact looks_attempt _
  | some pattern =>
    apply looks_today.bind
    intro today
    apply (looks_checked _).bind
    intro dates
    exact looks_say _

theorem addTemplate_traceless (draft : NewTemplate) : Traceless (addTemplate draft) := by
  apply looks_tenant.then
  intro tenant
  apply (looks_reading _).then
  intro pattern
  apply looks_read.then
  intro place
  apply (traceless_writing _).then
  intro _ _ template _
  exact sure_say _

theorem listTemplates_looks : Looks listTemplates := by
  apply looks_tenant.bind
  intro tenant
  apply (looks_reading _).bind
  intro templates
  apply (looks_reading _).bind
  intro patterns
  apply looks_now.bind
  intro now
  exact looks_say _

variable {place : Workplace} {state after : RunState} {fault : RunFault}

/-- What is left of a seeding that stopped. -/
def Seeded (place : Workplace) (fault : RunFault) (state after : RunState) : Prop :=
  fault = .failure (.error (.database .unreadable)) ∧ after.err = state.err ∧
    ∃ tenant, place.config.tenant? = .ok tenant ∧ state.store.Spoiled tenant presets ∧
      Store.PartlySeeded tenant presets state.store after.store

/-- Seeding stops where a pattern cannot be read, and what was created before stays. -/
theorem showPresets_failed {seed : Bool}
    (failed : result (showPresets seed) place state = (.error fault, after))
    (error : ¬fault.stops) :
    after.store = state.store ∨
      (seed = true ∧ Seeded place fault state after) := by
  rw [showPresets, result_after (result_say _)] at failed
  cases seed with
  | false => cases failed
  | true =>
    rw [if_pos rfl] at failed
    obtain ⟨rfl, -⟩ | ⟨tenant, owner, failed⟩ := failed_after_ask result_tenant failed
    · exact .inl rfl
    rw [result_after result_read] at failed
    obtain ⟨rfl, -⟩ | ⟨today, day, failed⟩ := failed_after_ask result_today failed
    · exact .inl rfl
    rw [result_after result_get] at failed
    dsimp only at failed
    rw [result_after (result_modify _)] at failed
    -- The store is written before the failure of the seeding is looked at.
    obtain ⟨rfl, cause, stopped, rfl⟩ | ⟨created, seeded, failed⟩ :=
      failed_after_ask (result_ofExcept _ _) failed
    · by_cases isOpen : state.store.isOpen = true
      · obtain ⟨rfl, spoiled, seeded⟩ := Store.seedFrom_failed isOpen presets_ready stopped
        exact .inr ⟨rfl, rfl, rfl, tenant, owner, spoiled, seeded⟩
      · exact .inl (Store.seedPresets_closed (Bool.eq_false_iff.mpr isOpen) _ _)
    · -- Nothing can fail any more.
      dsimp only at failed
      by_cases none : created.isEmpty = true
      · rw [if_pos none] at failed
        cases failed
      · rw [if_neg none] at failed
        cases failed

theorem Traceless.failed {action : Run Unit} (traceless : Traceless action)
    (failed : result action place state = (.error fault, after)) (error : ¬fault.stops) :
    after.store = state.store := by
  have kept := traceless place state fault (congrArg Prod.fst failed) error
  rwa [failed] at kept

/-- Of all commands, only one that seeds the presets may leave something behind. -/
theorem run_failed {command : Command}
    (failed : result command.run place state = (.error fault, after)) (error : ¬fault.stops) :
    after.store = state.store ∨ (command = .presets true ∧ Seeded place fault state after) := by
  cases command with
  | generate date ofRecurring =>
    exact .inl ((generate_traceless date ofRecurring).failed failed error)
  | status => exact .inl (status_looks.traceless.failed failed error)
  | serve => exact .inl (serve_looks.traceless.failed failed error)
  | showSchedule => exact .inl (showSchedule_looks.traceless.failed failed error)
  | setSchedule change => exact .inl ((setSchedule_traceless change).failed failed error)
  | disableSchedule => exact .inl (disableSchedule_traceless.failed failed error)
  | listPatterns => exact .inl (listPatterns_looks.traceless.failed failed error)
  | presets seed =>
    obtain same | ⟨rfl, left⟩ := showPresets_failed failed error
    · exact .inl same
    · exact .inr ⟨rfl, left⟩
  | addPattern draft => exact .inl ((addPattern_traceless draft).failed failed error)
  | togglePattern reference => exact .inl ((togglePattern_traceless reference).failed failed error)
  | previewPattern reference count start =>
    exact .inl ((previewPattern_looks reference count start).traceless.failed failed error)
  | addTemplate draft => exact .inl ((addTemplate_traceless draft).failed failed error)
  | listTemplates => exact .inl (listTemplates_looks.traceless.failed failed error)

end Run

def SeedingStopped (arguments : List String) (file : Option String)
    (environment : List (String × String)) (stored : Store) (finished : Finished) : Prop :=
  ∃ prepared tenant, prepare arguments file environment = .ok prepared ∧
    prepared.command = .presets true ∧ prepared.config.tenant? = .ok tenant ∧
    finished.err = (RunFault.failure (.error (.database .unreadable))).lines ∧
    stored.Spoiled tenant presets ∧ Store.PartlySeeded tenant presets stored finished.store

theorem RunFault.not_stops {fault : RunFault} (ended : fault.code = 1 ∨ fault.code = 2) :
    ¬fault.stops := by
  rintro ⟨cause, rfl⟩
  rcases ended with one | two
  · cases one
  · cases two

/-- A run in memory leaves what is stored elsewhere alone, whatever becomes of it. -/
theorem Prepared.run_memory (prepared : Prepared) (supply : Supply) (milliseconds : Nat)
    (stored : Store) (memory : prepared.place = .memory) :
    (prepared.run supply milliseconds stored).store = stored := by
  unfold Prepared.run
  simp only [if_pos memory]
  rcases (ReaderT.run prepared.command.run (prepared.workplace supply milliseconds)).run.run
    { store := .empty } with ⟨fault | ⟨⟩, after⟩ <;> rfl

theorem Prepared.run_eq (prepared : Prepared) (supply : Supply) (milliseconds : Nat)
    (stored : Store) (elsewhere : prepared.place ≠ .memory) :
    prepared.run supply milliseconds stored =
      match prepared.command.run.result (prepared.workplace supply milliseconds)
          { store := stored } with
      | (.ok _, after) =>
        { out := after.out, err := after.err, store := after.store,
          tookConfigFile := prepared.place = .configFile }
      | (.error fault, after) =>
        { code := fault.code, out := after.out, err := after.err ++ fault.lines,
          store := after.store, tookConfigFile := prepared.place = .configFile } := by
  unfold Prepared.run Run.result
  simp only [if_neg elsewhere]
  rcases (ReaderT.run prepared.command.run (prepared.workplace supply milliseconds)).run.run
    { store := stored } with ⟨fault | ⟨⟩, after⟩ <;> rfl

theorem runProgram_failed (arguments : List String) (file : Option String)
    (environment : List (String × String)) (supply : Supply) (milliseconds : Nat) (stored : Store)
    (failed : (runProgram arguments file environment supply milliseconds stored).code = 1 ∨
      (runProgram arguments file environment supply milliseconds stored).code = 2) :
    (runProgram arguments file environment supply milliseconds stored).store = stored ∨
      SeedingStopped arguments file environment stored
        (runProgram arguments file environment supply milliseconds stored) := by
  unfold runProgram at failed ⊢
  cases ready : prepare arguments file environment with
  | error ending =>
    -- No command has begun.
    left
    cases ending with
    | usage cause => cases cause <;> rfl
    | noConfig => rfl
    | fault cause => rfl
  | ok prepared =>
    simp only [ready] at failed ⊢
    by_cases memory : prepared.place = .memory
    · exact .inl (prepared.run_memory supply milliseconds stored memory)
    · rw [prepared.run_eq supply milliseconds stored memory] at failed ⊢
      rcases came : prepared.command.run.result (prepared.workplace supply milliseconds)
        { store := stored } with ⟨fault | ⟨⟩, after⟩
      · rw [came] at failed
        obtain same | ⟨seeding, message, warned, tenant, owner, spoiled, seeded⟩ :=
          Run.run_failed came (RunFault.not_stops failed)
        · exact .inl same
        · refine .inr ⟨prepared, tenant, ready, seeding, owner, ?_, spoiled, seeded⟩
          dsimp only
          rw [warned, message]
          rfl
      · rw [came] at failed
        rcases failed with one | two
        · cases one
        · cases two

/-- Each writing operation comes to its statements, of which a failure leaves no trace, nor does a
task that is there already. A refused time leaves the bindings. A pass ends in an error only where
it cannot read what it is about, before it makes anything. And a run of the program that ends in an
error, whatever it is told to do, leaves all that is stored as it was, unless it was seeding the
presets and came to a pattern it cannot read: then the presets created by then stay. -/
theorem failures_leave_store :
    (∀ {α : Type} (supply : Supply) (writing : Writing α) (store : Store) (error : Error),
      ((writing.statements supply).run store).1 = .error error →
        ((writing.statements supply).run store).2 = store) ∧
    (∀ (supply : Supply) (template : Template) (due : Date) (now : Instant) (store after : Store)
        (existing : Option Uuid),
      ((Writing.materializeTemplate template due now).statements supply).run store =
        (.ok (.duplicate existing), after) → after = store) ∧
    (∀ (supply : Supply) (root : Task) (due : Date) (now : Instant) (store after : Store)
        (existing : Option Uuid),
      ((Writing.materializeRecurring root due now).statements supply).run store =
        (.ok (.duplicate existing), after) → after = store) ∧
    (∀ {α : Type} (supply : Supply) (writing : Writing α) (store : Store), store.Keyed →
      (writing.statements supply).run store = store.settle (writing.operation supply store)) ∧
    (∀ (registry : Registry) (tenant : Uuid) (enabled : Bool) (text : String),
      match (Registry.updateSteps tenant enabled text).run.run registry with
        | (.error _, after) => after = registry
        | (.ok _, after) => registry.update tenant enabled text = .ok after) ∧
    (∀ (store : Store) (supply : Supply) (horizon : Horizon) (tenant : Uuid) (now : Instant)
        (error : Error),
      (store.generate supply horizon tenant now = .error (.error error) →
        store.activePatterns? tenant = .error error ∨ store.templates? tenant = .error error) ∧
      (store.generateRecurring supply horizon tenant now = .error (.error error) →
        store.recurringRoots tenant = .error error)) ∧
    (∀ (arguments : List String) (file : Option String) (environment : List (String × String))
        (supply : Supply) (milliseconds : Nat) (stored : Store) (finished : Finished),
      runProgram arguments file environment supply milliseconds stored = finished →
      finished.code = 1 ∨ finished.code = 2 →
        ("Nothing was saved." ∈ finished.err → finished.store = stored) ∧
        (finished.store = stored ∨
          SeedingStopped arguments file environment stored finished)) := by
  refine ⟨fun supply writing store error failed =>
      Writing.statements_atomic supply writing store error failed,
    fun _ _ _ _ _ _ _ answered => Writing.template_duplicate answered,
    fun _ _ _ _ _ _ _ answered => Writing.recurring_duplicate answered,
    fun _ writing _ keyed => Writing.run_statements keyed writing,
    Registry.run_updateSteps,
    fun _ _ _ _ _ _ => ⟨Store.generate_error, Store.generateRecurring_error⟩, ?_⟩
  rintro arguments file environment supply milliseconds stored finished rfl failed
  obtain same | stopped :=
    runProgram_failed arguments file environment supply milliseconds stored failed
  · exact ⟨fun _ => same, .inl same⟩
  · refine ⟨fun said => ?_, .inr stopped⟩
    obtain ⟨-, -, -, -, -, message, -⟩ := stopped
    rw [message] at said
    exact absurd said (by decide +kernel)

/-- A tenant with a pattern that bears the name of the second preset and cannot be read. -/
def spoiledOffice : Store :=
  { patterns :=
      [{ pattern :=
          { id := .ofNat 2
            tenant := .ofNat 0x0190b7a40000700080000000000000aa
            name := "Quarterly GST Filing"
            description := none
            series := { rule := .monthly 1 (onDay 18), ending := .never, startsOn := filingStart }
            isActive := true
            createdBy := none
            createdAt := filingDay
            updatedAt := filingDay }
         readable := false }] }

def officeEnvironment : List (String × String) :=
  [("CADENCE_TENANT_ID", "0190b7a4-0000-7000-8000-0000000000aa")]

def officeConfig : Config := { tenant := some (.ofNat 0x0190b7a40000700080000000000000aa) }

def officeRun (command : Command) : Prepared :=
  { command, config := officeConfig, horizon := {}, place := .file "cadence.db" }

theorem prepare_office {arguments : List String} {command : Command}
    (read : Command.ofArguments arguments = .ok command) :
    prepare arguments none officeEnvironment = .ok (officeRun command) := by
  have config : Config.read? none officeEnvironment = .ok (some officeConfig) := by
    decide +kernel
  have horizon : officeConfig.horizon? = .ok {} := by
    rfl
  have plain : "cadence.db".contains '\x00' = false := by
    simp
  have place : StorePlace.ofPath "cadence.db" false = .ok (.file "cadence.db") := by
    unfold StorePlace.ofPath
    rw [plain]
    decide +kernel
  open Store in
  exact bind_ok.mpr ⟨_, mapError_ok.mpr read, bind_ok.mpr ⟨_, mapError_ok.mpr config,
    bind_ok.mpr ⟨_, mapError_ok.mpr horizon, bind_ok.mpr ⟨_, mapError_ok.mpr place, rfl⟩⟩⟩⟩

theorem runProgram_office {arguments : List String} {command : Command}
    (read : Command.ofArguments arguments = .ok command) (stored : Store) :
    runProgram arguments none officeEnvironment filingSupply 0 stored =
      (officeRun command).run filingSupply 0 stored := by
  rw [runProgram, prepare_office read]

/-- The second preset stops the seeding, and the first one stays. -/
theorem first_preset_stays :
    (runProgram ["pattern", "presets", "--seed"] none officeEnvironment filingSupply 0
      spoiledOffice).code = 1 ∧
    spoiledOffice.patterns.map (fun row => row.pattern.name) = ["Quarterly GST Filing"] ∧
    (runProgram ["pattern", "presets", "--seed"] none officeEnvironment filingSupply 0
      spoiledOffice).store.patterns.map (fun row => row.pattern.name) =
        ["Quarterly GST Filing", "Monthly GST Filing"] := by
  have read : Command.ofArguments ["pattern", "presets", "--seed"] = .ok (.presets true) := by
    decide +kernel
  rw [runProgram_office read]
  decide +kernel

/-- A pattern that is changed before it turns out to be unreadable, tasks that are there already, a
closed store, a time of day that is none, and the seeding that stops. -/
theorem spoiledOffice_left :
    (let toggling : Writing Pattern :=
        .togglePattern (.ofNat 0x0190b7a40000700080000000000000aa) (.ofNat 2);
      ((toggling.statements filingSupply).run spoiledOffice).1 = .error (.database .unreadable) ∧
        ((toggling.statements filingSupply).run spoiledOffice).2 = spoiledOffice ∧
        spoiledOffice.Keyed ∧ (toggling.statements filingSupply).run spoiledOffice =
          spoiledOffice.settle (toggling.operation filingSupply spoiledOffice)) ∧
    (let filed : Writing Materialized :=
        .materializeTemplate (filingTemplate 4 2 "Return") filingDue filingDay;
      ((filed.statements filingSupply).run officeFiled).1 =
          .ok (.duplicate (some (filingSupply.id 0))) ∧
        ((filed.statements filingSupply).run officeFiled).2 = officeFiled) ∧
    (let backedUp : Writing Materialized := .materializeRecurring backup backupDue filingDay;
      ((backedUp.statements filingSupply).run officeBackedUp).1 =
          .ok (.duplicate (some ((opening 200).id 0))) ∧
        ((backedUp.statements filingSupply).run officeBackedUp).2 = officeBackedUp) ∧
    (let closed : Store := { office with isOpen := false };
      closed.generate filingSupply {} (.ofNat 1) filingDay = .error (.error (.database .closed)) ∧
        (closed.activePatterns? (.ofNat 1) = .error (.database .closed) ∨
          closed.templates? (.ofNat 1) = .error (.database .closed)) ∧
        closed.generateRecurring filingSupply {} (.ofNat 1) filingDay =
          .error (.error (.database .closed)) ∧
        closed.recurringRoots (.ofNat 1) = .error (.database .closed)) ∧
    (let refused := runProgram ["schedule", "set", "25:00"] none officeEnvironment filingSupply 0
        spoiledOffice;
      refused.code = 1 ∧ "Nothing was saved." ∈ refused.err ∧ refused.store = spoiledOffice) ∧
    (let stopped := runProgram ["pattern", "presets", "--seed"] none officeEnvironment filingSupply 0
        spoiledOffice;
      stopped.code = 1 ∧ stopped.store ≠ spoiledOffice ∧
        SeedingStopped ["pattern", "presets", "--seed"] none officeEnvironment spoiledOffice
          stopped) := by
  obtain ⟨traceless, filed, backedUp, statements, -, passes, program⟩ := failures_leave_store
  have keyed : spoiledOffice.Keyed := ⟨by decide +kernel, by decide +kernel⟩
  refine ⟨⟨by decide +kernel, ?_, keyed, statements _ _ _ keyed⟩, ⟨by decide +kernel, ?_⟩,
    ⟨by decide +kernel, ?_⟩, ⟨by decide +kernel, ?_, by decide +kernel, ?_⟩, ?_, ?_⟩
  · exact traceless _ _ _ (.database .unreadable) (by decide +kernel)
  · exact filed _ _ _ _ _ _ _ (Prod.ext (by decide +kernel) rfl)
  · exact backedUp _ _ _ _ _ _ _ (Prod.ext (by decide +kernel) rfl)
  · exact (passes _ filingSupply {} _ filingDay _).1 (by decide +kernel)
  · exact (passes _ filingSupply {} _ filingDay _).2 (by decide +kernel)
  · have read : Command.ofArguments ["schedule", "set", "25:00"] =
        .ok (.setSchedule { time := "25:00" }) := by
      decide +kernel
    have code : ((officeRun (.setSchedule { time := "25:00" })).run filingSupply 0
        spoiledOffice).code = 1 := by
      decide +kernel
    have said : "Nothing was saved." ∈ ((officeRun (.setSchedule { time := "25:00" })).run
        filingSupply 0 spoiledOffice).err := by
      decide +kernel
    rw [← runProgram_office read] at code said
    exact ⟨code, said, (program _ _ _ _ _ _ _ rfl (.inl code)).1 said⟩
  · have read : Command.ofArguments ["pattern", "presets", "--seed"] = .ok (.presets true) := by
      decide +kernel
    have code : ((officeRun (.presets true)).run filingSupply 0 spoiledOffice).code = 1 := by
      decide +kernel
    have changed : ((officeRun (.presets true)).run filingSupply 0 spoiledOffice).store ≠
        spoiledOffice := by
      decide +kernel
    rw [← runProgram_office read] at code changed
    exact ⟨code, changed, (program _ _ _ _ _ _ _ rfl (.inl code)).2.resolve_left changed⟩

end Rota
