import Rota.Program

/-!
What a command's actions do to the store. An action that only looks leaves the store and what was
warned of alone; one that is sure ends in no error, though arithmetic may stop it. What follows a
write has to be sure for an error to leave no trace.
-/

namespace Rota

/-- An arithmetic fault stops a run; every other fault ends it as an error. -/
def RunFault.stops (fault : RunFault) : Prop := ∃ cause, fault = .failure (.fault cause)

namespace Run

variable {α β ε : Type} {place : Workplace} {state after : RunState}

def result (action : Run α) (place : Workplace) (state : RunState) :
    Except RunFault α × RunState :=
  StateT.run (ExceptT.run (ReaderT.run action place)) state

@[simp] theorem result_pure (a : α) : result (pure a) place state = (.ok a, state) := rfl

theorem result_bind (first : Run α) (rest : α → Run β) (place : Workplace) (state : RunState) :
    result (first >>= rest) place state = match result first place state with
      | (.ok a, after) => result (rest a) place after
      | (.error fault, after) => (.error fault, after) := by
  have goes : result (first >>= rest) place state =
      ExceptT.bindCont (fun a => ReaderT.run (rest a) place) (result first place state).1
        (result first place state).2 := rfl
  rw [goes]
  rcases result first place state with ⟨_ | _, _⟩ <;> rfl

theorem result_after {first : Run α} {rest : α → Run β} {a : α}
    (answered : result first place state = (.ok a, after)) :
    result (first >>= rest) place state = result (rest a) place after := by
  rw [result_bind, answered]

/-- A question that is not answered ends the action where it is asked. -/
theorem failed_after_ask {first : Run α} {rest : α → Run β} {value : Except ε α}
    {wrap : ε → RunFault} {fault : RunFault}
    (asked : result first place state = (value.mapError wrap, state))
    (failed : result (first >>= rest) place state = (.error fault, after)) :
    (after = state ∧ ∃ cause, value = .error cause ∧ fault = wrap cause) ∨
      ∃ a, value = .ok a ∧ result (rest a) place state = (.error fault, after) := by
  rw [result_bind, asked] at failed
  cases value with
  | error cause =>
    cases failed
    exact .inl ⟨rfl, cause, rfl, rfl⟩
  | ok a => exact .inr ⟨a, rfl, failed⟩

@[simp] theorem result_read : result read place state = (.ok place, state) := rfl

@[simp] theorem result_get : result get place state = (.ok state, state) := rfl

@[simp] theorem result_modify (change : RunState → RunState) :
    result (modify change) place state = (.ok (), change state) := rfl

@[simp] theorem result_say (lines : List String) :
    result (say lines) place state = (.ok (), { state with out := state.out ++ lines }) := rfl

@[simp] theorem result_ofExcept (fault : ε → RunFault) (value : Except ε α) :
    result (ofExcept fault value) place state = (value.mapError fault, state) := by
  cases value <;> rfl

@[simp] theorem result_tenant :
    result tenant place state = (place.config.tenant?.mapError .config, state) := by
  simp only [tenant, result_bind, result_read, result_ofExcept]

@[simp] theorem result_today : result today place state =
    ((place.horizon.today place.supply.clock).mapError (fun fault => .failure (.fault fault)),
      state) := by
  simp only [today, now, checked, result_bind, result_read, result_pure, result_ofExcept]

def Looks (action : Run α) : Prop :=
  ∀ place state, (result action place state).2.store = state.store ∧
    (result action place state).2.err = state.err

def Sure (action : Run α) : Prop :=
  ∀ place state fault, (result action place state).1 = .error fault → fault.stops

/-- An error leaves the store as it was. -/
def Traceless (action : Run α) : Prop :=
  ∀ place state fault, (result action place state).1 = .error fault → ¬fault.stops →
    (result action place state).2.store = state.store

theorem Looks.traceless {action : Run α} (looks : Looks action) : Traceless action :=
  fun place state _ _ _ => (looks place state).1

theorem Looks.bind {first : Run α} {rest : α → Run β} (looks : Looks first)
    (further : ∀ a, Looks (rest a)) : Looks (first >>= rest) := by
  intro place state
  have start := looks place state
  rw [result_bind]
  rcases came : result first place state with ⟨fault | a, middle⟩
  · rw [came] at start
    exact start
  · rw [came] at start
    have last := further a place middle
    exact ⟨last.1.trans start.1, last.2.trans start.2⟩

theorem Sure.bind {first : Run α} {rest : α → Run β} (sure : Sure first)
    (further : ∀ a, Sure (rest a)) : Sure (first >>= rest) := by
  intro place state fault failed
  rw [result_bind] at failed
  rcases came : result first place state with ⟨cause | a, middle⟩
  · rw [came] at failed
    exact Except.error.inj failed ▸ sure place state cause (congrArg Prod.fst came)
  · rw [came] at failed
    exact further a place middle fault failed

theorem Looks.then {first : Run α} {rest : α → Run β} (looks : Looks first)
    (traceless : ∀ a, Traceless (rest a)) : Traceless (first >>= rest) := by
  intro place state fault failed error
  have start := (looks place state).1
  rw [result_bind] at failed ⊢
  rcases came : result first place state with ⟨cause | a, middle⟩
  · rw [came] at start
    exact start
  · rw [came] at failed start
    exact (traceless a place middle fault failed error).trans start

theorem Traceless.then {first : Run α} {rest : α → Run β} (traceless : Traceless first)
    (sure : ∀ place state a, (result first place state).1 = .ok a → Sure (rest a)) :
    Traceless (first >>= rest) := by
  intro place state fault failed error
  have start := traceless place state fault
  rw [result_bind] at failed ⊢
  rcases came : result first place state with ⟨cause | a, middle⟩
  · rw [came] at failed start
    exact start (congrArg Except.error (Except.error.inj failed)) error
  · rw [came] at failed
    have given := congrArg Prod.fst came
    exact absurd (sure place state a given place middle fault failed) error

theorem looks_pure (a : α) : Looks (pure a) := fun _ _ => ⟨rfl, rfl⟩

theorem looks_read : Looks read := fun _ _ => ⟨rfl, rfl⟩

theorem looks_get : Looks get := fun _ _ => ⟨rfl, rfl⟩

theorem looks_ofExcept (fault : ε → RunFault) (value : Except ε α) :
    Looks (ofExcept fault value) := by
  intro place state
  rw [result_ofExcept]
  exact ⟨rfl, rfl⟩

theorem looks_checked (value : Checked α) : Looks (checked value) := looks_ofExcept _ value

theorem looks_attempt (value : Except Error α) : Looks (attempt value) := looks_ofExcept _ value

theorem looks_outcome (value : Outcome α) : Looks (outcome value) := looks_ofExcept _ value

theorem looks_say (lines : List String) : Looks (say lines) := fun _ _ => ⟨rfl, rfl⟩

theorem looks_tenant : Looks tenant := .bind looks_read fun _ => looks_ofExcept _ _

theorem looks_now : Looks now := .bind looks_read fun _ => looks_pure _

theorem looks_today : Looks today :=
  .bind looks_read fun _ => .bind looks_now fun _ => looks_checked _

theorem looks_reading (look : Store → Attempt α) : Looks (reading look) :=
  .bind looks_get fun _ => looks_attempt _

theorem sure_pure (a : α) : Sure (pure a) := fun _ _ _ failed => nomatch failed

theorem sure_read : Sure read := fun _ _ _ failed => nomatch failed

theorem sure_say (lines : List String) : Sure (say lines) := fun _ _ _ failed => nomatch failed

theorem sure_warn (lines : List String) : Sure (warn lines) := fun _ _ _ failed => nomatch failed

theorem sure_now : Sure now := .bind sure_read fun _ => sure_pure _

theorem sure_checked (value : Checked α) : Sure (checked value) := by
  intro place state fault failed
  rw [checked, result_ofExcept] at failed
  cases value with
  | ok a => cases failed
  | error cause => exact ⟨cause, (Except.error.inj failed).symm⟩

theorem sure_attempt (a : α) : Sure (attempt (.ok a)) := fun _ _ _ failed => nomatch failed

theorem result_writing (act : Store → Supply → Attempt (α × Store)) :
    result (writing act) place state = match act state.store place.supply with
      | .ok (a, store) => (.ok a, { state with store })
      | .error error => (.error (.failure (.error error)), state) := by
  simp only [writing, attempt, result_bind, result_get, result_read, result_ofExcept]
  rcases act state.store place.supply with error | ⟨a, store⟩ <;> rfl

theorem traceless_writing (act : Store → Supply → Attempt (α × Store)) :
    Traceless (writing act) := by
  intro place state fault failed _
  rw [result_writing] at failed ⊢
  rcases came : act state.store place.supply with error | ⟨a, store⟩
  · rfl
  · rw [came] at failed
    cases failed

theorem result_passing (pass : Store → Supply → Horizon → Outcome (Summary × Store)) :
    result (passing pass) place state = match pass state.store place.supply place.horizon with
      | .ok (summary, store) => (.ok summary, { state with store })
      | .error failure => (.error (.failure failure), state) := by
  simp only [passing, outcome, result_bind, result_get, result_read, result_ofExcept]
  rcases pass state.store place.supply place.horizon with failure | ⟨summary, store⟩ <;> rfl

theorem traceless_passing (pass : Store → Supply → Horizon → Outcome (Summary × Store)) :
    Traceless (passing pass) := by
  intro place state fault failed _
  rw [result_passing] at failed ⊢
  rcases came : pass state.store place.supply place.horizon with failure | ⟨summary, store⟩
  · rfl
  · rw [came] at failed
    cases failed

end Run
end Rota
