import Rota.Store.Basic

/-!
Work on a store that asks and writes step by step. A step that fails ends the work, and what the
steps before it wrote stays.
-/

namespace Rota

/-- What an operation comes to and the store after it, which is the same store when it fails. -/
def Store.settle {ε α : Type} (store : Store) : Except ε (α × Store) → Except ε α × Store
  | .ok (a, after) => (.ok a, after)
  | .error fault => (.error fault, store)

theorem Store.settle_keeps {ε α : Type} {P : Store → Prop} {store : Store}
    {result : Except ε (α × Store)} (holds : P store)
    (kept : ∀ a after, result = .ok (a, after) → P after) : P (store.settle result).2 := by
  rcases result with fault | ⟨a, after⟩
  · exact holds
  · exact kept a after rfl

theorem Store.settle_ok {ε α : Type} {store after : Store} {result : Except ε (α × Store)} {a : α} :
    store.settle result = (.ok a, after) ↔ result = .ok (a, after) := by
  rcases result with fault | ⟨b, left⟩ <;> simp [settle]

abbrev Session (ε α : Type) := ExceptT ε (StateM Store) α

namespace Session

variable {α β ε : Type}

def run (session : Session ε α) (store : Store) : Except ε α × Store :=
  StateT.run (ExceptT.run session) store

theorem ext_run {session other : Session ε α} (same : ∀ store, session.run store = other.run store) :
    session = other := funext same

def ask (question : Store → Except ε α) : Session ε α := fun store => (question store, store)

def settle (operation : Store → Except ε (α × Store)) : Session ε α :=
  fun store => store.settle (operation store)

@[simp] theorem run_ask (question : Store → Except ε α) (store : Store) :
    (ask question).run store = (question store, store) := rfl

@[simp] theorem run_settle (operation : Store → Except ε (α × Store)) (store : Store) :
    (settle operation).run store = store.settle (operation store) := rfl

theorem run_bind (first : Session ε α) (rest : α → Session ε β) (store : Store) :
    (first >>= rest).run store = match first.run store with
      | (.ok a, after) => (rest a).run after
      | (.error fault, after) => (.error fault, after) := by
  have goes : (first >>= rest).run store =
      ExceptT.bindCont rest (first.run store).1 (first.run store).2 := rfl
  rw [goes]
  rcases first.run store with ⟨_ | _, _⟩ <;> rfl

theorem settle_bind (question : Store → Except ε β) (rest : β → Store → Except ε (α × Store)) :
    settle (fun store => question store >>= fun b => rest b store) =
      ask question >>= fun b => settle (rest b) := by
  apply ext_run
  intro store
  rw [run_bind, run_ask, run_settle]
  cases question store <;> rfl

end Session
end Rota
