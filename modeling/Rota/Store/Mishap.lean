import Rota.Store.Basic

/-!
What may befall a store from outside, past every check: a pattern goes missing while templates still
name it, a rule can no longer be read, a title is refused from now on, a time is written unchecked,
the store is closed.
-/

namespace Rota.Store

def dropPattern (store : Store) (id : Uuid) : Attempt Store := do
  store.use
  return { store with patterns := store.patterns.filter fun row => row.pattern.id != id }

def spoilRule (store : Store) (id : Uuid) : Attempt Store := do
  store.use
  return { store with
    patterns := store.patterns.map fun row =>
      if row.pattern.id = id then { row with readable := false } else row }

def refuseTitle (store : Store) (title : String) : Attempt Store := do
  store.use
  return { store with refusedTitles := title :: store.refusedTitles }

def overwriteRunTime (store : Store) (tenant : Uuid) (time : String) : Attempt Store := do
  store.use
  return { store with
    settings := store.settings.modify tenant fun settings => { settings with runTime := time } }

def close (store : Store) : Store := { store with isOpen := false }

end Rota.Store
