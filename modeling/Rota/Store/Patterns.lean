import Rota.Store.Basic

/-!
The patterns of a tenant. A name is kept without the white space around it, and two patterns may
have the same one. Name, rule and end condition are checked, in this order, before anything is
written.
-/

namespace Rota

structure PatternDraft where
  tenant : Uuid
  name : String
  description : Option String := none
  series : Series
  createdBy : Option Uuid := none

/-- What to change of a pattern; what is none stays. -/
structure PatternChange where
  name : Option String := none
  description : Option (Option String) := none
  rule : Option Rule := none
  ending : Option EndCondition := none
  startsOn : Option Date := none
  isActive : Option Bool := none

def checkPattern (name : String) (series : Series) : Attempt Unit := do
  require (Text.isBlankText name = false) (.invalidInput .blankPatternName)
  series.rule.check.mapError .invalidPattern
  series.ending.check.mapError .invalidPattern

namespace PatternRow

def ownedBy (tenant : Uuid) (row : PatternRow) : Bool := row.pattern.tenant == tenant

def isFor (tenant id : Uuid) (row : PatternRow) : Bool := row.ownedBy tenant && row.pattern.id == id

def load (row : PatternRow) : Attempt Pattern :=
  if row.readable then .ok row.pattern else .error (.database .unreadable)

end PatternRow

namespace PatternChange

def apply (change : PatternChange) (pattern : Pattern) : Pattern :=
  { pattern with
    name := (change.name.map Text.trim).getD pattern.name
    description := change.description.getD pattern.description
    series :=
      { rule := change.rule.getD pattern.series.rule
        ending := change.ending.getD pattern.series.ending
        startsOn := change.startsOn.getD pattern.series.startsOn }
    isActive := change.isActive.getD pattern.isActive }

end PatternChange

namespace Store

def loadPatterns (store : Store) (tenant : Uuid) (meets : Pattern → Bool) :
    Attempt (List Pattern) := do
  store.use
  (store.patterns.filter fun row => row.ownedBy tenant && meets row.pattern).mapM PatternRow.load

def patterns? (store : Store) (tenant : Uuid) : Attempt (List Pattern) :=
  store.loadPatterns tenant fun _ => true

def activePatterns? (store : Store) (tenant : Uuid) : Attempt (List Pattern) :=
  store.loadPatterns tenant Pattern.isActive

def findPattern (store : Store) (tenant id : Uuid) : Attempt (Option Pattern) := do
  store.use
  (store.patterns.find? (PatternRow.isFor tenant id)).mapM PatternRow.load

def findPatternNamed (store : Store) (tenant : Uuid) (name : String) :
    Attempt (Option Pattern) := do
  store.use
  (store.patterns.find? fun row => row.ownedBy tenant && row.pattern.name == name).mapM
    PatternRow.load

def createPattern (store : Store) (supply : Supply) (draft : PatternDraft) :
    Attempt (Pattern × Store) := do
  checkPattern draft.name draft.series
  store.use
  let pattern : Pattern :=
    { id := supply.id 0
      tenant := draft.tenant
      name := Text.trim draft.name
      description := draft.description
      series := draft.series
      isActive := true
      createdBy := draft.createdBy
      createdAt := supply.clock
      updatedAt := supply.clock }
  return (pattern, { store with patterns := store.patterns ++ [{ pattern }] })

def putPattern (store : Store) (pattern : Pattern) : Store :=
  { store with
    patterns := store.patterns.map fun row =>
      if row.isFor pattern.tenant pattern.id then { row with pattern } else row }

def getPattern (store : Store) (tenant id : Uuid) : Attempt Pattern := do
  match ← store.findPattern tenant id with
  | some pattern => return pattern
  | none => .error (.notFound (.pattern id))

def updatePattern (store : Store) (supply : Supply) (tenant id : Uuid) (change : PatternChange) :
    Attempt (Pattern × Store) := do
  let changed := change.apply (← store.getPattern tenant id)
  checkPattern changed.name changed.series
  let changed := { changed with updatedAt := supply.clock }
  return (changed, store.putPattern changed)

def togglePattern (store : Store) (supply : Supply) (tenant id : Uuid) :
    Attempt (Pattern × Store) := do
  let pattern ← store.getPattern tenant id
  let toggled := { pattern with isActive := !pattern.isActive, updatedAt := supply.clock }
  return (toggled, store.putPattern toggled)

end Store
end Rota
