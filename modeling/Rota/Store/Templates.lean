import Rota.Store.Patterns

/-!
The templates of a tenant. A template may be bound to a pattern of its tenant, which must exist when
the template is created.
-/

namespace Rota

structure TemplateDraft where
  tenant : Uuid
  pattern : Option Uuid := none
  work : Work

namespace Template

def isFor (tenant id : Uuid) (template : Template) : Bool :=
  template.tenant == tenant && template.id == id

end Template

namespace Store

def templates? (store : Store) (tenant : Uuid) : Attempt (List Template) := do
  store.use
  return store.templates.filter fun template => template.tenant == tenant

def findTemplate (store : Store) (tenant id : Uuid) : Attempt (Option Template) := do
  store.use
  return store.templates.find? (Template.isFor tenant id)

/-- The templates bound to any of the patterns; with no pattern the store is not looked at. -/
def templatesBoundTo (store : Store) (tenant : Uuid) (patterns : List Uuid) :
    Attempt (List Template) :=
  if patterns.isEmpty then .ok []
  else do
    store.use
    return store.templates.filter fun template =>
      template.tenant == tenant && template.pattern.any fun id => patterns.contains id

def createTemplate (store : Store) (supply : Supply) (draft : TemplateDraft) :
    Attempt (Template × Store) := do
  require (Text.isBlankText draft.work.title = false) (.invalidInput .blankTemplateTitle)
  match draft.pattern with
  | some id => let _ ← store.getPattern draft.tenant id
  | none => store.use
  let template : Template :=
    { id := supply.id 0
      tenant := draft.tenant
      pattern := draft.pattern
      work := { draft.work with title := Text.trim draft.work.title }
      lastGenerated := none
      createdAt := supply.clock
      updatedAt := supply.clock }
  return (template, { store with
    templates := store.templates ++ [{ template with work := template.work.kept }] })

end Store
end Rota
