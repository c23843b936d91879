import Rota.Generation.Overview
import Rota.Presets
import Rota.Proofs.Generation.LongIntervals
import Rota.Proofs.Store.Session

/-!
Everything that a tenant can ask of the store, in one type, with the answer to each and what is
stored afterwards. A request that fails leaves the store as it was; a pass that is stopped by a
fault, and presets of which one fails, leave what was written until then.
-/

namespace Rota

inductive Request : Type → Type where
  | createPattern (draft : PatternDraft) : Request (Attempt Pattern)
  | findPattern (id : Uuid) : Request (Attempt (Option Pattern))
  | findPatternNamed (name : String) : Request (Attempt (Option Pattern))
  | patterns : Request (Attempt (List Pattern))
  | activePatterns : Request (Attempt (List Pattern))
  | updatePattern (id : Uuid) (change : PatternChange) : Request (Attempt Pattern)
  | togglePattern (id : Uuid) : Request (Attempt Pattern)
  | seedPresets (createdBy : Option Uuid) (today : Date) : Request (Attempt (List Pattern))
  | createTemplate (draft : TemplateDraft) : Request (Attempt Template)
  | findTemplate (id : Uuid) : Request (Attempt (Option Template))
  | templates : Request (Attempt (List Template))
  | templatesBoundTo (ids : List Uuid) : Request (Attempt (List Template))
  | addTask (draft : TaskDraft) : Request (Attempt Task)
  | findTask (id : Uuid) : Request (Attempt (Option Task))
  | tasksOfTemplate (template : Uuid) : Request (Attempt (List Task))
  | recurringRoots : Request (Attempt (List Task))
  | instancesOf (parent : Uuid) : Request (Attempt (List Task))
  | findTemplateInstance (template : Uuid) (due : Date) : Request (Attempt (Option Task))
  | findRecurringInstance (root : Task) (due : Date) : Request (Attempt (Option Task))
  | materializeTemplate (template : Template) (due : Date) (now : Instant) :
      Request (Attempt Materialized)
  | materializeRecurring (root : Task) (due : Date) (now : Instant) :
      Request (Attempt Materialized)
  | settings : Request (Attempt Settings)
  | saveSettings (wanted : Settings) : Request (Attempt Settings)
  | generate (horizon : Horizon) (now : Instant) : Request (Outcome Summary)
  | generateRecurring (horizon : Horizon) (now : Instant) : Request (Outcome Summary)
  | overview (horizon : Horizon) (now : Instant) : Request (Outcome (List OverviewRow))
  | stats (horizon : Horizon) (now : Instant) : Request (Outcome Stats)

namespace Request

/-- The answer to a request of a tenant, and what is stored after it. What is to be created is the
tenant's, whomever the draft names. -/
def perform {α : Type} (tenant : Uuid) (supply : Supply) (store : Store) : Request α → α × Store
  | createPattern draft => store.settle (store.createPattern supply { draft with tenant })
  | findPattern id => (store.findPattern tenant id, store)
  | findPatternNamed name => (store.findPatternNamed tenant name, store)
  | patterns => (store.patterns? tenant, store)
  | activePatterns => (store.activePatterns? tenant, store)
  | updatePattern id change => store.settle (store.updatePattern supply tenant id change)
  | togglePattern id => store.settle (store.togglePattern supply tenant id)
  | seedPresets createdBy today => store.seedPresets supply tenant createdBy today
  | createTemplate draft => store.settle (store.createTemplate supply { draft with tenant })
  | findTemplate id => (store.findTemplate tenant id, store)
  | templates => (store.templates? tenant, store)
  | templatesBoundTo ids => (store.templatesBoundTo tenant ids, store)
  | addTask draft => store.settle (store.addTask supply { draft with tenant })
  | findTask id => (store.findTask tenant id, store)
  | tasksOfTemplate template => (store.tasksOfTemplate tenant template, store)
  | recurringRoots => (store.recurringRoots tenant, store)
  | instancesOf parent => (store.instancesOf tenant parent, store)
  | findTemplateInstance template due => (store.findTemplateInstance tenant template due, store)
  | findRecurringInstance root due => (store.findRecurringInstance root due, store)
  | materializeTemplate template due now =>
    store.settle (store.materializeTemplate supply template due now)
  | materializeRecurring root due now =>
    store.settle (store.materializeRecurring supply root due now)
  | settings => (store.settingsOf tenant, store)
  | saveSettings wanted => store.settle (store.saveSettings tenant wanted)
  | generate horizon now => store.settle (store.generate supply horizon tenant now)
  | generateRecurring horizon now =>
    ((store.generateRecurring supply horizon tenant now).map Prod.fst,
      store.afterRecurring supply horizon tenant now)
  | overview horizon now => (store.overview horizon tenant now, store)
  | stats horizon now => (store.stats horizon tenant now, store)

end Request
end Rota
