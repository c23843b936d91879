import Rota.Error
import Rota.TenantMap
import Rota.Task.Instance

/-!
What is kept for all tenants: rows of patterns, templates and tasks in the order they were created,
and the settings of each tenant that has saved some. Every operation is about the rows of one
tenant. A writing operation returns the store after it only when it succeeds, so one that fails
leaves nothing behind.

A store can be closed, after which nothing can be read or written; a pattern's rule can become
unreadable, and then loading that pattern fails; and a store can refuse tasks of a certain title.
-/

namespace Rota

abbrev Attempt (α : Type) := Except Error α

/-- A stored pattern. One that cannot be read is still there and keeps its place. -/
structure PatternRow where
  pattern : Pattern
  readable : Bool := true
  deriving DecidableEq

structure Store where
  patterns : List PatternRow := []
  templates : List Template := []
  tasks : List Task := []
  settings : TenantMap Settings := {}
  refusedTitles : List String := []
  isOpen : Bool := true
  deriving DecidableEq

/-- The amount that is read back: a zero loses its sign, and what is no number is not kept. -/
def Amount.kept? (amount : Amount) : Option Amount :=
  if amount.isNaN then none
  else if amount.exponentField = 0 ∧ amount.fractionField = 0 then some (.pack false 0 0)
  else some amount

def Pricing.kept (pricing : Pricing) : Pricing :=
  { pricing with
    estimatedHours := pricing.estimatedHours.bind Amount.kept?
    hourlyRate := pricing.hourlyRate.bind Amount.kept?
    fixedPrice := pricing.fixedPrice.bind Amount.kept?
    price := pricing.price.bind Amount.kept? }

def Work.kept (work : Work) : Work := { work with pricing := work.pricing.kept }

namespace Store

def empty : Store := {}

def use (store : Store) : Attempt Unit :=
  if store.isOpen then .ok () else .error (.database .closed)

end Store
end Rota
