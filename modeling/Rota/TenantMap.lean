import Rota.Uuid

/-!
One value for each of some tenants, in ascending order of the tenants.
-/

namespace Rota

structure TenantMap (α : Type) where
  entries : List (Uuid × α) := []
  deriving DecidableEq

namespace TenantMap

variable {α : Type}

def empty : TenantMap α := {}

def get? (map : TenantMap α) (tenant : Uuid) : Option α :=
  (map.entries.find? fun entry => entry.1 == tenant).map Prod.snd

def tenants (map : TenantMap α) : List Uuid := map.entries.map Prod.fst

def insertEntry (tenant : Uuid) (value : α) : List (Uuid × α) → List (Uuid × α)
  | [] => [(tenant, value)]
  | entry :: rest =>
    if tenant = entry.1 then (tenant, value) :: rest
    else if tenant.toNat < entry.1.toNat then (tenant, value) :: entry :: rest
    else entry :: insertEntry tenant value rest

def insert (map : TenantMap α) (tenant : Uuid) (value : α) : TenantMap α :=
  ⟨insertEntry tenant value map.entries⟩

def erase (map : TenantMap α) (tenant : Uuid) : TenantMap α :=
  ⟨map.entries.filter fun entry => entry.1 != tenant⟩

def modify (map : TenantMap α) (tenant : Uuid) (change : α → α) : TenantMap α :=
  ⟨map.entries.map fun entry => if entry.1 = tenant then (entry.1, change entry.2) else entry⟩

end TenantMap
end Rota
