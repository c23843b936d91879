import Rota.TenantMap
import Mathlib.Data.List.Nodup

/-!
Looking up what was put under a tenant, and the order of the tenants, which putting keeps.
-/

namespace Rota

theorem Uuid.toNat_inj {a b : Uuid} : a.toNat = b.toNat ↔ a = b := by
  cases a
  cases b
  simp [toNat, BitVec.toNat_inj]

namespace TenantMap

variable {α : Type} {map : TenantMap α} {entries : List (Uuid × α)} {tenant other : Uuid} {value : α}

theorem find?_insertEntry (entries : List (Uuid × α)) :
    (insertEntry tenant value entries).find? (fun entry => entry.1 == other) =
      if tenant = other then some (tenant, value)
      else entries.find? fun entry => entry.1 == other := by
  fun_induction insertEntry tenant value entries with
  | case1 => by_cases same : tenant = other <;> simp [same]
  | case2 entry rest here => by_cases same : tenant = other <;> simp [← here, same]
  | case3 entry rest _ _ => by_cases same : tenant = other <;> simp [same]
  | case4 entry rest apart _ ih =>
    by_cases same : tenant = other
    · have different : (entry.1 == other) = false := beq_false_of_ne (same ▸ Ne.symm apart)
      simp only [List.find?_cons, different, ih, if_pos same]
    · rw [List.find?_cons, ih, if_neg same, if_neg same, List.find?_cons]

@[simp] theorem get?_insert : (map.insert tenant value).get? other =
    if tenant = other then some value else map.get? other := by
  by_cases same : tenant = other <;> simp [get?, insert, find?_insertEntry, same]

@[simp] theorem get?_erase :
    (map.erase tenant).get? other = if tenant = other then none else map.get? other := by
  unfold get? erase
  rw [List.find?_filter]
  by_cases same : tenant = other
  · simp [same]
  · rw [if_neg same]
    congr 2
    funext entry
    by_cases owner : entry.1 = other <;> simp [owner, Ne.symm same]

theorem insertEntry_insertEntry (entries : List (Uuid × α)) :
    insertEntry tenant value (insertEntry tenant value entries) = insertEntry tenant value entries := by
  fun_induction insertEntry tenant value entries with
  | case1 => simp [insertEntry]
  | case2 entry rest here => simp [insertEntry]
  | case3 entry rest _ _ => simp [insertEntry]
  | case4 entry rest apart notBefore ih => rw [insertEntry, if_neg apart, if_neg notBefore, ih]

@[simp] theorem insert_insert :
    (map.insert tenant value).insert tenant value = map.insert tenant value :=
  congrArg TenantMap.mk (insertEntry_insertEntry map.entries)

theorem get?_isSome : (map.get? tenant).isSome ↔ tenant ∈ map.tenants := by
  simp [get?, tenants, List.find?_isSome, Option.isSome_map]

theorem mem_insertEntry {entry : Uuid × α} (member : entry ∈ insertEntry tenant value entries) :
    entry = (tenant, value) ∨ entry ∈ entries := by
  fun_induction insertEntry tenant value entries with
  | case1 => exact Or.inl (List.mem_singleton.mp member)
  | case2 first rest _ => exact (List.mem_cons.mp member).imp_right (List.mem_cons_of_mem _)
  | case3 first rest _ _ => exact List.mem_cons.mp member
  | case4 first rest _ _ ih =>
    rcases List.mem_cons.mp member with same | later
    · exact Or.inr (same ▸ List.mem_cons_self)
    · exact (ih later).imp_right (List.mem_cons_of_mem _)

theorem pairwise_insertEntry (ascending : entries.Pairwise fun a b => a.1.toNat < b.1.toNat) :
    (insertEntry tenant value entries).Pairwise fun a b => a.1.toNat < b.1.toNat := by
  fun_induction insertEntry tenant value entries with
  | case1 => exact List.pairwise_singleton _ _
  | case2 first rest here => exact List.pairwise_cons.mpr (here ▸ List.pairwise_cons.mp ascending)
  | case3 first rest _ before =>
    refine List.pairwise_cons.mpr ⟨fun entry member => ?_, ascending⟩
    rcases List.mem_cons.mp member with rfl | later
    · exact before
    · exact Nat.lt_trans before ((List.pairwise_cons.mp ascending).1 entry later)
  | case4 first rest apart after ih =>
    obtain ⟨least, sorted⟩ := List.pairwise_cons.mp ascending
    refine List.pairwise_cons.mpr ⟨fun entry member => ?_, ih sorted⟩
    rcases mem_insertEntry member with rfl | later
    · have different : tenant.toNat ≠ first.1.toNat := fun equal => apart (Uuid.toNat_inj.mp equal)
      exact Nat.lt_of_le_of_ne (Nat.not_lt.mp after) different.symm
    · exact least entry later

def only (map : TenantMap α) (tenant : Uuid) : TenantMap α :=
  ⟨((map.get? tenant).map (Prod.mk tenant)).toList⟩

@[simp] theorem get?_only : (map.only tenant).get? tenant = map.get? tenant := by
  unfold only
  cases map.get? tenant <;> simp [get?]

theorem only_insert : (map.insert tenant value).only tenant = (map.only tenant).insert tenant value := by
  simp only [only, get?_insert]
  cases map.get? tenant <;> simp [insert, insertEntry]

theorem only_insert_of_ne (apart : tenant ≠ other) :
    (map.insert tenant value).only other = map.only other := by
  simp [only, apart]

/-- The tenants ascend, so each has one entry. -/
def Ascending (map : TenantMap α) : Prop :=
  map.entries.Pairwise fun a b => a.1.toNat < b.1.toNat

theorem Ascending.insert (ascending : map.Ascending) : (map.insert tenant value).Ascending :=
  pairwise_insertEntry ascending

theorem Ascending.erase (ascending : map.Ascending) : (map.erase tenant).Ascending :=
  ascending.filter _

theorem Ascending.distinct (ascending : map.Ascending) : (map.entries.map Prod.fst).Nodup :=
  List.pairwise_map.mpr (ascending.imp fun less same => by simp [same] at less)

theorem Ascending.mem_entries (ascending : map.Ascending) :
    (tenant, value) ∈ map.entries ↔ map.get? tenant = some value := by
  constructor
  · intro member
    cases found : map.entries.find? fun entry => entry.1 == tenant with
    | none => exact absurd (List.find?_eq_none.mp found _ member) (by simp)
    | some entry =>
      have owner : entry.1 = tenant := by simpa using List.find?_some found
      have same : entry = (tenant, value) := List.inj_on_of_nodup_map ascending.distinct
        (List.mem_of_find?_eq_some found) member owner
      simp [get?, found, same]
  · intro found
    obtain ⟨entry, located, rfl⟩ := Option.map_eq_some_iff.mp found
    have owner : entry.1 = tenant := by simpa using List.find?_some located
    exact owner ▸ List.mem_of_find?_eq_some located

/-- Two ascending maps with the same values are one map. -/
theorem Ascending.ext {a b : TenantMap α} (first : a.Ascending) (second : b.Ascending)
    (same : ∀ tenant, a.get? tenant = b.get? tenant) : a = b := by
  have held (entry : Uuid × α) : entry ∈ a.entries ↔ entry ∈ b.entries := by
    rw [first.mem_entries, second.mem_entries, same]
  have once {map : TenantMap α} (ascending : map.Ascending) : map.entries.Nodup :=
    ascending.distinct.of_map Prod.fst
  have perm : a.entries.Perm b.entries :=
    (List.perm_ext_iff_of_nodup (once first) (once second)).mpr held
  cases a
  cases b
  congr
  exact perm.eq_of_pairwise (fun _ _ _ _ less more => absurd less (Nat.lt_asymm more)) first second

end TenantMap
end Rota
