import Mathlib.Data.List.Nodup
import Rota.Proofs.Json.Members

/-!
Objects that differ only where their reader does not look: in unknown members, in the order of the
members, in leaving out a member that has its usual value, and in the same things within a member
that is a document itself. What a reader takes from two such objects is the same.
-/

namespace Rota.Json

/-- How a reader treats a member that it looks at. -/
inductive Treatment where
  | needed
  /-- May be left out or null. -/
  | nullable
  /-- May be left out, and has that value then. -/
  | usual (value : Json)
  /-- A document of its own, of a kind of which some are alike. -/
  | inner (alike : Json → Json → Prop)

namespace Treatment

def absent? : Treatment → Option Json
  | nullable => some null
  | usual value => some value
  | _ => none

def Alike : Treatment → Json → Json → Prop
  | inner alike, value, other => alike value other
  | _, value, other => value = other

end Treatment

structure Form where
  members : List (String × Treatment)
  once : (members.map Prod.fst).Nodup := by decide

namespace Form

inductive Alike (form : Form) : List (String × Json) → List (String × Json) → Prop
  | reordered {members more : List (String × Json)} (once : (members.map Prod.fst).Nodup)
      (same : members.Perm more) : Alike form members more
  | unknown {name : String} {value : Json} {members : List (String × Json)}
      (passed : name ∉ form.members.map Prod.fst) : Alike form ((name, value) :: members) members
  | leftOut {name : String} {value : Json} {members : List (String × Json)} {treatment : Treatment}
      (known : (name, treatment) ∈ form.members) (usual : treatment.absent? = some value)
      (missing : name ∉ members.map Prod.fst) : Alike form ((name, value) :: members) members
  | within {name : String} {value other : Json} {members : List (String × Json)}
      {treatment : Treatment} (known : (name, treatment) ∈ form.members)
      (alike : treatment.Alike value other) :
      Alike form ((name, value) :: members) ((name, other) :: members)
  | symm {members more : List (String × Json)} : Alike form members more → Alike form more members
  | trans {members more most : List (String × Json)} :
      Alike form members more → Alike form more most → Alike form members most

inductive AlikeObjects (form : Form) : Json → Json → Prop
  | intro {members more : List (String × Json)} (alike : form.Alike members more) :
      AlikeObjects form (.object members) (.object more)

/-- Two objects of one kind, which the member `type` names, with members that are alike. -/
inductive AlikeTagged (form : String → Form) : Json → Json → Prop
  | intro {kind : String} {members more : List (String × Json)}
      (tagged : lookup members "type" = some (.text kind)) (alike : (form kind).Alike members more) :
      AlikeTagged form (.object members) (.object more)

theorem treatment_unique (form : Form) {name : String} {one other : Treatment}
    (first : (name, one) ∈ form.members) (second : (name, other) ∈ form.members) : one = other :=
  congrArg Prod.snd (List.inj_on_of_nodup_map form.once first second rfl)

end Form

theorem lookup_eq_some {members : List (String × Json)} {name : String} {value : Json}
    (once : (members.map Prod.fst).Nodup) :
    lookup members name = some value ↔ (name, value) ∈ members := by
  induction members with
  | nil => simp
  | cons entry rest ih =>
    obtain ⟨other, here⟩ := entry
    rw [List.map_cons, List.nodup_cons] at once
    by_cases same : other = name
    · subst same
      have fresh (v : Json) : (other, v) ∉ rest := fun found =>
        once.1 (List.mem_map.mpr ⟨(other, v), found, rfl⟩)
      simp [fresh, eq_comm]
    · simp [same, ih once.2, Ne.symm same]

theorem lookup_perm {members more : List (String × Json)} (once : (members.map Prod.fst).Nodup)
    (same : members.Perm more) (name : String) : lookup members name = lookup more name := by
  have onceMore : (more.map Prod.fst).Nodup := (same.map Prod.fst).nodup_iff.mp once
  exact Option.ext fun value => by
    rw [lookup_eq_some once, lookup_eq_some onceMore, same.mem_iff]

namespace Form.Alike

variable {form : Form} {members more : List (String × Json)} {name : String}
  {treatment : Treatment} {α : Type} {read : Json → Option α}

/-- What is taken from under a known name is the same when the usual value is not told from an
absent one, nor inner documents that are alike from each other. -/
theorem field_eq {β : Type} (take : Option Json → β) (alike : form.Alike members more)
    (known : (name, treatment) ∈ form.members)
    (absent : ∀ value, treatment.absent? = some value → take (some value) = take none)
    (within : ∀ value other, treatment.Alike value other → take (some value) = take (some other)) :
    take (lookup members name) = take (lookup more name) := by
  -- The reader's way with the member does not change along a chain of edits.
  induction alike with
  | reordered once same => rw [lookup_perm once same]
  | @unknown other value rest passed =>
    have differs : other ≠ name := fun same =>
      passed (same ▸ List.mem_map.mpr ⟨_, known, rfl⟩)
    rw [lookup_cons, if_neg differs]
  | @leftOut other value rest treated knownOther usual missing =>
    by_cases here : other = name
    · subst here
      obtain rfl := form.treatment_unique known knownOther
      rw [lookup_cons, if_pos rfl, lookup_eq_none.mpr missing, absent value usual]
    · rw [lookup_cons, if_neg here]
  | @within other value another rest treated knownOther alike =>
    by_cases here : other = name
    · subst here
      obtain rfl := form.treatment_unique known knownOther
      rw [lookup_cons, lookup_cons, if_pos rfl, if_pos rfl, within _ _ alike]
    · rw [lookup_cons, lookup_cons, if_neg here, if_neg here]
  | symm _ ih => exact ih.symm
  | trans _ _ first second => exact first.trans second

theorem lookup_eq (alike : form.Alike members more) (known : (name, .needed) ∈ form.members) :
    lookup members name = lookup more name :=
  alike.field_eq id known nofun fun _ _ => congrArg some

theorem required_eq (alike : form.Alike members more) (known : (name, .needed) ∈ form.members) :
    required (lookup members name) read = required (lookup more name) read := by
  rw [alike.lookup_eq known]

theorem optional_eq (alike : form.Alike members more) (known : (name, .nullable) ∈ form.members) :
    optional (lookup members name) read = optional (lookup more name) read := by
  refine alike.field_eq (optional · read) known ?_ ?_
  · rintro value ⟨⟩
    rfl
  · rintro value other ⟨⟩
    rfl

theorem defaulted_eq {value : α} (alike : form.Alike members more)
    (known : ∃ json, (name, .usual json) ∈ form.members ∧ read json = some value) :
    defaulted (lookup members name) value read = defaulted (lookup more name) value read := by
  obtain ⟨json, known, back⟩ := known
  refine alike.field_eq (defaulted · value read) known ?_ ?_
  · rintro value ⟨⟩
    exact back
  · rintro value other ⟨⟩
    rfl

theorem inner_eq (alike : form.Alike members more)
    (known : ∃ same, (name, .inner same) ∈ form.members ∧
      ∀ value other, same value other → read value = read other) :
    required (lookup members name) read = required (lookup more name) read := by
  obtain ⟨same, known, respected⟩ := known
  exact alike.field_eq (required · read) known nofun respected

end Form.Alike

end Rota.Json
