import Rota.Proofs.Store.Own
import Rota.Proofs.Store.Seeding
import Rota.Proofs.Store.Statements

/-!
What seeding the presets comes to. It is answered when for each preset the first pattern with its
name, if the tenant has one, can be read; then it adds a pattern for each name that no pattern of the
tenant has, behind what was there. From then on every preset's name is borne by a pattern that can be
read, and this stays so as long as no pattern changes its name; so seeding again adds nothing.
-/

namespace Rota

open PatternRow

theorem presets_distinct : (presets.map Preset.name).Nodup := by
  decide

theorem forall₂_mem {α β : Type} {related : α → β → Prop} {list : List α} {others : List β}
    (pairs : List.Forall₂ related list others) {a : α} (member : a ∈ list) :
    ∃ b ∈ others, related a b := by
  induction pairs with
  | nil => cases member
  | cons head _ ih =>
    rcases List.mem_cons.mp member with rfl | later
    · exact ⟨_, List.mem_cons_self, head⟩
    · obtain ⟨b, listed, holds⟩ := ih later
      exact ⟨b, List.mem_cons_of_mem _ listed, holds⟩

namespace Store

variable {store after : Store} {tenant : Uuid}

def missing (store : Store) (tenant : Uuid) (presets : List Preset) : List Preset :=
  presets.filter fun preset => ¬ Borne store.patterns tenant preset.name

/-- The pattern that a name of the presets stands for can be read. -/
def Legible (store : Store) (tenant : Uuid) (presets : List Preset) : Prop :=
  ∀ preset ∈ presets, ∀ row, IsEarliest store.patterns tenant preset.name row → row.readable = true

def withPatterns (store : Store) (made : List Pattern) : Store :=
  { store with patterns := store.patterns ++ made.map fun pattern => { pattern } }

@[simp] theorem withPatterns_nil : store.withPatterns [] = store := by
  simp [withPatterns]

theorem withPatterns_withPatterns (made later : List Pattern) :
    (store.withPatterns made).withPatterns later = store.withPatterns (made ++ later) := by
  simp [withPatterns]

theorem confined_withPatterns {made : List Pattern}
    (owned : ∀ pattern ∈ made, pattern.tenant = tenant) :
    Confined tenant store (store.withPatterns made) := by
  intro other apart
  have none : (made.map fun pattern => ({ pattern } : PatternRow)).filter (PatternRow.ownedBy other) =
      [] := by
    rw [List.filter_eq_nil_iff]
    intro row listed
    obtain ⟨pattern, member, rfl⟩ := List.mem_map.mp listed
    simp [PatternRow.ownedBy, owned pattern member, apart.symm]
  simp [only, withPatterns, none]

section Seeding
variable {supply : Supply} {createdBy : Option Uuid} {startsOn : Date} {preset : Preset}
  {rest : List Preset} {pattern : Pattern}

theorem unlike_rest (unlike : preset.name ∉ rest.map Preset.name)
    (gives : preset.Gives tenant createdBy startsOn pattern) :
    ∀ other ∈ rest, ¬ (pattern.tenant = tenant ∧ pattern.name = other.name) := by
  rintro other listed ⟨-, same⟩
  rw [gives.name] at same
  exact unlike (same ▸ List.mem_map_of_mem listed)

section Unlike
variable (unlike : ∀ other ∈ rest, ¬ (pattern.tenant = tenant ∧ pattern.name = other.name))
include unlike

theorem missing_withPattern : (store.withPatterns [pattern]).missing tenant rest =
    store.missing tenant rest := by
  apply List.filter_congr
  intro other listed
  rw [decide_eq_decide]
  refine not_congr (borne_append_singleton.trans ?_)
  simp only [unlike other listed, or_false]

theorem legible_withPattern : (store.withPatterns [pattern]).Legible tenant rest ↔
    store.Legible tenant rest := by
  refine forall₂_congr fun other listed => forall_congr' fun row => ?_
  exact imp_congr (isEarliest_append_singleton (unlike other listed)) Iff.rfl

end Unlike

variable (isOpen : store.isOpen = true)
include isOpen

section Steps
variable {row : PatternRow}

theorem seedFrom_skip (first : IsEarliest store.patterns tenant preset.name row)
    (readable : row.readable = true) :
    store.seedFrom supply tenant createdBy startsOn (preset :: rest) =
      store.seedFrom supply tenant createdBy startsOn rest := by
  rw [seedFrom, findPatternNamed_first isOpen first, PatternRow.load_ok.mpr ⟨readable, rfl⟩]
  rfl

theorem seedFrom_stop (first : IsEarliest store.patterns tenant preset.name row)
    (unreadable : ¬ row.readable = true) :
    store.seedFrom supply tenant createdBy startsOn (preset :: rest) =
      (.error (.database .unreadable), store) := by
  rw [seedFrom, findPatternNamed_first isOpen first, PatternRow.load, if_neg unreadable]
  rfl

theorem seedFrom_create (unborne : ¬ Borne store.patterns tenant preset.name)
    (ready : preset.Ready) :
    ∃ pattern, preset.Gives tenant createdBy startsOn pattern ∧
      store.seedFrom supply tenant createdBy startsOn (preset :: rest) =
        ((store.withPatterns [pattern]).seedFrom (supply.drop 1) tenant createdBy startsOn rest).map
          (Except.map (pattern :: ·)) id := by
  obtain ⟨pattern, gives, created⟩ :=
    createPattern_ready supply tenant createdBy startsOn isOpen ready
  refine ⟨pattern, gives, ?_⟩
  rw [seedFrom, findPatternNamed_unborne isOpen unborne, created]
  rfl

end Steps

theorem seedFrom_legible {presets : List Preset} (supply : Supply) (createdBy : Option Uuid)
    (startsOn : Date) (ready : ∀ preset ∈ presets, preset.Ready)
    (distinct : (presets.map Preset.name).Nodup) (legible : store.Legible tenant presets) :
    ∃ made, store.seedFrom supply tenant createdBy startsOn presets =
        (.ok made, store.withPatterns made) ∧
      List.Forall₂ (fun preset pattern => preset.Gives tenant createdBy startsOn pattern)
        (store.missing tenant presets) made := by
  induction presets generalizing store supply with
  | nil => exact ⟨[], by simp [seedFrom, withPatterns], .nil⟩
  | cons preset rest ih =>
    obtain ⟨first, others⟩ := List.forall_mem_cons.mp ready
    obtain ⟨unlike, distinct⟩ := List.nodup_cons.mp distinct
    obtain ⟨known, legible⟩ := List.forall_mem_cons.mp legible
    by_cases borne : Borne store.patterns tenant preset.name
    · obtain ⟨row, earliest⟩ := borne_iff_first.mp borne
      rw [seedFrom_skip isOpen earliest (known row earliest), missing,
        List.filter_cons_of_neg (by simpa using borne)]
      exact ih isOpen supply others distinct legible
    · obtain ⟨pattern, gives, created⟩ := seedFrom_create isOpen borne first
      -- It has none of the names to come, so as many of those are missing as before.
      have apart := unlike_rest unlike gives
      have stillOpen : (store.withPatterns [pattern]).isOpen = true := isOpen
      obtain ⟨made, answered, given⟩ :=
        ih stillOpen (supply.drop 1) others distinct ((legible_withPattern apart).mpr legible)
      rw [missing_withPattern apart] at given
      refine ⟨pattern :: made, ?_, ?_⟩
      · rw [created, answered, withPatterns_withPatterns]
        rfl
      · rw [missing, List.filter_cons_of_pos (by simpa using borne)]
        exact .cons gives given

theorem seedFrom_illegible {presets : List Preset} (ready : ∀ preset ∈ presets, preset.Ready)
    (distinct : (presets.map Preset.name).Nodup) (illegible : ¬ store.Legible tenant presets) :
    (store.seedFrom supply tenant createdBy startsOn presets).1 =
      .error (.database .unreadable) := by
  induction presets generalizing store supply with
  | nil => exact absurd (by simp [Legible]) illegible
  | cons preset rest ih =>
    obtain ⟨first, others⟩ := List.forall_mem_cons.mp ready
    obtain ⟨unlike, distinct⟩ := List.nodup_cons.mp distinct
    by_cases borne : Borne store.patterns tenant preset.name
    · obtain ⟨row, earliest⟩ := borne_iff_first.mp borne
      by_cases readable : row.readable = true
      · -- This name is none that stops it, so one to come is.
        have later : ¬ store.Legible tenant rest := by
          intro legible
          apply illegible
          refine List.forall_mem_cons.mpr ⟨fun other second => ?_, legible⟩
          rw [second.unique earliest]
          exact readable
        rw [seedFrom_skip isOpen earliest readable]
        exact ih isOpen others distinct later
      · rw [seedFrom_stop isOpen earliest readable]
    · obtain ⟨pattern, gives, created⟩ := seedFrom_create isOpen borne first
      have later : ¬ (store.withPatterns [pattern]).Legible tenant rest := by
        rw [legible_withPattern (unlike_rest unlike gives)]
        intro legible
        apply illegible
        exact List.forall_mem_cons.mpr ⟨fun row earliest => absurd earliest.borne borne, legible⟩
      have stillOpen : (store.withPatterns [pattern]).isOpen = true := isOpen
      rw [created]
      exact map_error.mpr (ih stillOpen others distinct later)

end Seeding

/-- The name stands for a pattern that can be read. -/
structure Known (store : Store) (tenant : Uuid) (name : String) : Prop where
  isOpen : store.isOpen = true
  first : ∃ row, IsEarliest store.patterns tenant name row ∧ row.readable = true

section Known
variable {name : String}

theorem Known.missing {presets : List Preset}
    (known : ∀ preset ∈ presets, store.Known tenant preset.name) :
    store.missing tenant presets = [] := by
  rw [Store.missing, List.filter_eq_nil_iff]
  intro preset listed
  obtain ⟨row, first, -⟩ := (known preset listed).first
  simpa using first.borne

theorem Known.legible {presets : List Preset}
    (known : ∀ preset ∈ presets, store.Known tenant preset.name) :
    store.Legible tenant presets := by
  intro preset listed row first
  obtain ⟨other, second, readable⟩ := (known preset listed).first
  rw [first.unique second]
  exact readable

theorem Known.of_same (known : store.Known tenant name) (patterns : after.patterns = store.patterns)
    (isOpen : after.isOpen = store.isOpen) : after.Known tenant name :=
  ⟨isOpen.trans known.isOpen, patterns ▸ known.first⟩

theorem Known.append (known : store.Known tenant name) (later : List PatternRow) :
    ({ store with patterns := store.patterns ++ later } : Store).Known tenant name := by
  obtain ⟨isOpen, row, first, readable⟩ := known
  exact ⟨isOpen, row, first.append later, readable⟩

/-- Writing over the one row with its key, a name that stays leaves every name to its pattern. -/
theorem Known.putPattern (known : store.Known tenant name) (keyed : store.Keyed) {row : PatternRow}
    (listed : row ∈ store.patterns) {pattern : Pattern} (owner : pattern.tenant = row.pattern.tenant)
    (key : pattern.id = row.pattern.id) (same : pattern.name = row.pattern.name) :
    (store.putPattern pattern).Known tenant name := by
  obtain ⟨isOpen, first, earliest, readable⟩ := known
  refine ⟨isOpen, _, earliest.map fun other there => ?_, ?_⟩
  · split
    · next put =>
      obtain ⟨-, otherKey⟩ := PatternRow.isFor_iff.mp put
      rw [keyed.pattern_unique there listed (otherKey.trans key)]
      exact ⟨owner, same⟩
    · exact ⟨rfl, rfl⟩
  · split <;> exact readable

end Known

end Store

namespace Writing

def KeepsNames {α : Type} (store : Store) : Writing α → Prop
  | updatePattern tenant id change => ∀ row ∈ store.patterns, row.isFor tenant id = true →
      (change.apply row.pattern).name = row.pattern.name
  | _ => True

open Store in
theorem known {α : Type} {store after : Store} {supply : Supply} {answer : α} {tenant : Uuid}
    {name : String} (writing : Writing α) (keyed : store.Keyed) (keeps : writing.KeepsNames store)
    (done : writing.operation supply store = .ok (answer, after))
    (known : store.Known tenant name) : after.Known tenant name := by
  cases writing with
  | createPattern draft =>
    obtain ⟨-, -, rfl⟩ := createPattern_ok done
    exact known.append _
  | updatePattern owner id change =>
    obtain ⟨pattern, found, done⟩ := bind_ok.mp done
    obtain ⟨row, listed, isRow, rfl⟩ := getPattern_ok found
    obtain ⟨_, -, done⟩ := bind_ok.mp done
    cases done
    exact known.putPattern keyed listed rfl rfl (keeps row listed isRow)
  | togglePattern owner id =>
    obtain ⟨pattern, found, done⟩ := bind_ok.mp done
    obtain ⟨row, listed, isRow, rfl⟩ := getPattern_ok found
    cases done
    exact known.putPattern keyed listed rfl rfl rfl
  | createTemplate draft =>
    obtain ⟨_, -, -, -, -, -, rfl⟩ := createTemplate_ok done
    exact known.of_same rfl rfl
  | addTask draft =>
    obtain ⟨-, -, rfl | rfl⟩ := addTask_ok done <;> exact known.of_same rfl rfl
  | saveSettings owner settings =>
    obtain ⟨-, rfl⟩ := saveSettings_ok done
    exact known.of_same rfl rfl
  | materializeTemplate template due now =>
    obtain rfl | ⟨-, rfl⟩ := materializeTemplate_written done <;> exact known.of_same rfl rfl
  | materializeRecurring root due now =>
    obtain ⟨-, rfl⟩ | ⟨-, -, -, rfl⟩ := materializeRecurring_ok done <;> exact known.of_same rfl rfl

end Writing

namespace Store

/-- What a store can become by writes, each to a store with primary keys, none of which changes the
name of a pattern. -/
inductive Rewritten (store : Store) : Store → Prop where
  | unchanged : Rewritten store store
  | written {middle after : Store} (run : Rewritten store middle) (keyed : middle.Keyed) {α : Type}
      (writing : Writing α) (keeps : writing.KeepsNames middle) (supply : Supply) {answer : α}
      (done : writing.operation supply middle = .ok (answer, after)) : Rewritten store after

variable {store after : Store} {supply : Supply} {tenant : Uuid} {createdBy : Option Uuid}
  {today : Date} {made : List Pattern} {name : String}

theorem Rewritten.known (run : store.Rewritten after) (known : store.Known tenant name) :
    after.Known tenant name := by
  induction run with
  | unchanged => exact known
  | written _ keyed writing keeps _ done ih => exact writing.known keyed keeps done ih

theorem seedPresets_known (known : ∀ preset ∈ presets, store.Known tenant preset.name)
    (supply : Supply) (createdBy : Option Uuid) (today : Date) :
    store.seedPresets supply tenant createdBy today = (.ok [], store) := by
  have isOpen : store.isOpen = true := (known _ (List.mem_cons_self)).isOpen
  obtain ⟨made, answered, given⟩ := seedFrom_legible isOpen supply createdBy (startOfYear today)
    presets_ready presets_distinct (Known.legible known)
  rw [Known.missing known, List.forall₂_nil_left_iff] at given
  rw [given, withPatterns_nil] at answered
  exact answered

/-- After an answered seeding every preset is known. -/
theorem known_withPatterns (isOpen : store.isOpen = true) (legible : store.Legible tenant presets)
    (given : List.Forall₂ (fun preset pattern =>
      preset.Gives tenant createdBy (startOfYear today) pattern) (store.missing tenant presets) made)
    {preset : Preset} (listed : preset ∈ presets) :
    (store.withPatterns made).Known tenant preset.name := by
  by_cases borne : Borne store.patterns tenant preset.name
  · obtain ⟨row, first⟩ := borne_iff_first.mp borne
    exact Known.append ⟨isOpen, row, first, legible preset listed row first⟩ _
  · have wanted : preset ∈ store.missing tenant presets :=
      List.mem_filter.mpr ⟨listed, by simpa using borne⟩
    obtain ⟨pattern, member, gives⟩ := forall₂_mem given wanted
    have bearer : Borne (store.withPatterns made).patterns tenant preset.name :=
      ⟨{ pattern }, List.mem_append_right _ (List.mem_map_of_mem member), gives.tenant, gives.name⟩
    obtain ⟨row, first⟩ := borne_iff_first.mp bearer
    refine ⟨isOpen, row, first, ?_⟩
    -- The first of them is none of the old ones, and the new ones can be read.
    rcases List.mem_append.mp first.listed with old | new
    · exact absurd ⟨row, old, first.owned, first.named⟩ borne
    · obtain ⟨_, -, rfl⟩ := List.mem_map.mp new
      rfl

theorem seedPresets_ok
    (answered : (store.seedPresets supply tenant createdBy today).1 = .ok made) :
    store.isOpen = true ∧ store.Legible tenant presets := by
  have isOpen : store.isOpen = true := by
    by_contra closed
    rw [Bool.not_eq_true] at closed
    simp [seedPresets, presets, seedFrom, findPatternNamed_closed closed] at answered
  refine ⟨isOpen, ?_⟩
  by_contra illegible
  rw [seedPresets, seedFrom_illegible isOpen presets_ready presets_distinct illegible] at answered
  cases answered

/-- Seeding is answered exactly when the store is open and each preset's name stands for a pattern
that can be read, where it stands for any; in an open store it otherwise ends in an error. What it
answers with are the patterns of the presets whose names were missing, one for each and in their
order, and they are put behind the others. Then no name is missing, and whatever is written that
changes no name, seeding again answers with nothing and changes nothing. -/
theorem seedPresets_additive (store : Store) (supply : Supply) (tenant : Uuid)
    (createdBy : Option Uuid) (today : Date) :
    ((∃ made, (store.seedPresets supply tenant createdBy today).1 = .ok made) ↔
      store.isOpen = true ∧ store.Legible tenant presets) ∧
    (store.isOpen = true → ¬ store.Legible tenant presets →
      (store.seedPresets supply tenant createdBy today).1 = .error (.database .unreadable)) ∧
    ∀ made after, store.seedPresets supply tenant createdBy today = (.ok made, after) →
      List.Forall₂ (fun preset pattern => preset.Gives tenant createdBy (startOfYear today) pattern)
        (store.missing tenant presets) made ∧
      after = store.withPatterns made ∧
      Confined tenant store after ∧
      (∀ preset ∈ presets, Borne after.patterns tenant preset.name) ∧
      ∀ later, after.Rewritten later → ∀ supply createdBy today,
        later.seedPresets supply tenant createdBy today = (.ok [], later) := by
  refine ⟨⟨fun ⟨made, answered⟩ => seedPresets_ok answered, fun ⟨isOpen, legible⟩ => ?_⟩,
    fun isOpen illegible => ?_, fun made after answered => ?_⟩
  · obtain ⟨made, answered, -⟩ := seedFrom_legible isOpen supply createdBy (startOfYear today)
      presets_ready presets_distinct legible
    exact ⟨made, congrArg Prod.fst answered⟩
  · exact seedFrom_illegible isOpen presets_ready presets_distinct illegible
  · obtain ⟨isOpen, legible⟩ := seedPresets_ok (congrArg Prod.fst answered)
    obtain ⟨others, same, given⟩ := seedFrom_legible isOpen supply createdBy (startOfYear today)
      presets_ready presets_distinct legible
    obtain ⟨rfl, rfl⟩ : others = made ∧ store.withPatterns others = after := by
      rw [seedPresets, same] at answered
      simpa using answered
    have known : ∀ preset ∈ presets, (store.withPatterns others).Known tenant preset.name :=
      fun _ => known_withPatterns isOpen legible given
    refine ⟨given, rfl, confined_withPatterns ?_, fun preset listed => ?_, fun later run => ?_⟩
    · intro pattern member
      obtain ⟨preset, -, gives⟩ := forall₂_mem given.flip member
      exact gives.tenant
    · obtain ⟨-, row, first, -⟩ := known preset listed
      exact first.borne
    · exact seedPresets_known fun preset listed => run.known (known preset listed)

end Store

def fiscalStart : Date := ⟨19814, by decide, by decide⟩ -- 1 April 2024

def fiscalSupply (first : Nat) : Supply :=
  { id := fun n => .ofNat (first + n), clock := .midnight fiscalStart }

/-- A tenant's own pattern with the name of the third preset, paused and with another rule. -/
def annualOffice (readable : Bool) : Store :=
  { patterns :=
      [{ pattern :=
          { id := .ofNat 7
            tenant := .ofNat 1
            name := "Annual ITR Filing"
            description := none
            series := { rule := .monthly 1 (onDay 5), ending := .never, startsOn := fiscalStart }
            isActive := false
            createdBy := none
            createdAt := .midnight fiscalStart
            updatedAt := .midnight fiscalStart }
         readable }] }

/-- A pattern that cannot be read and bears the name of a preset keeps the ones after it from being
created, though nobody has their names. -/
theorem unreadable_bearer_stops :
    let seeded := (annualOffice false).seedPresets (fiscalSupply 100) (.ofNat 1) none fiscalStart
    ((annualOffice false).missing (.ofNat 1) presets).map Preset.name =
      ["Monthly GST Filing", "Quarterly GST Filing", "Annual ROC Filing"] ∧
    seeded.1 = .error (.database .unreadable) ∧
    ¬ Borne seeded.2.patterns (.ofNat 1) "Annual ROC Filing" := by
  decide +kernel

/-- The three missing presets are created, and the paused pattern is taken up again in between. -/
theorem annualOffice_reseeded :
    (annualOffice true).isOpen = true ∧ (annualOffice true).Legible (.ofNat 1) presets ∧
    ∃ made after, (annualOffice true).seedPresets (fiscalSupply 100) (.ofNat 1) none fiscalStart =
        (.ok made, after) ∧
      made.map Pattern.name = ["Monthly GST Filing", "Quarterly GST Filing", "Annual ROC Filing"] ∧
      after.Keyed ∧ ∃ pattern later,
        after.togglePattern (fiscalSupply 200) (.ofNat 1) (.ofNat 7) = .ok (pattern, later) ∧
        pattern.isActive = true ∧
        later.seedPresets (fiscalSupply 300) (.ofNat 1) (some (.ofNat 9)) Date.last =
          (.ok [], later) := by
  obtain ⟨answers, -, answered⟩ := Store.seedPresets_additive (annualOffice true) (fiscalSupply 100)
    (.ofNat 1) none fiscalStart
  have names : ((annualOffice true).seedPresets (fiscalSupply 100) (.ofNat 1) none
      fiscalStart).1.toOption.map (List.map Pattern.name) =
      some ["Monthly GST Filing", "Quarterly GST Filing", "Annual ROC Filing"] := by
    decide +kernel
  have keys : (((annualOffice true).seedPresets (fiscalSupply 100) (.ofNat 1) none
      fiscalStart).2.patterns.map fun row => row.pattern.id).Nodup := by
    decide +kernel
  have flips : (((annualOffice true).seedPresets (fiscalSupply 100) (.ofNat 1) none
      fiscalStart).2.togglePattern (fiscalSupply 200) (.ofNat 1) (.ofNat 7)).toOption.map
        (fun toggled => toggled.1.isActive) = some true := by
    decide +kernel
  rcases came : (annualOffice true).seedPresets (fiscalSupply 100) (.ofNat 1) none fiscalStart with
    ⟨fault | made, after⟩
  · rw [came] at names
    cases names
  · rw [came] at names keys flips answers
    obtain ⟨isOpen, legible⟩ := answers.mp ⟨made, rfl⟩
    obtain ⟨-, rfl, -, -, again⟩ := answered made after came
    have keyed : ((annualOffice true).withPatterns made).Keyed := ⟨keys, .nil⟩
    refine ⟨isOpen, legible, made, _, rfl, Option.some.inj names, keyed, ?_⟩
    cases done : ((annualOffice true).withPatterns made).togglePattern (fiscalSupply 200) (.ofNat 1)
        (.ofNat 7) with
    | error fault =>
      rw [done] at flips
      cases flips
    | ok toggled =>
      rw [done] at flips
      have run : ((annualOffice true).withPatterns made).Rewritten toggled.2 :=
        .written .unchanged keyed (.togglePattern (.ofNat 1) (.ofNat 7)) trivial (fiscalSupply 200) done
      exact ⟨toggled.1, toggled.2, rfl, Option.some.inj flips, again _ run _ _ _⟩

end Rota
