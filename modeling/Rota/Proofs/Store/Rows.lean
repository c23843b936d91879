import Rota.Proofs.Attempts
import Rota.Store.Settings
import Rota.Store.Templates
import Mathlib.Data.List.Nodup

/-!
The rows of a store: what using an open store gives back, and what looking rows up by their primary
keys comes to.
-/

namespace Rota

theorem countP_unique {α : Type} [DecidableEq α] {list : List α} (distinct : list.Nodup) {a : α}
    (listed : a ∈ list) {p : α → Bool} (only : ∀ b ∈ list, p b = true → b = a) :
    list.countP p = if p a then 1 else 0 := by
  have same : list.countP p = list.countP fun b => p a && b == a := by
    apply List.countP_congr
    intro b member
    constructor
    · intro met
      have equal := only b member met
      rw [equal] at met
      simp [met, equal]
    · intro met
      simp only [Bool.and_eq_true, beq_iff_eq] at met
      rw [met.2]
      exact met.1
  rw [same]
  by_cases met : p a = true
  · simpa [met, List.count] using List.count_eq_one_of_mem distinct listed
  · simp [met]

theorem PatternRow.load_ok {row : PatternRow} {pattern : Pattern} :
    row.load = .ok pattern ↔ row.readable = true ∧ row.pattern = pattern := by
  unfold load
  split <;> simp_all

theorem PatternRow.mapM_load_ok {rows : List PatternRow} {patterns : List Pattern} :
    rows.mapM PatternRow.load = .ok patterns ↔
      (∀ row ∈ rows, row.readable = true) ∧ patterns = rows.map PatternRow.pattern := by
  induction rows generalizing patterns with
  | nil =>
    constructor
    · rintro ⟨⟩
      exact ⟨by simp, rfl⟩
    · rintro ⟨-, rfl⟩
      rfl
  | cons first rest ih =>
    rw [mapM_cons_ok, List.forall_mem_cons]
    constructor
    · rintro ⟨pattern, others, head, tail, rfl⟩
      obtain ⟨readable, rfl⟩ := PatternRow.load_ok.mp head
      obtain ⟨all, rfl⟩ := ih.mp tail
      exact ⟨⟨readable, all⟩, rfl⟩
    · rintro ⟨⟨readable, all⟩, rfl⟩
      exact ⟨_, _, PatternRow.load_ok.mpr ⟨readable, rfl⟩, ih.mpr ⟨all, rfl⟩, rfl⟩

theorem PatternRow.isFor_iff {tenant id : Uuid} {row : PatternRow} :
    row.isFor tenant id = true ↔ row.pattern.tenant = tenant ∧ row.pattern.id = id := by
  simp [isFor, ownedBy]

theorem Template.isFor_iff {tenant id : Uuid} {template : Template} :
    template.isFor tenant id = true ↔ template.tenant = tenant ∧ template.id = id := by
  simp [isFor]

namespace Store

structure Keyed (store : Store) : Prop where
  patterns : (store.patterns.map fun row => row.pattern.id).Nodup
  templates : (store.templates.map Template.id).Nodup

variable {store : Store} {tenant id : Uuid}

theorem use_ok : store.use = .ok () ↔ store.isOpen = true := by
  unfold use
  split <;> simp_all

theorem open_of_ok {α : Type} {rest : Unit → Attempt α} {a : α}
    (answered : store.use >>= rest = .ok a) : store.isOpen = true := by
  obtain ⟨_, used, -⟩ := bind_ok.mp answered
  exact use_ok.mp used

theorem getPattern_open {pattern : Pattern} (answered : store.getPattern tenant id = .ok pattern) :
    store.isOpen = true := by
  obtain ⟨found, looked, -⟩ := bind_ok.mp answered
  exact open_of_ok looked

theorem templates?_open (isOpen : store.isOpen = true) :
    store.templates? tenant =
      .ok (store.templates.filter fun template => template.tenant == tenant) := by
  unfold templates?
  rw [use_ok.mpr isOpen]
  rfl

def boundTo (store : Store) (tenant pattern : Uuid) : List Template :=
  store.templates.filter fun template =>
    template.tenant == tenant && template.pattern == some pattern

theorem mem_boundTo {template : Template} :
    template ∈ store.boundTo tenant id ↔
      template ∈ store.templates ∧ template.tenant = tenant ∧ template.pattern = some id := by
  simp [boundTo]

/-- Loaded for several patterns, the templates bound to one of them are all there. -/
theorem templatesBoundTo_open (isOpen : store.isOpen = true) (ids : List Uuid) :
    ∃ templates, store.templatesBoundTo tenant ids = .ok templates ∧ ∀ id ∈ ids,
      templates.filter (fun template => template.pattern == some id) = store.boundTo tenant id := by
  unfold templatesBoundTo
  rw [use_ok.mpr isOpen]
  cases ids with
  | nil => exact ⟨[], rfl, by simp⟩
  | cons first rest =>
    refine ⟨_, rfl, ?_⟩
    intro id member
    rw [List.filter_filter, boundTo]
    apply List.filter_congr
    intro template _
    rw [Bool.eq_iff_iff]
    simp only [Bool.and_eq_true, beq_iff_eq, Option.any_eq_true, List.contains_iff_mem]
    constructor
    · rintro ⟨bound, owned, -⟩
      exact ⟨owned, bound⟩
    · rintro ⟨owned, bound⟩
      exact ⟨bound, owned, id, bound, member⟩

theorem findPattern_eq (isOpen : store.isOpen = true) :
    store.findPattern tenant id =
      match store.patterns.find? (PatternRow.isFor tenant id) with
      | none => .ok none
      | some row => row.load.map some := by
  unfold findPattern
  rw [use_ok.mpr isOpen]
  cases store.patterns.find? (PatternRow.isFor tenant id) with
  | none => rfl
  | some row => rfl

theorem loadPatterns_ok {meets : Pattern → Bool} {patterns : List Pattern} :
    store.loadPatterns tenant meets = .ok patterns ↔ store.isOpen = true ∧
      (store.patterns.filter fun row => row.ownedBy tenant && meets row.pattern).mapM
        PatternRow.load = .ok patterns := by
  unfold loadPatterns use
  by_cases isOpen : store.isOpen = true
  · simp [isOpen, bind, Except.bind]
  · simp [isOpen, bind, Except.bind]

def patternsWhere (store : Store) (tenant : Uuid) (meets : Pattern → Bool) : List Pattern :=
  (store.patterns.filter fun row => row.ownedBy tenant && meets row.pattern).map PatternRow.pattern

theorem mem_patternsWhere {meets : Pattern → Bool} {pattern : Pattern} :
    pattern ∈ store.patternsWhere tenant meets ↔ ∃ row ∈ store.patterns,
      row.pattern.tenant = tenant ∧ meets row.pattern = true ∧ row.pattern = pattern := by
  simp [patternsWhere, PatternRow.ownedBy, and_assoc]

/-- Patterns are loaded all or none: each of them has to be readable. -/
theorem loadPatterns_iff {meets : Pattern → Bool} {patterns : List Pattern} :
    store.loadPatterns tenant meets = .ok patterns ↔ store.isOpen = true ∧
      (∀ row ∈ store.patterns, row.pattern.tenant = tenant → meets row.pattern = true →
        row.readable = true) ∧
      patterns = store.patternsWhere tenant meets := by
  rw [loadPatterns_ok, PatternRow.mapM_load_ok]
  simp [patternsWhere, PatternRow.ownedBy]

theorem Keyed.pattern_unique (keyed : store.Keyed) {a b : PatternRow} (first : a ∈ store.patterns)
    (second : b ∈ store.patterns) (same : a.pattern.id = b.pattern.id) : a = b :=
  List.inj_on_of_nodup_map keyed.patterns first second same

theorem Keyed.findPattern_row (keyed : store.Keyed) {row : PatternRow}
    (listed : row ∈ store.patterns) :
    store.patterns.find? (PatternRow.isFor row.pattern.tenant row.pattern.id) = some row := by
  cases found : store.patterns.find? (PatternRow.isFor row.pattern.tenant row.pattern.id) with
  | none =>
    have absent := List.find?_eq_none.mp found row listed
    rw [PatternRow.isFor_iff] at absent
    exact absurd ⟨rfl, rfl⟩ absent
  | some other =>
    have same := PatternRow.isFor_iff.mp (List.find?_some found)
    rw [keyed.pattern_unique (List.mem_of_find?_eq_some found) listed same.2]

theorem Keyed.getPattern_row (keyed : store.Keyed) (isOpen : store.isOpen = true)
    {row : PatternRow} (listed : row ∈ store.patterns) (isRow : row.isFor tenant id = true) :
    store.getPattern tenant id = row.load := by
  obtain ⟨rfl, rfl⟩ := PatternRow.isFor_iff.mp isRow
  unfold getPattern
  rw [findPattern_eq isOpen, keyed.findPattern_row listed]
  unfold PatternRow.load
  by_cases readable : row.readable = true
  · simp only [if_pos readable]
    rfl
  · simp only [if_neg readable]
    rfl

theorem Keyed.putPattern (keyed : store.Keyed) (pattern : Pattern) :
    (store.putPattern pattern).Keyed := by
  refine ⟨?_, keyed.templates⟩
  have keys : ((store.putPattern pattern).patterns.map fun row => row.pattern.id) =
      store.patterns.map fun row => row.pattern.id := by
    simp only [Store.putPattern, List.map_map]
    apply List.map_congr_left
    intro row _
    rw [Function.comp_apply]
    split
    · next put => exact (PatternRow.isFor_iff.mp put).2.symm
    · rfl
  rw [keys]
  exact keyed.patterns

theorem Keyed.template_unique (keyed : store.Keyed) {a b : Template} (first : a ∈ store.templates)
    (second : b ∈ store.templates) (same : a.id = b.id) : a = b :=
  List.inj_on_of_nodup_map keyed.templates first second same

end Store
end Rota
