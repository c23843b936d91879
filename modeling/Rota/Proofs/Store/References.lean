import Rota.Proofs.Store.Names
import Rota.Proofs.Text.Identifiers
import Rota.Store.Reference
import Mathlib.Data.String.Basic

/-!
What a person types for a pattern. A text that is no identifier stands for the first created pattern
with exactly that name; if there is none, for the only one whose written identifier begins with it,
and otherwise for nothing. An error names the patterns that it could have stood for. So the short
form of an identifier never stands for another pattern, unless that one has it as its name.
-/

namespace Rota

open PatternRow

def Pattern.Begins (text : String) (pattern : Pattern) : Prop :=
  (Text.lower text).toList <+: pattern.id.toText.toList

instance (text : String) (pattern : Pattern) : Decidable (pattern.Begins text) :=
  decidable_of_iff _ List.isPrefixOf_iff_prefix

def Pattern.label (pattern : Pattern) : String := pattern.id.short ++ " (" ++ pattern.name ++ ")"

theorem infix_intercalate {α : Type} (between : List α) {part : List α} {parts : List (List α)}
    (member : part ∈ parts) : part <:+: between.intercalate parts := by
  apply List.infix_of_mem_flatten
  induction parts with
  | nil => cases member
  | cons first rest ih =>
    -- Only between two parts does anything stand, so a last part is by itself.
    cases rest with
    | nil => exact member
    | cons second others =>
      rcases List.mem_cons.mp member with rfl | later
      · exact List.mem_cons_self
      · exact List.mem_cons_of_mem _ (List.mem_cons_of_mem _ (ih later))

theorem length_le_utf8ByteSize (text : String) : text.toList.length ≤ text.utf8ByteSize := by
  rw [← String.utf8Len_toList]
  induction text.toList with
  | nil => exact Nat.zero_le _
  | cons c rest ih =>
    have positive := c.utf8Size_pos
    rw [List.length_cons, String.utf8Len_cons]
    omega

namespace Store

variable {store : Store} {tenant : Uuid} {text : String} {row : PatternRow} {answer : Attempt Uuid}

def candidates (store : Store) (tenant : Uuid) (text : String) : List Pattern :=
  store.patternsWhere tenant fun pattern => pattern.Begins text

/-- What a text that is no identifier stands for, among patterns that can all be read. -/
inductive Denotes (store : Store) (tenant : Uuid) (text : String) : Attempt Uuid → Prop where
  | name {row : PatternRow} (first : IsEarliest store.patterns tenant text row) :
      Denotes store tenant text (.ok row.pattern.id)
  | short (unborne : ¬ Borne store.patterns tenant text) (few : text.utf8ByteSize < 2) :
      Denotes store tenant text (.error (.invalidInput .shortReference))
  | only (unborne : ¬ Borne store.patterns tenant text) (enough : 2 ≤ text.utf8ByteSize)
      {pattern : Pattern} (one : store.candidates tenant text = [pattern]) :
      Denotes store tenant text (.ok pattern.id)
  | several (unborne : ¬ Borne store.patterns tenant text) (enough : 2 ≤ text.utf8ByteSize)
      (many : 2 ≤ (store.candidates tenant text).length) :
      Denotes store tenant text (.error (.invalidInput (.ambiguous text
        ((store.candidates tenant text).map fun pattern => (pattern.id, pattern.name)))))
  | nothing (unborne : ¬ Borne store.patterns tenant text) (enough : 2 ≤ text.utf8ByteSize)
      (none : store.candidates tenant text = []) :
      Denotes store tenant text (.error (.notFound (.reference text)))

/-- A pattern that has to be read for the text cannot be. -/
inductive Obscured (store : Store) (tenant : Uuid) (text : String) : Prop where
  | bearer {row : PatternRow} (first : IsEarliest store.patterns tenant text row)
      (unreadable : row.readable = false)
  | candidate (unborne : ¬ Borne store.patterns tenant text) (enough : 2 ≤ text.utf8ByteSize)
      {row : PatternRow} (listed : row ∈ store.patterns) (owned : row.pattern.tenant = tenant)
      (unreadable : row.readable = false)

theorem patternsBeginning_eq :
    patternsBeginning (store.patternsWhere tenant fun _ => true) text =
      store.candidates tenant text := by
  unfold patternsBeginning candidates patternsWhere
  rw [List.filter_map, List.filter_filter]
  congr 1
  apply List.filter_congr
  intro row _
  simp [Pattern.Begins, ← List.isPrefixOf_iff_prefix, Bool.and_comm]

theorem mapM_load_unreadable {rows : List PatternRow} (listed : row ∈ rows)
    (unreadable : row.readable = false) :
    rows.mapM PatternRow.load = .error (.database .unreadable) := by
  induction rows with
  | nil => cases listed
  | cons first rest ih =>
    rw [List.mapM_cons]
    by_cases readable : first.readable = true
    · rw [PatternRow.load_ok.mpr ⟨readable, rfl⟩]
      rcases List.mem_cons.mp listed with rfl | later
      · rw [unreadable] at readable
        cases readable
      · rw [ih later]
        rfl
    · rw [PatternRow.load, if_neg readable]
      rfl

theorem Denotes.total (store : Store) (tenant : Uuid) (text : String) :
    ∃ answer, store.Denotes tenant text answer := by
  by_cases borne : Borne store.patterns tenant text
  · obtain ⟨row, first⟩ := borne_iff_first.mp borne
    exact ⟨_, .name first⟩
  by_cases few : text.utf8ByteSize < 2
  · exact ⟨_, .short borne few⟩
  rw [Nat.not_lt] at few
  cases begun : store.candidates tenant text with
  | nil => exact ⟨_, .nothing borne few begun⟩
  | cons first rest =>
    cases rest with
    | nil => exact ⟨_, .only borne few begun⟩
    | cons second others => exact ⟨_, .several borne few (by simp [begun])⟩

theorem Denotes.of_ok {id : Uuid} (denotes : store.Denotes tenant text (.ok id)) :
    ∃ row ∈ store.patterns, row.pattern.tenant = tenant ∧ row.pattern.id = id := by
  cases denotes with
  | name first => exact ⟨_, first.listed, first.owned, rfl⟩
  | only _ _ one =>
    obtain ⟨row, listed, owned, -, rfl⟩ := mem_patternsWhere.mp (one ▸ List.mem_cons_self)
    exact ⟨row, listed, owned, rfl⟩

section Answers
variable (plain : Uuid.ofText? text = none)
include plain

theorem resolvePattern_closed (closed : store.isOpen = false) :
    store.resolvePattern tenant text = .error (.database .closed) := by
  simp [resolvePattern, plain, findPatternNamed_closed closed, bind, Except.bind]

theorem resolvePattern_first (isOpen : store.isOpen = true)
    (first : IsEarliest store.patterns tenant text row) :
    store.resolvePattern tenant text = row.load.map Pattern.id := by
  unfold resolvePattern
  rw [plain, findPatternNamed_first isOpen first]
  cases row.load <;> rfl

variable (isOpen : store.isOpen = true) (unborne : ¬ Borne store.patterns tenant text)
include isOpen unborne

theorem resolvePattern_short (few : text.utf8ByteSize < 2) :
    store.resolvePattern tenant text = .error (.invalidInput .shortReference) := by
  simp [resolvePattern, plain, findPatternNamed_unborne isOpen unborne, require, Nat.not_le.mpr few,
    bind, Except.bind]

theorem resolvePattern_beginning (enough : 2 ≤ text.utf8ByteSize) :
    store.resolvePattern tenant text = store.patterns? tenant >>= fun patterns =>
      match patternsBeginning patterns text with
      | [] => .error (.notFound (.reference text))
      | [pattern] => .ok pattern.id
      | several => .error (.invalidInput (.ambiguous text
          (several.map fun pattern => (pattern.id, pattern.name)))) := by
  unfold resolvePattern
  rw [plain, findPatternNamed_unborne isOpen unborne]
  simp only [bind, Except.bind, require, enough, if_true]
  rfl

theorem resolvePattern_unreadable (enough : 2 ≤ text.utf8ByteSize) (listed : row ∈ store.patterns)
    (owned : row.pattern.tenant = tenant) (unreadable : row.readable = false) :
    store.resolvePattern tenant text = .error (.database .unreadable) := by
  have failed : store.patterns? tenant = .error (.database .unreadable) := by
    rw [patterns?, loadPatterns, use_ok.mpr isOpen]
    exact mapM_load_unreadable (List.mem_filter.mpr ⟨listed, by simp [ownedBy, owned]⟩) unreadable
  rw [resolvePattern_beginning plain isOpen unborne enough, failed]
  rfl

theorem resolvePattern_among (enough : 2 ≤ text.utf8ByteSize)
    (readable : ∀ row ∈ store.patterns, row.pattern.tenant = tenant → row.readable = true) :
    store.resolvePattern tenant text = match store.candidates tenant text with
      | [] => .error (.notFound (.reference text))
      | [pattern] => .ok pattern.id
      | several => .error (.invalidInput (.ambiguous text
          (several.map fun pattern => (pattern.id, pattern.name)))) := by
  have loaded : store.patterns? tenant = .ok (store.patternsWhere tenant fun _ => true) :=
    loadPatterns_iff.mpr ⟨isOpen, fun row listed owned _ => readable row listed owned, rfl⟩
  rw [resolvePattern_beginning plain isOpen unborne enough, loaded, ← patternsBeginning_eq]
  rfl

end Answers

theorem resolvePattern_denoted (plain : Uuid.ofText? text = none) (isOpen : store.isOpen = true)
    (clear : ¬ store.Obscured tenant text) (denotes : store.Denotes tenant text answer) :
    store.resolvePattern tenant text = answer := by
  -- Without a name every pattern is loaded, whether or not the text begins it.
  have readable (unborne : ¬ Borne store.patterns tenant text) (enough : 2 ≤ text.utf8ByteSize) :
      ∀ row ∈ store.patterns, row.pattern.tenant = tenant → row.readable = true := by
    intro row listed owned
    by_contra unreadable
    exact clear (.candidate unborne enough listed owned (Bool.eq_false_iff.mpr unreadable))
  cases denotes with
  | @name row first =>
    have readable : row.readable = true := by
      by_contra unreadable
      exact clear (.bearer first (Bool.eq_false_iff.mpr unreadable))
    rw [resolvePattern_first plain isOpen first, PatternRow.load_ok.mpr ⟨readable, rfl⟩]
    rfl
  | short unborne few => exact resolvePattern_short plain isOpen unborne few
  | only unborne enough one =>
    rw [resolvePattern_among plain isOpen unborne enough (readable unborne enough), one]
  | several unborne enough many =>
    rw [resolvePattern_among plain isOpen unborne enough (readable unborne enough)]
    match begun : store.candidates tenant text with
    | [] => simp [begun] at many
    | [_] => simp [begun] at many
    | _ :: _ :: _ => rfl
  | nothing unborne enough none =>
    rw [resolvePattern_among plain isOpen unborne enough (readable unborne enough), none]

theorem resolvePattern_iff (plain : Uuid.ofText? text = none) (isOpen : store.isOpen = true)
    (clear : ¬ store.Obscured tenant text) :
    store.resolvePattern tenant text = answer ↔ store.Denotes tenant text answer := by
  constructor
  · rintro rfl
    -- The text stands for something, and that is the answer.
    obtain ⟨answer, denotes⟩ := Denotes.total store tenant text
    rwa [resolvePattern_denoted plain isOpen clear denotes]
  · exact resolvePattern_denoted plain isOpen clear

theorem resolvePattern_failed (plain : Uuid.ofText? text = none) :
    (∃ fault, store.resolvePattern tenant text = .error (.database fault)) ↔
      store.isOpen = false ∨ store.Obscured tenant text := by
  constructor
  · rintro ⟨fault, failed⟩
    by_contra! ⟨isOpen, clear⟩
    cases (resolvePattern_iff plain (Bool.eq_true_of_not_eq_false isOpen) clear).mp failed
  · -- A closed store fails before it comes to what cannot be read.
    rintro (closed | obscured)
    · exact ⟨_, resolvePattern_closed plain closed⟩
    cases isOpen : store.isOpen with
    | false => exact ⟨_, resolvePattern_closed plain isOpen⟩
    | true =>
      cases obscured with
      | bearer first unreadable =>
        refine ⟨.unreadable, ?_⟩
        rw [resolvePattern_first plain isOpen first, PatternRow.load, if_neg (by simp [unreadable])]
        rfl
      | candidate unborne enough listed owned unreadable =>
        exact ⟨_, resolvePattern_unreadable plain isOpen unborne enough listed owned unreadable⟩

theorem ambiguous_message (text : String) (patterns : List Pattern) :
    (Error.invalidInput (.ambiguous text
        (patterns.map fun pattern => (pattern.id, pattern.name)))).message =
      "Invalid input: " ++ ("Ambiguous ID '" ++ text ++ "', did you mean one of: " ++
        ", ".intercalate (patterns.map Pattern.label)) := by
  have labels : (patterns.map fun pattern => (pattern.id, pattern.name)).map
      (fun called => called.1.short ++ " (" ++ called.2 ++ ")") = patterns.map Pattern.label := by
    rw [List.map_map]
    rfl
  rw [← labels]
  rfl

theorem label_infix_message {patterns : List Pattern} {pattern : Pattern}
    (listed : pattern ∈ patterns) : pattern.label.toList <:+: (Error.invalidInput (.ambiguous text
      (patterns.map fun pattern => (pattern.id, pattern.name)))).message.toList := by
  have called : pattern.label ∈ patterns.map Pattern.label := List.mem_map_of_mem listed
  have among := infix_intercalate ", ".toList (List.mem_map_of_mem (f := String.toList) called)
  rw [← String.toList_intercalate] at among
  rw [ambiguous_message, String.toList_append, String.toList_append]
  exact (among.trans (List.suffix_append _ _).isInfix).trans (List.suffix_append _ _).isInfix

theorem Denotes.of_short (listed : row ∈ store.patterns) (owned : row.pattern.tenant = tenant)
    (typed : text.toList.map Char.toLower = row.pattern.id.short.toList)
    (denotes : store.Denotes tenant text answer) :
    answer = .ok row.pattern.id ∨
    (∃ several, answer = .error (.invalidInput (.ambiguous text several)) ∧
      (row.pattern.id, row.pattern.name) ∈ several) ∨
    ∃ named, IsEarliest store.patterns tenant text named ∧ answer = .ok named.pattern.id := by
  have begun : row.pattern ∈ store.candidates tenant text :=
    mem_patternsWhere.mpr
      ⟨row, listed, owned, decide_eq_true (Uuid.lower_typed_isPrefix typed), rfl⟩
  cases denotes with
  | name first => exact .inr (.inr ⟨_, first, rfl⟩)
  | short _ few =>
    have enough := Uuid.length_typed typed ▸ length_le_utf8ByteSize text
    omega
  | only _ _ one =>
    rw [one, List.mem_singleton] at begun
    exact .inl (by rw [begun])
  | several => exact .inr (.inl ⟨_, rfl, List.mem_map_of_mem begun⟩)
  | nothing _ _ none => simp [none] at begun

theorem not_obscured (readable : ∀ row ∈ store.patterns, row.readable = true) :
    ¬ store.Obscured tenant text := by
  rintro (⟨first, unreadable⟩ | ⟨-, -, listed, -, unreadable⟩)
  · exact absurd (readable _ first.listed) (Bool.eq_false_iff.mp unreadable)
  · exact absurd (readable _ listed) (Bool.eq_false_iff.mp unreadable)

/-- A text that is no identifier is answered with a failure of storage exactly when the store is
closed or a pattern that has to be read cannot be, and otherwise with what it stands for, which is
one thing. Whatever the store, only patterns of the tenant are answered with, and an ambiguous text
with a message that calls all that it could stand for. The short form of a pattern's identifier, in
letters of either case, is answered with that pattern or with several of which it is one, unless it
is a name. -/
theorem resolvePattern_by_reference (store : Store) (tenant : Uuid) :
    (∀ text, Uuid.ofText? text = none →
      ((∃ fault, store.resolvePattern tenant text = .error (.database fault)) ↔
        store.isOpen = false ∨ store.Obscured tenant text) ∧
      (store.isOpen = true → ¬ store.Obscured tenant text → ∀ answer,
        store.resolvePattern tenant text = answer ↔ store.Denotes tenant text answer) ∧
      (∀ id, store.resolvePattern tenant text = .ok id →
        ∃ row ∈ store.patterns, row.pattern.tenant = tenant ∧ row.pattern.id = id) ∧
      ∀ several, store.resolvePattern tenant text =
          .error (.invalidInput (.ambiguous text several)) →
        ∀ pattern ∈ store.candidates tenant text, pattern.label.toList <:+:
          (Error.invalidInput (.ambiguous text several)).message.toList) ∧
    ∀ row ∈ store.patterns, row.pattern.tenant = tenant → ∀ text,
      text.toList.map Char.toLower = row.pattern.id.short.toList →
        Uuid.ofText? text = none ∧
        ((∃ fault, store.resolvePattern tenant text = .error (.database fault)) ∨
          store.resolvePattern tenant text = .ok row.pattern.id ∨
          (∃ several, store.resolvePattern tenant text =
              .error (.invalidInput (.ambiguous text several)) ∧
            (row.pattern.id, row.pattern.name) ∈ several) ∨
          ∃ named, IsEarliest store.patterns tenant text named ∧
            store.resolvePattern tenant text = .ok named.pattern.id) := by
  -- An answer that is no failure of storage is what the text stands for.
  have denotes {text : String} (plain : Uuid.ofText? text = none)
      (answered : ¬ ∃ fault, store.resolvePattern tenant text = .error (.database fault)) :
      store.Denotes tenant text (store.resolvePattern tenant text) := by
    rw [resolvePattern_failed plain, not_or, Bool.not_eq_false] at answered
    exact (resolvePattern_iff plain answered.1 answered.2).mp rfl
  refine ⟨fun text plain => ⟨resolvePattern_failed plain,
    fun isOpen clear answer => resolvePattern_iff plain isOpen clear, fun id answered => ?_,
    fun several answered pattern listed => ?_⟩, fun row listed owned text typed => ?_⟩
  · have denoted := denotes plain (by simp [answered])
    rw [answered] at denoted
    exact denoted.of_ok
  · have denoted := denotes plain (by simp [answered])
    rw [answered] at denoted
    cases denoted
    exact label_infix_message listed
  · have plain := Uuid.ofText?_typed typed
    refine ⟨plain, or_iff_not_imp_left.mpr fun answered => ?_⟩
    exact (denotes plain answered).of_short listed owned typed

end Store

def firstAudit : Date := ⟨4, by decide, by decide⟩ -- 5 January 1970

def auditRow (readable : Bool) (digits : Nat) (name : String) : PatternRow :=
  { pattern :=
      { id := .ofNat (digits * 2 ^ 96)
        tenant := .ofNat 1
        name
        description := none
        series :=
          { rule := .monthly 1 { dayOfMonth := some 5 }, ending := .never, startsOn := firstAudit }
        isActive := true
        createdBy := none
        createdAt := .midnight firstAudit
        updatedAt := .midnight firstAudit }
    readable }

/-- Two patterns, of which the second has the short form of the first as its name. -/
def audits (readable : Bool) : Store :=
  { patterns := [auditRow readable 0xabcdef01 "Audit", auditRow readable 0xabcd0002 "abcdef01"] }

theorem unreadable_candidate_fails :
    Uuid.ofText? "abcdef" = none ∧ ¬ Borne (audits false).patterns (.ofNat 1) "abcdef" ∧
    ((audits false).candidates (.ofNat 1) "abcdef").map Pattern.name = ["Audit"] ∧
    (audits false).resolvePattern (.ofNat 1) "abcdef" = .error (.database .unreadable) := by
  decide +kernel

/-- In capitals the short form stands for the first pattern; in small letters it is the name of the
second. What they have in common could be either. -/
theorem audits_by_reference :
    let first := auditRow true 0xabcdef01 "Audit"
    let second := auditRow true 0xabcd0002 "abcdef01"
    (∀ text, (audits true).isOpen = true ∧ ¬ (audits true).Obscured (.ofNat 1) text) ∧
    (∀ text ∈ ["ABCDEF01", "abcdef01"],
      text.toList.map Char.toLower = first.pattern.id.short.toList ∧ Uuid.ofText? text = none) ∧
    (audits true).resolvePattern (.ofNat 1) "ABCDEF01" = .ok first.pattern.id ∧
    (audits true).resolvePattern (.ofNat 1) "abcdef01" = .ok second.pattern.id ∧
    ∃ several, (audits true).resolvePattern (.ofNat 1) "abcd" =
        .error (.invalidInput (.ambiguous "abcd" several)) ∧
      "abcdef01 (Audit)".toList <:+:
        (Error.invalidInput (.ambiguous "abcd" several)).message.toList := by
  intro first second
  obtain ⟨answers, short⟩ := Store.resolvePattern_by_reference (audits true) (.ofNat 1)
  have clear : ∀ text, (audits true).isOpen = true ∧ ¬ (audits true).Obscured (.ofNat 1) text :=
    fun text => ⟨rfl, Store.not_obscured (by simp [audits, auditRow])⟩
  have typed : ∀ text ∈ ["ABCDEF01", "abcdef01"],
      text.toList.map Char.toLower = first.pattern.id.short.toList := by
    decide +kernel
  have plain := fun text member =>
    (short first List.mem_cons_self rfl text (typed text member)).1
  have denoted {text : String} (plain : Uuid.ofText? text = none) {answer : Attempt Uuid}
      (denotes : (audits true).Denotes (.ofNat 1) text answer) :
      (audits true).resolvePattern (.ofNat 1) text = answer :=
    ((answers text plain).2.1 (clear text).1 (clear text).2 answer).mpr denotes
  have only : (audits true).candidates (.ofNat 1) "ABCDEF01" = [first.pattern] := by
    decide +kernel
  have named : IsEarliest (audits true).patterns (.ofNat 1) "abcdef01" second :=
    PatternRow.find?_isEarliest.mp (by decide +kernel)
  have several : 2 ≤ ((audits true).candidates (.ofNat 1) "abcd").length := by
    decide +kernel
  have common : Uuid.ofText? "abcd" = none := by
    decide
  have ambiguous := denoted common (.several (by decide +kernel) (by decide) several)
  have label : first.pattern.label = "abcdef01 (Audit)" := by
    decide +kernel
  refine ⟨clear, fun text member => ⟨typed text member, plain text member⟩,
    denoted (plain _ (by simp)) (.only (by decide +kernel) (by decide) only),
    denoted (plain _ (by simp)) (.name named), _, ambiguous, ?_⟩
  rw [← label]
  exact (answers "abcd" common).2.2.2 _ ambiguous first.pattern (by decide +kernel)

end Rota
