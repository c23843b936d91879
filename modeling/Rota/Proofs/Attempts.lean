import Rota.Error
import Mathlib.Data.List.Forall2

/-!
Attempts one after the other. A sequence of them has an answer when each of them has one, and an
answer to the whole says what each of them answered. `FailsWhen` says of an attempt when it has a
fault; what comes after a fault has the same one.
-/

namespace Rota

section Attempts
variable {α β ε : Type} {f : α → Except ε β}

theorem bind_ok {attempt : Except ε α} {b : β} :
    attempt >>= f = .ok b ↔ ∃ a, attempt = .ok a ∧ f a = .ok b := by
  cases attempt with
  | error fault => simp [bind, Except.bind]
  | ok a => simp [bind, Except.bind]

theorem bind_error {attempt : Except ε α} {fault : ε} :
    attempt >>= f = .error fault ↔
      attempt = .error fault ∨ ∃ a, attempt = .ok a ∧ f a = .error fault := by
  cases attempt with
  | error cause => simp [bind, Except.bind]
  | ok a => simp [bind, Except.bind]

theorem map_ok {attempt : Except ε α} {g : α → β} {b : β} :
    attempt.map g = .ok b ↔ ∃ a, attempt = .ok a ∧ g a = b := by
  cases attempt <;> simp [Except.map]

theorem mapM_cons_ok {first : α} {rest : List α} {results : List β} :
    (first :: rest).mapM f = .ok results ↔
      ∃ value values, f first = .ok value ∧ rest.mapM f = .ok values ∧ results = value :: values := by
  rw [List.mapM_cons, bind_ok]
  constructor
  · rintro ⟨value, head, answered⟩
    obtain ⟨values, tail, same⟩ := bind_ok.mp answered
    exact ⟨value, values, head, tail, (Except.ok.inj same).symm⟩
  · rintro ⟨value, values, head, tail, rfl⟩
    exact ⟨value, head, bind_ok.mpr ⟨values, tail, rfl⟩⟩

theorem mapM_returns {list : List α} :
    (∃ results, list.mapM f = .ok results) ↔ ∀ a ∈ list, ∃ b, f a = .ok b := by
  induction list with
  | nil => simp [pure, Except.pure]
  | cons first rest ih =>
    rw [List.forall_mem_cons, ← ih]
    constructor
    · rintro ⟨results, answered⟩
      obtain ⟨value, values, head, tail, -⟩ := mapM_cons_ok.mp answered
      exact ⟨⟨value, head⟩, ⟨values, tail⟩⟩
    · rintro ⟨⟨value, head⟩, ⟨values, tail⟩⟩
      exact ⟨_, mapM_cons_ok.mpr ⟨value, values, head, tail, rfl⟩⟩

theorem mem_of_mapM {list : List α} {results : List β} (answered : list.mapM f = .ok results)
    (b : β) : b ∈ results ↔ ∃ a ∈ list, f a = .ok b := by
  induction list generalizing results with
  | nil =>
    cases answered
    simp
  | cons first rest ih =>
    obtain ⟨value, values, head, tail, rfl⟩ := mapM_cons_ok.mp answered
    rw [List.mem_cons, ih tail]
    simp [head, eq_comm]

theorem mapM_forall₂ {list : List α} {results : List β}
    (answered : list.mapM f = .ok results) :
    List.Forall₂ (fun a b => a ∈ list ∧ f a = .ok b) list results := by
  rw [List.forall₂_and_left]
  refine ⟨fun _ member => member, ?_⟩
  induction list generalizing results with
  | nil =>
    cases answered
    exact .nil
  | cons first rest ih =>
    obtain ⟨value, values, head, tail, rfl⟩ := mapM_cons_ok.mp answered
    exact .cons head (ih tail)

theorem mapM_congr {list : List α} {g : α → Except ε β} (same : ∀ a ∈ list, f a = g a) :
    list.mapM f = list.mapM g := by
  induction list with
  | nil => rfl
  | cons first rest ih =>
    rw [List.mapM_cons, List.mapM_cons, same first List.mem_cons_self,
      ih fun a member => same a (List.mem_cons_of_mem _ member)]

theorem mapM_countP {list : List α} {results : List β} (answered : list.mapM f = .ok results)
    {counts : β → Bool} {holds : α → Bool} (same : ∀ a b, f a = .ok b → counts b = holds a) :
    results.countP counts = list.countP holds := by
  induction list generalizing results with
  | nil =>
    cases answered
    rfl
  | cons first rest ih =>
    obtain ⟨value, values, head, tail, rfl⟩ := mapM_cons_ok.mp answered
    rw [List.countP_cons, List.countP_cons, ih tail, same first value head]

theorem Outcome.ofChecked_ok {checked : Checked α} {a : α} :
    Outcome.ofChecked checked = .ok a ↔ checked = .ok a := by
  cases checked <;> simp [Outcome.ofChecked]

theorem Outcome.ofExcept_ok {attempt : Except Error α} {a : α} :
    Outcome.ofExcept attempt = .ok a ↔ attempt = .ok a := by
  cases attempt <;> simp [Outcome.ofExcept]

theorem Outcome.ofChecked_error {checked : Checked α} {error : Error} :
    Outcome.ofChecked checked ≠ .error (.error error) := by
  cases checked <;> simp [Outcome.ofChecked]

theorem Outcome.ofExcept_error {attempt : Except Error α} {error : Error} :
    Outcome.ofExcept attempt = .error (.error error) ↔ attempt = .error error := by
  cases attempt <;> simp [Outcome.ofExcept]

end Attempts

/-- There is this fault under the condition, and a result otherwise. -/
structure FailsWhen {ε α : Type} (attempt : Except ε α) (fault : ε) (bad : Prop) : Prop where
  fails : bad → attempt = .error fault
  returns : ¬ bad → ∃ a, attempt = .ok a

namespace FailsWhen

variable {ε α β : Type} {attempt : Except ε α} {fault : ε} {bad other : Prop}

theorem congr (failing : FailsWhen attempt fault bad) (same : other ↔ bad) :
    FailsWhen attempt fault other :=
  ⟨fun met => failing.fails (same.mp met),
    fun unmet => failing.returns fun met => unmet (same.mpr met)⟩

theorem of_ok {a : α} (answered : attempt = .ok a) (never : ¬ bad) :
    FailsWhen attempt fault bad :=
  ⟨fun met => absurd met never, fun _ => ⟨a, answered⟩⟩

theorem bind {f : α → Except ε β} (first : FailsWhen attempt fault bad)
    (sooner : bad → other)
    (next : ∀ a, attempt = .ok a → ¬ bad → FailsWhen (f a) fault other) :
    FailsWhen (attempt >>= f) fault other := by
  by_cases met : bad
  · refine ⟨fun _ => ?_, fun unmet => absurd (sooner met) unmet⟩
    rw [first.fails met]
    rfl
  · obtain ⟨a, answered⟩ := first.returns met
    have rest := next a answered met
    rw [answered]
    exact rest

theorem bind_total {f : α → Except ε β} (first : FailsWhen attempt fault bad)
    (total : ∀ a, attempt = .ok a → ∃ b, f a = .ok b) : FailsWhen (attempt >>= f) fault bad := by
  apply first.bind id
  intro a answered unmet
  obtain ⟨b, ended⟩ := total a answered
  exact of_ok ended unmet

theorem mapM {list : List α} {f : α → Except ε β} (bad : α → Prop)
    (each : ∀ a ∈ list, FailsWhen (f a) fault (bad a)) :
    FailsWhen (list.mapM f) fault (∃ a ∈ list, bad a) := by
  induction list with
  | nil => exact of_ok rfl (by simp)
  | cons first rest ih =>
    have later := ih fun a member => each a (List.mem_cons_of_mem _ member)
    rw [List.mapM_cons]
    apply (each first List.mem_cons_self).bind
    · exact fun met => ⟨first, List.mem_cons_self, met⟩
    · intro b _ fine
      apply (later.bind_total fun values _ => ⟨b :: values, rfl⟩).congr
      simp [fine]

theorem ofChecked {checked : Checked α} {fault : Fault} (failing : FailsWhen checked fault bad) :
    FailsWhen (Outcome.ofChecked checked) (.fault fault) bad := by
  refine ⟨fun met => ?_, fun unmet => ?_⟩
  · rw [failing.fails met]
    rfl
  · obtain ⟨a, answered⟩ := failing.returns unmet
    exact ⟨a, Outcome.ofChecked_ok.mpr answered⟩

end FailsWhen

end Rota
