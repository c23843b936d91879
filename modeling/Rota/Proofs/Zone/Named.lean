import Rota.Proofs.Zone.Reading
import Rota.Zone.Named

/-!
The clock of every named zone is steady.
-/

namespace Rota

open Zone

namespace CodedZone

inductive Passes : CodedZone → Prop
  | intro {name : String} {pieces : List String} {offsets changes tail : List Char}
      (spells : Spells pieces changes) (passed : isSteady offsets changes tail = true) :
      Passes ⟨name, String.ofList offsets, pieces, String.ofList tail⟩

theorem mem_readChanges {offsets : List Offset} {time : Int} {negative : Bool} {digits : Nat}
    {cs : List Char} {change : Int × Offset}
    (read : change ∈ readChanges offsets time negative digits cs) : change.2 ∈ offsets := by
  induction cs generalizing time negative digits with
  | nil => cases read
  | cons c rest ih =>
    rw [readChanges] at read
    split at read
    · exact ih read
    · split at read
      · dsimp only at read
        split at read
        · next offset found =>
          rcases List.mem_cons.mp read with rfl | read
          · exact mem_of_letter? found
          · exact ih read
        · exact ih read
      · exact ih read

theorem offset_of_yearlyChange? {offsets : List Offset} {letter rule : List Char}
    {change : YearlyChange} (found : yearlyChange? offsets letter rule = some change) :
    change.offset ∈ offsets := by
  unfold yearlyChange? at found
  obtain ⟨c, -, found⟩ := Option.bind_eq_some_iff.mp found
  obtain ⟨offset, known, found⟩ := Option.bind_eq_some_iff.mp found
  split at found
  · split at found
    · obtain ⟨weekday, -, found⟩ := Option.bind_eq_some_iff.mp found
      cases found
      exact mem_of_letter? known
    · cases found
  · cases found

theorem mem_yearOf {one other : YearlyChange} {year : Int} {change : Int × Offset}
    (listed : change ∈ yearOf one other year) :
    change.2 = one.offset ∨ change.2 = other.offset := by
  unfold yearOf at listed
  split at listed
  · dsimp only at listed
    split at listed <;> simp only [List.mem_cons, List.not_mem_nil, or_false] at listed <;>
      rcases listed with rfl | rfl <;> simp
  · cases listed

theorem mem_tailChanges {offsets : List Offset} {tail : String} {change : Int × Offset}
    (listed : change ∈ tailChanges offsets tail) : change.2 ∈ offsets := by
  unfold tailChanges at listed
  split at listed
  · split at listed
    · next one other found foundOther =>
      obtain ⟨i, -, listed⟩ := List.mem_flatMap.mp listed
      rcases mem_yearOf listed with same | same <;> rw [same]
      · exact offset_of_yearlyChange? found
      · exact offset_of_yearlyChange? foundOther
    · cases listed
  · cases listed

end CodedZone

theorem Zone.offsetFrom_mem {current : Offset} {time : Int} {changes : List (Int × Offset)} :
    offsetFrom current time changes ∈ current :: changes.map Prod.snd := by
  induction changes generalizing current with
  | nil => exact List.mem_cons_self
  | cons change rest ih =>
    obtain ⟨since, next⟩ := change
    rw [offsetFrom]
    split
    · exact List.mem_cons_self
    · exact List.mem_cons_of_mem _ ih

namespace CodedZone

theorem offsetList_eq (name : String) (offsets : List Char) (pieces : List String) (tail : String) :
    offsetList ⟨name, String.ofList offsets, pieces, tail⟩ = offsetsOf offsets := by
  rw [offsetList, words, String.toList_ofList]
  rfl

theorem passes_steady {coded : CodedZone} (passes : coded.Passes) (name : String) :
    (coded.toZone name).Steady ∧ ∀ time, ((coded.toZone name).offsetAt time).Small := by
  obtain @⟨_, pieces, offsetText, cs, tailText, spells, passed⟩ := passes
  have start (offsets : List Offset) (small : ∀ offset ∈ offsets, offset.Small) :
      (offsets.headD ⟨0, "UTC"⟩).Small := by
    cases offsets with
    | nil => decide
    | cons first rest => exact small first List.mem_cons_self
  simp only [isSteady, Bool.and_eq_true, List.all_eq_true, decide_eq_true_eq] at passed
  obtain ⟨small, reads⟩ := passed
  have tail : words (String.ofList tailText) ' ' = tailText.splitOn ' ' := by
    rw [words, String.toList_ofList]
  rw [← tail] at reads
  have smallStart := start _ small
  simp only [toZone, offsetList_eq, spells.flatMap_toList]
  refine ⟨?_, fun time => ?_⟩
  · exact withoutRepeats_steady (readsSteady_sound small smallStart smallStart reads)
  · rw [offsetAt]
    rcases List.mem_cons.mp offsetFrom_mem with same | later
    · rw [same]
      exact smallStart
    · obtain ⟨change, listed, same⟩ := List.mem_map.mp later
      rw [← same]
      refine small _ ?_
      rcases List.mem_append.mp (mem_withoutRepeats listed) with read | read
      · exact mem_readChanges read
      · exact mem_tailChanges read

end CodedZone

theorem africa_passes : ∀ coded ∈ Tables.africa, coded.Passes := by
  unfold Tables.africa
  repeat refine List.forall_mem_cons.mpr ⟨.intro (by repeat constructor) (by decide +kernel), ?_⟩
  exact List.forall_mem_nil _

theorem america_passes : ∀ coded ∈ Tables.america, coded.Passes := by
  unfold Tables.america
  repeat refine List.forall_mem_cons.mpr ⟨.intro (by repeat constructor) (by decide +kernel), ?_⟩
  exact List.forall_mem_nil _

theorem asia_passes : ∀ coded ∈ Tables.asia, coded.Passes := by
  unfold Tables.asia
  repeat refine List.forall_mem_cons.mpr ⟨.intro (by repeat constructor) (by decide +kernel), ?_⟩
  exact List.forall_mem_nil _

theorem europe_passes : ∀ coded ∈ Tables.europe, coded.Passes := by
  unfold Tables.europe
  repeat refine List.forall_mem_cons.mpr ⟨.intro (by repeat constructor) (by decide +kernel), ?_⟩
  exact List.forall_mem_nil _

theorem ocean_passes : ∀ coded ∈ Tables.ocean, coded.Passes := by
  unfold Tables.ocean
  repeat refine List.forall_mem_cons.mpr ⟨.intro (by repeat constructor) (by decide +kernel), ?_⟩
  exact List.forall_mem_nil _

theorem fixed_passes : ∀ coded ∈ Tables.fixed, coded.Passes := by
  unfold Tables.fixed
  repeat refine List.forall_mem_cons.mpr ⟨.intro (by repeat constructor) (by decide +kernel), ?_⟩
  exact List.forall_mem_nil _

theorem Zone.tables_pass : ∀ coded ∈ tables, coded.Passes := by
  simp only [tables, List.forall_mem_append]
  exact ⟨⟨⟨⟨⟨africa_passes, america_passes⟩, asia_passes⟩, europe_passes⟩, ocean_passes⟩,
    fixed_passes⟩

/-- The clock of a named zone is steady, and never a day from UTC. -/
theorem Zone.named?_steady {name : String} {zone : Zone} (named : named? name = some zone) :
    zone.Steady ∧ ∀ time, (zone.offsetAt time).Small := by
  obtain ⟨coded, listed, rfl⟩ := Option.map_eq_some_iff.mp named
  exact CodedZone.passes_steady (tables_pass coded (List.mem_of_find?_eq_some listed)) _

end Rota
