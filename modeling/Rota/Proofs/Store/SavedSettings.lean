import Rota.Proofs.Schedule.TriggerText
import Rota.Proofs.Store.Rows
import Rota.Proofs.Store.TenantMaps
import Rota.Store.Settings

/-!
Settings that are saved. They are taken exactly when their time is the text of a time of day, and
kept with that time in its written form; so they are read back as they were kept, and keeping them
again changes nothing.
-/

namespace Rota

namespace Store

def withSettings (store : Store) (tenant : Uuid) (settings : Settings) : Store :=
  { store with settings := store.settings.insert tenant settings }

variable {store : Store} {tenant other : Uuid} {settings : Settings} {time : TriggerTime}

@[simp] theorem withSettings_withSettings :
    (store.withSettings tenant settings).withSettings tenant settings =
      store.withSettings tenant settings := by
  simp [withSettings]

theorem settingsOf_withSettings (isOpen : store.isOpen = true) :
    (store.withSettings tenant settings).settingsOf other =
      if tenant = other then .ok settings else store.settingsOf other := by
  have still : (store.withSettings tenant settings).use = .ok () := use_ok.mpr isOpen
  rw [settingsOf, settingsOf, still, use_ok.mpr isOpen]
  simp only [withSettings, bind, Except.bind, TenantMap.get?_insert]
  split <;> rfl

theorem saveSettings_spelled (isOpen : store.isOpen = true)
    (spelled : TriggerTime.Spells settings.runTime time.hour time.minute) :
    store.saveSettings tenant settings = .ok ({ settings with runTime := time.toText },
      store.withSettings tenant { settings with runTime := time.toText }) := by
  rw [saveSettings, TriggerTime.parse_eq_ok.mpr spelled, use_ok.mpr isOpen]
  rfl

theorem saveSettings_toText (time : TriggerTime) (same : settings.runTime = time.toText)
    (isOpen : store.isOpen = true) :
    store.saveSettings tenant settings = .ok (settings, store.withSettings tenant settings) := by
  rw [saveSettings_spelled isOpen (same ▸ time.spells_toText), ← same]

theorem saveSettings_unspelled {fault : TimeFault}
    (refused : TriggerTime.parse settings.runTime = .error fault) :
    store.saveSettings tenant settings = .error (.invalidSchedule fault) := by
  rw [saveSettings, refused]
  rfl

end Store

/-- What kept settings are like: those that were given but for the spelling of the time. -/
structure Settings.KeptAs (settings : Settings) (time : TriggerTime) (saved : Settings) : Prop where
  others : saved = { settings with runTime := saved.runTime }
  twoDigits : ∃ hour minute, saved.runTime.toList = hour ++ ':' :: minute ∧ hour.length = 2 ∧
    minute.length = 2 ∧ TriggerTime.IsField hour time.hour ∧ TriggerTime.IsField minute time.minute
  sameTime : TriggerTime.parse saved.runTime = .ok time

theorem Settings.keptAs_toText (settings : Settings) (time : TriggerTime) :
    settings.KeptAs time { settings with runTime := time.toText } where
  others := rfl
  twoDigits := by
    have hour : time.hour < 100 := Nat.lt_trans time.hour_lt (by decide)
    have minute : time.minute < 100 := Nat.lt_trans time.minute_lt (by decide)
    exact ⟨_, _, time.toList_toText, Text.digitsOf_length_of_lt 2 (by decide) hour,
      Text.digitsOf_length_of_lt 2 (by decide) minute, .digitsOf hour, .digitsOf minute⟩
  sameTime := time.parse_toText

/-- A text is a time exactly when it has the form of one, and no settings with another text are
taken. Settings that are taken are kept with the same time in two digits each, for their tenant and
no other, come back as they were kept, and can be kept again with nothing changed. -/
theorem saveSettings_by_grammar (store : Store) (tenant : Uuid) (settings : Settings) :
    (∀ text,
      (∀ time, TriggerTime.parse text = .ok time ↔
        TriggerTime.Spells text time.hour time.minute) ∧
      ((∀ time : TriggerTime, ¬ TriggerTime.Spells text time.hour time.minute) →
        ∃ fault, TriggerTime.Refused text fault ∧
          (TriggerTime.parse text).mapError .invalidSchedule =
            .error (Error.invalidSchedule fault))) ∧
    ((∀ time : TriggerTime, ¬ TriggerTime.Spells settings.runTime time.hour time.minute) →
      ∃ fault, TriggerTime.Refused settings.runTime fault ∧
        store.saveSettings tenant settings = .error (.invalidSchedule fault)) ∧
    ∀ time : TriggerTime, TriggerTime.Spells settings.runTime time.hour time.minute →
      store.isOpen = true →
      ∃ saved after, store.saveSettings tenant settings = .ok (saved, after) ∧
        settings.KeptAs time saved ∧
        after = { store with settings := after.settings } ∧
        (∀ other, other ≠ tenant → after.settingsOf other = store.settingsOf other) ∧
        after.settingsOf tenant = .ok saved ∧
        after.saveSettings tenant saved = .ok (saved, after) := by
  refine ⟨fun text => ⟨fun time => TriggerTime.parse_eq_ok, fun never => ?_⟩, fun never => ?_, ?_⟩
  · obtain ⟨fault, read, why⟩ := TriggerTime.parse_eq_error never
    exact ⟨fault, why, by rw [read]; rfl⟩
  · obtain ⟨fault, read, why⟩ := TriggerTime.parse_eq_error never
    exact ⟨fault, why, Store.saveSettings_unspelled read⟩
  · intro time spelled isOpen
    refine ⟨_, _, Store.saveSettings_spelled isOpen spelled, settings.keptAs_toText time, rfl,
      fun other apart => ?_, ?_, ?_⟩
    · rw [Store.settingsOf_withSettings isOpen, if_neg (Ne.symm apart)]
    · rw [Store.settingsOf_withSettings isOpen, if_pos rfl]
    · have stillOpen : (store.withSettings tenant { settings with runTime := time.toText }).isOpen =
          true := isOpen
      rw [Store.saveSettings_toText time rfl stillOpen, Store.withSettings_withSettings]

theorem early_time_kept :
    TriggerTime.Spells " 7:05" 7 5 ∧
    (∃ saved after, Store.empty.saveSettings (.ofNat 1) { runTime := " 7:05" } = .ok (saved, after) ∧
      TriggerTime.parse saved.runTime = .ok ⟨7, 5, by decide, by decide⟩ ∧
      after.settingsOf (.ofNat 1) = .ok saved) ∧
    (Store.empty.saveSettings (.ofNat 1) { runTime := " 7:05" }).toOption.map
      (fun result => result.1.runTime) = some "07:05" := by
  have spelled : TriggerTime.Spells " 7:05" 7 5 :=
    ⟨[' '], ['7'], ['0', '5'], [], rfl, List.all_eq_true.mp rfl,
      ⟨List.all_eq_true.mp rfl, .inl rfl, rfl⟩, ⟨List.all_eq_true.mp rfl, .inr rfl, rfl⟩,
      List.all_eq_true.mp rfl⟩
  obtain ⟨-, -, taken⟩ := saveSettings_by_grammar Store.empty (.ofNat 1) { runTime := " 7:05" }
  obtain ⟨saved, after, answered, kept, -, -, read, -⟩ :=
    taken ⟨7, 5, by decide, by decide⟩ spelled rfl
  exact ⟨spelled, ⟨saved, after, answered, kept.sameTime, read⟩, by decide +kernel⟩

end Rota
