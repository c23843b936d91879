import Rota.Proofs.Json.Alike
import Rota.Proofs.Json.Text

/-!
The structured forms of rules, end conditions, subtasks, settings and patterns lose nothing: what
was written is read back, whatever the value, and documents that are alike are read as the same
value. Neither does their text, as the forms are plain.
-/

namespace Rota

open Json

theorem RepeatUnit.ofName?_name (unit : RepeatUnit) : ofName? unit.name = some unit := by
  cases unit <;> rfl

theorem DaySelection.ofFields?_eq {form : Form} {members more : List (String × Json)}
    (alike : form.Alike members more)
    (known : ("day_of_month", .nullable) ∈ form.members ∧ ("week_of_month", .nullable) ∈ form.members ∧
      ("day_of_week", .nullable) ∈ form.members ∧
      ("end_of_month", .usual (.bool false)) ∈ form.members) :
    ofFields? (lookup members) = ofFields? (lookup more) := by
  obtain ⟨dayOfMonth, weekOfMonth, dayOfWeek, endOfMonth⟩ := known
  rw [ofFields?, ofFields?, alike.optional_eq dayOfMonth, alike.optional_eq weekOfMonth,
    alike.optional_eq dayOfWeek, alike.defaulted_eq]
  exact ⟨_, endOfMonth, rfl⟩

theorem DaySelection.plain {depth : Nat} (day : DaySelection) : PlainMembers depth
    ["day_of_month", "week_of_month", "day_of_week", "end_of_month"] day.members := by
  have all : PlainMembers depth _ day.members :=
    .append (.append (.append (.memberOf .ofUInt32 _) (.memberOf .ofUInt8 _))
      (.memberOf .ofUInt8 _)) (.cons (.bool _) .nil)
  exact all

namespace Rule

def form : String → Form
  | "monthly" => { members := [("type", .needed), ("frequency", .usual (.int 1)),
      ("day_of_month", .nullable), ("week_of_month", .nullable), ("day_of_week", .nullable),
      ("end_of_month", .usual (.bool false))] }
  | "yearly" => { members := [("type", .needed), ("frequency", .usual (.int 1)),
      ("months", .usual (.list [])), ("day_of_month", .nullable), ("week_of_month", .nullable),
      ("day_of_week", .nullable), ("end_of_month", .usual (.bool false))] }
  | "quarterly" => { members := [("type", .needed), ("frequency", .usual (.int 1)),
      ("month_of_quarter", .nullable), ("day_of_month", .nullable), ("week_of_month", .nullable),
      ("day_of_week", .nullable), ("end_of_month", .usual (.bool false))] }
  | "custom" => { members := [("type", .needed), ("frequency", .usual (.int 1)), ("unit", .needed),
      ("days_of_week", .usual (.list [])), ("days_of_month", .usual (.list [])),
      ("months_of_year", .usual (.list []))] }
  | _ => { members := [("type", .needed)] }

theorem type_needed (kind : String) : ("type", .needed) ∈ (form kind).members := by
  unfold form
  split <;> exact List.mem_cons_self

theorem ofJson?_toJson (rule : Rule) : ofJson? rule.toJson = some rule := by
  cases rule with
  | monthly frequency day | yearly frequency months day | quarterly frequency month day =>
    simp [toJson, ofJson?, DaySelection.members, DaySelection.ofFields?]
  | custom frequency unit daysOfWeek daysOfMonth monthsOfYear =>
    simp [toJson, ofJson?, customOfFields?, innerName?, name?, RepeatUnit.ofName?_name]

theorem plain {depth : Nat} (rule : Rule) : Plain (depth + 2) rule.toJson := by
  cases rule with
  | monthly frequency day =>
    apply PlainMembers.object
    case all => exact .append (.cons (.text _) (.cons (.ofUInt32 _) .nil)) day.plain
    case distinct => decide
  | yearly frequency months day =>
    apply PlainMembers.object
    case all =>
      exact .append (.cons (.text _) (.cons (.ofUInt32 _) (.cons (.list_map .ofUInt32 _) .nil)))
        day.plain
    case distinct => decide
  | quarterly frequency month day =>
    apply PlainMembers.object
    case all =>
      exact .append (.append (.cons (.text _) (.cons (.ofUInt32 _) .nil)) (.memberOf .ofUInt32 _))
        day.plain
    case distinct => decide
  | custom frequency unit daysOfWeek daysOfMonth monthsOfYear =>
    apply PlainMembers.object
    case all =>
      exact .append (.append (.append (.cons (.text _) (.cons (.ofUInt32 _) (.cons (.text _) .nil)))
        (.memberOfList .ofUInt8 _)) (.memberOfList .ofUInt32 _)) (.memberOfList .ofUInt32 _)
    case distinct => decide

theorem ofJson?_eq {x y : Json} (alike : Form.AlikeTagged form x y) : ofJson? x = ofJson? y := by
  obtain @⟨kind, members, more, tagged, alike⟩ := alike
  have taggedMore := (alike.lookup_eq (type_needed kind)).symm.trans tagged
  simp only [ofJson?, tagged, taggedMore, required_some, text?_text, Option.bind_eq_bind,
    Option.bind_some]
  split
  case h_1 =>
    rw [alike.defaulted_eq, DaySelection.ofFields?_eq alike] <;> simp [form, uint32?_one]
  case h_2 =>
    rw [alike.defaulted_eq, alike.defaulted_eq, DaySelection.ofFields?_eq alike] <;>
      simp [form, uint32?_one, list?_nil]
  case h_3 =>
    rw [alike.defaulted_eq, alike.optional_eq, DaySelection.ofFields?_eq alike] <;>
      simp [form, uint32?_one]
  case h_4 =>
    rw [customOfFields?, customOfFields?, alike.defaulted_eq, alike.required_eq, alike.defaulted_eq,
      alike.defaulted_eq, alike.defaulted_eq] <;> simp [form, uint32?_one, list?_nil]
  case h_5 => rfl

end Rule

namespace EndCondition

def form : String → Form
  | "after_occurrences" => { members := [("type", .needed), ("occurrences", .needed)] }
  | "by_date" => { members := [("type", .needed), ("end_date", .needed)] }
  | _ => { members := [("type", .needed)] }

theorem type_needed (kind : String) : ("type", .needed) ∈ (form kind).members := by
  unfold form
  split <;> exact List.mem_cons_self

theorem ofJson?_toJson (ending : EndCondition) : ofJson? ending.toJson = some ending := by
  cases ending <;> simp [toJson, ofJson?]

theorem plain {depth : Nat} (ending : EndCondition) : Plain (depth + 1) ending.toJson := by
  cases ending with
  | never => exact PlainMembers.object (.cons (.text _) .nil) (List.nodup_singleton _)
  | afterOccurrences n =>
    apply PlainMembers.object
    case all => exact .cons (.text _) (.cons (.ofUInt32 n) .nil)
    case distinct => decide
  | byDate date =>
    apply PlainMembers.object
    case all => exact .cons (.text _) (.cons (.text _) .nil)
    case distinct => decide

theorem ofJson?_eq {x y : Json} (alike : Form.AlikeTagged form x y) : ofJson? x = ofJson? y := by
  obtain @⟨kind, members, more, tagged, alike⟩ := alike
  have taggedMore := (alike.lookup_eq (type_needed kind)).symm.trans tagged
  simp only [ofJson?, tagged, taggedMore, required_some, text?_text, Option.bind_eq_bind,
    Option.bind_some]
  split
  case h_1 | h_4 => rfl
  case h_2 | h_3 => rw [alike.required_eq]; simp [form]

end EndCondition

namespace Subtask

def form : Form where
  members := [("id", .needed), ("title", .needed), ("completed", .usual (.bool false)),
    ("completed_at", .nullable)]

theorem ofJson?_toJson (subtask : Subtask) : ofJson? subtask.toJson = some subtask := by
  simp [toJson, ofJson?, fields?]

theorem plain {depth : Nat} (subtask : Subtask) : Plain (depth + 1) subtask.toJson := by
  apply PlainMembers.object
  case all =>
    exact .append (.cons (.text _) (.cons (.text _) (.cons (.bool _) .nil)))
      (.memberOf (fun _ => .text _) _)
  case distinct => decide

theorem ofJson?_eq {x y : Json} (alike : form.AlikeObjects x y) : ofJson? x = ofJson? y := by
  obtain @⟨members, more, alike⟩ := alike
  simp only [ofJson?, fields?, Option.bind_eq_bind, Option.bind_some]
  rw [alike.required_eq, alike.required_eq, alike.defaulted_eq, alike.optional_eq] <;> simp [form]

end Subtask

namespace Settings

def form : Form where
  members := [("enabled", .needed), ("autoRunTime", .needed), ("emailNotifications", .needed),
    ("taskGeneration", .needed)]

theorem ofJson?_toJson (settings : Settings) : ofJson? settings.toJson = some settings := by
  simp [toJson, ofJson?, fields?]

theorem plain {depth : Nat} (settings : Settings) : Plain (depth + 1) settings.toJson := by
  apply PlainMembers.object
  case all => exact .cons (.bool _) (.cons (.text _) (.cons (.bool _) (.cons (.bool _) .nil)))
  case distinct => decide

theorem ofJson?_eq {x y : Json} (alike : form.AlikeObjects x y) : ofJson? x = ofJson? y := by
  obtain @⟨members, more, alike⟩ := alike
  simp only [ofJson?, fields?, Option.bind_eq_bind, Option.bind_some]
  rw [alike.required_eq, alike.required_eq, alike.required_eq, alike.required_eq] <;> simp [form]

end Settings

namespace Pattern

def form : Form where
  members := [("id", .needed), ("tenant_id", .needed), ("name", .needed),
    ("description", .nullable), ("rule", .inner (Form.AlikeTagged Rule.form)),
    ("end_condition", .inner (Form.AlikeTagged EndCondition.form)), ("starts_on", .needed),
    ("is_active", .needed), ("created_by", .nullable), ("created_at", .needed),
    ("updated_at", .needed)]

theorem ofJson?_toJson (pattern : Pattern) : ofJson? pattern.toJson = some pattern := by
  have description : optional (some (ofOption text pattern.description)) text? =
      some pattern.description := optional_ofOption text?_text text_ne_null
  simp [toJson, ofJson?, fields?, Rule.ofJson?_toJson, EndCondition.ofJson?_toJson, description]

theorem plain {depth : Nat} (pattern : Pattern) : Plain (depth + 3) pattern.toJson := by
  have described : Plain (depth + 2) (ofOption text pattern.description) :=
    .ofOption (fun _ => .text _) _
  have created : Plain (depth + 2) (ofOption ofUuid pattern.createdBy) :=
    .ofOption (fun _ => .text _) _
  apply PlainMembers.object
  case all =>
    exact .cons (.text _) (.cons (.text _) (.cons (.text _) (.cons described
      (.cons pattern.series.rule.plain (.cons pattern.series.ending.plain (.cons (.text _)
        (.cons (.bool _) (.cons created (.cons (.text _) (.cons (.text _) .nil))))))))))
  case distinct => decide

theorem ofJson?_eq {x y : Json} (alike : form.AlikeObjects x y) : ofJson? x = ofJson? y := by
  obtain @⟨members, more, alike⟩ := alike
  have rule : required (lookup members "rule") Rule.ofJson? =
      required (lookup more "rule") Rule.ofJson? :=
    alike.inner_eq ⟨_, by simp [form], fun _ _ => Rule.ofJson?_eq⟩
  have ending : required (lookup members "end_condition") EndCondition.ofJson? =
      required (lookup more "end_condition") EndCondition.ofJson? :=
    alike.inner_eq ⟨_, by simp [form], fun _ _ => EndCondition.ofJson?_eq⟩
  simp only [ofJson?, fields?, Option.bind_eq_bind, Option.bind_some]
  rw [rule, ending, alike.required_eq, alike.required_eq, alike.required_eq, alike.required_eq,
    alike.optional_eq, alike.required_eq, alike.optional_eq, alike.required_eq, alike.required_eq] <;>
    simp [form]

end Pattern

/-- Reading and writing a kind of document lose nothing; `Alike` says which documents of the kind
differ only where the reader does not look. -/
structure Lossless {α : Type} (write : α → Json) (read : Json → Option α)
    (Alike : Json → Json → Prop) : Prop where
  written : ∀ a, read (write a) = some a
  /-- Writing what was read settles a document: doing it again changes nothing. -/
  settled : ∀ json a, read json = some a → (read (write a)).map write = some (write a)
  alike : ∀ x y, Alike x y → read x = read y

theorem Lossless.intro {α : Type} {write : α → Json} {read : Json → Option α}
    {Alike : Json → Json → Prop} (written : ∀ a, read (write a) = some a)
    (alike : ∀ x y, Alike x y → read x = read y) : Lossless write read Alike where
  written
  settled _ a _ := by rw [written, Option.map_some]
  alike

theorem forms_lossless :
    Lossless Rule.toJson Rule.ofJson? (Form.AlikeTagged Rule.form) ∧
    Lossless EndCondition.toJson EndCondition.ofJson? (Form.AlikeTagged EndCondition.form) ∧
    Lossless Subtask.toJson Subtask.ofJson? Subtask.form.AlikeObjects ∧
    Lossless Settings.toJson Settings.ofJson? Settings.form.AlikeObjects ∧
    Lossless Pattern.toJson Pattern.ofJson? Pattern.form.AlikeObjects := by
  refine ⟨?rule, ?ending, ?subtask, ?settings, ?pattern⟩
  case rule => exact .intro Rule.ofJson?_toJson fun _ _ => Rule.ofJson?_eq
  case ending => exact .intro EndCondition.ofJson?_toJson fun _ _ => EndCondition.ofJson?_eq
  case subtask => exact .intro Subtask.ofJson?_toJson fun _ _ => Subtask.ofJson?_eq
  case settings => exact .intro Settings.ofJson?_toJson fun _ _ => Settings.ofJson?_eq
  case pattern => exact .intro Pattern.ofJson?_toJson fun _ _ => Pattern.ofJson?_eq

/-- A kind of document loses nothing as text either: the text of a value is read as that value, so no
two values have the same one. -/
structure TextLossless {α : Type} (write : α → Json) (read : Json → Option α) : Prop where
  written : ∀ a, (ofText? (write a).toText).bind read = some a
  faithful : Function.Injective fun a => (write a).toText

theorem TextLossless.intro {α : Type} {write : α → Json} {read : Json → Option α}
    (plain : ∀ a, Plain 127 (write a)) (written : ∀ a, read (write a) = some a) :
    TextLossless write read := by
  have back (a : α) : (ofText? (write a).toText).bind read = some a := by
    rw [ofText?_toText (plain a), Option.bind_some, written]
  refine ⟨back, fun a b same => ?_⟩
  have alike : some a = some b := by
    rw [← back a, ← back b]
    exact congrArg (fun text => (ofText? text).bind read) same
  exact Option.some.inj alike

theorem forms_text_lossless :
    TextLossless Rule.toJson Rule.ofJson? ∧
    TextLossless EndCondition.toJson EndCondition.ofJson? ∧
    TextLossless Subtask.toJson Subtask.ofJson? ∧
    TextLossless Settings.toJson Settings.ofJson? ∧
    TextLossless Pattern.toJson Pattern.ofJson? := by
  refine ⟨?rule, ?ending, ?subtask, ?settings, ?pattern⟩
  case rule => exact .intro Rule.plain Rule.ofJson?_toJson
  case ending => exact .intro EndCondition.plain EndCondition.ofJson?_toJson
  case subtask => exact .intro Subtask.plain Subtask.ofJson?_toJson
  case settings => exact .intro Settings.plain Settings.ofJson?_toJson
  case pattern => exact .intro Pattern.plain Pattern.ofJson?_toJson

end Rota
