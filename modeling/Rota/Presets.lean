import Rota.Store.Patterns

/-!
Ready-made patterns for the usual filing dates. Seeding gives a tenant those whose names none of its
patterns has yet, in the order of the catalog; they start on the first day of the year.
-/

namespace Rota

structure Preset where
  name : String
  description : String
  rule : Rule
  deriving DecidableEq

def onDay (day : UInt32) : DaySelection := { dayOfMonth := some day }

def presets : List Preset :=
  [{ name := "Monthly GST Filing"
     description := "GSTR-3B due on the 20th of every month"
     rule := .monthly 1 (onDay 20) },
   { name := "Quarterly GST Filing"
     description := "Quarterly return due on the 18th of the first month of each quarter"
     rule := .quarterly 1 (some 1) (onDay 18) },
   { name := "Annual ITR Filing"
     description := "Income tax return due on July 31st"
     rule := .yearly 1 [7] (onDay 31) },
   { name := "Annual ROC Filing"
     description := "Annual ROC filing due on September 30th"
     rule := .yearly 1 [9] (onDay 30) }]

/-- 1 January of the year of a date, or the date itself where the calendar lacks that day. -/
def startOfYear (date : Date) : Date := (Date.ofYmd? date.year 1 1).getD date

def Preset.draft (preset : Preset) (tenant : Uuid) (createdBy : Option Uuid) (startsOn : Date) :
    PatternDraft :=
  { tenant
    name := preset.name
    description := some preset.description
    series := { rule := preset.rule, ending := .never, startsOn }
    createdBy }

namespace Store

/-- Creates the presets whose names are free, one after the other. When one fails, those before it
stay. -/
def seedFrom (store : Store) (supply : Supply) (tenant : Uuid) (createdBy : Option Uuid)
    (startsOn : Date) : List Preset → Attempt (List Pattern) × Store
  | [] => (.ok [], store)
  | preset :: rest =>
    match store.findPatternNamed tenant preset.name with
    | .error error => (.error error, store)
    | .ok (some _) => store.seedFrom supply tenant createdBy startsOn rest
    | .ok none =>
      match store.createPattern supply (preset.draft tenant createdBy startsOn) with
      | .error error => (.error error, store)
      | .ok (pattern, store) =>
        let (others, store) := store.seedFrom (supply.drop 1) tenant createdBy startsOn rest
        (others.map (pattern :: ·), store)

def seedPresets (store : Store) (supply : Supply) (tenant : Uuid) (createdBy : Option Uuid)
    (today : Date) : Attempt (List Pattern) × Store :=
  store.seedFrom supply tenant createdBy (startOfYear today) presets

end Store
end Rota
