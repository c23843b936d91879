import Rota.Zone.Tables.Africa
import Rota.Zone.Tables.America
import Rota.Zone.Tables.Asia
import Rota.Zone.Tables.Europe
import Rota.Zone.Tables.Ocean
import Rota.Zone.Tables.Fixed
import Rota.Zone.Tables.OtherNames

/-!
Zones by name. Names are those of the IANA database and are told apart by case; white space around
one is dropped. A further name of a zone is as good as the first, and the zone keeps it.
-/

namespace Rota.Zone

def tables : List CodedZone :=
  Tables.africa ++ Tables.america ++ Tables.asia ++ Tables.europe ++ Tables.ocean ++ Tables.fixed

def tableName (name : String) : String :=
  match Tables.otherNames.find? fun entry => entry.1 == name with
  | some entry => entry.2
  | none => name

def named? (name : String) : Option Zone :=
  let name := Text.trim name
  let table := tableName name
  (tables.find? fun coded => coded.name == table).map fun coded => coded.toZone name

structure Unknown where
  name : String
  deriving DecidableEq, Repr

def parse (name : String) : Except Unknown Zone :=
  match named? name with
  | some zone => .ok zone
  | none => .error ⟨name⟩

end Rota.Zone
