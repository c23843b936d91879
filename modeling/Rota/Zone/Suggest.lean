import Rota.Zone.Named
import Rota.Text.Case

/-!
Zones to offer for a name that is none: those among the common ones whose city the name contains or
is part of, in any case, or else the first few.
-/

namespace Rota.Zone

def commonNames : List String :=
  ["UTC", "Asia/Kolkata", "Asia/Dubai", "Asia/Singapore", "Europe/London", "Europe/Berlin",
    "America/New_York", "America/Los_Angeles", "Australia/Sydney"]

def occursIn (part : List Char) : List Char → Bool
  | [] => part.isEmpty
  | c :: rest => part.isPrefixOf (c :: rest) || occursIn part rest

def city (name : String) : List Char :=
  (Text.lower name).toList.reverse.takeWhile (· ≠ '/') |>.reverse

def resembles (name common : String) : Bool :=
  let name := (Text.lower name).toList
  !name.isEmpty && (occursIn name (city common) || occursIn (city common) name)

def suggestions (name : String) : List String :=
  match commonNames.filter (resembles name) with
  | [] => commonNames.take 5
  | similar => similar

end Rota.Zone
