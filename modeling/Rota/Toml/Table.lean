import Rota.Config.Setting

/-!
The tables of a TOML document. A table is stated by a header of its own, implied by the header of a
table within it, or made by dotted keys; each key is given once, and a table that was stated takes
no more keys from outside.
-/

namespace Rota.Toml

inductive Origin where
  | stated | implied | dotted
  deriving DecidableEq, Repr

inductive Node where
  | value (setting : Setting)
  | table (origin : Origin) (members : List (String × Node))
  | tables (items : List (List (String × Node)))

abbrev Members := List (String × Node)

namespace Members

def node? (members : Members) (key : String) : Option Node :=
  (List.find? (fun entry => entry.1 == key) members).map Prod.snd

def replace (members : Members) (key : String) (node : Node) : Members :=
  members.map fun entry => if entry.1 == key then (key, node) else entry

def inLast (change : Members → Option Members) (items : List Members) : Option (List Members) :=
  match items.reverse with
  | [] => none
  | last :: others => (change last).map fun last => (last :: others).reverse

/-- A value under a dotted key: the tables on the way to it are made by dotted keys. -/
def insert (members : Members) (setting : Setting) : List String → Option Members
  | [] => none
  | [key] =>
    match members.node? key with
    | none => some (List.append members [(key, .value setting)])
    | some _ => none
  | key :: rest =>
    match members.node? key with
    | none =>
      (insert [] setting rest).map fun inner => List.append members [(key, .table .dotted inner)]
    | some (.value _) => none
    | some (.table origin inner) =>
      if origin = .dotted ∨ (origin = .implied ∧ 2 ≤ rest.length) then
        (insert inner setting rest).map fun inner => members.replace key (.table origin inner)
      else none
    | some (.tables items) =>
      if 2 ≤ rest.length then
        (inLast (fun inner => insert inner setting rest) items).map fun items =>
          members.replace key (.tables items)
      else none

/-- Changes the table that a header's keys lead to; of several tables under one key the last. -/
def within (change : Members → Option Members) (members : Members) : List String → Option Members
  | [] => change members
  | key :: rest =>
    match members.node? key with
    | none =>
      (within change [] rest).map fun inner => List.append members [(key, .table .implied inner)]
    | some (.value _) => none
    | some (.table origin inner) =>
      (within change inner rest).map fun inner => members.replace key (.table origin inner)
    | some (.tables items) =>
      (inLast (fun inner => within change inner rest) items).map fun items =>
        members.replace key (.tables items)

/-- States a table, which at most its own tables may have implied before. -/
def state (key : String) (members : Members) : Option Members :=
  match members.node? key with
  | none => some (List.append members [(key, .table .stated [])])
  | some (.table .implied inner) => some (members.replace key (.table .stated inner))
  | some _ => none

def stateAnother (key : String) (members : Members) : Option Members :=
  match members.node? key with
  | none => some (List.append members [(key, .tables [[]])])
  | some (.tables items) => some (members.replace key (.tables (items ++ [[]])))
  | some _ => none

def setting? (members : Members) (key : String) : Option Setting :=
  (members.node? key).map fun
    | .value setting => setting
    | _ => .other

end Members
end Rota.Toml
