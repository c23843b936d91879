import Rota.Toml.Value

/-!
TOML documents: lines with a key and its value, headers of tables, and comments. A document is read
as a whole or not at all.
-/

namespace Rota.Toml

open Text

structure Document where
  members : Members := []
  current : List String := []

namespace Document

def readHeader (document : Document) (another : Bool) : Reader Document := fun cs => do
  let (path, cs) ← readKey (skipSpace cs)
  let (_, cs) ← literal ']' (skipSpace cs)
  let ((), cs) ← if another then literal ']' cs else some ((), cs)
  let last ← path.getLast?
  let members ← document.members.within
    (if another then Members.stateAnother last else Members.state last) path.dropLast
  return ({ members, current := path }, cs)

def readMember (document : Document) : Reader Document := fun cs => do
  let (key, cs) ← readKey cs
  let (_, cs) ← literal '=' (skipSpace cs)
  let cs := skipSpace cs
  let (setting, cs) ← readValue (2 * cs.length + 2) deepest cs
  let members ← document.members.within (fun inner => inner.insert setting key) document.current
  return ({ document with members }, cs)

def readContent (document : Document) : Reader Document := fun cs =>
  match cs with
  | [] => some (document, [])
  | '#' :: _ => some (document, cs)
  | '[' :: '[' :: rest => document.readHeader true rest
  | '[' :: rest => document.readHeader false rest
  | _ => if (readLineEnd cs).isSome then some (document, cs) else document.readMember cs

def readLines : Nat → Document → List Char → Option Document
  | 0, _, _ => none
  | fuel + 1, document, cs => do
    let (document, cs) ← document.readContent (skipSpace cs)
    match skipComment (skipSpace cs) with
    | [] => return document
    | cs =>
      let (_, cs) ← readLineEnd cs
      readLines fuel document cs

end Document

/-- The members of a whole document. A byte order mark at its start does not count. -/
def ofText? (text : String) : Option Members := do
  let cs := match text.toList with
    | '\uFEFF' :: rest => rest
    | cs => cs
  return (← Document.readLines (cs.length + 1) {} cs).members

end Rota.Toml
