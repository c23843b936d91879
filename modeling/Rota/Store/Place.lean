import Rota.Config.Basic

/-!
Where a store is kept: nowhere, or in a file that a path leads to. Empty parts of a path and single
points stay where they are, and `..` leads back. The folder that the path names is made when it is
not there, which cannot be done below a file. The file's own name is what the path says, or what it
says as a URI; its folder has to be there by then.
-/

namespace Rota

inductive StorePlace where
  /-- Nowhere: it is empty at the start of each run. -/
  | memory
  | file (path : String)
  | configFile
  deriving DecidableEq

namespace StorePlace

def parts (path : String) : List String :=
  ((path.toList.splitOn '/').map String.ofList).filter fun part => part ≠ "" ∧ part ≠ "."

/-- Where parts lead from the folder that a run is in: the names below it, the last one first. None
outside of it. -/
def position (parts : List String) : Option (List String) :=
  parts.foldl (fun found part => do
    match part, ← found with
    | "..", [] => none
    | "..", _ :: names => return names
    | name, names => return name :: names) (some [])

def reaches (parts : List String) (name : String) : Bool := position parts = some [name]

def longestName : Nat := 255

def journalMark : String := "-journal"

/-- The number of bytes that a whole path may have, with a slash before each part; with the
journal's mark there are at most 512. -/
def longestPath : Nat := 504

def size (parts : List String) : Nat :=
  parts.foldl (fun sum name => sum + name.utf8ByteSize + 1) 0

def isBarred (folder : List String) (configFile : Option String) : Bool :=
  folder.any (fun name => longestName < name.utf8ByteSize || name.contains '\x00') ||
    configFile.any fun name =>
      (List.range folder.length).any fun count => reaches (folder.take count) name

/-- A folder is there when it lies on the way to the one that was made, or outside of where a run
is. -/
def isThere (folder made : List String) : Bool :=
  match position folder, position made with
  | some names, some made => names.isSuffixOf made
  | _, _ => true

def ofName (name : String) (made : List String) (configFile : Option String) :
    Except Error StorePlace :=
  let parts := parts name
  let folder := parts.dropLast
  let last := parts.getLastD ".."
  let isRelative := !name.startsWith "/"
  if longestName < last.utf8ByteSize ∨ longestPath < size parts ∨ last = ".."
      ∨ (isRelative && (!isThere folder made || configFile.any (reaches folder))) then
    .error (.database .cannotOpen)
  else if isRelative && reaches parts Config.fileName then .ok .configFile
  else .ok (.file name)

/-- The place that a path names; `hasFile` tells whether there is a configuration file. -/
def ofPath (path : String) (hasFile : Bool) : Except Error StorePlace := do
  if path ∈ ["", ":memory:", "sqlite::memory:"] then return .memory
  let configFile := if hasFile then some Config.fileName else none
  let folder := (parts path).dropLast
  if isBarred folder (if path.startsWith "/" then none else configFile) then throw .io
  if path.contains '\x00' then throw (.database .unnameable)
  match FileUri.ofText? path with
  | none => ofName path folder configFile
  | some uri =>
    let uri ← uri.mapError fun fault => .database (.uri fault)
    if uri.isFleeting then return .memory
    let place ← ofName uri.name folder configFile
    if uri.access = .createMissing ∨ (place = .configFile ∧ hasFile) then return place
    else throw (.database .cannotOpen)

/-- Why a file cannot be made a store though it can be opened: it has other contents already, or
there can be no journal beside it. -/
def obstacle? (configText : Option String) : StorePlace → Option StorageFault
  | .memory => none
  | .file path =>
    let last := (parts path).getLastD ""
    if longestName < (last ++ journalMark).utf8ByteSize then some .cannotOpen else none
  | .configFile => if configText.any (· ≠ "") then some .noStore else none

end StorePlace
end Rota
