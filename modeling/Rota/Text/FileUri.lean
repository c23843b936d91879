import Rota.Text.Reader

/-!
Names of files written as URIs: `file:`, then two slashes and a host that can only be this one, if
the host is given at all, then the name, and after a question mark options with `&` between. What
follows a `#` does not count. In names and options a percent sign and two hexadecimal digits stand
for a character; the character zero ends its part.
-/

namespace Rota

inductive FileAccess where
  | readOnly
  | existing
  | createMissing
  | memory
  deriving DecidableEq, Repr

namespace FileAccess

def ofName? : String → Option FileAccess
  | "ro" => some readOnly
  | "rw" => some existing
  | "rwc" => some createMissing
  | "memory" => some memory
  | _ => none

def rank : FileAccess → Nat
  | readOnly => 0
  | existing => 1
  | createMissing => 2
  | memory => 3

/-- Whether an option may change one access to another: to less, or to memory. -/
def allows (access other : FileAccess) : Bool := other = memory || other.rank ≤ access.rank

end FileAccess

inductive UriFault where
  | host (name : String)
  | noAccess (name : String)
  | moreAccess (name : String)
  | noCache (name : String)
  | noDriver (name : String)
  deriving DecidableEq, Repr

def UriFault.text : UriFault → String
  | host name => "(code: 1) invalid uri authority: " ++ name
  | noAccess name => "(code: 1) no such access mode: " ++ name
  | moreAccess name => "(code: 3) access mode not allowed: " ++ name
  | noCache name => "(code: 1) no such cache mode: " ++ name
  | noDriver name => "(code: 1) no such vfs: " ++ name

structure FileUri where
  name : String
  access : FileAccess := .createMissing
  driver : String := "unix"
  deriving DecidableEq, Repr

namespace FileUri

def drivers : List String := ["unix", "unix-none", "unix-dotfile", "unix-excl", "memdb"]

open Text in
def decode : List Char → List Char
  | '%' :: a :: b :: rest =>
    match hexValue? a, hexValue? b with
    | some high, some low =>
      if high = 0 ∧ low = 0 then [] else Char.ofNat (high * 16 + low) :: decode rest
    | _, _ => '%' :: decode (a :: b :: rest)
  | c :: rest => c :: decode rest
  | [] => []

def decoded (cs : List Char) : String := String.ofList (decode cs)

def option (cs : List Char) : String × String :=
  (decoded (cs.takeWhile (· ≠ '=')), decoded ((cs.dropWhile (· ≠ '=')).drop 1))

def parts (cs : List Char) : String × List (String × String) :=
  let cs := cs.takeWhile (· ≠ '#')
  let options := ((cs.dropWhile (· ≠ '?')).drop 1).splitOn '&'
  (decoded (cs.takeWhile (· ≠ '?')), (options.map option).filter fun entry => entry.1 ≠ "")

def withoutHost (cs : List Char) : Except UriFault (List Char) :=
  match cs with
  | '/' :: '/' :: rest =>
    let host := String.ofList (rest.takeWhile (· ≠ '/'))
    if host = "" ∨ host = "localhost" then .ok (rest.dropWhile (· ≠ '/')) else .error (.host host)
  | cs => .ok cs

def apply (uri : FileUri) : String × String → Except UriFault FileUri
  | ("vfs", name) => .ok { uri with driver := name }
  | ("cache", name) =>
    if name = "shared" ∨ name = "private" then .ok uri else .error (.noCache name)
  | ("mode", name) =>
    match FileAccess.ofName? name with
    | none => .error (.noAccess name)
    | some access =>
      if uri.access.allows access then .ok { uri with access } else .error (.moreAccess name)
  | _ => .ok uri

/-- Reads a URI; none when the text is not one. The driver is looked at last. -/
def ofText? (text : String) : Option (Except UriFault FileUri) :=
  match text.toList with
  | 'f' :: 'i' :: 'l' :: 'e' :: ':' :: cs => some do
    let (name, options) := parts (← withoutHost cs)
    let uri ← options.foldlM apply { name }
    if uri.driver ∈ drivers then return uri else throw (.noDriver uri.driver)
  | _ => none

def isFleeting (uri : FileUri) : Bool :=
  uri.name = "" || uri.name = ":memory:" || uri.access = .memory || uri.driver = "memdb"

end FileUri
end Rota
