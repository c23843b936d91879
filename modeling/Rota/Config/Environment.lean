import Rota.Amount.Text
import Rota.Checked
import Rota.Config.Setting
import Rota.Text.Blank
import Rota.Toml.Text

/-!
Settings from environment variables. The text of a variable is read as a value where it is one as a
whole: a truth value, a string in quotes, a list, a table or a number. Any other text stands for
itself: without the white space around it, or just as it is when it only begins like a value. What
comes before the first escape of a string is cut to as many bytes as it has characters; a cut inside
a character is a fault.
-/

namespace Rota.Environment

open Text

def isSpace (c : Char) : Bool :=
  c == ' ' || c == '\t' || c == '\n' || c == '\r' || c == '\x0c'

def skipSpace (cs : List Char) : List Char := cs.dropWhile isSpace

def isSeparator (c : Char) : Bool :=
  c == ',' || c == '[' || c == ']' || c == '\x7b' || c == '\x7d'

def isNameChar (c : Char) : Bool := c.isAlphanum || c == '_' || c == '-'

abbrev CheckedReader (α : Type) := List Char → OptionT Checked (α × List Char)

def orRefuse {α : Type} (found : Option α) : OptionT Checked α := OptionT.mk (pure found)

def readQuoted : List Char → Reader (List Char)
  | _, [] => none
  | taken, '"' :: rest => some (taken.reverse, rest)
  | taken, '\\' :: c :: rest => readQuoted (c :: '\\' :: taken) rest
  | taken, c :: rest => readQuoted (c :: taken) rest

def cutTo : Nat → List Char → Checked (List Char)
  | 0, _ | _, [] => .ok []
  | n, c :: rest =>
    if c.utf8Size ≤ n then (cutTo (n - c.utf8Size) rest).map (c :: ·) else .error .cut

def unescape : Nat → List Char → Option (List Char)
  | _, [] => some []
  | 0, _ => none
  | fuel + 1, '\\' :: rest => do
    let (c, rest) ← Toml.readEscape rest
    return c :: (← unescape fuel rest)
  | fuel + 1, c :: rest =>
    if Toml.isPrintable c then (unescape fuel rest).map (c :: ·) else none

def readString : CheckedReader String := fun cs => do
  let (inner, rest) ← orRefuse (readQuoted [] cs)
  let before ← orRefuse (unescape inner.length (inner.takeWhile (· ≠ '\\')))
  if before.length = inner.length then return (String.ofList inner, rest)
  else
    let kept ← (cutTo before.length before : Checked (List Char))
    let after ← orRefuse (unescape inner.length (inner.drop before.length))
    return (String.ofList (kept ++ after), rest)

def whole? (cs : List Char) : Option Setting :=
  let number (cs : List Char) (least greatest sign : Int) : Option Setting :=
    if cs.isEmpty || !cs.all isDigit then none
    else
      let n := sign * digitsValue cs
      if least ≤ n ∧ n ≤ greatest then some (.number n) else none
  match cs with
  | '-' :: cs => number cs (-Nat.pow 2 63) 0 (-1)
  | '+' :: cs => number cs 0 (Nat.pow 2 64 - 1) 1
  | cs => number cs 0 (Nat.pow 2 64 - 1) 1

def ofWord (cs : List Char) : Setting :=
  let word := String.ofList cs
  if cs.contains '.' && (Amount.ofText? word).isSome then .other
  else (whole? cs).getD (.text word)

def readWord : Reader Setting := fun cs =>
  let word := cs.takeWhile fun c => !isSeparator c
  some (ofWord (trimChars word), cs.drop word.length)

def keyword (word : String) (cs : List Char) : Option (List Char) :=
  if word.toList.isPrefixOf cs then some (cs.drop word.length) else none

def readName : CheckedReader Unit
  | '"' :: rest => return ((), (← readString rest).2)
  | cs =>
    match cs.takeWhile isNameChar with
    | [] => failure
    | name => return ((), cs.drop name.length)

mutual

def readValue : Nat → CheckedReader Setting
  | 0, _ => failure
  | fuel + 1, cs => do
    let cs := skipSpace cs
    let (setting, rest) ← match keyword "true" cs, keyword "false" cs with
      | some rest, _ => pure (Setting.other, rest)
      | none, some rest => pure (Setting.other, rest)
      | none, none =>
        match cs with
        | '\x7b' :: rest => do pure (Setting.other, (← readMembers fuel rest).2)
        | '[' :: rest => do
          let (items, rest) ← readItems fuel rest
          pure (Setting.list items, rest)
        | '"' :: rest => do
          let (text, rest) ← readString rest
          pure (Setting.text text, rest)
        | '\'' :: c :: '\'' :: rest => pure (Setting.text c.toString, rest)
        | '\'' :: _ => failure
        | cs => orRefuse (readWord cs)
    return (setting, skipSpace rest)

def readItems : Nat → CheckedReader (List (Option Int))
  | 0, _ => failure
  | _ + 1, ']' :: rest => return ([], rest)
  | fuel + 1, cs => do
    let (item, cs) ← readValue fuel cs
    match cs with
    | ',' :: rest =>
      let (items, rest) ← readItems fuel rest
      return (item.number? :: items, rest)
    | ']' :: rest => return ([item.number?], rest)
    | _ => failure

def readMembers : Nat → CheckedReader Unit
  | 0, _ => failure
  | _ + 1, '\x7d' :: rest => return ((), rest)
  | fuel + 1, cs => do
    let (_, cs) ← readName (skipSpace cs)
    let (_, cs) ← orRefuse (literal '=' (skipSpace cs))
    let (_, cs) ← readValue fuel cs
    match cs with
    | ',' :: rest => readMembers fuel rest
    | '\x7d' :: rest => return ((), rest)
    | _ => failure

end

def setting (text : String) : Checked Setting := do
  match ← (readValue (2 * text.length + 2) text.toList).run with
  | some (setting, []) => return setting
  | _ => return .text text

/-- The key that a variable's name gives after `start`, in lower case and without white space around
it; none when the name begins otherwise. Points in it lead into tables, which no setting has. -/
def key? (start name : String) : Option (List String) :=
  let name := (trimChars name.toList).map Char.toLower
  if start.toList.isPrefixOf name then
    let parts := ((trimChars (name.drop start.length)).splitOn '.').map String.ofList
    if parts.contains "" then none else some parts
  else none

def settings (start : String) (environment : List (String × String)) :
    Checked (List (List String × Setting)) :=
  (environment.filterMap fun (name, text) => (key? start name).map fun key => (key, text)).mapM
    fun (key, text) => do return (key, ← setting text)

def setting? (given : List (List String × Setting)) (key : String) : Option Setting :=
  (given.reverse.find? fun entry => entry.1.head? = some key).map fun
    | ([_], setting) => setting
    | _ => .other

end Rota.Environment
