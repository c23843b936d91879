import Rota.Text.Reader

/-!
The words of a TOML document: white space, comments, line ends, strings and keys.
-/

namespace Rota.Toml

open Text

def isSpace (c : Char) : Bool := c == ' ' || c == '\t'

def skipSpace (cs : List Char) : List Char := cs.dropWhile isSpace

def isPrintable (c : Char) : Bool := c == '\t' || (0x20 ≤ c.toNat && c.toNat ≠ 0x7F)

def skipComment : List Char → List Char
  | '#' :: rest => rest.dropWhile isPrintable
  | cs => cs

def readLineEnd : Reader Unit
  | '\n' :: rest => some ((), rest)
  | '\r' :: '\n' :: rest => some ((), rest)
  | _ => none

def skipFiller : Nat → List Char → List Char
  | 0, cs => cs
  | fuel + 1, cs =>
    let cs := skipComment (skipSpace cs)
    match readLineEnd cs with
    | some (_, rest) => skipFiller fuel rest
    | none => cs

def readCodePoint (count : Nat) : Reader Char := fun cs => do
  let digits := cs.take count
  let n ← hexNumber? digits
  if digits.length = count ∧ n.isValidChar then some (Char.ofNat n, cs.drop count) else none

def readEscape : Reader Char
  | 'b' :: rest => some ('\x08', rest)
  | 't' :: rest => some ('\t', rest)
  | 'n' :: rest => some ('\n', rest)
  | 'f' :: rest => some ('\x0c', rest)
  | 'r' :: rest => some ('\r', rest)
  | '"' :: rest => some ('"', rest)
  | '\\' :: rest => some ('\\', rest)
  | 'u' :: rest => readCodePoint 4 rest
  | 'U' :: rest => readCodePoint 8 rest
  | _ => none

def readBasic : Nat → List Char → Reader String
  | fuel + 1, taken, c :: rest =>
    if c = '"' then some (String.ofList taken.reverse, rest)
    else if c = '\\' then do
      let (c, rest) ← readEscape rest
      readBasic fuel (c :: taken) rest
    else if isPrintable c then readBasic fuel (c :: taken) rest
    else none
  | _, _, _ => none

def readLiteral : Reader String := fun cs =>
  let inner := cs.takeWhile fun c => isPrintable c && c != '\''
  match cs.drop inner.length with
  | '\'' :: rest => some (String.ofList inner, rest)
  | _ => none

def skipBlank : Nat → List Char → List Char
  | 0, cs => cs
  | fuel + 1, cs =>
    let cs := skipSpace cs
    match readLineEnd cs with
    | some (_, rest) => skipBlank fuel rest
    | none => cs

/-- The rest of a string between three quotes. Up to two quotes may stand inside it and at its end;
a line end is one character. With double quotes there are escapes, and a backslash at the end of a
line drops all white space up to the next visible character. -/
def readBlock (quote : Char) : Nat → List Char → Reader String
  | 0, _, _ => none
  | fuel + 1, taken, cs =>
    match readLineEnd cs with
    | some (_, rest) => readBlock quote fuel ('\n' :: taken) rest
    | none =>
      let quotes := min (cs.takeWhile (· == quote)).length 5
      if 3 ≤ quotes then
        some (String.ofList (taken.reverse ++ List.replicate (quotes - 3) quote), cs.drop quotes)
      else
        match cs with
        | [] => none
        | c :: rest =>
          if c = '\\' ∧ quote = '"' then
            match readLineEnd (skipSpace rest) with
            | some (_, rest) => readBlock quote fuel taken (skipBlank (rest.length + 1) rest)
            | none => do
              let (c, rest) ← readEscape rest
              readBlock quote fuel (c :: taken) rest
          else if isPrintable c then readBlock quote fuel (c :: taken) rest
          else none

def dropFirstLineEnd (cs : List Char) : List Char :=
  match readLineEnd cs with
  | some (_, rest) => rest
  | none => cs

def readString : Reader String
  | '"' :: '"' :: '"' :: rest => readBlock '"' (rest.length + 1) [] (dropFirstLineEnd rest)
  | '\'' :: '\'' :: '\'' :: rest => readBlock '\'' (rest.length + 1) [] (dropFirstLineEnd rest)
  | '"' :: rest => readBasic (rest.length + 1) [] rest
  | '\'' :: rest => readLiteral rest
  | _ => none

def isKeyChar (c : Char) : Bool := c.isAlphanum || c == '_' || c == '-'

def readSimpleKey : Reader String
  | '"' :: rest => readBasic (rest.length + 1) [] rest
  | '\'' :: rest => readLiteral rest
  | cs =>
    match cs.takeWhile isKeyChar with
    | [] => none
    | name => some (String.ofList name, cs.drop name.length)

def readMoreKeys : Nat → Reader (List String)
  | 0, cs => some ([], cs)
  | fuel + 1, cs =>
    match skipSpace cs with
    | '.' :: rest => do
      let (key, rest) ← readSimpleKey (skipSpace rest)
      let (keys, rest) ← readMoreKeys fuel rest
      return (key :: keys, rest)
    | _ => some ([], cs)

def deepest : Nat := 79

def readKey : Reader (List String) := fun cs => do
  let (key, rest) ← readSimpleKey cs
  let (keys, rest) ← readMoreKeys cs.length rest
  if keys.length < deepest then return (key :: keys, rest) else none

end Rota.Toml
