import Rota.Store.Patterns
import Rota.Text.Case

/-!
Patterns by what a person types for them: an identifier, a name, or the first characters of an
identifier. An identifier is taken as it is, whether or not a pattern has it. A name counts before
the beginning of an identifier, and must match exactly.
-/

namespace Rota.Store

def patternsBeginning (patterns : List Pattern) (text : String) : List Pattern :=
  let start := Text.lower text
  patterns.filter fun pattern => start.toList.isPrefixOf pattern.id.toText.toList

def resolvePattern (store : Store) (tenant : Uuid) (reference : String) : Attempt Uuid := do
  if let some id := Uuid.ofText? reference then return id
  if let some pattern ← store.findPatternNamed tenant reference then return pattern.id
  require (2 ≤ reference.utf8ByteSize) (.invalidInput .shortReference)
  match patternsBeginning (← store.patterns? tenant) reference with
  | [] => .error (.notFound (.reference reference))
  | [pattern] => return pattern.id
  | several =>
    .error (.invalidInput (.ambiguous reference
      (several.map fun pattern => (pattern.id, pattern.name))))

end Rota.Store
