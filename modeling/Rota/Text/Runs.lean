/-!
Sets of characters, given by the first and the last of each run of them.
-/

namespace Rota.Text

def inRuns (runs : List (Nat × Nat)) (c : Char) : Bool :=
  runs.any fun (first, last) => first ≤ c.toNat && c.toNat ≤ last

end Rota.Text
