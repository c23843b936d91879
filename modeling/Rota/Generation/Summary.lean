import Rota.Task.Basic

/-!
What a pass did for one tenant: the tasks it made, how many sources needed nothing, and the sources
it failed for.
-/

namespace Rota

structure FailedSource where
  source : Uuid
  title : String
  message : String
  deriving DecidableEq

structure Summary where
  tenant : Uuid
  count : Nat := 0
  tasks : List Task := []
  /-- Sources whose occurrence had its task already. -/
  duplicates : Nat := 0
  notDue : Nat := 0
  exhausted : Nat := 0
  errors : List FailedSource := []
  deriving DecidableEq

namespace Summary

def hasErrors (summary : Summary) : Bool := !summary.errors.isEmpty

end Summary
end Rota
