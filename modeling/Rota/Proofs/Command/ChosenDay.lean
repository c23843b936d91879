import Rota.Proofs.Command.Effects
import Rota.Proofs.Zone.DayStart
import Rota.Proofs.Zone.Named

/-!
Generating for a chosen day. The pass runs as of the instant at which that day starts, and takes for
today what the clock shows there. Where the clock skips midnight this can be the day before.
-/

namespace Rota

namespace Store

variable (store : Store) (supply : Supply) (horizon : Horizon) (tenant : Uuid) (today : Date)
  (now : Instant)

variable {store supply horizon tenant today now}

end Store

namespace Run

variable {place : Workplace} {date today : Date} {tenant : Uuid}

variable {zone : Zone}

end Run
end Rota
