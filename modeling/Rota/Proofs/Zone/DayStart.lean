import Rota.Proofs.Calendar.DateText
import Rota.Proofs.Zone.Coded

/-!
Where a calendar day is taken to start. When local midnight comes up, that is the first instant that
shows it. When the clock skips it, midnight UTC stands in, which a clock behind UTC shows on the day
before.
-/

namespace Rota.Zone

variable {zone : Zone} {date : Date}

end Rota.Zone
