import Rota.Amount.Shortest
import Rota.Generation.Form
import Rota.Store.Mishap
import Rota.Command.Form
import Rota.Main
import Rota.Proofs.Pattern.NextOccurrence
import Rota.Proofs.Pattern.Families
import Rota.Proofs.Generation.Passes
import Rota.Proofs.Generation.Faults
import Rota.Proofs.Generation.Window
import Rota.Proofs.Generation.RecurringPasses
import Rota.Proofs.Generation.LongIntervals
import Rota.Proofs.Generation.BeforeDue
import Rota.Proofs.Generation.Isolation
import Rota.Proofs.Generation.Served
import Rota.Proofs.Command.Failures
import Rota.Proofs.Command.ChosenDay
import Rota.Proofs.Schedule.Reconciliation
import Rota.Proofs.Schedule.DailyFires
import Rota.Proofs.Schedule.NextFires
import Rota.Proofs.Json.Forms
import Rota.Proofs.Pattern.Upcoming
import Rota.Proofs.Task.DueDates
import Rota.Proofs.Store.SavedSettings
import Rota.Proofs.Generation.Overview
import Rota.Proofs.Calendar.DaysOfMonth
import Rota.Proofs.Store.Reseeding
import Rota.Proofs.Store.References
