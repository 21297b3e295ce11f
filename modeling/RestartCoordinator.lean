import RestartCoordinator.Config.Json
import RestartCoordinator.Json.Reader
import RestartCoordinator.Lifecycle.Watch
import RestartCoordinator.Main
import RestartCoordinator.Proofs.DispatchLoop.Journeys
import RestartCoordinator.Proofs.DispatchLoop.Stops
import RestartCoordinator.Proofs.DispatchLoop.Traffic
import RestartCoordinator.Proofs.DispatchRig.Runs
import RestartCoordinator.Proofs.Pipeline.Finality
import RestartCoordinator.Proofs.Pipeline.Windows
import RestartCoordinator.Proofs.TriggerQueue.Receives
import RestartCoordinator.Request.Json
import RestartCoordinator.Simulation.DispatchRig
import RestartCoordinator.Proofs.PendingSlot.Waits
import RestartCoordinator.Proofs.DispatchLoop.Courses
import RestartCoordinator.Proofs.Request.Bracketings
import RestartCoordinator.Proofs.Debouncer.Duplicates
import RestartCoordinator.Proofs.DispatchLoop.Lives
import RestartCoordinator.Proofs.Lifecycle.Histories
import RestartCoordinator.Proofs.Retry.Recoveries
import RestartCoordinator.Proofs.Reason.Spellings
import RestartCoordinator.Proofs.Pipeline.Observations
import RestartCoordinator.Proofs.Reason.Lines
import RestartCoordinator.Proofs.Lifecycle.Audiences
import RestartCoordinator.Proofs.Event.Hearings
import RestartCoordinator.Proofs.PendingSlot.Accounts
import RestartCoordinator.Proofs.Coordinator.Shutdowns
