import TaskService.Service.BypassLimit
import TaskService.Service.CancelBookkeeping
import TaskService.Service.ConcurrencyLimit
import TaskService.Service.CooperativeSignal
import TaskService.Service.JustifiedAttempts
import TaskService.Service.OwnerReleaseGuard
import TaskService.Service.ProgressReporter
import TaskService.Service.QuarantineControl
import TaskService.Service.RecoveryRun
import TaskService.Service.ReleaseRetries
import TaskService.Service.SchedulerWake
import TaskService.Service.ShutdownResults
import TaskService.Service.SingleFlight
import TaskService.Store.Checkpoints
import TaskService.Store.FreshAttempts
import TaskService.Store.MemoryAdmission
import TaskService.Store.OperationSlot
import TaskService.Store.QuerySql
