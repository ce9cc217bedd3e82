import MegaraidDashboard.Model.Storcli.States
import MegaraidDashboard.Model.Storcli.Models
import MegaraidDashboard.Soundness.RetentionRuns
import MegaraidDashboard.Soundness.Authentication
import MegaraidDashboard.Model.Services.RebuildMarkers
import MegaraidDashboard.Soundness.FailedAttempts
import MegaraidDashboard.Soundness.Detection
import MegaraidDashboard.Soundness.OutageRecovery
import MegaraidDashboard.Soundness.DriveDetection
import MegaraidDashboard.Soundness.CriticalConditions
import MegaraidDashboard.Model.Services.TelegramMessages
import MegaraidDashboard.Model.Services.TelegramRelevance
import MegaraidDashboard.Soundness.TemperatureHistory
import MegaraidDashboard.Soundness.TemperatureRelevance
import MegaraidDashboard.Model.Services.TelegramNotifier
import MegaraidDashboard.Soundness.ControllerTemperature
import MegaraidDashboard.Soundness.MonitoringStale
import MegaraidDashboard.Model.Services.Notifier
import MegaraidDashboard.Soundness.NotifierSuppression
import MegaraidDashboard.Soundness.NotifierPause
import MegaraidDashboard.Model.Web.ReplacementAudit
import MegaraidDashboard.Soundness.ReplacementAudit
import MegaraidDashboard.Model.Web.ReplaceInsert
import MegaraidDashboard.Soundness.ReplaceInsert
import MegaraidDashboard.Model.Web.WriteRoutes
import MegaraidDashboard.Soundness.MaintenanceGate
import MegaraidDashboard.Model.Storcli.Parser
import MegaraidDashboard.Model.Storcli.Runner
import MegaraidDashboard.Model.Web.WriteHandlers
import MegaraidDashboard.Soundness.WriteAudit
import MegaraidDashboard.Model.Services.TelegramCycle
import MegaraidDashboard.Soundness.TelegramDelivery
import MegaraidDashboard.Soundness.TelegramBackoff
import MegaraidDashboard.Model.Web.RateLimitRuns
import MegaraidDashboard.Soundness.RateLimiter
import MegaraidDashboard.Model.Python.DateTime
import MegaraidDashboard.Model.Services.Events
import MegaraidDashboard.Model.Web.EventsView
import MegaraidDashboard.Soundness.EventsPagination
import MegaraidDashboard.Soundness.EventsLiveView
import MegaraidDashboard.Model.Web.ReplaceOutcome
import MegaraidDashboard.Soundness.ReplaceOutcome
import MegaraidDashboard.Model.Storcli.Prewrite
import MegaraidDashboard.Model.Storcli.Policy
import MegaraidDashboard.Soundness.ForeignSafety
import MegaraidDashboard.Soundness.TelegramStarvation
import MegaraidDashboard.Model.Web.CapabilityGate
import MegaraidDashboard.Soundness.CommandPolicy
import MegaraidDashboard.Soundness.CapabilityGate
import MegaraidDashboard.Model.Scripts.LocateActivity
import MegaraidDashboard.Soundness.LocateActivity
import MegaraidDashboard.Model.Scripts.DeployRelease
import MegaraidDashboard.ToMathlib.StatefulTriples
import MegaraidDashboard.Soundness.DeployRollback
import MegaraidDashboard.Soundness.DeployApply
import MegaraidDashboard.Soundness.DeployHistory
import MegaraidDashboard.Soundness.Quiescence
import MegaraidDashboard.Model.Services.DiskMonitor
import MegaraidDashboard.Soundness.DiskSpaceBand
import MegaraidDashboard.Soundness.RebuildCycles
import MegaraidDashboard.Model.Services.ControllerHealth
import MegaraidDashboard.Soundness.ControllerHealth
import MegaraidDashboard.Model.Web.ConsistencyCheck
import MegaraidDashboard.Soundness.InconsistencyEvents
import MegaraidDashboard.Model.Services.DriveHistory
import MegaraidDashboard.Soundness.DriveHistory
import MegaraidDashboard.Model.Storcli.ForeignConfig
import MegaraidDashboard.Model.Web.ForeignConfigRequests
import MegaraidDashboard.Soundness.ForeignRows
import MegaraidDashboard.Soundness.ForeignConfirmation
import MegaraidDashboard.Model.Storcli.Authorization
import MegaraidDashboard.Soundness.WriteAuthorization
import MegaraidDashboard.Model.Services.Collector
import MegaraidDashboard.Model.Services.CollectorProcess
import MegaraidDashboard.Soundness.CollectedRuns
import MegaraidDashboard.Soundness.CollectorProcess
import MegaraidDashboard.Soundness.DrivePositions
import MegaraidDashboard.Soundness.InventoryOrder
import MegaraidDashboard.Model.Scripts.StorcliRollout
import MegaraidDashboard.Model.Web.Metrics
import MegaraidDashboard.Soundness.Metrics
import MegaraidDashboard.Soundness.StorcliRollout
import MegaraidDashboard.Model.Alerts.Telegram
import MegaraidDashboard.Soundness.TelegramToken
import MegaraidDashboard.Model.Services.ObservationHealth
import MegaraidDashboard.Soundness.ObservationHealth
import MegaraidDashboard.Model.Python.FormCoding
import MegaraidDashboard.Model.Web.EventFilters
import MegaraidDashboard.Soundness.EventFilters
import MegaraidDashboard.Model.Web.DriveCharts
import MegaraidDashboard.Soundness.DriveCharts
import MegaraidDashboard.Model.Services.DriveDetail
import MegaraidDashboard.Soundness.ErrorSparkline
import MegaraidDashboard.Model.Web.DriveNavigation
import MegaraidDashboard.Soundness.DriveNavigation
