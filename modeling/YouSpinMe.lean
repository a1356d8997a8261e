import YouSpinMe.RequestProgram
import YouSpinMe.SharedRun
import YouSpinMe.Text
import YouSpinMe.Jiff
import YouSpinMe.Duration
import YouSpinMe.Crd
import YouSpinMe.Validation
import YouSpinMe.Identity
import YouSpinMe.Effects
import YouSpinMe.Rotation
import YouSpinMe.RotationTraces
import YouSpinMe.RotationOutcome
import YouSpinMe.Kube
import YouSpinMe.KubeStatus
import YouSpinMe.RotationHistory
import YouSpinMe.RotationRaces
import YouSpinMe.OpenBaoWriter
import YouSpinMe.OpenBaoStore
import YouSpinMe.Glob
import YouSpinMe.AllowedPath
import YouSpinMe.AuditTrail
import YouSpinMe.Http
import YouSpinMe.Auth
import YouSpinMe.Pages
import YouSpinMe.Web
import YouSpinMe.RequestGuards
import YouSpinMe.Admission
import YouSpinMe.StepUp
import YouSpinMe.RejectionReports
import YouSpinMe.Scheduling
import YouSpinMe.Deadlines
import YouSpinMe.WarningPhase
import YouSpinMe.PromQl
import YouSpinMe.Metrics
import YouSpinMe.Alerts
import YouSpinMe.Views
import YouSpinMe.TargetTable
import YouSpinMe.TargetViews
import YouSpinMe.WriteProtocol
import YouSpinMe.MutexRun
import YouSpinMe.TokenCache
import YouSpinMe.ManualExpiry
import YouSpinMe.HistoryOrder
import YouSpinMe.BlindRun
import YouSpinMe.SubmittedKey
import YouSpinMe.GlobLanguage
import YouSpinMe.TargetLocations
import YouSpinMe.LastSubmission
import YouSpinMe.ValidCondition
import YouSpinMe.ReturnAddress
import YouSpinMe.CallbackTraces
import YouSpinMe.SessionTimes
import YouSpinMe.DurationGrammar
import YouSpinMe.ExpiryMismatch
import YouSpinMe.FormPairs
import YouSpinMe.PageAddress
import YouSpinMe.Refusals
import YouSpinMe.LoginReturn
import YouSpinMe.HumanizedDurations
import YouSpinMe.TokenComparison
import YouSpinMe.Comparators
import YouSpinMe.KeysTable
import YouSpinMe.ErrorEcho
import YouSpinMe.KeyedList
import YouSpinMe.LayeredRun
import YouSpinMe.Repository
import YouSpinMe.KubeRepository
import YouSpinMe.Attribution
import YouSpinMe.Bookkeeping
import YouSpinMe.StoreRefinement
import YouSpinMe.Delivery
import YouSpinMe.FullStack
import YouSpinMe.FieldCodec
import YouSpinMe.ResourceJson
import YouSpinMe.StoredStatus
import YouSpinMe.MergePatch
import YouSpinMe.CookieJson
import YouSpinMe.StructuralSchema
import YouSpinMe.CrdSchema
import YouSpinMe.Tally
import YouSpinMe.RouterParts
import YouSpinMe.Counters
import YouSpinMe.Stores
import YouSpinMe.Demo
import YouSpinMe.AdmittedSpec
import YouSpinMe.ControllerLoop
