import YouSpinMe.Scheduling
import YouSpinMe.Kube
import YouSpinMe.Pages

namespace YouSpinMe.Views
open Validation Scheduling Kube Pages Text Jiff Crd

def twoDigits (n : Int) : String := (if n < 10 then "0" else "") ++ toString n

section Texts
variable [Format]

def fmtDatetime (t : Timestamp) : String :=
  let inDay := t.nanos % 86400000000000
  fmtDate t ++ " " ++ twoDigits (inDay / 3600000000000) ++ ":" ++
    twoDigits (inDay % 3600000000000 / 60000000000) ++ " UTC"

end Texts

-- "in 12d", "3d ago", "now".
def relative (t now : Timestamp) : String :=
  let d := t.durationSince now
  if d.nanos.natAbs < 60000000000 then "now"
  else if 0 < d.nanos then "in " ++ Duration.humanize d
  else Duration.humanize d ++ " ago"

-- Only http(s) URLs are rendered as links.
def safeLink [UrlCrate] (url : String) : Option String :=
  (UrlCrate.parse url).bind fun parsed =>
    if parsed.scheme = "http" ∨ parsed.scheme = "https" then some parsed.text else none

def stateLabel : State → String
  | .expired => "Expired"
  | .critical => "Critical"
  | .warning => "Due soon"
  | .unknown => "Unknown"
  | .ok => "OK"

structure KeyRow where
  name : String
  displayName : String
  provider : String
  owner : String
  state : State
  deadline : Option Timestamp
  deadlineDate : String
  deadlineRel : String
  deadlineKind : String
  lastRotated : Option Timestamp
  lastRotatedRel : String
  targetsTotal : Nat
  targetsFailed : Nat
  renewUrl : Option String
  valid : Bool
  deriving DecidableEq

def deadlineKindText : Option (Timestamp × DeadlineKind) → String
  | some (_,.expiry) => "expiry"
  | some (_,.maxAge) => "max age"
  | none => ""

def failedTargets (status : ApiKeyStatus) : Nat := (status.targets.filter fun t => t.result = .failed).length

structure TargetRow where
  reference : String
  result : String
  lastWritten : String
  message : String
  deriving DecidableEq

def resultText : Option TargetResult → String
  | some .ok => "ok"
  | some .failed => "failed"
  | none => "never written"

def targetRow (status : ApiKeyStatus) (now : Timestamp) (target : TargetSpec) : TargetRow :=
  let st := status.targets.find? fun s => s.reference = target.reference
  ⟨target.reference,resultText (st.map TargetStatus.result),
    ((st.bind TargetStatus.lastWritten).map fun t => relative t now).getD "",(st.bind TargetStatus.message).getD ""⟩

structure HistoryRow where
  atText : String
  byText : String
  kind : String
  expires : String
  deriving DecidableEq

def historyRow [Format] (entry : HistoryEntry) : HistoryRow :=
  ⟨fmtDatetime entry.atTime,entry.byActor.display,
    match entry.kind with
    | .rotated => "Rotated"
    | .recorded => "Recorded",
    (entry.expiresAt.map fmtDate).getD "—"⟩

structure ConditionRow where
  type : String
  ok : Bool
  reason : String
  message : String
  deriving DecidableEq

def conditionRow (c : Condition) : ConditionRow := ⟨c.type,c.status = "True",c.reason,c.message⟩

def expiresSource : Option ExpirySource → String
  | some .probe => "detected from the provider"
  | some .manual => "entered by hand"
  | some .none | none => ""

def datesDiffer [Format] (probeExpiry manual : Option Timestamp) : Bool :=
  match probeExpiry,manual with
  | some p,some m => fmtDate p != fmtDate m
  | _,_ => false

structure KeyDetail where
  row : KeyRow
  permissions : List String
  notes : String
  consumers : List String
  expiresAt : String
  expiresSource : String
  manualExpiresAt : String
  rotateBy : String
  maxAge : String
  warnBefore : String
  criticalBefore : String
  rotatedBy : String
  lastRotatedDate : String
  probeIdentity : String
  probeExpiry : String
  probeAt : String
  expiryMismatch : Bool
  targets : List TargetRow
  history : List HistoryRow
  conditions : List ConditionRow
  deriving DecidableEq

section Rows
variable [UrlCrate] [Format]

def KeyRow.new (key : ApiKey) (thresholds : Thresholds) (now : Timestamp) : KeyRow :=
  let schedule := Schedule.compute key thresholds
  let deadline := schedule.deadline.map Prod.fst
  { name := key.name
    displayName := key.displayName
    provider := key.spec.provider.asStr
    owner := key.spec.owner.getD ""
    state := schedule.state now
    deadline := deadline
    deadlineDate := (deadline.map fmtDate).getD ""
    deadlineRel := (deadline.map fun d => relative d now).getD "—"
    deadlineKind := deadlineKindText schedule.deadline
    lastRotated := schedule.lastRotated
    lastRotatedRel := (schedule.lastRotated.map fun t => relative t now).getD "never"
    targetsTotal := key.spec.targets.length
    targetsFailed := (key.status.map failedTargets).getD 0
    renewUrl := key.spec.renewUrl.bind safeLink
    valid := (key.condition VALID_CONDITION).all fun c => c.status = "True" }

def KeyDetail.new (key : ApiKey) (thresholds : Thresholds) (now : Timestamp) : KeyDetail :=
  let schedule := Schedule.compute key thresholds
  let status := key.status.getD {}
  let probeExpiry := status.probe.bind ProbeStatus.expiresAt
  { row := .new key thresholds now
    permissions := key.spec.setup.permissions
    notes := key.spec.setup.notes.getD ""
    consumers := key.spec.consumers
    expiresAt := (schedule.expiresAt.map fmtDatetime).getD ""
    expiresSource := Views.expiresSource status.expiresAtSource
    manualExpiresAt := (status.manualExpiresAt.map fmtDate).getD ""
    rotateBy := (schedule.rotateBy.map fmtDatetime).getD ""
    maxAge := key.spec.rotation.maxAge.getD ""
    warnBefore := Duration.humanize schedule.thresholds.warnBefore
    criticalBefore := Duration.humanize schedule.thresholds.criticalBefore
    rotatedBy := (status.rotatedBy.map Actor.display).getD ""
    lastRotatedDate := (schedule.lastRotated.map fmtDatetime).getD ""
    probeIdentity := (status.probe.bind ProbeStatus.identity).getD ""
    probeExpiry := (probeExpiry.map fmtDate).getD ""
    probeAt := (status.probe.map fun p => fmtDatetime p.atTime).getD ""
    expiryMismatch := datesDiffer probeExpiry status.manualExpiresAt
    targets := key.spec.targets.map (targetRow status now)
    history := status.history.map historyRow
    conditions := status.conditions.map conditionRow }

end Rows

end YouSpinMe.Views
