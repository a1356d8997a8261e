import YouSpinMe.Effects
import YouSpinMe.Validation

namespace YouSpinMe.Rotation
open RequestProgram Effects Validation Text Jiff Crd

def expiryOf (manualExpiresAt : Option Timestamp) (probe : Option ProbeStatus) :
    Option Timestamp × ExpirySource :=
  match probe.bind ProbeStatus.expiresAt,manualExpiresAt with
  | some p,_ => (some p,.probe)
  | none,some m => (some m,.manual)
  | none,none => (none,.none)

def applyRotation (status : ApiKeyStatus) (atTime : Timestamp) (byActor : Actor) (kind : HistoryKind)
    (manualExpiresAt : Option Timestamp) (probe : Option ProbeStatus) : ApiKeyStatus :=
  let (expiresAt,source) := expiryOf manualExpiresAt probe
  {status with
    lastRotated := some atTime
    rotatedBy := some byActor
    manualExpiresAt := manualExpiresAt
    expiresAt := expiresAt
    expiresAtSource := some source
    probe := probe
    history := (⟨atTime,byActor,kind,expiresAt⟩ :: status.history).take HISTORY_LIMIT}

inductive RecordError where
  | futureDate
  | expiryBeforeRotation
  | repo (e : RepoError)
  deriving DecidableEq

def RecordError.text [CharTables] : RecordError → String
  | .futureDate => "the rotation date is in the future"
  | .expiryBeforeRotation => "the expiry date is before the rotation date"
  | .repo e => e.text

def recordMutation (actor : Actor) (rotatedAt : Timestamp) (expiresAt : Option Timestamp)
    (status : ApiKeyStatus) : ApiKeyStatus :=
  applyRotation status rotatedAt actor .recorded expiresAt none

def recordNote [Format] (actor : Actor) (rotatedAt : Timestamp) (expiresAt : Option Timestamp) : String :=
  actor.display ++ " recorded a rotation at " ++ Format.timestampText rotatedAt ++ " (" ++
    (match expiresAt with | none => "no expiry" | some e => "expires " ++ Format.timestampText e) ++ ")"

def record [Format] (name : String) (actor : Actor) (rotatedAt : Timestamp) (expiresAt : Option Timestamp)
    (now : Timestamp) : App (Except RecordError ApiKey) :=
  if now < rotatedAt then pure (.error .futureDate)
  else if ∃ e, expiresAt = some e ∧ e < rotatedAt then pure (.error .expiryBeforeRotation)
  else do
    match ← updateStatus name (recordMutation actor rotatedAt expiresAt) with
    | .error e => pure (.error (.repo e))
    | .ok updated => do
      recordEvent updated.key ⟨"Recorded",recordNote actor rotatedAt expiresAt,false⟩
      pure (.ok updated.key)

structure RotateRequest where
  value : String
  actor : Actor
  manualExpiresAt : Option Timestamp
  skipVerification : Bool
  deriving DecidableEq

inductive ProbeOutcome where
  | notSupported
  | skipped
  | checked (result : ProbeResult)
  deriving DecidableEq

structure TargetOutcome where
  reference : String
  error : Option String
  deriving DecidableEq

structure RotateOutcome where
  probe : ProbeOutcome
  targets : List TargetOutcome
  completed : Bool
  expiryMismatch : Bool
  deriving DecidableEq

inductive RotateError where
  | notFound (name : String)
  | empty
  | noTargets
  | invalidSpec (problems : String)
  | probe (e : ProbeError)
  | status (e : RepoError)
  deriving DecidableEq

def RotateError.text [CharTables] : RotateError → String
  | .notFound name => "no API key named " ++ debug name
  | .empty => "the key is empty"
  | .noTargets => "this key has no targets; use Record rotation instead"
  | .invalidSpec problems => "the ApiKey spec is invalid: " ++ problems
  | .probe e => e.text
  | .status e => "the key was written, but saving its status failed: " ++ e.text

-- The checks of `rotate_inner` that come before anything leaves the process.
def gate [UrlCrate] (allowed : PathAllowList) (name : String) (req : RotateRequest) :
    Option (Named name) → Except RotateError ApiKey
  | none => .error (.notFound name)
  | some found =>
    if trim req.value = "" then .error .empty
    else if found.key.spec.targets = [] then .error .noTargets
    else if validate found.key.spec allowed ≠ [] then
      .error (.invalidSpec ("; ".intercalate (validate found.key.spec allowed)))
    else .ok found.key

def ProbeError.label : ProbeError → String
  | .rejected _ => "rejected"
  | .unavailable _ => "error"

def checkKey (key : ApiKey) (req : RotateRequest) : App (Except ProbeError ProbeOutcome) :=
  if req.skipVerification then pure (.ok .skipped)
  else if key.spec.provider = .generic then pure (.ok .notSupported)
  else do
    match ← probeKey key.spec.provider req.value with
    | .ok (some result) => do
      countProbe key.spec.provider.asStr "ok"
      pure (.ok (.checked result))
    | .ok none => pure (.ok .notSupported)
    | .error e => do
      countProbe key.spec.provider.asStr (ProbeError.label e)
      recordEvent key ⟨"RotationRejected",req.actor.display ++ ": " ++ e.text,true⟩
      pure (.error e)

-- `.err().map(|e| e.to_string())`
def writeError : Except TargetError Unit → Option String
  | .ok _ => none
  | .error e => some e.text

def writeTargets (value : String) : List TargetSpec → App (List TargetOutcome)
  | [] => pure []
  | target :: rest => do
    let answer ← writeTarget target value
    let outcomes ← writeTargets value rest
    pure (⟨target.reference,writeError answer⟩ :: outcomes)

def allWritten (outcomes : List TargetOutcome) : Bool := outcomes.all fun t => t.error.isNone

def probeStatus (now : Timestamp) : ProbeOutcome → Option ProbeStatus
  | .checked result => some ⟨now,result.identity,result.expiresAt⟩
  | _ => none

def expiryMismatch (probed manual : Option Timestamp) : Bool :=
  match probed,manual with
  | some p,some m => p.asSecond.tdiv 86400 != m.asSecond.tdiv 86400
  | _,_ => false

def targetEntry (now : Timestamp) (outcome : TargetOutcome) : TargetStatus :=
  ⟨outcome.reference,some now,if outcome.error.isNone then .ok else .failed,outcome.error⟩

-- The first entry with the reference is replaced; without one the entry is pushed.
def upsert (entry : TargetStatus) : List TargetStatus → List TargetStatus
  | [] => [entry]
  | t :: rest => if t.reference = entry.reference then entry :: rest else t :: upsert entry rest

def mergeTargets (references : List String) (now : Timestamp) (outcomes : List TargetOutcome)
    (targets : List TargetStatus) : List TargetStatus :=
  outcomes.foldl (fun merged outcome => upsert (targetEntry now outcome) merged)
    (targets.filter fun t => t.reference ∈ references)

def submitMutation (references : List String) (outcomes : List TargetOutcome) (now : Timestamp)
    (req : RotateRequest) (probe : Option ProbeStatus) (status : ApiKeyStatus) : ApiKeyStatus :=
  let merged := {status with targets := mergeTargets references now outcomes status.targets}
  if allWritten outcomes then applyRotation merged now req.actor .rotated req.manualExpiresAt probe else merged

def failedReferences (outcomes : List TargetOutcome) : List String :=
  (outcomes.filter fun t => t.error.isSome).map TargetOutcome.reference

def submitEvent (actor : Actor) (outcomes : List TargetOutcome) : AuditEvent :=
  if allWritten outcomes then
    ⟨"Rotated",actor.display ++ " rotated the key (" ++ toString outcomes.length ++ " targets written)",false⟩
  else ⟨"RotationFailed",actor.display ++ " submitted a key; failed targets: " ++
    ", ".intercalate (failedReferences outcomes),true⟩

-- Everything after the probe: the writes, the one status update, the event.
def submit (name : String) (key : ApiKey) (req : RotateRequest) (probe : ProbeOutcome) :
    App (Except RotateError RotateOutcome) := do
  let outcomes ← writeTargets req.value key.spec.targets
  let now ← timestampNow
  let checked := probeStatus now probe
  let mutation := submitMutation (key.spec.targets.map TargetSpec.reference) outcomes now req checked
  match ← updateStatus name mutation with
  | .error e => pure (.error (.status e))
  | .ok updated => do
    recordEvent updated.key (submitEvent req.actor outcomes)
    pure (.ok ⟨probe,outcomes,allWritten outcomes,
      expiryMismatch (checked.bind ProbeStatus.expiresAt) req.manualExpiresAt⟩)

def rotateInner [UrlCrate] (allowed : PathAllowList) (name : String) (req : RotateRequest) :
    App (Except RotateError RotateOutcome) := do
  let found ← getKey name
  match gate allowed name req found with
  | .error e => pure (.error e)
  | .ok key => do
    match ← checkKey key req with
    | .error e => pure (.error (.probe e))
    | .ok probe => submit name key req probe

def label : Except RotateError RotateOutcome → String
  | .ok o => if o.completed then "ok" else if o.targets.all fun t => t.error.isSome then "failed" else "partial"
  | .error _ => "rejected"

def rotate [UrlCrate] (allowed : PathAllowList) (name : String) (req : RotateRequest) :
    App (Except RotateError RotateOutcome) := do
  let result ← rotateInner allowed name req
  countRotation (label result)
  pure result

end YouSpinMe.Rotation
