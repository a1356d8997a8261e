import YouSpinMe.Text
import YouSpinMe.Jiff

namespace YouSpinMe.Crd
open Text Jiff

inductive Provider where
  | generic
  | github
  | cloudflare
  deriving DecidableEq

def Provider.asStr : Provider → String
  | .generic => "generic"
  | .github => "github"
  | .cloudflare => "cloudflare"

structure Setup where
  permissions : List String := []
  notes : Option String := none
  deriving DecidableEq

structure RotationPolicy where
  maxAge : Option String := none
  warnBefore : Option String := none
  criticalBefore : Option String := none
  deriving DecidableEq

structure OpenBaoTarget where
  mount : String
  path : String
  key : String
  deriving DecidableEq

def isSlash (c : Char) : Bool := c == '/'

def OpenBaoTarget.reference (t : OpenBaoTarget) : String :=
  "openbao/" ++ t.mount ++ "/" ++ trimMatches isSlash t.path ++ "#" ++ t.key

def OpenBaoTarget.policyPath (t : OpenBaoTarget) : String :=
  trimMatches isSlash t.mount ++ "/data/" ++ trimMatches isSlash t.path

structure TargetSpec where
  openbao : Option OpenBaoTarget := none
  deriving DecidableEq

def TargetSpec.reference (target : TargetSpec) : String :=
  match target.openbao with
  | some t => t.reference
  | none => "invalid-target"

structure ApiKeySpec where
  displayName : Option String := none
  provider : Provider := .generic
  owner : Option String := none
  renewUrl : Option String := none
  setup : Setup := {}
  rotation : RotationPolicy := {}
  targets : List TargetSpec := []
  consumers : List String := []
  deriving DecidableEq

structure Actor where
  sub : String
  name : String
  deriving DecidableEq

def Actor.display (actor : Actor) : String := if actor.name = "" then actor.sub else actor.name

inductive ExpirySource where
  | probe
  | manual
  | none
  deriving DecidableEq

structure ProbeStatus where
  atTime : Timestamp
  identity : Option String
  expiresAt : Option Timestamp
  deriving DecidableEq

inductive TargetResult where
  | ok
  | failed
  deriving DecidableEq

structure TargetStatus where
  reference : String
  lastWritten : Option Timestamp
  result : TargetResult
  message : Option String
  deriving DecidableEq

inductive HistoryKind where
  | rotated
  | recorded
  deriving DecidableEq

structure HistoryEntry where
  atTime : Timestamp
  byActor : Actor
  kind : HistoryKind
  expiresAt : Option Timestamp
  deriving DecidableEq

structure Condition where
  type : String
  status : String
  reason : String
  message : String
  observedGeneration : Option Int
  lastTransitionTime : Timestamp
  deriving DecidableEq

-- The defaults are those of a status that was never written.
structure ApiKeyStatus where
  lastRotated : Option Timestamp := none
  rotatedBy : Option Actor := none
  expiresAt : Option Timestamp := none
  expiresAtSource : Option ExpirySource := none
  manualExpiresAt : Option Timestamp := none
  probe : Option ProbeStatus := none
  targets : List TargetStatus := []
  history : List HistoryEntry := []
  conditions : List Condition := []
  observedGeneration : Option Int := none
  deriving DecidableEq

def HISTORY_LIMIT : Nat := 10

-- A resource version is opaque and only ever compared for equality.
structure Metadata where
  name : Option String
  namespace_ : Option String := none
  generation : Option Int := none
  resourceVersion : Option Nat := none
  deriving DecidableEq

structure ApiKey where
  metadata : Metadata
  spec : ApiKeySpec
  status : Option ApiKeyStatus := none
  deriving DecidableEq

def ApiKey.name (key : ApiKey) : String := key.metadata.name.getD ""
def ApiKey.namespace_ (key : ApiKey) : String := key.metadata.namespace_.getD ""
def ApiKey.displayName (key : ApiKey) : String := key.spec.displayName.getD key.name
def ApiKey.condition (key : ApiKey) (type : String) : Option Condition :=
  key.status.bind fun s => s.conditions.find? fun c => c.type = type

-- `status.take().unwrap_or_default()`, mutated and put back.
def ApiKey.updateStatus (key : ApiKey) (mutate : ApiKeyStatus → ApiKeyStatus) : ApiKey :=
  {key with status := some (mutate (key.status.getD {}))}

@[simp] theorem ApiKey.updateStatus_name (key : ApiKey) (mutate : ApiKeyStatus → ApiKeyStatus) :
    (key.updateStatus mutate).name = key.name := rfl
@[simp] theorem ApiKey.updateStatus_spec (key : ApiKey) (mutate : ApiKeyStatus → ApiKeyStatus) :
    (key.updateStatus mutate).spec = key.spec := rfl
@[simp] theorem ApiKey.updateStatus_status (key : ApiKey) (mutate : ApiKeyStatus → ApiKeyStatus) :
    (key.updateStatus mutate).status = some (mutate (key.status.getD {})) := rfl

-- What a repository hands out for a name is the object of that name.
structure Named (name : String) where
  key : ApiKey
  named : key.name = name

namespace Named

def status (object : Named name) : ApiKeyStatus := object.key.status.getD {}

def updateStatus (object : Named name) (mutate : ApiKeyStatus → ApiKeyStatus) : Named name :=
  ⟨object.key.updateStatus mutate,object.named⟩

-- The same object as another version of it is handed out.
def versioned (object : Named name) (version : Option Nat) : Named name :=
  ⟨{object.key with metadata := {object.key.metadata with resourceVersion := version}},object.named⟩

@[simp] theorem updateStatus_status (object : Named name) (mutate : ApiKeyStatus → ApiKeyStatus) :
    (object.updateStatus mutate).status = mutate object.status := rfl
@[simp] theorem versioned_status (object : Named name) (version : Option Nat) :
    (object.versioned version).status = object.status := rfl
@[simp] theorem versioned_same (object : Named name) :
    object.versioned object.key.metadata.resourceVersion = object := rfl

theorem same {object other : Named name} (equal : object.key = other.key) : object = other := by
  cases object
  cases other
  cases equal
  rfl

end Named

end YouSpinMe.Crd
