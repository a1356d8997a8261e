import YouSpinMe.SharedRun
import YouSpinMe.Effects
import YouSpinMe.Validation

namespace YouSpinMe.Kube
open RequestProgram SharedRun Effects Validation Jiff Crd

def VALID_CONDITION : String := "Valid"
def MAX_STATUS_ATTEMPTS : Nat := 3

inductive ApiError where
  | notFound (detail : String)
  | conflict (detail : String)
  | other (detail : String)
  deriving DecidableEq

def ApiError.text : ApiError → String
  | .notFound detail => detail
  | .conflict detail => detail
  | .other detail => detail

-- The two fields a reconciliation sends; the merge replaces them and no others.
structure StatusPatch where
  conditions : List Condition
  observedGeneration : Option Int
  deriving DecidableEq

def StatusPatch.merge (patch : StatusPatch) (status : ApiKeyStatus) : ApiKeyStatus :=
  {status with conditions := patch.conditions,observedGeneration := patch.observedGeneration}

inductive ApiCall where
  | getStatus (name : String)
  | replaceStatus (name : String) (obj : ApiKey)
  | patchStatus (name : String) (patch : StatusPatch)

@[reducible] def Reply (_ : ApiCall) : Type := Except ApiError ApiKey

abbrev Api := Program Reply

-- `for _ in 0..attempts`, each with a fresh read of the object.
def attempt (name : String) (mutate : ApiKeyStatus → ApiKeyStatus) : Nat → Api (Except RepoError ApiKey)
  | 0 => pure (.error .conflict)
  | attempts + 1 => do
    match ← ask (ApiCall.getStatus name) with
    | .error (.notFound _) => pure (.error (.notFound name))
    | .error e => pure (.error (.kube e.text))
    | .ok obj => do
      match ← ask (ApiCall.replaceStatus name (obj.updateStatus mutate)) with
      | .ok updated => pure (.ok updated)
      | .error (.conflict _) => attempt name mutate attempts
      | .error e => pure (.error (.kube e.text))

def updateStatus (name : String) (mutate : ApiKeyStatus → ApiKeyStatus) : Api (Except RepoError ApiKey) :=
  attempt name mutate MAX_STATUS_ATTEMPTS

def desiredValidCondition [UrlCrate] (key : ApiKey) (allowed : PathAllowList) (now : Timestamp) : Option Condition :=
  let problems := validate key.spec allowed
  let (status,reason,message) :=
    if problems = [] then ("True","Valid","Spec is valid") else ("False","InvalidSpec","; ".intercalate problems)
  let generation := key.metadata.generation
  let existing := key.condition VALID_CONDITION
  if ∃ c, existing = some c ∧ c.status = status ∧ c.message = message ∧ c.observedGeneration = generation then none
  else
    let lastTransitionTime := match existing with
      | some c => if c.status = status then c.lastTransitionTime else now
      | none => now
    some ⟨VALID_CONDITION,status,reason,message,generation,lastTransitionTime⟩

def reconcilePatch [UrlCrate] (key : ApiKey) (allowed : PathAllowList) (now : Timestamp) : Option StatusPatch :=
  (desiredValidCondition key allowed now).map fun condition =>
    ⟨((key.status.getD {}).conditions.filter fun c => c.type ≠ VALID_CONDITION) ++ [condition],
      key.metadata.generation⟩

-- The object is the one the controller was woken with, which may be out of date.
def reconcile [UrlCrate] (allowed : PathAllowList) (key : ApiKey) (now : Timestamp) : Api (Except ApiError Unit) :=
  match reconcilePatch key allowed now with
  | none => pure (.ok ())
  | some patch => do
    match ← ask (ApiCall.patchStatus key.name patch) with
    | .error e => pure (.error e)
    | .ok _ => pure (.ok ())

-- The API server: every object has a version, which each commit raises.
structure Stored where
  key : ApiKey
  version : Nat

abbrev Cluster := String → Option Stored

def Stored.served (object : Stored) : ApiKey :=
  {object.key with metadata := {object.key.metadata with resourceVersion := some object.version}}

def Stored.status (object : Stored) : ApiKeyStatus := object.key.status.getD {}

def Stored.commit (object : Stored) (status : Option ApiKeyStatus) : Stored :=
  ⟨{object.key with status := status},object.version + 1⟩

def Stored.patch (object : Stored) (patch : StatusPatch) : Stored :=
  object.commit (some (patch.merge object.status))

def ApiCall.name : ApiCall → String
  | .getStatus name => name
  | .replaceStatus name _ => name
  | .patchStatus name _ => name

inductive Serve : Server Cluster Reply where
  | got (there : cluster name = some object) :
      Serve cluster (.getStatus name) (.ok object.served) cluster
  | replaced (there : cluster name = some object)
      (current : obj.metadata.resourceVersion = some object.version) :
      Serve cluster (.replaceStatus name obj) (.ok (object.commit obj.status).served)
        (Function.update cluster name (some (object.commit obj.status)))
  | stale (there : cluster name = some object)
      (outdated : obj.metadata.resourceVersion ≠ some object.version) :
      Serve cluster (.replaceStatus name obj) (.error (.conflict detail)) cluster
  | patched (there : cluster name = some object) :
      Serve cluster (.patchStatus name patch) (.ok (object.patch patch).served)
        (Function.update cluster name (some (object.patch patch)))
  | absent (missing : cluster call.name = none) : Serve cluster call (.error (.notFound detail)) cluster
  | failed : Serve cluster call (.error (.other detail)) cluster

-- A server that fails only when it must.
def respond (cluster : Cluster) (call : ApiCall) : Option (Reply call × Cluster) :=
  some <| match cluster call.name with
  | none => (.error (.notFound "not found"),cluster)
  | some object => match call with
    | .getStatus _ => (.ok object.served,cluster)
    | .replaceStatus name obj =>
      if obj.metadata.resourceVersion = some object.version then
        (.ok (object.commit obj.status).served,Function.update cluster name (some (object.commit obj.status)))
      else (.error (.conflict "conflict"),cluster)
    | .patchStatus name patch =>
      (.ok (object.patch patch).served,Function.update cluster name (some (object.patch patch)))

theorem respond_serves (cluster : Cluster) (call : ApiCall) (answer : Reply call) (after : Cluster)
    (found : respond cluster call = some (answer,after)) : Serve cluster call answer after := by
  unfold respond at found
  cases there : cluster call.name with
  | none =>
    simp only [there] at found
    cases found
    exact .absent there
  | some object =>
    simp only [there] at found
    cases call with
    | getStatus name => cases found; exact .got there
    | replaceStatus name obj =>
      by_cases current : obj.metadata.resourceVersion = some object.version
      · simp only [current,if_true] at found
        cases found
        exact .replaced there current
      · simp only [current,if_false] at found
        cases found
        exact .stale there current
    | patchStatus name patch => cases found; exact .patched there

end YouSpinMe.Kube
