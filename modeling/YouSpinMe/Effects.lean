import YouSpinMe.RequestProgram
import YouSpinMe.Identity

namespace YouSpinMe.Effects
open RequestProgram Text Jiff Crd Identity

structure ProbeResult where
  expiresAt : Option Timestamp := none
  identity : Option String := none
  deriving DecidableEq

inductive ProbeError where
  | rejected (detail : String)
  | unavailable (detail : String)
  deriving DecidableEq

def ProbeError.text : ProbeError → String
  | .rejected detail => "the provider rejected the key: " ++ detail
  | .unavailable detail => "could not check the key with the provider: " ++ detail

inductive TargetError where
  | unconfigured
  | store (detail : String)
  deriving DecidableEq

def TargetError.text : TargetError → String
  | .unconfigured => "target has no store configured"
  | .store detail => detail

inductive RepoError where
  | notFound (name : String)
  | conflict
  | kube (detail : String)
  deriving DecidableEq

def RepoError.text [CharTables] : RepoError → String
  | .notFound name => "ApiKey " ++ debug name ++ " not found"
  | .conflict => "conflicting concurrent update, try again"
  | .kube detail => "kubernetes API error: " ++ detail

structure AuditEvent where
  reason : String
  note : String
  warning : Bool
  deriving DecidableEq

-- What a new authorization URL was built around; its state token is drawn at
-- random and never empty.
structure LoginChallenge where
  url : String
  state : String
  nonce : String
  pkceVerifier : String
  filled : state ≠ ""
  deriving DecidableEq

inductive ExchangeError where
  | config (detail : String)
  | request (detail : String)
  deriving DecidableEq

abbrev RandomBytes := {bytes : Bytes // bytes.length = 32}

-- One challenge and one draw, for runs on fixed inputs.
def someChallenge : LoginChallenge := ⟨"https://idp/authorize","state","nonce","verifier",by decide⟩
def zeroBytes : RandomBytes := ⟨List.replicate 32 0,rfl⟩

-- Everything the application awaits, reads from a clock or draws at random: the
-- Repository, TargetWriter and Prober traits, the metrics and the provider. The
-- private cookie jar is here too: what a request's cookie of a name decodes to
-- depends on what was sealed before, and what is sealed can be presented later.
inductive Effect where
  | now
  | randomBytes
  | openCookie (name : String)
  | sealCookie (name : String) (value : CookieValue)
  | list
  | get (name : String)
  | updateStatus (name : String) (mutate : ApiKeyStatus → ApiKeyStatus)
  | recordEvent (key : ApiKey) (event : AuditEvent)
  | probe (provider : Provider) (value : String)
  | write (target : TargetSpec) (value : String)
  | countRotation (result : String)
  | countProbe (provider result : String)
  | discover
  | authorizeUrl (scopes : List String) (reauth : Bool)
  | exchangeCode (code pkceVerifier : String)
  | verifyToken (idToken nonce : String)

-- A code exchange yields the ID token as its compact text, when there is one.
-- Discovery is answered at once when an earlier call succeeded.
@[reducible] def Answer : Effect → Type
  | .now => Timestamp
  | .randomBytes => RandomBytes
  | .openCookie _ => Option CookieValue
  | .sealCookie _ _ => Unit
  | .list => List ApiKey
  | .get name => Option (Named name)
  | .updateStatus name _ => Except RepoError (Named name)
  | .recordEvent _ _ => Unit
  | .probe _ _ => Except ProbeError (Option ProbeResult)
  | .write _ _ => Except TargetError Unit
  | .countRotation _ => Unit
  | .countProbe _ _ => Unit
  | .discover => Except String Unit
  | .authorizeUrl _ _ => LoginChallenge
  | .exchangeCode _ _ => Except ExchangeError (Option String)
  | .verifyToken _ _ => Except String IdClaims

abbrev App := Program Answer

abbrev timestampNow : App Timestamp := ask Effect.now
abbrev openCookie (name : String) : App (Option CookieValue) := ask (Effect.openCookie name)
abbrev sealCookie (name : String) (value : CookieValue) : App Unit := ask (Effect.sealCookie name value)
abbrev listKeys : App (List ApiKey) := ask Effect.list
abbrev getKey (name : String) : App (Option (Named name)) := ask (Effect.get name)
abbrev updateStatus (name : String) (mutate : ApiKeyStatus → ApiKeyStatus) : App (Except RepoError (Named name)) :=
  ask (Effect.updateStatus name mutate)
abbrev recordEvent (key : ApiKey) (event : AuditEvent) : App Unit := ask (Effect.recordEvent key event)
abbrev probeKey (provider : Provider) (value : String) : App (Except ProbeError (Option ProbeResult)) :=
  ask (Effect.probe provider value)
abbrev writeTarget (target : TargetSpec) (value : String) : App (Except TargetError Unit) :=
  ask (Effect.write target value)
abbrev countRotation (result : String) : App Unit := ask (Effect.countRotation result)
abbrev countProbe (provider result : String) : App Unit := ask (Effect.countProbe provider result)
abbrev discover : App (Except String Unit) := ask Effect.discover
abbrev authorizeUrl (scopes : List String) (reauth : Bool) : App LoginChallenge := ask (Effect.authorizeUrl scopes reauth)
abbrev exchangeCode (code pkceVerifier : String) : App (Except ExchangeError (Option String)) :=
  ask (Effect.exchangeCode code pkceVerifier)
abbrev verifyToken (idToken nonce : String) : App (Except String IdClaims) := ask (Effect.verifyToken idToken nonce)

def randomToken : App String := do
  let bytes ← ask Effect.randomBytes
  pure (base64Encode bytes.val)

abbrev Trace := List (Event Answer)

-- The parts of a trace the claims about the outside are stated on.
def isWrite : Event Answer → Bool
  | ⟨.write _ _,_⟩ => true
  | _ => false

def isStatusUpdate : Event Answer → Bool
  | ⟨.updateStatus _ _,_⟩ => true
  | _ => false

def isProbe : Event Answer → Bool
  | ⟨.probe _ _,_⟩ => true
  | _ => false

def writeSucceeded : Event Answer → Bool
  | ⟨.write _ _,.ok _⟩ => true
  | _ => false

def writesOf (trace : Trace) : List (TargetSpec × String) :=
  trace.filterMap fun event => match event with
    | ⟨.write target value,_⟩ => some (target,value)
    | _ => none

def auditOf (trace : Trace) : List (String × AuditEvent) :=
  trace.filterMap fun event => match event with
    | ⟨.recordEvent key event,_⟩ => some (key.name,event)
    | _ => none

def rotationLabels (trace : Trace) : List String :=
  trace.filterMap fun event => match event with
    | ⟨.countRotation result,_⟩ => some result
    | _ => none

end YouSpinMe.Effects
