import YouSpinMe.RequestProgram
import YouSpinMe.Effects

namespace YouSpinMe.OpenBaoWriter
open RequestProgram Effects Text Crd

-- Times of the monotonic clock, in nanoseconds from some start.
abbrev Instant := Int
def TOKEN_MARGIN : Int := 30000000000

inductive Auth where
  | kubernetes (mount role jwtFile : String)
  | tokenFile (path : String)
  deriving DecidableEq

def Auth.isKubernetes : Auth → Bool
  | .kubernetes .. => true
  | .tokenFile _ => false

structure CachedToken where
  token : String
  expires : Option Instant
  deriving DecidableEq

-- The decoded path segments of an address. One that cannot be a base has none.
structure Address where
  base : List String
  hierarchical : Bool
  deriving DecidableEq

structure OpenBao where
  addr : Address
  auth : Auth

inductive Method where
  | patch
  | post
  deriving DecidableEq

structure WriteBody where
  key : String
  value : String
  deriving DecidableEq

-- `Instant + Duration` panics where the sum is no instant, which takes a lease of about
-- 2^63 seconds. No store grants one that comes near it.
structure LoginAuth where
  clientToken : String
  leaseDuration : Nat
  short : leaseDuration < 4611686018427387904
  deriving DecidableEq

-- A body is kept as what the two readers of bodies make of it.
structure Response where
  status : Nat
  errors : Option (List String) := none
  login : Except String LoginAuth := .error "no login"

def Response.isSuccess (res : Response) : Bool := 200 ≤ res.status ∧ res.status < 300

-- A request that got no answer may still have been carried out; the caller
-- sees the detail only.
structure Lost where
  detail : String
  applied : Bool

inductive BaoOp where
  | lock
  | unlock (cached : Option CachedToken)
  | clock
  | readFile (path : String)
  | login (url : List String) (role jwt : String)
  | write (method : Method) (url : List String) (token : String) (body : WriteBody)

@[reducible] def BaoReply : BaoOp → Type
  | .lock => Option CachedToken
  | .unlock _ => Unit
  | .clock => Instant
  | .readFile _ => Except String String
  | .login .. => Except String Response
  | .write .. => Except Lost Response

abbrev Bao := Program BaoReply

-- The reason phrases of the http crate, and `PathSegmentsMut::push` of the url crate.
class HttpCrates where
  canonicalReason : Nat → Option String
  push : List String → String → List String

-- A push that leaves out the segments "." and ".." and no other. The real one also drops
-- tabs and line ends from a segment, which may make it one of the two.
class PlainPush [HttpCrates] : Prop where
  push_exact : ∀ segments segment, HttpCrates.push segments segment =
    if segment = "." ∨ segment = ".." then segments else segments ++ [segment]

@[reducible] def plainHttp : HttpCrates where
  canonicalReason
    | 200 => some "OK"
    | 403 => some "Forbidden"
    | 404 => some "Not Found"
    | _ => none
  push segments segment := if segment = "." ∨ segment = ".." then segments else segments ++ [segment]

theorem plainHttp_push : @PlainPush plainHttp := @PlainPush.mk plainHttp fun _ _ => rfl

def parts (segment : String) : List String := (split '/' segment).filter fun p => p ≠ ""

def OpenBao.url [HttpCrates] (bao : OpenBao) (segments : List String) : Except TargetError (List String) :=
  if bao.addr.hierarchical then .ok ((segments.flatMap parts).foldl HttpCrates.push (HttpCrates.push bao.addr.base "v1"))
  else .error (.store "invalid OpenBao address")

def errorFrom [HttpCrates] (res : Response) (action : String) : TargetError :=
  let joined := res.errors.map fun errors => "; ".intercalate errors
  let detail := (joined.filter fun d => d ≠ "").getD
    (((HttpCrates.canonicalReason res.status).getD "error").map Char.toLower)
  .store (action ++ " returned " ++ toString res.status ++ ": " ++ detail)

def readTrimmed (path what : String) : Bao (Except TargetError String) := do
  match ← ask (BaoOp.readFile path) with
  | .error e => pure (.error (.store ("reading " ++ what ++ " " ++ path ++ ": " ++ e)))
  | .ok text => pure (.ok (trim text))

def OpenBao.login [HttpCrates] (bao : OpenBao) : Bao (Except TargetError CachedToken) :=
  match bao.auth with
  | .tokenFile path => do
    match ← readTrimmed path "OpenBao token" with
    | .error e => pure (.error e)
    | .ok token => pure (.ok ⟨token,none⟩)
  | .kubernetes mount role jwtFile => do
    match ← readTrimmed jwtFile "ServiceAccount token" with
    | .error e => pure (.error e)
    | .ok jwt => match bao.url ["auth",mount,"login"] with
      | .error e => pure (.error e)
      | .ok url => do
        match ← ask (BaoOp.login url role jwt) with
        | .error e => pure (.error (.store ("OpenBao login failed: " ++ e)))
        | .ok res =>
          if !res.isSuccess then pure (.error (errorFrom res "OpenBao login"))
          else match res.login with
            | .error e => pure (.error (.store ("OpenBao login response: " ++ e)))
            | .ok auth =>
              if auth.leaseDuration = 0 then pure (.ok ⟨auth.clientToken,none⟩)
              else do
                let now ← ask BaoOp.clock
                pure (.ok ⟨auth.clientToken,some (now + auth.leaseDuration * 1000000000)⟩)

-- Whether the guarded token may be used as it is.
def usable : Option CachedToken → Bao (Option String)
  | none => pure none
  | some t => match t.expires with
    | none => pure (some t.token)
    | some e => do
      let now ← ask BaoOp.clock
      pure (if now + TOKEN_MARGIN < e then some t.token else none)

-- The mutex is held from the look at the cache to the end of a login.
def OpenBao.token [HttpCrates] (bao : OpenBao) : Bao (Except TargetError String) := do
  let cached ← ask BaoOp.lock
  match ← usable cached with
  | some token => do
    ask (BaoOp.unlock cached)
    pure (.ok token)
  | none => do
    match ← bao.login with
    | .error e => do
      ask (BaoOp.unlock cached)
      pure (.error e)
    | .ok fresh => do
      ask (BaoOp.unlock (some fresh))
      pure (.ok fresh.token)

def invalidate : Bao Unit := do
  let _ ← ask BaoOp.lock
  ask (BaoOp.unlock none)

def OpenBao.send [HttpCrates] (bao : OpenBao) (method : Method) (url : List String) (body : WriteBody) :
    Bao (Except TargetError Response) := do
  match ← bao.token with
  | .error e => pure (.error e)
  | .ok token => do
    match ← ask (BaoOp.write method url token body) with
    | .error lost => pure (.error (.store ("OpenBao request failed: " ++ lost.detail)))
    | .ok res => pure (.ok res)

def OpenBao.create [HttpCrates] (bao : OpenBao) (url : List String) (body : WriteBody) :
    Bao (Except TargetError Unit) := do
  match ← bao.send .post url body with
  | .error e => pure (.error e)
  | .ok res => if res.isSuccess then pure (.ok ()) else pure (.error (errorFrom res "OpenBao create"))

-- One pass of the loop of `write_key`. The next pass is there as long as
-- `retried_login` is false.
def OpenBao.round [HttpCrates] (bao : OpenBao) (url : List String) (body : WriteBody)
    (again : Option (Bao (Except TargetError Unit))) : Bao (Except TargetError Unit) := do
  match ← bao.send .patch url body with
  | .error e => pure (.error e)
  | .ok res =>
    if res.isSuccess then pure (.ok ())
    else if res.status = 404 then bao.create url body
    else match again with
      | none => pure (.error (errorFrom res "OpenBao write"))
      | some next =>
        if res.status = 403 ∧ bao.auth.isKubernetes then do
          invalidate
          next
        else pure (.error (errorFrom res "OpenBao write"))

def OpenBao.writeKey [HttpCrates] (bao : OpenBao) (target : OpenBaoTarget) (value : String) :
    Bao (Except TargetError Unit) :=
  match bao.url [target.mount,"data",target.path] with
  | .error e => pure (.error e)
  | .ok url =>
    let body : WriteBody := ⟨target.key,value⟩
    bao.round url body (some (bao.round url body none))

def OpenBao.write [HttpCrates] (bao : OpenBao) (target : TargetSpec) (value : String) :
    Bao (Except TargetError Unit) :=
  match target.openbao with
  | some t => bao.writeKey t value
  | none => pure (.error .unconfigured)

end YouSpinMe.OpenBaoWriter
