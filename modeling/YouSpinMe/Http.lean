import YouSpinMe.Rotation

namespace YouSpinMe.Http
open RequestProgram Effects Validation Rotation Identity Text Jiff Crd

inductive Method where
  | get
  | head
  | options
  | post
  | put
  | delete
  | patch
  | connect
  | trace
  | extension (name : String)
  deriving DecidableEq

structure Request where
  method : Method
  path : String
  query : Option String := none
  headers : HeaderMap := []
  body : Bytes := []

def Request.pathAndQuery (request : Request) : String :=
  match request.query with
  | none => request.path
  | some query => request.path ++ "?" ++ query

-- What the crates under the router make of text and bytes: form pairs, a percent
-- encoded path parameter, the content type of a form, plain cookies, the path of
-- a URL, JSON, and the files that were embedded at build time.
class Crates where
  pairs : Bytes → List (String × String)
  pathParam : String → Option String
  isForm : HeaderMap → Bool
  cookies : HeaderMap → List (String × String)
  urlPath : String → Option String
  parseJson : Bytes → Option Json
  asset : String → Option Bytes
  mime : String → String

-- Why a pair list is not the struct it should be.
inductive FieldError where
  | missing (field : String)
  | duplicate (field : String)
  | invalid (field : String)
  deriving DecidableEq

-- A derived visitor reads the pairs in order, skips names it does not know and
-- stops at a known name that comes a second time.
def readFields (known : List String) (parses : String → String → Bool) :
    List (String × String) → List (String × String) → Except FieldError (List (String × String))
  | seen,[] => .ok seen
  | seen,(name,value) :: rest =>
    if name ∉ known then readFields known parses seen rest
    else if (seen.lookup name).isSome then .error (.duplicate name)
    else if !parses name value then .error (.invalid name)
    else readFields known parses (seen ++ [(name,value)]) rest

def anyText (_ _ : String) : Bool := true

theorem readFields_lookup (read : readFields known parses seen pairs = .ok fields) (listed : name ∈ known) :
    fields.lookup name = (seen.lookup name).or (pairs.lookup name) := by
  induction pairs generalizing seen with
  | nil =>
    cases read
    simp
  | cons pair pairs ih =>
    obtain ⟨other,value⟩ := pair
    unfold readFields at read
    split at read
    · rename_i unknown
      have different : (name == other) = false := by
        rw [beq_eq_false_iff_ne]
        intro same
        exact unknown (same ▸ listed)
      rw [ih read,List.lookup_cons,different]
    · split at read
      · cases read
      · split at read
        · cases read
        · rename_i fresh _
          rw [ih read,List.lookup_append,List.lookup_cons,List.lookup_cons]
          cases same : name == other with
          | false => simp
          | true =>
            rw [beq_iff_eq] at same
            subst same
            have absent : seen.lookup name = none := Option.not_isSome_iff_eq_none.mp fresh
            simp [absent]

structure Layout where
  title : String
  user : String
  admin : Bool
  csrf : String
  dark : Bool
  palette : String
  devAuth : Bool

structure Filters where
  q : String
  state : String
  provider : String
  sort : String

structure DetailPage where
  layout : Layout
  key : ApiKey
  canRotate : Bool
  probeSupported : Bool
  notice : String
  now : Timestamp

structure RotateResult where
  name : String
  error : String
  outcome : Option RotateOutcome
  consumers : List String

-- What the dialog shows after a submission.
structure RotatePanel where
  heading : String
  message : String
  probeLine : String := ""
  mismatch : Bool := false
  targets : List TargetOutcome := []
  stillToDo : Option (List String × String) := none
  deriving DecidableEq

structure ErrorPage where
  status : Nat
  title : String
  message : String
  deriving DecidableEq

inductive Rejection where
  | path
  | query (e : FieldError)
  | form (e : FieldError)
  | mediaType
  | tooLarge
  deriving DecidableEq

-- A body is the data its template renders. The tables of keys are kept as the
-- keys, the filters and the time they are computed from.
inductive Body where
  | empty
  | text (s : String)
  | error (page : ErrorPage)
  | rejection (r : Rejection)
  | index (layout : Layout) (keys : List ApiKey) (filters : Filters) (now : Timestamp)
  | keysTable (keys : List ApiKey) (filters : Filters) (now : Timestamp)
  | detail (page : DetailPage)
  | rotateResult (panel : Option RotatePanel)
  | asset (content : Bytes)

-- A cookie without a value is removed.
structure SetCookie where
  name : String
  value : Option CookieValue
  secure : Bool
  maxAge : Int

structure Response where
  status : Nat
  headers : List (String × String) := []
  cookies : List SetCookie := []
  body : Body := .empty

def Response.insertHeader (response : Response) (name value : String) : Response :=
  {response with headers := response.headers.filter (fun header => header.1 ≠ name) ++ [(name,value)]}

def html (body : Body) : Response := {status := 200, headers := [("content-type","text/html; charset=utf-8")], body := body}

def AppError.status : AppError → Nat
  | .notFound _ => 404
  | .badRequest _ => 400
  | .unauthorized _ => 401
  | .forbidden _ => 403
  | .upstream _ => 502
  | .internal _ => 500

def AppError.title : AppError → String
  | .notFound _ => "Not found"
  | .badRequest _ => "Bad request"
  | .unauthorized _ => "Login failed"
  | .forbidden _ => "Forbidden"
  | .upstream _ => "Upstream error"
  | .internal _ => "Something went wrong"

def AppError.intoResponse (e : AppError) : Response :=
  {html (.error ⟨AppError.status e,AppError.title e,e.text⟩) with status := AppError.status e}

def Rejection.status : Rejection → Nat
  | .path | .query _ => 400
  | .form _ => 422
  | .mediaType => 415
  | .tooLarge => 413

def Rejection.intoResponse (r : Rejection) : Response := {status := r.status, body := .rejection r}

-- A location that is no header value is answered with an error.
def headerByte (b : UInt8) : Bool := b == 9 || (32 ≤ b && b != 127)

def redirect (uri : String) : Response :=
  if (asBytes uri).all headerByte then {status := 303, headers := [("location",uri)]}
  else {status := 500, body := .text "failed to parse header value"}

abbrev Handler := App (Except AppError Response)

-- `?` in a handler.
def orFail (step : App (Except AppError α)) (next : α → App (Except AppError β)) : App (Except AppError β) := do
  match ← step with
  | .error e => pure (.error e)
  | .ok value => next value

def respond (handler : Handler) : App Response := do
  match ← handler with
  | .error e => pure (AppError.intoResponse e)
  | .ok response => pure response

def extract (parsed : Except Rejection α) (next : α → App Response) : App Response :=
  match parsed with
  | .error r => pure r.intoResponse
  | .ok value => next value

section Extractors
variable [Crates]

def queryFields (request : Request) (known : List String) (parses : String → String → Bool) :
    Except Rejection (List (String × String)) :=
  (readFields known parses [] (Crates.pairs (asBytes (request.query.getD "")))).mapError .query

def BODY_LIMIT : Nat := 65536

def formFields (request : Request) (known : List String) : Except Rejection (List (String × String)) :=
  if !Crates.isForm request.headers then .error .mediaType
  else if BODY_LIMIT < request.body.length then .error .tooLarge
  else (readFields known anyText [] (Crates.pairs request.body)).mapError .form

def required (fields : List (String × String)) (name : String) : Except Rejection String :=
  match fields.lookup name with
  | none => .error (.form (.missing name))
  | some value => .ok value

def pathName (segment : String) : Except Rejection String :=
  match Crates.pathParam segment with
  | none => .error .path
  | some name => .ok name

-- The CSRF token a form holds.
def formToken (request : Request) : Option String := (Crates.pairs request.body).lookup "_csrf"

theorem formFields_token (read : formFields request known = .ok fields) (listed : "_csrf" ∈ known) :
    fields.lookup "_csrf" = formToken request := by
  unfold formFields at read
  split at read
  · cases read
  · split at read
    · cases read
    · cases found : readFields known anyText [] (Crates.pairs request.body) with
      | error e => simp [found,Except.mapError] at read
      | ok parsed =>
        simp only [found,Except.mapError,Except.ok.injEq] at read
        rw [← read,readFields_lookup found listed]
        rfl

end Extractors

def CSP : String := "default-src 'self'; script-src 'self'; style-src 'self'; img-src 'self' data:; connect-src 'self'; font-src 'self'; frame-ancestors 'none'; base-uri 'none'; form-action 'self'"

def withSecurityHeaders (isAsset : Bool) (response : Response) : Response :=
  let secured := (((response.insertHeader "content-security-policy" CSP).insertHeader
    "x-content-type-options" "nosniff").insertHeader "x-frame-options" "DENY").insertHeader
    "referrer-policy" "same-origin"
  if isAsset then secured else secured.insertHeader "cache-control" "no-store"

def securityHeaders (request : Request) (next : App Response) : App Response := do
  let response ← next
  pure (withSecurityHeaders ("/assets/".toList.isPrefixOf request.path.toList) response)

def safeMethod : Method → Bool
  | .get | .head | .options => true
  | _ => false

def debugOption [CharTables] : Option String → String
  | none => "None"
  | some s => "Some(" ++ debug s ++ ")"

def sameOrigin (publicOrigin : String) (request : Request) : Bool :=
  request.headers.text "origin" == some publicOrigin

def originCheck [CharTables] (publicOrigin : String) (request : Request) (next : App Response) : App Response :=
  if safeMethod request.method || sameOrigin publicOrigin request then next
  else pure (AppError.intoResponse (.forbidden ("cross-origin request rejected (Origin " ++
    debugOption (request.headers.text "origin") ++ ", expected " ++ publicOrigin ++ ")")))

end YouSpinMe.Http
