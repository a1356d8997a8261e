import YouSpinMe.Http

namespace YouSpinMe.Auth
open RequestProgram Effects Validation Identity Http Text Jiff Crd

def SESSION_COOKIE : String := "ysm_session"
def LOGIN_COOKIE : String := "ysm_login"
def LOGIN_TTL_SECS : Int := 600

structure Oidc where
  scopes : List String
  adminClaim : String
  adminValue : String

inductive AuthMode where
  | oidc (oidc : Oidc)
  | insecureDev (csrf : String)

-- The parts of the configuration and of the shared state that requests use.
structure AppState where
  publicOrigin : String
  secure : Bool
  sessionTtl : SignedDuration
  stepUpMaxAge : Option SignedDuration
  allowed : PathAllowList
  auth : AuthMode

def cookie (state : AppState) (name : String) (value : CookieValue) (maxAge : Int) : SetCookie :=
  ⟨name,some value,state.secure,maxAge⟩

def removal (name : String) : SetCookie := ⟨name,none,false,0⟩

inductive AuthRejection where
  | login (next : String)
  | htmxLogin (next : String)
  | forbidden
  deriving DecidableEq

def AuthRejection.intoResponse : AuthRejection → Response
  | .login next => redirect ("/auth/login?next=" ++ urlencode next)
  | .htmxLogin next => {status := 401, headers := [("hx-redirect","/auth/login?next=" ++ urlencode next)]}
  | .forbidden => AppError.intoResponse (.forbidden "this action needs admin rights")

section Extractors
variable [Crates]

-- htmx is sent back to the page its fragment belongs to.
def loginRejection (request : Request) : AuthRejection :=
  if request.headers.contains "hx-request" then
    .htmxLogin (((request.headers.text "hx-current-url").bind Crates.urlPath).getD request.pathAndQuery)
  else .login request.pathAndQuery

def user (state : AppState) (request : Request) : App (Except AuthRejection Session) := do
  let now ← timestampNow
  match state.auth with
  | .insecureDev csrf =>
    pure (.ok ⟨"dev","dev-admin",true,csrf,some now.asSecond,wrap (now.asSecond + 3600)⟩)
  | .oidc _ => do
    let opened ← openCookie SESSION_COOKIE
    match (opened.bind CookieValue.asSession).filter (fun s => !s.isExpired now) with
    | some s => pure (.ok s)
    | none => pure (.error (loginRejection request))

def admin (state : AppState) (request : Request) : App (Except AuthRejection Session) := do
  match ← user state request with
  | .error rejection => pure (.error rejection)
  | .ok session => if session.admin then pure (.ok session) else pure (.error .forbidden)

def withUser (state : AppState) (request : Request) (next : Session → App Response) : App Response := do
  match ← user state request with
  | .error rejection => pure rejection.intoResponse
  | .ok session => next session

def withAdmin (state : AppState) (request : Request) (next : Session → App Response) : App Response := do
  match ← admin state request with
  | .error rejection => pure rejection.intoResponse
  | .ok session => next session

end Extractors

structure LoginQuery where
  next : Option String
  reauth : Bool
  deriving DecidableEq

def boolText (value : String) : Bool := value == "true" || value == "false"

def LoginQuery.read [Crates] (request : Request) : Except Rejection LoginQuery := do
  let fields ← queryFields request ["next","reauth"] fun name value => name != "reauth" || boolText value
  .ok ⟨fields.lookup "next",fields.lookup "reauth" == some "true"⟩

-- The client is discovered once; until then every call tries again.
def client : App (Except AppError Unit) := do
  match ← discover with
  | .error e => pure (.error (.upstream ("OIDC discovery failed: " ++ e)))
  | .ok () => pure (.ok ())

def login (state : AppState) (q : LoginQuery) : Handler :=
  let next := safeNext q.next
  match state.auth with
  | .insecureDev _ => pure (.ok (redirect next))
  | .oidc oidc => orFail client fun _ => do
    let challenge ← authorizeUrl oidc.scopes q.reauth
    let now ← timestampNow
    let value := .login ⟨challenge.state,challenge.nonce,challenge.pkceVerifier,next,now.asSecond,
      wrap (now.asSecond + LOGIN_TTL_SECS),q.reauth⟩
    sealCookie LOGIN_COOKIE value
    pure (.ok {redirect challenge.url with cookies := [cookie state LOGIN_COOKIE value LOGIN_TTL_SECS]})

structure CallbackQuery where
  code : Option String
  state : Option String
  error : Option String
  errorDescription : Option String
  deriving DecidableEq

def CallbackQuery.read [Crates] (request : Request) : Except Rejection CallbackQuery := do
  let fields ← queryFields request ["code","state","error","error_description"] anyText
  .ok ⟨fields.lookup "code",fields.lookup "state",fields.lookup "error",fields.lookup "error_description"⟩

def isPad (c : Char) : Bool := c == '='

def decodeJwtPayload [Crates] (jwt : String) : Option Json := do
  let payload ← (split '.' jwt)[1]?
  let bytes ← base64Decode (String.ofList (payload.toList.rdropWhile isPad))
  Crates.parseJson bytes

def payloadOf [Crates] (idToken : String) : Json := (decodeJwtPayload idToken).getD .null

-- The answer to a callback must fit the login it belongs to.
def returnedCode (q : CallbackQuery) (login : LoginState) (now : Timestamp) : Except AppError String :=
  if login.exp < now.asSecond then .error (.unauthorized "login expired, try again")
  else if !constantTimeEq (asBytes (q.state.getD "")) (asBytes login.state) then
    .error (.unauthorized "login state mismatch")
  else match q.code with
  | none => .error (.unauthorized "missing authorization code")
  | some code => .ok code

def exchange (code pkceVerifier : String) : App (Except AppError String) := do
  match ← exchangeCode code pkceVerifier with
  | .error (.config e) => pure (.error (.internal e))
  | .error (.request e) => pure (.error (.unauthorized ("token exchange failed: " ++ e)))
  | .ok none => pure (.error (.unauthorized "provider returned no ID token"))
  | .ok (some idToken) => pure (.ok idToken)

def verify (idToken nonce : String) : App (Except AppError IdClaims) := do
  match ← verifyToken idToken nonce with
  | .error e => pure (.error (.unauthorized ("invalid ID token: " ++ e)))
  | .ok claims => pure (.ok claims)

def sessionFor [Crates] (state : AppState) (oidc : Oidc) (idToken : String) (claims : IdClaims) (csrf : String)
    (authTime : Option Int) (now : Timestamp) : Session :=
  ⟨claims.subject,claims.displayName,claimContains (payloadOf idToken) oidc.adminClaim oidc.adminValue,csrf,
    authTime,wrap (now.asSecond + state.sessionTtl.asSecs)⟩

def callback [Crates] (state : AppState) (q : CallbackQuery) : Handler :=
  match state.auth with
  | .insecureDev _ => pure (.ok (redirect "/"))
  | .oidc oidc =>
    match q.error with
    | some error => pure (.error (.unauthorized ("login failed: " ++ error ++ " " ++ q.errorDescription.getD "")))
    | none => do
      let opened ← openCookie LOGIN_COOKIE
      match opened.bind CookieValue.asLogin with
      | none => pure (.error (.unauthorized "login expired, try again"))
      | some login => do
        let now ← timestampNow
        orFail (pure (returnedCode q login now)) fun code =>
        orFail client fun _ =>
        orFail (exchange code login.pkceVerifier) fun idToken =>
        orFail (verify idToken login.nonce) fun claims =>
        orFail (pure (loginAuthTime (claims.authTime.map DateTime.timestamp) login now)) fun authTime => do
          let csrf ← randomToken
          let value := .session (sessionFor state oidc idToken claims csrf authTime now)
          sealCookie SESSION_COOKIE value
          pure (.ok {redirect login.next with
            cookies := [removal LOGIN_COOKIE,cookie state SESSION_COOKIE value state.sessionTtl.asSecs]})

structure CsrfForm where
  csrf : Option String
  deriving DecidableEq

def CsrfForm.read [Crates] (request : Request) : Except Rejection CsrfForm := do
  let fields ← formFields request ["_csrf"]
  .ok ⟨fields.lookup "_csrf"⟩

def logout (session : Session) (headers : HeaderMap) (form : CsrfForm) : Handler :=
  match session.checkCsrf headers form.csrf with
  | .error e => pure (.error e)
  | .ok () => pure (.ok {redirect "/" with cookies := [removal SESSION_COOKIE]})

end YouSpinMe.Auth
