import YouSpinMe.Pages

namespace YouSpinMe.Web
open RequestProgram Effects Validation Identity Http Auth Text Jiff Crd

-- A parameter matches one segment, which may be empty where more of the path follows.
-- `{name}` at the end and `{*path}` match what is left when that is not empty.
inductive Route where
  | index
  | detail (segment : String)
  | record (segment : String)
  | rotate (segment : String)
  | login
  | callback
  | logout
  | asset (path : String)
  | unknown
  deriving DecidableEq

def routeOf (path : String) : Route :=
  match split '/' path with
  | ["",""] => .index
  | ["","keys",name] => if name = "" then .unknown else .detail name
  | ["","keys",name,"record"] => .record name
  | ["","keys",name,"rotate"] => .rotate name
  | ["","auth","login"] => .login
  | ["","auth","callback"] => .callback
  | ["","auth","logout"] => .logout
  | "" :: "assets" :: rest => if "/".intercalate rest = "" then .unknown else .asset ("/".intercalate rest)
  | _ => .unknown

example : (routeOf "/keys//record",routeOf "/keys/") = (.record "",.unknown) := by decide

def methodNotAllowed (allow : String) : Response := {status := 405, headers := [("allow",allow)]}

-- `get` also serves HEAD, without the body.
def get (request : Request) (handler : App Response) : App Response :=
  match request.method with
  | .get => handler
  | .head => do
    let response ← handler
    pure {response with body := .empty}
  | _ => pure (methodNotAllowed "GET,HEAD")

def post (request : Request) (handler : App Response) : App Response :=
  match request.method with
  | .post => handler
  | _ => pure (methodNotAllowed "POST")

section Router
variable [Crates]

def asset (path : String) : Response :=
  match Crates.asset path with
  | some content => {
      status := 200
      headers := [("content-type",Crates.mime path),("cache-control","public, max-age=31536000, immutable")]
      body := .asset content}
  | none => {status := 404}

def loginRoute (state : AppState) (request : Request) : App Response :=
  extract (LoginQuery.read request) fun q => respond (Auth.login state q)

def callbackRoute (state : AppState) (request : Request) : App Response :=
  extract (CallbackQuery.read request) fun q => respond (Auth.callback state q)

def logoutRoute (state : AppState) (request : Request) : App Response :=
  withUser state request fun session =>
  extract (CsrfForm.read request) fun form => respond (Auth.logout session request.headers form)

def indexRoute (state : AppState) (request : Request) : App Response :=
  withUser state request fun session =>
  extract (Pages.Filters.read request) fun filters => respond (Pages.index state session request.headers filters)

def detailRoute [CharTables] (state : AppState) (request : Request) (segment : String) : App Response :=
  withUser state request fun session =>
  extract (pathName segment) fun name =>
  extract (Pages.readNotice request) fun notice =>
  respond (Pages.detail state session request.headers name notice)

def recordRoute [CharTables] [Format] (state : AppState) (request : Request) (segment : String) : App Response :=
  withAdmin state request fun session =>
  extract (pathName segment) fun name =>
  extract (Pages.RecordForm.read request) fun form =>
  respond (Pages.record state session request.headers name form)

def rotateRoute [UrlCrate] [Format] (state : AppState) (request : Request) (segment : String) : App Response :=
  withAdmin state request fun session =>
  extract (pathName segment) fun name =>
  extract (Pages.RotateForm.read request) fun form =>
  respond (Pages.rotate state session request.headers name form)

def assetRoute (path : String) : App Response :=
  extract (pathName path) fun path => pure (asset path)

def routes [UrlCrate] [Format] (state : AppState) (request : Request) : App Response :=
  match routeOf request.path with
  | .index => get request (indexRoute state request)
  | .detail segment => get request (detailRoute state request segment)
  | .record segment => post request (recordRoute state request segment)
  | .rotate segment => post request (rotateRoute state request segment)
  | .login => get request (loginRoute state request)
  | .callback => get request (callbackRoute state request)
  | .logout => post request (logoutRoute state request)
  | .asset path => get request (assetRoute path)
  | .unknown => pure (AppError.intoResponse (.notFound "page not found"))

def router [UrlCrate] [Format] (state : AppState) (request : Request) : App Response :=
  securityHeaders request (originCheck state.publicOrigin request (routes state request))

end Router

end YouSpinMe.Web
