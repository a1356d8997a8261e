import YouSpinMe.Auth

namespace YouSpinMe.Pages
open RequestProgram Effects Validation Rotation Identity Http Auth Text Jiff Crd

def PALETTES : List String := ["neutral","blue","green","orange","violet"]

section Layouts
variable [Crates]

def layout (state : AppState) (session : Session) (headers : HeaderMap) (title : String) : Layout where
  title := title
  user := session.name
  admin := session.admin
  csrf := session.csrf
  dark := (Crates.cookies headers).lookup "ysm_theme" == some "dark"
  palette := (((Crates.cookies headers).lookup "ysm_palette").filter (PALETTES.contains ·)).getD "neutral"
  devAuth := match state.auth with
    | .insecureDev _ => true
    | .oidc _ => false

def isHtmx (headers : HeaderMap) (target : String) : Bool :=
  headers.contains "hx-request" && headers.text "hx-target" == some target

def Filters.read (request : Request) : Except Rejection Filters := do
  let fields ← queryFields request ["q","state","provider","sort"] anyText
  .ok ⟨(fields.lookup "q").getD "",(fields.lookup "state").getD "",(fields.lookup "provider").getD "",
    (fields.lookup "sort").getD ""⟩

def index (state : AppState) (session : Session) (headers : HeaderMap) (filters : Filters) : Handler := do
  let now ← timestampNow
  let keys ← listKeys
  if isHtmx headers "keys-table" then pure (.ok (html (.keysTable keys filters now)))
  else pure (.ok (html (.index (layout state session headers "API keys") keys filters now)))

def noticeText (notice : String) : String :=
  if notice = "recorded" then "Rotation recorded."
  else if notice = "reauth" then "You logged in again. Record the rotation once more."
  else ""

def readNotice (request : Request) : Except Rejection String := do
  let fields ← queryFields request ["notice"] anyText
  .ok ((fields.lookup "notice").getD "")

def detail [CharTables] (state : AppState) (session : Session) (headers : HeaderMap) (name notice : String) : Handler := do
  match ← getKey name with
  | none => pure (.error (.notFound ("no API key named " ++ debug name)))
  | some found => do
    let now ← timestampNow
    pure (.ok (html (.detail {
      layout := layout state session headers found.key.displayName
      key := found.key
      canRotate := !found.key.spec.targets.isEmpty
      probeSupported := found.key.spec.provider != .generic
      notice := noticeText notice
      now := now})))

end Layouts

def fmtDate [Format] (t : Timestamp) : String := Format.dateText t.utcDate

-- Parses an `<input type="date">` value as midnight UTC.
def parseDate [CharTables] [Format] (value : String) : Except AppError (Option Timestamp) :=
  if trim value = "" then .ok none
  else match Format.parseDate (trim value) with
  | none => .error (.badRequest ("invalid date " ++ debug (trim value)))
  | some date => match date.midnight with
    | none => .error (.badRequest (Format.midnightError date))
    | some ts => .ok (some ts)

structure RecordForm where
  csrf : Option String
  rotatedAt : String
  expiresAt : String
  deriving DecidableEq

def RecordForm.read [Crates] (request : Request) : Except Rejection RecordForm := do
  let fields ← formFields request ["_csrf","rotated_at","expires_at"]
  let rotatedAt ← required fields "rotated_at"
  .ok ⟨fields.lookup "_csrf",rotatedAt,(fields.lookup "expires_at").getD ""⟩

def reauthLocation (name : String) : String :=
  "/auth/login?reauth=true&next=" ++ urlencode ("/keys/" ++ urlencode name ++ "?notice=reauth")

-- Recording "today" means now, so the deadline is exact.
def recordedAt [Format] (parsed : Option Timestamp) (now : Timestamp) : Timestamp :=
  match parsed with
  | some d => if fmtDate d = fmtDate now then now else d
  | none => now

def recordFailure [CharTables] (e : RecordError) : AppError :=
  match e with
  | .repo (.notFound _) => .notFound e.text
  | .repo _ => .internal e.text
  | _ => .badRequest e.text

-- The two dates of the form, read one after the other.
def recordDates [CharTables] [Format] (form : RecordForm) (now : Timestamp) : Except AppError (Timestamp × Option Timestamp) := do
  let rotatedAt ← parseDate form.rotatedAt
  let expiresAt ← parseDate form.expiresAt
  .ok (recordedAt rotatedAt now,expiresAt)

def saveRecord [CharTables] [Format] (session : Session) (name : String) (rotatedAt : Timestamp) (expiresAt : Option Timestamp)
    (now : Timestamp) : Handler := do
  match ← Rotation.record name session.actor rotatedAt expiresAt now with
  | .error e => pure (.error (recordFailure e))
  | .ok _ => do
    countRotation "recorded"
    pure (.ok (redirect ("/keys/" ++ urlencode name ++ "?notice=recorded")))

def record [CharTables] [Format] (state : AppState) (session : Session) (headers : HeaderMap) (name : String) (form : RecordForm) :
    Handler :=
  orFail (pure (session.checkCsrf headers form.csrf)) fun _ => do
    let now ← timestampNow
    if session.freshEnough state.stepUpMaxAge now then
      orFail (pure (recordDates form now)) fun dates => saveRecord session name dates.1 dates.2 now
    else pure (.ok (redirect (reauthLocation name)))

structure RotateForm where
  csrf : Option String
  key : String
  expiresAt : String
  skipVerification : Option String
  deriving DecidableEq

def RotateForm.read [Crates] (request : Request) : Except Rejection RotateForm := do
  let fields ← formFields request ["_csrf","key","expires_at","skip_verification"]
  let key ← required fields "key"
  .ok ⟨fields.lookup "_csrf",key,(fields.lookup "expires_at").getD "",fields.lookup "skip_verification"⟩

def probeLine [Format] (result : RotateResult) : String :=
  match result.outcome.map RotateOutcome.probe with
  | some (.checked r) => "Checked with the provider: the key " ++
    (match r.identity with | some i => "belongs to " ++ i | none => "is valid") ++
    (match r.expiresAt with | some e => ", expires " ++ fmtDate e | none => ", no expiry reported") ++ "."
  | some .skipped => "Verification skipped."
  | _ => ""

-- The template: an error hides the outcome, and without either nothing is shown.
def render [Format] (result : RotateResult) : Option RotatePanel :=
  if result.error ≠ "" then some {heading := "Nothing was written", message := result.error}
  else result.outcome.map fun o => {
    heading := if o.completed then "Key rotated" else "Some targets failed"
    message := if o.completed then
        "Written to every target and recorded. The key has been cleared from the form."
      else "The rotation was not recorded. Fix the problem and submit again; the key is still in the form."
    probeLine := probeLine result
    mismatch := o.expiryMismatch
    targets := o.targets
    stillToDo := if o.completed then some (result.consumers,"/keys/" ++ result.name) else none}

def rotatePage [Format] (result : RotateResult) : Response := html (.rotateResult (render result))

def rotateRequest (session : Session) (form : RotateForm) (manualExpiresAt : Option Timestamp) : RotateRequest :=
  ⟨form.key,session.actor,manualExpiresAt,form.skipVerification.isSome⟩

def rotated [CharTables] [Format] (name : String) (consumers : List String) (result : Except RotateError RotateOutcome) : Response :=
  match result with
  | .error e => rotatePage ⟨name,e.text,none,consumers⟩
  | .ok outcome =>
    if outcome.completed then (rotatePage ⟨name,"",some outcome,consumers⟩).insertHeader "hx-trigger" "rotation-complete"
    else rotatePage ⟨name,"",some outcome,consumers⟩

-- Errors are rendered into the dialog (htmx only swaps 2xx responses).
def rotate [UrlCrate] [Format] (state : AppState) (session : Session) (headers : HeaderMap) (name : String)
    (form : RotateForm) : Handler :=
  orFail (pure (session.checkCsrf headers form.csrf)) fun _ => do
    let found ← getKey name
    let consumers := match found with
      | some named => named.key.spec.consumers
      | none => []
    match parseDate form.expiresAt with
    | .error e => pure (.ok (rotatePage ⟨name,e.text,none,consumers⟩))
    | .ok manualExpiresAt => do
      let result ← Rotation.rotate state.allowed name (rotateRequest session form manualExpiresAt)
      pure (.ok (rotated name consumers result))

end YouSpinMe.Pages
