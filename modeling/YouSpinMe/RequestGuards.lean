import YouSpinMe.RotationTraces
import YouSpinMe.Web
import YouSpinMe.TokenComparison

namespace YouSpinMe.RequestGuards
open RequestProgram Effects Validation RotationTraces TokenComparison Identity Http Auth Web Text Jiff Crd

def Changes : Effect → Prop
  | .write _ _ | .updateStatus _ _ => True
  | _ => False

def Seals : Effect → Prop
  | .sealCookie _ _ => True
  | _ => False

def Quiet (op : Effect) : Prop := ¬ Changes op ∧ ¬ Seals op

-- What the extractor of a session reads before a handler runs.
def opening (now : Timestamp) (session : Session) : Trace :=
  [⟨.now,now⟩,⟨.openCookie SESSION_COOKIE,some (.session session)⟩]

section Handlers
variable {allowed : Effect → Prop} {rule : Trace → Effect → Prop} {past : Trace}

theorem respond_follows {handler : Handler} (follows : Follows rule past handler) :
    Follows rule past (respond handler) := by
  apply follows_bind follows
  intro result events _
  cases result with
  | error e => trivial
  | ok response => trivial

theorem orFail_follows {step : App (Except AppError α)} {next : α → App (Except AppError β)}
    (first : Follows rule past step)
    (second : ∀ value events, Returns step events (.ok value) → Follows rule (past ++ events) (next value)) :
    Follows rule past (orFail step next) := by
  apply follows_bind first
  intro result events path
  cases result with
  | error e => trivial
  | ok value => exact second value events path

theorem orFail_pure {parsed : Except AppError α} {next : α → App (Except AppError β)}
    (second : ∀ value, parsed = .ok value → Follows rule past (next value)) :
    Follows rule past (orFail (pure parsed) next) := by
  cases parsed with
  | error e => trivial
  | ok value => exact second value rfl

theorem extract_follows {parsed : Except Rejection α} {next : α → App Response}
    (second : ∀ value, parsed = .ok value → Follows rule past (next value)) :
    Follows rule past (extract parsed next) := by
  cases parsed with
  | error r => trivial
  | ok value => exact second value rfl

end Handlers

section Extractors
variable [Crates] {state : AppState} {request : Request}

theorem user_asks : Asks Quiet (user state request) := by
  unfold user
  rw [bind_ask,asks_request]
  refine ⟨⟨id,id⟩,?_⟩
  intro now
  cases state.auth with
  | insecureDev csrf => trivial
  | oidc oidc =>
    rw [bind_ask,asks_request]
    refine ⟨⟨id,id⟩,?_⟩
    intro opened
    cases (opened.bind CookieValue.asSession).filter (fun s => !s.isExpired now) with
    | none => trivial
    | some session => trivial

theorem user_returns (oidcMode : state.auth = .oidc oidc) (path : Returns (user state request) events (.ok session)) :
    ∃ now, events = opening now session ∧ session.isExpired now = false := by
  simp only [user,bind_ask,returns_request,oidcMode] at path
  obtain ⟨now,_,rfl,opened,_,rfl,path⟩ := path
  split at path
  · rename_i found presented
    obtain ⟨rfl,equal⟩ := returns_done.mp path
    cases equal
    obtain ⟨decoded,unexpired⟩ := Option.filter_eq_some_iff.mp presented
    cases opened with
    | none => cases decoded
    | some value =>
      cases value with
      | login l => cases decoded
      | session s =>
        cases decoded
        exact ⟨now,rfl,by simpa using unexpired⟩
  · obtain ⟨_,equal⟩ := returns_done.mp path
    cases equal

theorem admin_asks : Asks Quiet (admin state request) := by
  apply asks_bind user_asks
  intro result
  cases result with
  | error rejection => trivial
  | ok session =>
    simp only
    split
    · trivial
    · trivial

theorem admin_returns (oidcMode : state.auth = .oidc oidc) (path : Returns (admin state request) events (.ok session)) :
    ∃ now, events = opening now session ∧ session.isExpired now = false ∧ session.admin = true := by
  rw [admin,returns_bind] at path
  obtain ⟨result,earlier,later,rfl,first,path⟩ := path
  cases result with
  | error rejection =>
    obtain ⟨_,equal⟩ := returns_done.mp path
    cases equal
  | ok found =>
    simp only at path
    split at path
    · rename_i isAdmin
      obtain ⟨rfl,equal⟩ := returns_done.mp path
      cases equal
      obtain ⟨now,rfl,unexpired⟩ := user_returns oidcMode first
      exact ⟨now,List.append_nil _,unexpired,isAdmin⟩
    · obtain ⟨_,equal⟩ := returns_done.mp path
      cases equal

theorem withUser_follows {rule : Trace → Effect → Prop} {past : Trace} {next : Session → App Response}
    (implied : ∀ past op, Quiet op → rule past op)
    (second : ∀ session events, Follows rule (past ++ events) (next session)) :
    Follows rule past (withUser state request next) := by
  apply follows_bind (user_asks.follows fun later op quiet => implied _ op quiet)
  intro result events _
  cases result with
  | error rejection => trivial
  | ok session => exact second session events

theorem withAdmin_follows {rule : Trace → Effect → Prop} {next : Session → App Response}
    (oidcMode : state.auth = .oidc oidc) (implied : ∀ past op, Quiet op → rule past op)
    (second : ∀ now session, session.isExpired now = false → session.admin = true →
      Follows rule (opening now session) (next session)) : Follows rule [] (withAdmin state request next) := by
  apply follows_bind (admin_asks.follows fun later op quiet => implied _ op quiet)
  intro result events path
  cases result with
  | error rejection => trivial
  | ok session =>
    obtain ⟨now,rfl,unexpired,isAdmin⟩ := admin_returns oidcMode path
    exact second now session unexpired isAdmin

end Extractors

theorem client_asks : Asks Quiet client := by
  unfold client
  rw [bind_ask,asks_request]
  refine ⟨⟨id,id⟩,?_⟩
  intro answer
  cases answer with
  | error e => trivial
  | ok found => trivial

theorem exchange_asks : Asks Quiet (exchange code pkceVerifier) := by
  unfold exchange
  rw [bind_ask,asks_request]
  refine ⟨⟨id,id⟩,?_⟩
  intro answer
  rcases answer with (e | e) | _ | idToken
  · trivial
  · trivial
  · trivial
  · trivial

theorem verify_asks : Asks Quiet (verify idToken nonce) := by
  unfold verify
  rw [bind_ask,asks_request]
  refine ⟨⟨id,id⟩,?_⟩
  intro answer
  cases answer with
  | error e => trivial
  | ok claims => trivial

theorem verify_returns (path : Returns (verify idToken nonce) events (.ok claims)) :
    ⟨.verifyToken idToken nonce,.ok claims⟩ ∈ events := by
  rw [verify,bind_ask,returns_request] at path
  obtain ⟨answer,rest,rfl,path⟩ := path
  cases answer with
  | error e =>
    obtain ⟨_,equal⟩ := returns_done.mp path
    cases equal
  | ok found =>
    obtain ⟨rfl,equal⟩ := returns_done.mp path
    cases equal
    exact List.mem_singleton.mpr rfl

theorem saveRecord_asks [CharTables] [Format] :
    Asks (fun op => ¬ Seals op) (Pages.saveRecord session name rotatedAt expiresAt now) := by
  apply asks_bind
  · apply record_asks.mono
    intro op request
    cases request with
    | updateStatus => exact id
    | recordEvent => exact id
  · intro result
    cases result with
    | error e => trivial
    | ok key => exact ⟨id,fun _ => trivial⟩

theorem rotate_unsealing [UrlCrate] : Asks (fun op => ¬ Seals op) (Rotation.rotate allowed name req) := by
  apply rotate_asks.mono
  intro op request
  cases request <;> exact id

-- The code of a callback is used only when its login is still open and the
-- provider returned the state of that login.
theorem returnedCode_exact {pending : LoginState} (fits : returnedCode q pending now = .ok code) :
    now.asSecond ≤ pending.exp ∧ constantTimeEq (asBytes (q.state.getD "")) (asBytes pending.state) = true := by
  obtain ⟨unexpired,returned,_⟩ := returnedCode_accepts.mp fits
  exact ⟨unexpired,(constantTimeEq_text _ _).mpr returned⟩

section Rules
variable [Crates]

-- What a request that changes something has to bring, besides a session that
-- this server minted.
structure Admitted (state : AppState) (request : Request) (now : Timestamp) (session : Session) : Prop where
  posted : request.method = .post
  sameOrigin : sameOrigin state.publicOrigin request = true
  unexpired : session.isExpired now = false
  admin : session.admin = true
  csrf : session.checkCsrf request.headers (formToken request) = .ok ()

-- `record` reads the clock once more and checks the age of the login against
-- that; `rotate` has no such check.
inductive Guarded (state : AppState) (request : Request) (past : Trace) : Prop where
  | record (route : routeOf request.path = .record rawName) (admitted : Admitted state request now session)
      (prior : opening now session ++ [⟨.now,handled⟩] <+: past)
      (fresh : session.freshEnough state.stepUpMaxAge handled = true)
  | rotate (route : routeOf request.path = .rotate rawName) (admitted : Admitted state request now session)
      (prior : opening now session <+: past)

def queryState (request : Request) : Option String :=
  (Crates.pairs (asBytes (request.query.getD ""))).lookup "state"

-- What a login and a callback have to have seen when they seal their cookie.
inductive Sealed (oidc : Oidc) (request : Request) (past : Trace) : String → CookieValue → Prop where
  | login {pending : LoginState} (route : routeOf request.path = .login) (filled : pending.state ≠ "") :
      Sealed oidc request past LOGIN_COOKIE (.login pending)
  | session {pending : LoginState} (route : routeOf request.path = .callback)
      (opened : ⟨.openCookie LOGIN_COOKIE,some (.login pending)⟩ ∈ past) (clock : ⟨.now,now⟩ ∈ past)
      (unexpired : now.asSecond ≤ pending.exp)
      (returned : constantTimeEq (asBytes ((queryState request).getD "")) (asBytes pending.state) = true)
      (verified : ⟨.verifyToken idToken pending.nonce,.ok claims⟩ ∈ past)
      (admin : session.admin = claimContains (payloadOf idToken) oidc.adminClaim oidc.adminValue)
      (csrf : session.csrf ≠ "") (authTime : session.authTime = claims.authTime.map DateTime.timestamp) :
      Sealed oidc request past SESSION_COOKIE (.session session)

def rule (state : AppState) (oidc : Oidc) (request : Request) (past : Trace) : Effect → Prop
  | .write _ _ | .updateStatus _ _ => Guarded state request past
  | .sealCookie name value => Sealed oidc request past name value
  | _ => True

variable {state : AppState} {oidc : Oidc} {request : Request} {past : Trace}

theorem rule_quiet (op : Effect) (quiet : Quiet op) : rule state oidc request past op := by
  cases op with
  | write | updateStatus => exact absurd trivial quiet.1
  | sealCookie => exact absurd trivial quiet.2
  | _ => trivial

theorem rule_guarded (op : Effect) (guarded : Guarded state request past) (open_ : ¬ Seals op) :
    rule state oidc request past op := by
  cases op with
  | write | updateStatus => exact guarded
  | sealCookie => exact absurd trivial open_
  | _ => trivial

theorem quiet_follows {program : App α} (asks : Asks Quiet program) : Follows (rule state oidc request) past program :=
  asks.follows fun _ op quiet => rule_quiet op quiet

theorem login_follows (oidcMode : state.auth = .oidc oidc) (route : routeOf request.path = .login) :
    Follows (rule state oidc request) past (login state q) := by
  simp only [login,oidcMode]
  apply orFail_follows (quiet_follows client_asks)
  intro _ events _
  rw [bind_ask,follows_request]
  refine ⟨trivial,?_⟩
  intro challenge
  rw [bind_ask,follows_request]
  refine ⟨trivial,?_⟩
  intro now
  rw [bind_ask,follows_request]
  refine ⟨.login route challenge.filled,?_⟩
  intro _
  trivial

theorem read_state (read : CallbackQuery.read request = .ok q) : q.state = queryState request := by
  unfold CallbackQuery.read queryFields at read
  cases found : readFields ["code","state","error","error_description"] anyText []
      (Crates.pairs (asBytes (request.query.getD ""))) with
  | error e =>
    rw [found] at read
    cases read
  | ok fields =>
    rw [found] at read
    cases read
    exact readFields_lookup found (by decide)

theorem callback_follows (oidcMode : state.auth = .oidc oidc) (route : routeOf request.path = .callback)
    (read : CallbackQuery.read request = .ok q) : Follows (rule state oidc request) past (callback state q) := by
  simp only [callback,oidcMode]
  cases q.error with
  | some error => trivial
  | none =>
    rw [bind_ask,follows_request]
    refine ⟨trivial,?_⟩
    intro opened
    cases opened with
    | none => trivial
    | some value =>
      cases value with
      | session s => trivial
      | login l =>
        change Follows _ _ (ask Effect.now >>= _)
        rw [bind_ask,follows_request]
        refine ⟨trivial,?_⟩
        intro now
        apply orFail_pure
        intro code fits
        obtain ⟨unexpired,returned⟩ := returnedCode_exact fits
        rw [read_state read] at returned
        apply orFail_follows (quiet_follows client_asks)
        intro _ discovery _
        apply orFail_follows (quiet_follows exchange_asks)
        intro idToken exchanged _
        apply orFail_follows (quiet_follows verify_asks)
        intro claims verification path
        have verified := verify_returns path
        apply orFail_pure
        intro authTime kept
        rw [randomToken,bind_assoc,bind_ask,follows_request]
        refine ⟨trivial,?_⟩
        intro bytes
        rw [pure_done,bind_done,bind_ask,follows_request]
        refine ⟨?_,fun _ => trivial⟩
        have filled : bytes.val ≠ [] := by
          intro empty
          have length := bytes.property
          rw [empty] at length
          cases length
        exact .session route (by simp) (by simp) unexpired returned (by simp [verified]) rfl
          (base64Encode_filled filled) (loginAuthTime_kept kept)

-- A form is made of the fields it was read from.
theorem form_parts {make : List (String × String) → String → α}
    (read : (do let fields ← formFields request known; let value ← required fields name; .ok (make fields value)) = .ok form) :
    ∃ fields value, formFields request known = .ok fields ∧ make fields value = form := by
  cases found : formFields request known with
  | error r =>
    rw [found] at read
    cases read
  | ok fields =>
    rw [found] at read
    change (required fields name).bind _ = _ at read
    cases present : required fields name with
    | error r =>
      rw [present] at read
      cases read
    | ok value =>
      rw [present] at read
      exact ⟨fields,value,rfl,Except.ok.inj read⟩

theorem recordForm_token (read : Pages.RecordForm.read request = .ok form) : form.csrf = formToken request := by
  obtain ⟨fields,rotatedAt,found,rfl⟩ := form_parts read
  exact formFields_token found (by decide)

theorem rotateForm_token (read : Pages.RotateForm.read request = .ok form) : form.csrf = formToken request := by
  obtain ⟨fields,key,found,rfl⟩ := form_parts read
  exact formFields_token found (by decide)

theorem recordRoute_follows [CharTables] [Format] (oidcMode : state.auth = .oidc oidc)
    (route : routeOf request.path = .record rawName) (posted : request.method = .post)
    (origin : sameOrigin state.publicOrigin request = true) :
    Follows (rule state oidc request) [] (recordRoute state request rawName) := by
  apply withAdmin_follows oidcMode fun _ => rule_quiet
  intro now session unexpired isAdmin
  apply extract_follows
  intro name _
  apply extract_follows
  intro form read
  apply respond_follows
  apply orFail_pure
  intro _ matched
  rw [recordForm_token read] at matched
  have admitted : Admitted state request now session := ⟨posted,origin,unexpired,isAdmin,matched⟩
  rw [bind_ask,follows_request]
  refine ⟨trivial,?_⟩
  intro handled
  split
  · rename_i fresh
    apply orFail_pure
    intro dates _
    apply saveRecord_asks.follows
    intro later op open_
    exact rule_guarded op (.record route admitted (List.prefix_append ..) fresh) open_
  · trivial

theorem rotateRoute_follows [UrlCrate] [Format] (oidcMode : state.auth = .oidc oidc)
    (route : routeOf request.path = .rotate rawName) (posted : request.method = .post)
    (origin : sameOrigin state.publicOrigin request = true) :
    Follows (rule state oidc request) [] (rotateRoute state request rawName) := by
  apply withAdmin_follows oidcMode fun _ => rule_quiet
  intro now session unexpired isAdmin
  apply extract_follows
  intro name _
  apply extract_follows
  intro form read
  apply respond_follows
  apply orFail_pure
  intro _ matched
  rw [rotateForm_token read] at matched
  have admitted : Admitted state request now session := ⟨posted,origin,unexpired,isAdmin,matched⟩
  rw [bind_ask,follows_request]
  refine ⟨trivial,?_⟩
  intro found
  simp only
  cases Pages.parseDate form.expiresAt with
  | error e => trivial
  | ok manualExpiresAt =>
    apply follows_bind
    · apply rotate_unsealing.follows
      intro later op open_
      rw [List.append_assoc]
      exact rule_guarded op (.rotate route admitted (List.prefix_append ..)) open_
    · intro result events _
      trivial

theorem indexRoute_follows : Follows (rule state oidc request) past (indexRoute state request) := by
  apply withUser_follows fun _ => rule_quiet
  intro session events
  apply extract_follows
  intro filters _
  apply respond_follows
  refine ⟨trivial,fun now => ⟨trivial,?_⟩⟩
  intro keys
  simp only
  split
  · trivial
  · trivial

theorem detailRoute_follows [CharTables] : Follows (rule state oidc request) past (detailRoute state request rawName) := by
  apply withUser_follows fun _ => rule_quiet
  intro session events
  apply extract_follows
  intro name _
  apply extract_follows
  intro notice _
  apply respond_follows
  unfold Pages.detail
  rw [bind_ask,follows_request]
  refine ⟨trivial,?_⟩
  intro found
  cases found with
  | none => trivial
  | some named => exact ⟨trivial,fun now => trivial⟩

theorem logoutRoute_follows : Follows (rule state oidc request) past (logoutRoute state request) := by
  apply withUser_follows fun _ => rule_quiet
  intro session events
  apply extract_follows
  intro form _
  apply respond_follows
  unfold logout
  split
  · trivial
  · trivial

-- Only GET and HEAD reach a handler under `get`, and only POST one under `post`.
theorem get_follows {handler : App Response} (follows : Follows (rule state oidc request) past handler) :
    Follows (rule state oidc request) past (Web.get request handler) := by
  unfold Web.get
  split
  · exact follows
  · apply follows_bind follows
    intro response events _
    trivial
  · trivial

theorem post_follows {handler : App Response}
    (follows : request.method = .post → Follows (rule state oidc request) past handler) :
    Follows (rule state oidc request) past (post request handler) := by
  unfold post
  split
  · rename_i posted
    exact follows posted
  · trivial

theorem routes_follows [UrlCrate] [Format] (oidcMode : state.auth = .oidc oidc)
    (checked : (safeMethod request.method || sameOrigin state.publicOrigin request) = true) :
    Follows (rule state oidc request) [] (routes state request) := by
  have origin : request.method = .post → sameOrigin state.publicOrigin request = true := by
    intro posted
    rw [posted] at checked
    exact checked
  unfold routes
  cases route : routeOf request.path with
  | index => exact get_follows indexRoute_follows
  | detail rawName => exact get_follows detailRoute_follows
  | record rawName => exact post_follows fun posted => recordRoute_follows oidcMode route posted (origin posted)
  | rotate rawName => exact post_follows fun posted => rotateRoute_follows oidcMode route posted (origin posted)
  | login =>
    apply get_follows
    apply extract_follows
    intro q _
    exact respond_follows (login_follows oidcMode route)
  | callback =>
    apply get_follows
    apply extract_follows
    intro q read
    exact respond_follows (callback_follows oidcMode route read)
  | logout => exact post_follows fun _ => logoutRoute_follows
  | asset path =>
    apply get_follows
    apply extract_follows
    intro name _
    trivial
  | unknown => trivial

theorem router_follows [UrlCrate] [Format] (oidcMode : state.auth = .oidc oidc) :
    Follows (rule state oidc request) [] (router state request) := by
  apply follows_bind
  · unfold originCheck
    split
    · rename_i checked
      exact routes_follows oidcMode checked
    · trivial
  · intro response events _
    trivial

end Rules
end YouSpinMe.RequestGuards
