import YouSpinMe.RequestGuards

namespace YouSpinMe.RouterWalk
open RequestProgram Effects Validation Rotation RotationTraces RequestGuards Identity Http Auth Web Text Jiff Crd

-- Requests that learn something and leave nothing behind.
def Passive : Effect → Prop
  | .now | .randomBytes | .openCookie _ | .list | .get _ | .discover | .authorizeUrl _ _ | .exchangeCode _ _
  | .verifyToken _ _ => True
  | _ => False

-- The session that everyone has without a provider.
def devSession (csrf : String) (now : Timestamp) : Session :=
  ⟨"dev","dev-admin",true,csrf,some now.asSecond,wrap (now.asSecond + 3600)⟩

-- How a request comes by its session: from its cookie, or without one in development.
inductive Entered (state : AppState) (past : Trace) (session : Session) : Prop where
  | oidc (mode : state.auth = .oidc oidc) (seen : past = opening now session) (unexpired : session.isExpired now = false)
  | dev (mode : state.auth = .insecureDev csrf) (seen : past = [⟨.now,now⟩]) (same : session = devSession csrf now)

section Extractors
variable [Crates] {state : AppState} {request : Request}

theorem user_passive : Asks Passive (user state request) := by
  unfold user
  rw [bind_ask,asks_request]
  refine ⟨trivial,?_⟩
  intro now
  cases state.auth with
  | insecureDev csrf => trivial
  | oidc oidc =>
    rw [bind_ask,asks_request]
    refine ⟨trivial,?_⟩
    intro opened
    cases (opened.bind CookieValue.asSession).filter (fun s => !s.isExpired now) with
    | none => trivial
    | some session => trivial

theorem admin_passive : Asks Passive (admin state request) := by
  apply asks_bind user_passive
  intro result
  cases result with
  | error rejection => trivial
  | ok session =>
    simp only
    split
    · trivial
    · trivial

theorem user_entered (path : Returns (user state request) events (.ok session)) : Entered state events session := by
  cases mode : state.auth with
  | oidc oidc =>
    obtain ⟨now,seen,unexpired⟩ := user_returns mode path
    exact .oidc mode seen unexpired
  | insecureDev csrf =>
    simp only [user,bind_ask,returns_request,mode] at path
    obtain ⟨now,_,rfl,path⟩ := path
    obtain ⟨rfl,same⟩ := returns_done.mp path
    exact .dev mode rfl (Except.ok.inj same)

theorem admin_entered (path : Returns (admin state request) events (.ok session)) :
    Entered state events session ∧ session.admin = true := by
  rw [admin,returns_bind] at path
  obtain ⟨result,earlier,later,rfl,first,path⟩ := path
  cases result with
  | error rejection =>
    obtain ⟨_,equal⟩ := returns_done.mp path
    cases equal
  | ok found =>
    simp only at path
    split at path
    · rename_i isAdmin
      obtain ⟨rfl,equal⟩ := returns_done.mp path
      cases equal
      rw [List.append_nil]
      exact ⟨user_entered first,isAdmin⟩
    · obtain ⟨_,equal⟩ := returns_done.mp path
      cases equal

end Extractors

theorem client_passive : Asks Passive client := by
  unfold client
  rw [bind_ask,asks_request]
  refine ⟨trivial,?_⟩
  intro answer
  cases answer with
  | error e => trivial
  | ok found => trivial

theorem exchange_passive : Asks Passive (exchange code pkceVerifier) := by
  unfold exchange
  rw [bind_ask,asks_request]
  refine ⟨trivial,?_⟩
  intro answer
  rcases answer with (e | e) | _ | idToken
  · trivial
  · trivial
  · trivial
  · trivial

theorem verify_passive : Asks Passive (verify idToken nonce) := by
  unfold verify
  rw [bind_ask,asks_request]
  refine ⟨trivial,?_⟩
  intro answer
  cases answer with
  | error e => trivial
  | ok claims => trivial

-- Requests that leave nothing behind but a cookie.
def Silent : Effect → Prop
  | .sealCookie _ _ => True
  | op => Passive op

theorem Passive.silent (passive : Passive op) : Silent op := by
  cases op with
  | sealCookie => trivial
  | _ => exact passive

theorem orFail_asks {allowed : Effect → Prop} {program : App (Except AppError α)} {next : α → App (Except AppError β)}
    (first : Asks allowed program) (second : ∀ value, Asks allowed (next value)) : Asks allowed (orFail program next) := by
  apply asks_bind first
  intro result
  cases result with
  | error e => trivial
  | ok value => exact second value

theorem passive_silent {program : App α} (asks : Asks Passive program) : Asks Silent program :=
  asks.mono fun _ passive => passive.silent

theorem randomToken_silent : Asks Silent randomToken := ⟨trivial,fun _ => trivial⟩

section Silence
variable {state : AppState}

theorem login_silent (q : LoginQuery) : Asks Silent (login state q) := by
  unfold login
  cases state.auth with
  | insecureDev csrf => trivial
  | oidc oidc =>
    apply orFail_asks (passive_silent client_passive)
    intro _
    exact ⟨trivial,fun _ => ⟨trivial,fun _ => ⟨trivial,fun _ => trivial⟩⟩⟩

theorem callback_silent [Crates] (q : CallbackQuery) : Asks Silent (callback state q) := by
  unfold callback
  cases state.auth with
  | insecureDev csrf => trivial
  | oidc oidc =>
    cases q.error with
    | some error => trivial
    | none =>
      simp only
      rw [bind_ask,asks_request]
      refine ⟨trivial,?_⟩
      intro opened
      cases opened.bind CookieValue.asLogin with
      | none => trivial
      | some pending =>
        simp only
        rw [bind_ask,asks_request]
        refine ⟨trivial,?_⟩
        intro now
        apply orFail_asks ((asks_done _).mpr trivial)
        intro code
        apply orFail_asks (passive_silent client_passive)
        intro _
        apply orFail_asks (passive_silent exchange_passive)
        intro idToken
        apply orFail_asks (passive_silent verify_passive)
        intro claims
        apply orFail_asks ((asks_done _).mpr trivial)
        intro authTime
        apply asks_bind randomToken_silent
        intro csrf
        exact ⟨trivial,fun _ => trivial⟩

end Silence

section Walk
variable [Crates]

-- A request that has come to act: posted from the site's own pages, by an admin, with
-- the token of the session.
structure Acting (state : AppState) (request : Request) (past : Trace) (session : Session) : Prop where
  posted : request.method = .post
  sameOrigin : sameOrigin state.publicOrigin request = true
  entered : Entered state past session
  admin : session.admin = true
  csrf : session.checkCsrf request.headers (formToken request) = .ok ()

-- A rule that every request keeps: what it has to allow, route by route.
structure Walk [CharTables] (state : AppState) (request : Request) (rule : Trace → Effect → Prop) : Prop where
  passive : ∀ past op, Passive op → rule past op
  login : ∀ q, routeOf request.path = .login → Follows rule [] (login state q)
  callback : ∀ q, routeOf request.path = .callback → CallbackQuery.read request = .ok q → Follows rule [] (callback state q)
  record : ∀ [Format] (session : Session) (past : Trace) (segment name : String) (dates : Timestamp × Option Timestamp) (handled : Timestamp),
    routeOf request.path = .record segment → Acting state request past session →
    session.freshEnough state.stepUpMaxAge handled = true →
    Follows rule (past ++ [⟨.now,handled⟩]) (Pages.saveRecord session name dates.1 dates.2 handled)
  rotate : ∀ [UrlCrate] (session : Session) (past : Trace) (segment name : String) (form : Pages.RotateForm) (manual : Option Timestamp)
      (found : Option (Named name)),
    routeOf request.path = .rotate segment → Acting state request past session →
    Follows rule (past ++ [⟨.get name,found⟩]) (Rotation.rotate state.allowed name (Pages.rotateRequest session form manual))

variable {state : AppState} {request : Request} {rule : Trace → Effect → Prop} {past : Trace} {segment : String}

-- A form that is saved asks for what a record asks for, and is counted.
omit [Crates] in
theorem saveRecord_follows [CharTables] [Format] {session : Session} {rotatedAt now : Timestamp} {expiresAt : Option Timestamp}
    (asked : ∀ later op, RecordRequests name session.actor rotatedAt expiresAt op → rule (past ++ later) op)
    (counted : ∀ later result, rule (past ++ later) (.countRotation result)) :
    Follows rule past (Pages.saveRecord session name rotatedAt expiresAt now) := by
  apply follows_bind (record_asks.follows asked)
  intro result events _
  cases result with
  | error e => trivial
  | ok key => exact ⟨counted events "recorded",fun _ => trivial⟩

-- Where silent requests are allowed anyway, only the two that act are left.
theorem Walk.acting [CharTables] (silent : ∀ past op, Silent op → rule past op)
    (record : ∀ [Format] (session : Session) (past : Trace) (name : String) (dates : Timestamp × Option Timestamp)
      (handled : Timestamp), Acting state request past session →
      Follows rule (past ++ [⟨.now,handled⟩]) (Pages.saveRecord session name dates.1 dates.2 handled))
    (rotate : ∀ [UrlCrate] (session : Session) (past : Trace) (name : String) (form : Pages.RotateForm)
      (manual : Option Timestamp) (found : Option (Named name)), Acting state request past session →
      Follows rule (past ++ [⟨.get name,found⟩]) (Rotation.rotate state.allowed name (Pages.rotateRequest session form manual))) :
    Walk state request rule := by
  have quiet : ∀ {program : Handler}, Asks Silent program → Follows rule [] program :=
    fun asks => asks.follows fun _ op silence => silent _ op silence
  refine ⟨fun past op passive => silent past op passive.silent,fun q _ => quiet (login_silent q),
    fun q _ _ => quiet (callback_silent q),?_,?_⟩
  · intro _ session past _ name dates handled _ acting _
    exact record session past name dates handled acting
  · intro _ session past _ name form manual found _ acting
    exact rotate session past name form manual found acting

theorem passive_follows [CharTables] {program : App α} (walk : Walk state request rule) (asks : Asks Passive program) :
    Follows rule past program :=
  asks.follows fun _ op quiet => walk.passive _ op quiet

theorem withAdmin_walk [CharTables] {next : Session → App Response} (walk : Walk state request rule)
    (second : ∀ events session, Entered state events session → session.admin = true → Follows rule events (next session)) :
    Follows rule [] (withAdmin state request next) := by
  apply follows_bind (passive_follows walk admin_passive)
  intro result events path
  cases result with
  | error rejection => trivial
  | ok session =>
    obtain ⟨entered,isAdmin⟩ := admin_entered path
    exact second events session entered isAdmin

theorem withUser_walk [CharTables] {next : Session → App Response} (walk : Walk state request rule)
    (second : ∀ events session, Follows rule events (next session)) : Follows rule [] (withUser state request next) := by
  apply follows_bind (passive_follows walk user_passive)
  intro result events path
  cases result with
  | error rejection => trivial
  | ok session => exact second events session

theorem recordRoute_walk [CharTables] [Format] (walk : Walk state request rule) (route : routeOf request.path = .record segment)
    (posted : request.method = .post) (origin : sameOrigin state.publicOrigin request = true) :
    Follows rule [] (recordRoute state request segment) := by
  apply withAdmin_walk walk
  intro past session entered isAdmin
  apply extract_follows
  intro name _
  apply extract_follows
  intro form read
  apply respond_follows
  apply orFail_pure
  intro _ matched
  rw [recordForm_token read] at matched
  rw [bind_ask,follows_request]
  refine ⟨walk.passive _ _ trivial,?_⟩
  intro handled
  split
  · rename_i fresh
    apply orFail_pure
    intro dates _
    exact walk.record session past segment name dates handled route ⟨posted,origin,entered,isAdmin,matched⟩ fresh
  · trivial

theorem rotateRoute_walk [UrlCrate] [Format] (walk : Walk state request rule) (route : routeOf request.path = .rotate segment)
    (posted : request.method = .post) (origin : sameOrigin state.publicOrigin request = true) :
    Follows rule [] (rotateRoute state request segment) := by
  apply withAdmin_walk walk
  intro past session entered isAdmin
  apply extract_follows
  intro name _
  apply extract_follows
  intro form read
  apply respond_follows
  apply orFail_pure
  intro _ matched
  rw [rotateForm_token read] at matched
  rw [bind_ask,follows_request]
  refine ⟨walk.passive _ _ trivial,?_⟩
  intro found
  simp only
  cases Pages.parseDate form.expiresAt with
  | error e => trivial
  | ok manual =>
    apply follows_bind
    · exact walk.rotate session past segment name form manual found route ⟨posted,origin,entered,isAdmin,matched⟩
    · intro result events _
      trivial

theorem indexRoute_walk [CharTables] (walk : Walk state request rule) : Follows rule [] (indexRoute state request) := by
  apply withUser_walk walk
  intro events session
  apply extract_follows
  intro filters _
  apply respond_follows
  refine ⟨walk.passive _ _ trivial,fun now => ⟨walk.passive _ _ trivial,?_⟩⟩
  intro keys
  simp only
  split
  · trivial
  · trivial

theorem detailRoute_walk [CharTables] (walk : Walk state request rule) : Follows rule [] (detailRoute state request segment) := by
  apply withUser_walk walk
  intro events session
  apply extract_follows
  intro name _
  apply extract_follows
  intro notice _
  apply respond_follows
  unfold Pages.detail
  rw [bind_ask,follows_request]
  refine ⟨walk.passive _ _ trivial,?_⟩
  intro found
  cases found with
  | none => trivial
  | some named => exact ⟨walk.passive _ _ trivial,fun now => trivial⟩

theorem logoutRoute_walk [CharTables] (walk : Walk state request rule) : Follows rule [] (logoutRoute state request) := by
  apply withUser_walk walk
  intro events session
  apply extract_follows
  intro form _
  apply respond_follows
  unfold logout
  split
  · trivial
  · trivial

omit [Crates] in
theorem get_walk {handler : App Response} (follows : Follows rule past handler) :
    Follows rule past (Web.get request handler) := by
  unfold Web.get
  split
  · exact follows
  · apply follows_bind follows
    intro response events _
    trivial
  · trivial

omit [Crates] in
theorem post_walk {handler : App Response} (follows : request.method = .post → Follows rule past handler) :
    Follows rule past (post request handler) := by
  unfold post
  split
  · rename_i posted
    exact follows posted
  · trivial

theorem routes_walk [UrlCrate] [Format] (walk : Walk state request rule)
    (checked : (safeMethod request.method || sameOrigin state.publicOrigin request) = true) :
    Follows rule [] (routes state request) := by
  have origin : request.method = .post → sameOrigin state.publicOrigin request = true := by
    intro posted
    rw [posted] at checked
    exact checked
  unfold routes
  cases route : routeOf request.path with
  | index => exact get_walk (indexRoute_walk walk)
  | detail segment => exact get_walk (detailRoute_walk walk)
  | record segment => exact post_walk fun posted => recordRoute_walk walk route posted (origin posted)
  | rotate segment => exact post_walk fun posted => rotateRoute_walk walk route posted (origin posted)
  | login =>
    apply get_walk
    apply extract_follows
    intro q _
    exact respond_follows (walk.login q route)
  | callback =>
    apply get_walk
    apply extract_follows
    intro q read
    exact respond_follows (walk.callback q route read)
  | logout => exact post_walk fun _ => logoutRoute_walk walk
  | asset path =>
    apply get_walk
    apply extract_follows
    intro name _
    trivial
  | unknown => trivial

-- Whatever is kept on every route is kept by the router.
theorem router_walk [UrlCrate] [Format] (walk : Walk state request rule) : Follows rule [] (router state request) := by
  apply follows_bind
  · unfold originCheck
    split
    · rename_i checked
      exact routes_walk walk checked
    · trivial
  · intro response events _
    trivial

end Walk
end YouSpinMe.RouterWalk
