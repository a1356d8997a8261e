import YouSpinMe.PageAddress

namespace YouSpinMe.Refusals
open RequestProgram Effects PageAddress Validation Identity Http Auth Web Text Jiff Crd

def securityNames : List String :=
  ["content-security-policy","x-content-type-options","x-frame-options","referrer-policy","cache-control"]

theorem insertHeader_lookup {name other : String} (different : name ≠ other) (response : Response) (value : String) :
    (response.insertHeader other value).headers.lookup name = response.headers.lookup name := by
  have last : [(other,value)].lookup name = none := by simp [List.lookup_cons,beq_false_of_ne different]
  rw [Response.insertHeader,List.lookup_append,last,Option.or_none]
  induction response.headers with
  | nil => rfl
  | cons header rest ih =>
    obtain ⟨key,text⟩ := header
    rw [List.lookup_cons]
    by_cases same : key = other
    · subst same
      have dropped : ((key,text) :: rest).filter (fun header => header.1 ≠ key) =
          rest.filter (fun header => header.1 ≠ key) := by
        simp
      rw [dropped,ih,beq_false_of_ne different]
    · have kept : ((key,text) :: rest).filter (fun header => header.1 ≠ other) =
          (key,text) :: rest.filter (fun header => header.1 ≠ other) := by
        simp [same]
      rw [kept,List.lookup_cons,ih]

theorem secured_lookup (plain : name ∉ securityNames) (isAsset : Bool) (response : Response) :
    (withSecurityHeaders isAsset response).headers.lookup name = response.headers.lookup name := by
  simp only [securityNames,List.mem_cons,List.not_mem_nil,or_false,not_or] at plain
  obtain ⟨csp,options,frame,referrer,cache⟩ := plain
  unfold withSecurityHeaders
  split
  · simp only [insertHeader_lookup csp,insertHeader_lookup options,insertHeader_lookup frame,insertHeader_lookup referrer]
  · simp only [insertHeader_lookup csp,insertHeader_lookup options,insertHeader_lookup frame,insertHeader_lookup referrer,
      insertHeader_lookup cache]

-- A request that asked for anything got past the origin check.
theorem router_parts [Crates] [UrlCrate] [Format] (path : Returns (router state request) trace response)
    (asked : trace ≠ []) :
    ∃ inner, Returns (routes state request) trace inner ∧
      ∀ name, name ∉ securityNames → response.headers.lookup name = inner.headers.lookup name := by
  rw [router,securityHeaders,returns_bind] at path
  obtain ⟨inner,earlier,later,rfl,checked,finished⟩ := path
  obtain ⟨rfl,rfl⟩ := returns_done.mp finished
  rw [List.append_nil] at asked ⊢
  unfold originCheck at checked
  split at checked
  · exact ⟨inner,checked,fun name plain => secured_lookup plain ..⟩
  · exact absurd (returns_done.mp checked).1 asked

theorem router_runs [Crates] [UrlCrate] [Format] {request : Request} {inner : Response} (method : request.method = .get)
    (path : Returns (routes state request) trace inner) :
    Returns (router state request) trace
      (withSecurityHeaders ("/assets/".toList.isPrefixOf request.path.toList) inner) := by
  have checked : Returns (originCheck state.publicOrigin request (routes state request)) trace inner := by
    simpa [originCheck,safeMethod,method] using path
  exact returns_bind.mpr ⟨inner,trace,[],(List.append_nil _).symm,checked,.nil⟩

theorem get_parts (path : Returns (Web.get request handler) trace response) (asked : trace ≠ []) :
    (request.method = .get ∨ request.method = .head) ∧
      ∃ inner, Returns handler trace inner ∧ response.headers = inner.headers := by
  unfold Web.get at path
  split at path
  · rename_i method
    exact ⟨.inl method,response,path,rfl⟩
  · rename_i method
    obtain ⟨inner,earlier,later,rfl,handled,finished⟩ := returns_bind.mp path
    obtain ⟨rfl,rfl⟩ := returns_done.mp finished
    rw [List.append_nil]
    exact ⟨.inr method,inner,handled,rfl⟩
  · exact absurd (returns_done.mp path).1 asked

theorem post_parts (path : Returns (post request handler) trace response) (asked : trace ≠ []) :
    request.method = .post ∧ Returns handler trace response := by
  unfold post at path
  split at path
  · rename_i method
    exact ⟨method,path⟩
  · exact absurd (returns_done.mp path).1 asked

-- No session came with the request, or one that is over.
def Missing (now : Timestamp) (opened : Option CookieValue) : Prop :=
  ∀ session, opened = some (.session session) → session.isExpired now = true

-- A guarded route looked for a session and turned the request away.
structure Refused [Crates] [UrlCrate] [Format] (state : AppState) (request : Request) (response : Response) : Prop where
  run : ∃ now opened rest,
    Returns (router state request) (⟨.now,now⟩ :: ⟨.openCookie SESSION_COOKIE,opened⟩ :: rest) response ∧
    Missing now opened

theorem missing_filter (missing : Missing now opened) :
    (opened.bind CookieValue.asSession).filter (fun s => !s.isExpired now) = none := by
  rw [Option.filter_eq_none_iff]
  intro session held valid
  rcases opened with _ | found | pending
  · cases held
  · cases held
    simp [missing session rfl] at valid
  · cases held

section Refusals
variable [Crates] {state : AppState} {oidc : Oidc} {request : Request} {opened : Option CookieValue}

theorem user_refused {next : Except AuthRejection Session → App α} (oidcMode : state.auth = .oidc oidc)
    (missing : Missing now opened)
    (path : Returns (user state request >>= next) (⟨.now,now⟩ :: ⟨.openCookie SESSION_COOKIE,opened⟩ :: rest) result) :
    Returns (next (.error (loginRejection request))) rest result := by
  simp only [user,oidcMode,bind_ask,bind_request,returns_request] at path
  obtain ⟨read,_,first,held,_,second,path⟩ := path
  cases first
  cases second
  rw [missing_filter missing] at path
  exact path

theorem withUser_refused (oidcMode : state.auth = .oidc oidc) (missing : Missing now opened)
    (path : Returns (withUser state request next) (⟨.now,now⟩ :: ⟨.openCookie SESSION_COOKIE,opened⟩ :: rest) response) :
    response = (loginRejection request).intoResponse := by
  rw [withUser] at path
  have turned := user_refused oidcMode missing path
  exact (returns_done.mp turned).2

theorem withAdmin_refused (oidcMode : state.auth = .oidc oidc) (missing : Missing now opened)
    (path : Returns (withAdmin state request next) (⟨.now,now⟩ :: ⟨.openCookie SESSION_COOKIE,opened⟩ :: rest) response) :
    response = (loginRejection request).intoResponse := by
  rw [withAdmin,admin,bind_assoc] at path
  have turned := user_refused oidcMode missing path
  exact (returns_done.mp turned).2

-- The pages refuse a GET or HEAD, the forms a POST. No other route looks for a
-- session first.
theorem refused_parts [UrlCrate] [Format] (oidcMode : state.auth = .oidc oidc) (refused : Refused state request response) :
    routeOf request.path ≠ .unknown ∧ (servesGet (routeOf request.path) = true ↔ request.method ≠ .post) ∧
    ∀ name, name ∉ securityNames →
      response.headers.lookup name = (loginRejection request).intoResponse.headers.lookup name := by
  obtain ⟨now,opened,rest,run,missing⟩ := refused.run
  obtain ⟨inner,path,kept⟩ := router_parts run (by simp)
  unfold routes at path
  cases route : routeOf request.path with
  | index | detail segment =>
    rw [route] at path
    obtain ⟨method,page,handled,same⟩ := get_parts path (by simp)
    have turned := withUser_refused oidcMode missing handled
    refine ⟨by simp,?_,?_⟩
    · rcases method with method | method
      · simp [servesGet,method]
      · simp [servesGet,method]
    · intro name plain
      rw [kept name plain,same,turned]
  | record segment | rotate segment =>
    rw [route] at path
    obtain ⟨method,handled⟩ := post_parts path (by simp)
    have turned := withAdmin_refused oidcMode missing handled
    refine ⟨by simp,by simp [servesGet,method],?_⟩
    intro name plain
    rw [kept name plain,turned]
  | logout =>
    rw [route] at path
    obtain ⟨method,handled⟩ := post_parts path (by simp)
    have turned := withUser_refused oidcMode missing handled
    refine ⟨by simp,by simp [servesGet,method],?_⟩
    intro name plain
    rw [kept name plain,turned]
  | login =>
    rw [route] at path
    obtain ⟨_,page,handled,_⟩ := get_parts path (by simp)
    unfold loginRoute extract at handled
    split at handled
    · cases (returns_done.mp handled).1
    · simp only [respond,Auth.login,oidcMode,orFail,client,bind_ask,bind_request,returns_request] at handled
      obtain ⟨_,_,first,_⟩ := handled
      cases first
  | callback =>
    rw [route] at path
    obtain ⟨_,page,handled,_⟩ := get_parts path (by simp)
    unfold callbackRoute extract at handled
    split at handled
    · cases (returns_done.mp handled).1
    · rename_i q read
      simp only [respond,Auth.callback,oidcMode] at handled
      cases asked : q.error with
      | some error =>
        rw [asked] at handled
        cases (returns_done.mp handled).1
      | none =>
        simp only [asked,bind_ask,bind_request,returns_request] at handled
        obtain ⟨_,_,first,_⟩ := handled
        cases first
  | asset file =>
    rw [route] at path
    obtain ⟨_,page,handled,_⟩ := get_parts path (by simp)
    unfold assetRoute extract at handled
    split at handled
    · cases (returns_done.mp handled).1
    · cases (returns_done.mp handled).1
  | unknown =>
    rw [route] at path
    cases (returns_done.mp path).1

end Refusals

-- Where a browser, or htmx, is told to go.
def sentTo (response : Response) : Option String :=
  (response.headers.lookup "location").or (response.headers.lookup "hx-redirect")

-- The page an htmx fragment is a part of.
def currentPage [Crates] (request : Request) : Option String :=
  if request.headers.contains "hx-request" then (request.headers.text "hx-current-url").bind Crates.urlPath else none

def wanted [Crates] (request : Request) : String := (currentPage request).getD request.pathAndQuery

theorem redirect_location (visible : (asBytes uri).all headerByte = true) :
    (redirect uri).headers = [("location",uri)] := by
  rw [redirect,if_pos visible]

theorem rejection_sent [Crates] (request : Request) :
    sentTo (loginRejection request).intoResponse = some (loginAddress (wanted request)) := by
  unfold loginRejection wanted currentPage
  split
  · rfl
  · have redirected : (AuthRejection.login request.pathAndQuery).intoResponse =
        redirect (loginAddress request.pathAndQuery) := rfl
    rw [redirected,sentTo,redirect_location (loginAddress_visible _)]
    rfl

end YouSpinMe.Refusals
