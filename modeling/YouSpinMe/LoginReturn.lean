import YouSpinMe.Admission
import YouSpinMe.CallbackTraces
import YouSpinMe.Refusals

namespace YouSpinMe.LoginReturn
open RequestProgram Effects RequestGuards CallbackTraces Admission FormPairs PageAddress Refusals Validation Identity
  Http Auth Web Text Jiff Crd

-- What the crates for URLs and forms do: pairs are read as `form_urlencoded` reads
-- them, text survives the reading of bytes, and the path of a URL is encoded.
structure UrlTexts [Crates] (lossy : Bytes → String) : Prop where
  lossless : ∀ s, lossy (asBytes s) = s
  pairs : ∀ bytes, Crates.pairs bytes = formPairs lossy bytes
  urlPath : ∀ url path, Crates.urlPath url = some path → (asBytes path).all headerByte = true

theorem login_query [Crates] (texts : UrlTexts lossy) (gets : Gets (loginAddress next) request) :
    LoginQuery.read request = .ok ⟨some next,false⟩ := by
  obtain ⟨_,query⟩ := login_parts gets
  have front : asBytes "next=" = asBytes (urlencode "next") ++ [61] := by decide
  have part : asBytes ("next=" ++ urlencode next) = [38].intercalate ([("next",next)].map partBytes) := by
    rw [asBytes_append,front,List.map_singleton,List.intercalate_singleton,partBytes,List.append_assoc]
    rfl
  have pairs : Crates.pairs (asBytes (request.query.getD "")) = [("next",next)] := by
    rw [texts.pairs,query,Option.getD_some,part,formPairs_serialized texts.lossless]
  rw [LoginQuery.read,queryFields,pairs]
  rfl

-- A login that begins at an address, and the answer of the callback that ends it:
-- the one opens what the other sealed, and a session comes of it.
structure LoggedIn [Crates] [UrlCrate] [Format] (state : AppState) (address : String) (landed : Response) : Prop where
  run : ∃ visit visited shown pending back answered session,
    Gets address visit ∧ Returns (router state visit) visited shown ∧
    ⟨.sealCookie LOGIN_COOKIE (.login pending),()⟩ ∈ visited ∧ Returns (router state back) answered landed ∧
    ⟨.openCookie LOGIN_COOKIE,some (.login pending)⟩ ∈ answered ∧
    ⟨.sealCookie SESSION_COOKIE (.session session),()⟩ ∈ answered

-- A handler's own response is the one that is sent.
theorem respond_parts (path : Returns (respond handler) trace response) :
    ∃ result, Returns handler trace result ∧ ∀ answer, result = .ok answer → response = answer := by
  obtain ⟨result,earlier,later,rfl,run,finished⟩ := returns_bind.mp path
  cases result with
  | error e =>
    rw [(returns_done.mp finished).1,List.append_nil]
    exact ⟨_,run,fun answer same => nomatch same⟩
  | ok sent =>
    obtain ⟨rfl,rfl⟩ := returns_done.mp finished
    rw [List.append_nil]
    exact ⟨_,run,fun answer same => Except.ok.inj same⟩

theorem login_seals {state : AppState} (oidcMode : state.auth = .oidc oidc) (path : Returns (Auth.login state q) trace result)
    (kept : ⟨.sealCookie LOGIN_COOKIE (.login pending),()⟩ ∈ trace) : pending.next = safeNext q.next := by
  simp only [Auth.login,oidcMode] at path
  rcases orFail_returns.mp path with ⟨_,step,rfl⟩ | ⟨_,_,_,rfl,step,begun⟩
  · cases (client_parts step).1.unsealed _ kept
  · obtain rfl := (client_parts step).2 _ rfl
    simp only [bind_ask,pure_done,returns_request,returns_done] at begun
    obtain ⟨challenge,_,rfl,now,_,rfl,_,_,rfl,rfl,rfl⟩ := begun
    simp at kept
    rw [kept]

section Logins
variable [Crates] {state : AppState} {oidc : Oidc}

theorem visit_seals [UrlCrate] [Format] (oidcMode : state.auth = .oidc oidc) (texts : UrlTexts lossy)
    (gets : Gets (loginAddress next) visit) (path : Returns (router state visit) visited shown)
    (kept : ⟨.sealCookie LOGIN_COOKIE (.login pending),()⟩ ∈ visited) : pending.next = safeNext (some next) := by
  obtain ⟨inner,served,_⟩ := router_parts path (List.ne_nil_of_mem kept)
  have route : routeOf visit.path = .login := by
    rw [(login_parts gets).1]
    decide
  rw [routes,route] at served
  obtain ⟨_,page,handled,_⟩ := get_parts served (List.ne_nil_of_mem kept)
  rw [loginRoute,login_query texts gets] at handled
  obtain ⟨result,run,_⟩ := respond_parts handled
  exact login_seals oidcMode run kept

theorem sealed_route (ruled : Sealed oidc back past name value) (session : value = .session minted) :
    routeOf back.path = .callback := by
  cases ruled with
  | login => cases session
  | session route => exact route

-- The callback that leaves a session behind goes to the address of its login.
theorem callback_lands [UrlCrate] [Format] (oidcMode : state.auth = .oidc oidc)
    (path : Returns (router state back) answered landed)
    (opened : ⟨.openCookie LOGIN_COOKIE,some (.login pending)⟩ ∈ answered)
    (kept : ⟨.sealCookie SESSION_COOKIE (.session session),()⟩ ∈ answered) :
    landed.headers.lookup "location" = (redirect pending.next).headers.lookup "location" := by
  have route : routeOf back.path = .callback := by
    obtain ⟨before,after,rfl⟩ := List.append_of_mem kept
    exact sealed_route ((router_follows oidcMode).steps path) rfl
  obtain ⟨inner,served,plain⟩ := router_parts path (List.ne_nil_of_mem kept)
  rw [routes,route] at served
  obtain ⟨_,page,handled,same⟩ := get_parts served (List.ne_nil_of_mem kept)
  rw [plain "location" (by decide),same]
  unfold callbackRoute extract at handled
  split at handled
  · rw [(returns_done.mp handled).1] at kept
    cases kept
  · obtain ⟨result,run,answer⟩ := respond_parts handled
    cases callback_returns oidcMode run with
    | failed unproved => cases unproved.unsealed _ kept
    | denied fits timed => simp [denied] at kept
    | completed fits timed =>
      simp [completed] at opened
      rw [answer _ rfl,opened]
      rfl

end Logins

theorem currentPage_visible [Crates] (texts : UrlTexts lossy) (known : currentPage request = some page) :
    (asBytes page).all headerByte = true := by
  unfold currentPage at known
  split at known
  · obtain ⟨url,_,parsed⟩ := Option.bind_eq_some_iff.mp known
    exact texts.urlPath url page parsed
  · cases known

section Returned
variable [Crates] [UrlCrate] [Format] {state : AppState} {oidc : Oidc} {request : Request}

theorem refused_sent (oidcMode : state.auth = .oidc oidc) (refused : Refused state request response) :
    sentTo response = some (loginAddress (wanted request)) := by
  obtain ⟨_,_,headers⟩ := refused_parts oidcMode refused
  rw [← rejection_sent,sentTo,sentTo,headers "location" (by decide),headers "hx-redirect" (by decide)]

-- Every login leads to the page that was wanted, as far as `safe_next` lets it.
theorem login_lands (oidcMode : state.auth = .oidc oidc) (texts : UrlTexts lossy) (wire : OnTheWire request)
    (login : LoggedIn state (loginAddress (wanted request)) landed) :
    landed.headers.lookup "location" = some (safeNext (some (wanted request))) := by
  obtain ⟨visit,visited,shown,pending,back,answered,session,gets,path,kept,returned,opened,minted⟩ := login.run
  have next := visit_seals oidcMode texts gets path kept
  have visible : (asBytes (wanted request)).all headerByte = true := by
    rw [wanted]
    cases known : currentPage request with
    | none => exact wire.visible
    | some page => exact currentPage_visible texts known
  have passed : (asBytes (safeNext (some (wanted request)))).all headerByte = true := by
    rcases safeNext_kept (wanted request) with same | home
    · rw [same]
      exact visible
    · rw [home]
      decide
  rw [callback_lands oidcMode returned opened minted,next,redirect_location passed]
  rfl

theorem login_return (oidcMode : state.auth = .oidc oidc) (texts : UrlTexts lossy) (wire : OnTheWire request)
    (refused : Refused state request response) :
    ∃ address, sentTo response = some address ∧ ∀ landed, LoggedIn state address landed →
      ∃ next, landed.headers.lookup "location" = some next ∧
        (currentPage request = none → request.method ≠ .post → Served next ∧
          next = if '\\' ∈ request.pathAndQuery.toList then "/" else request.pathAndQuery) ∧
        ∀ page, currentPage request = some page → next = safeNext (some page) ∧ (Served page → Served next) := by
  obtain ⟨routed,guarded,_⟩ := refused_parts oidcMode refused
  refine ⟨_,refused_sent oidcMode refused,?_⟩
  intro landed login
  refine ⟨_,login_lands oidcMode texts wire login,?_,?_⟩
  · intro unknown method
    have served : Served request.pathAndQuery := by
      rw [Served,pagePath_request wire.cut]
      exact guarded.mpr method
    rw [wanted,unknown,Option.getD_none]
    refine ⟨served_kept served,routed_next ?_⟩
    rwa [pagePath_request wire.cut]
  · intro page known
    rw [wanted,known,Option.getD_some]
    exact ⟨rfl,served_kept⟩

-- A form that was refused is asked for as a page, which it is not.
theorem form_return (oidcMode : state.auth = .oidc oidc) (texts : UrlTexts lossy) (wire : OnTheWire request)
    (refused : Refused state request response) (posted : request.method = .post) (unknown : currentPage request = none)
    (straight : '\\' ∉ request.pathAndQuery.toList) :
    ∃ address, sentTo response = some address ∧ ∀ landed, LoggedIn state address landed →
      ∃ next, landed.headers.lookup "location" = some next ∧
        ∀ landing, Gets next landing → routes state landing = pure (methodNotAllowed "POST") := by
  obtain ⟨routed,guarded,_⟩ := refused_parts oidcMode refused
  refine ⟨_,refused_sent oidcMode refused,?_⟩
  intro landed login
  refine ⟨_,login_lands oidcMode texts wire login,?_⟩
  rw [wanted,unknown,Option.getD_none,routed_next (by rwa [pagePath_request wire.cut]),if_neg straight]
  intro landing gets
  have path : landing.path = request.path := by
    rw [← pagePath_request gets.cut,gets.target,pagePath_request wire.cut]
  have unserved : servesGet (routeOf landing.path) = false := by
    rw [path,Bool.eq_false_iff]
    intro served
    exact guarded.mp served posted
  rw [unserved_answer gets.method unserved,if_neg (path ▸ routed)]

end Returned

def readText (bytes : Bytes) : String := (String.fromUTF8? ⟨bytes.toArray⟩).getD "\uFFFD"

theorem readText_lossless (s : String) : readText (asBytes s) = s := by
  have valid : s.toByteArray.IsValidUTF8 := s.isValidUTF8
  simp [readText,asBytes,String.fromUTF8?,valid,String.fromUTF8]

@[reducible] def returnCrates : Crates := {visitCrates with
  pairs := formPairs readText
  urlPath := fun url => if url = "http://k/nowhere" then some "/nowhere" else none}

theorem returnTexts : @UrlTexts returnCrates readText := by
  let _ := returnCrates
  refine ⟨readText_lossless,fun _ => rfl,?_⟩
  intro url path parsed
  by_cases nowhere : url = "http://k/nowhere"
  · subst nowhere
    cases parsed
    decide
  · rw [show Crates.urlPath url = none from if_neg nowhere] at parsed
    cases parsed

def returnVisit : Request := {method := .get, path := "/auth/callback", query := some "code=c&state=state"}

theorem return_query : @CallbackQuery.read returnCrates returnVisit = .ok ⟨some "c",some "state",none,none⟩ := by
  let _ := returnCrates
  have parts : asBytes "code=c&state=state" = [38].intercalate ([("code","c"),("state","state")].map partBytes) := by
    decide
  have pairs : Crates.pairs (asBytes (returnVisit.query.getD "")) = [("code","c"),("state","state")] := by
    change formPairs readText (asBytes "code=c&state=state") = _
    rw [parts,formPairs_serialized readText_lossless]
  rw [CallbackQuery.read,queryFields,pairs]
  rfl

theorem login_completes (next : String) :
    ∃ landed, @LoggedIn returnCrates noUrls epochFormat visitState (loginAddress next) landed := by
  let _ := returnCrates
  let _ := noUrls
  let _ := epochFormat
  let pending : LoginState := ⟨"state","nonce","verifier",safeNext (some next),0,600,false⟩
  have begun : ∃ shown, Returns (routes visitState (loginVisit next))
      [⟨.discover,.ok ()⟩,⟨.authorizeUrl visitOidc.scopes false,someChallenge⟩,⟨.now,.epoch⟩,
        ⟨.sealCookie LOGIN_COOKIE (.login pending),()⟩] shown := by
    have route : routeOf (loginVisit next).path = .login := (by decide : routeOf "/auth/login" = .login)
    rw [routes,route]
    change ∃ shown, Returns (loginRoute visitState (loginVisit next)) _ shown
    rw [loginRoute,login_query returnTexts (login_gets next)]
    exact ⟨_,.cons (.cons (.cons (.cons .nil)))⟩
  have ended : ∃ landed session, Returns (routes visitState returnVisit)
      [⟨.openCookie LOGIN_COOKIE,some (.login pending)⟩,⟨.now,.epoch⟩,⟨.discover,.ok ()⟩,
        ⟨.exchangeCode "c" "verifier",.ok (some signedToken)⟩,
        ⟨.verifyToken signedToken "nonce",.ok ⟨"sub",none,none,none,none⟩⟩,⟨.randomBytes,zeroBytes⟩,
        ⟨.sealCookie SESSION_COOKIE (.session session),()⟩] landed := by
    have route : routeOf returnVisit.path = .callback := by decide
    rw [routes,route]
    change ∃ landed session, Returns (callbackRoute visitState returnVisit) _ landed
    rw [callbackRoute,return_query]
    exact ⟨_,_,.cons (.cons (.cons (.cons (.cons (.cons (.cons .nil))))))⟩
  obtain ⟨shown,begun⟩ := begun
  obtain ⟨landed,session,ended⟩ := ended
  exact ⟨_,⟨loginVisit next,_,_,pending,returnVisit,_,session,login_gets next,router_runs rfl begun,by simp,
    router_runs rfl ended,by simp,by simp⟩⟩

-- A request for the table of keys that comes without a cookie.
structure Index (request : Request) : Prop where
  method : request.method = .get
  path : request.path = "/"
  visible : (asBytes request.pathAndQuery).all headerByte = true

theorem Index.wire (index : Index request) : OnTheWire request :=
  ⟨by rw [index.path]; decide,index.visible⟩

theorem index_refused (index : Index request) :
    ∃ response, @Refused returnCrates noUrls epochFormat visitState request response := by
  let _ := returnCrates
  let _ := noUrls
  let _ := epochFormat
  have handled : ∃ inner, Returns (routes visitState request)
      [⟨.now,.epoch⟩,⟨.openCookie SESSION_COOKIE,none⟩] inner := by
    have route : routeOf request.path = .index := by
      rw [index.path]
      decide
    rw [routes,route]
    simp only [Web.get,index.method]
    exact ⟨_,.cons (.cons .nil)⟩
  obtain ⟨inner,handled⟩ := handled
  exact ⟨_,⟨.epoch,none,[],router_runs index.method handled,by simp [Missing]⟩⟩

def LandsAt (request : Request) (next : String) : Prop := ∃ response address landed,
  @Refused returnCrates noUrls epochFormat visitState request response ∧ sentTo response = some address ∧
  @LoggedIn returnCrates noUrls epochFormat visitState address landed ∧ landed.headers.lookup "location" = some next

theorem index_lands (index : Index request) :
    LandsAt request (safeNext (some (@wanted returnCrates request))) := by
  let _ := returnCrates
  let _ := noUrls
  let _ := epochFormat
  obtain ⟨response,refused⟩ := index_refused index
  obtain ⟨landed,login⟩ := login_completes (wanted request)
  exact ⟨response,_,landed,refused,refused_sent rfl refused,login,login_lands rfl returnTexts index.wire login⟩

def searched : Request := {method := .get, path := "/", query := some "q=x"}
def backslashed : Request := {method := .get, path := "/", query := some "q=\\"}
def strayed : Request := {method := .get, path := "/", headers :=
  [("hx-request",asBytes "true"),("hx-current-url",asBytes "http://k/nowhere")]}

theorem search_kept : LandsAt searched "/?q=x" ∧ Served "/?q=x" := by
  let _ := returnCrates
  let _ := noUrls
  let _ := epochFormat
  have index : Index searched := ⟨rfl,rfl,by decide⟩
  obtain ⟨response,refused⟩ := index_refused index
  obtain ⟨address,sent,lands⟩ := login_return rfl returnTexts index.wire refused
  obtain ⟨landed,login⟩ := login_completes (wanted searched)
  have there : address = loginAddress (wanted searched) :=
    Option.some.inj (sent.symm.trans (refused_sent rfl refused))
  obtain ⟨next,location,plain,_⟩ := lands landed (there ▸ login)
  obtain ⟨served,same⟩ := plain rfl (by decide)
  cases same
  exact ⟨⟨response,address,landed,refused,sent,there ▸ login,location⟩,served⟩

-- A query with a backslash is given up, and htmx is sent back to a page that it
-- names, whether there is one or not.
theorem returns_elsewhere : LandsAt backslashed "/" ∧ "/" ≠ backslashed.pathAndQuery ∧
    LandsAt strayed "/nowhere" ∧ ¬Served "/nowhere" := by
  refine ⟨?_,by decide,?_,?_⟩
  · exact index_lands ⟨rfl,rfl,by decide⟩
  · exact index_lands ⟨rfl,rfl,by decide⟩
  · have path : pagePath "/nowhere" = "/nowhere" := by decide
    rw [Served,path]
    decide

end YouSpinMe.LoginReturn
