import YouSpinMe.RequestGuards
import YouSpinMe.RotationOutcome
import YouSpinMe.SharedRun

namespace YouSpinMe.Admission
open RequestProgram SharedRun Effects Validation Rotation RotationOutcome RequestGuards Identity Http Auth Web Text Jiff Crd

-- The private cookies handed out so far, under their names.
abbrev Jar := List (String × CookieValue)

def Aside : Effect → Prop
  | .openCookie _ | .sealCookie _ _ | .verifyToken _ _ => False
  | _ => True

-- A cookie decodes only to a value that was sealed under its name, and an ID
-- token is accepted only when the provider signed it for the nonce. All other
-- answers are arbitrary.
inductive Serve (signs : String → String → Prop) : Server Jar Answer where
  | opened {answer : Option CookieValue} (known : ∀ value, answer = some value → (name,value) ∈ jar) :
      Serve signs jar (.openCookie name) answer jar
  | sealed : Serve signs jar (.sealCookie name value) () ((name,value) :: jar)
  | verified {answer : Except String IdClaims} (signed : ∀ claims, answer = .ok claims → signs idToken nonce) :
      Serve signs jar (.verifyToken idToken nonce) answer jar
  | aside (aside : Aside op) : Serve signs jar op answer jar

section Run
variable {signs : String → String → Prop} {jar after : Jar}

theorem serves_jar (path : Serves (Serve signs) jar events after) (held : (name,value) ∈ after) :
    (name,value) ∈ jar ∨ ⟨.sealCookie name value,()⟩ ∈ events := by
  induction path with
  | nil => exact .inl held
  | @cons jar op answer middle events after served rest ih =>
    rcases ih held with early | late
    · cases served with
      | opened | verified | aside => exact .inl early
      | sealed =>
        rcases List.mem_cons.mp early with same | earlier
        · cases same
          exact .inr List.mem_cons_self
        · exact .inl earlier
    · exact .inr (List.mem_cons_of_mem _ late)

variable {ι : Type} [DecidableEq ι] {α : ι → Type} {clients : (i : ι) → App (α i)}
  {remainder : (i : ι) → App (α i)} {i : ι}

theorem served_event (path : Runs (Serve signs) clients [] (before ++ (i,event) :: later) remainder after) :
    ∃ jar next, Serves (Serve signs) [] (before.map Prod.snd) jar ∧ Serve signs jar event.op event.answer next := by
  have served := path.serves
  rw [List.map_append,List.map_cons] at served
  obtain ⟨jar,first,rest⟩ := serves_append.mp served
  obtain ⟨next,step,_⟩ := serves_cons.mp rest
  exact ⟨jar,next,first,step⟩

-- Whoever presents a cookie presents one that some request sealed before.
theorem opened_sealed {value : CookieValue}
    (path : Runs (Serve signs) clients [] (before ++ (i,⟨.openCookie name,some value⟩) :: later) remainder after) :
    ∃ j front back, before = front ++ (j,⟨.sealCookie name value,()⟩) :: back := by
  obtain ⟨jar,next,first,step⟩ := served_event path
  have held : (name,value) ∈ jar := by
    cases step with
    | opened known => exact known value rfl
    | aside aside => cases aside
  rcases serves_jar first held with none | issued
  · cases none
  · obtain ⟨entry,member,same⟩ := List.mem_map.mp issued
    obtain ⟨front,back,rfl⟩ := List.append_of_mem member
    obtain ⟨j,event⟩ := entry
    cases same
    exact ⟨j,front,back,rfl⟩

theorem verified_signed {claims : IdClaims}
    (path : Runs (Serve signs) clients [] (before ++ (i,⟨.verifyToken idToken nonce,.ok claims⟩) :: later) remainder after) :
    signs idToken nonce := by
  obtain ⟨jar,next,_,step⟩ := served_event path
  cases step with
  | verified signed => exact signed claims rfl
  | aside aside => cases aside

end Run

section Requests
variable [UrlCrate] [Format] [Crates] {ι : Type} [DecidableEq ι]

-- A callback as its cookie remembers it: the login it belongs to was begun here
-- and is still open, its state came back, and the provider vouched for an admin.
structure Callback (signs : String → String → Prop) (oidc : Oidc) (requests : ι → Request)
    (log : List (ι × Event Answer)) (j : ι) (pending : LoginState) (time : Timestamp) (idToken : String)
    (claims : IdClaims) : Prop where
  route : routeOf (requests j).path = .callback
  issued : ∃ k front back, log = front ++ (k,⟨.sealCookie LOGIN_COOKIE (.login pending),()⟩) :: back ∧
    (j,⟨.openCookie LOGIN_COOKIE,some (.login pending)⟩) ∈ back ∧ routeOf (requests k).path = .login
  clock : (j,⟨.now,time⟩) ∈ log
  unexpired : time.asSecond ≤ pending.exp
  returned : queryState (requests j) = some pending.state
  verified : (j,⟨.verifyToken idToken pending.nonce,.ok claims⟩) ∈ log
  signed : signs idToken pending.nonce
  admin : claimContains (payloadOf idToken) oidc.adminClaim oidc.adminValue = true

structure AdminRequest (signs : String → String → Prop) (state : AppState) (oidc : Oidc) (requests : ι → Request)
    (log : List (ι × Event Answer)) (i : ι) (now : Timestamp) (session : Session) : Prop where
  posted : (requests i).method = .post
  origin : (requests i).headers.text "origin" = some state.publicOrigin
  clock : (i,⟨.now,now⟩) ∈ log
  unexpired : now.asSecond < session.exp
  csrf : providedToken (requests i).headers (formToken (requests i)) = some session.csrf
  minted : ∃ j front back, log = front ++ (j,⟨.sealCookie SESSION_COOKIE (.session session),()⟩) :: back ∧
    (i,⟨.openCookie SESSION_COOKIE,some (.session session)⟩) ∈ back ∧
    ∃ pending time idToken claims, Callback signs oidc requests front j pending time idToken claims

variable {signs : String → String → Prop} {state : AppState} {oidc : Oidc} {requests : ι → Request} {i : ι}
  {after : Jar} {remainder : ι → App Response}

omit [UrlCrate] [Format] [DecidableEq ι] in
theorem Sealed.pending {request : Request} {pending : LoginState}
    (sealed : Sealed oidc request past name (.login pending)) :
    routeOf request.path = .login ∧ pending.state ≠ "" := by
  cases sealed with
  | login route filled => exact ⟨route,filled⟩

-- What a session cookie that was sealed at some point of a run stands for.
theorem sealed_callback (oidcMode : state.auth = .oidc oidc) {session : Session}
    (path : Runs (Serve signs) (fun i => router state (requests i)) []
      (front ++ (i,⟨.sealCookie name (.session session),()⟩) :: later) remainder after) :
    session.csrf ≠ "" ∧ ∃ pending time idToken claims,
      session.authTime = claims.authTime.map DateTime.timestamp ∧
      (session.admin = true → Callback signs oidc requests front i pending time idToken claims) := by
  have sealed : Sealed oidc (requests i) (own i front) name (.session session) := path.follows (router_follows oidcMode)
  cases sealed with
  | @session idToken _ now claims pending route opened clock unexpired returned verified admin csrf authTime =>
    obtain ⟨early,late,rfl⟩ := List.append_of_mem (mem_own.mp opened)
    have presented := path
    rw [List.append_assoc,List.cons_append] at presented
    obtain ⟨k,first,second,rfl⟩ := opened_sealed presented
    rw [List.append_assoc,List.cons_append] at presented
    have begun : Sealed oidc (requests k) (own k first) LOGIN_COOKIE (.login pending) :=
      presented.follows (router_follows oidcMode)
    obtain ⟨loginRoute,filled⟩ := Sealed.pending begun
    have returned : queryState (requests i) = some pending.state := by
      rw [constantTimeEq_exact,asBytes_inj] at returned
      cases state : queryState (requests i) with
      | none => rw [state] at returned; exact absurd returned.symm filled
      | some token => rw [state] at returned; exact congrArg some returned
    obtain ⟨start,rest,parts⟩ := List.append_of_mem (mem_own.mp verified)
    have accepted := path
    rw [parts,List.append_assoc,List.cons_append] at accepted
    refine ⟨csrf,pending,now,idToken,claims,authTime,?_⟩
    intro isAdmin
    exact {
      route := route
      issued := ⟨k,first,second ++ (i,_) :: late,by rw [List.append_assoc,List.cons_append],by simp,loginRoute⟩
      clock := mem_own.mp clock
      unexpired := unexpired
      returned := returned
      verified := mem_own.mp verified
      signed := verified_signed accepted
      admin := admin.symm.trans isAdmin}

omit [UrlCrate] [Format] in
theorem guarded_opening {request : Request} (guarded : Guarded state request past) :
    ∃ now session, Admitted state request now session ∧ opening now session <+: past := by
  cases guarded with
  | @record _ now session handled route admitted prior fresh =>
    exact ⟨now,session,admitted,(List.prefix_append ..).trans prior⟩
  | @rotate _ now session route admitted prior => exact ⟨now,session,admitted,prior⟩

-- Every write and every status update of a run is asked for by a request of an
-- admin whom this server logged in.
theorem only_admins_change (oidcMode : state.auth = .oidc oidc)
    (path : Runs (Serve signs) (fun i => router state (requests i)) [] (before ++ (i,event) :: later) remainder after)
    (changes : Changes event.op) : ∃ now session, AdminRequest signs state oidc requests before i now session := by
  have allowed : rule state oidc (requests i) (own i before) event.op := path.follows (router_follows oidcMode)
  have guarded : Guarded state (requests i) (own i before) := by
    cases asked : event.op with
    | write | updateStatus => rw [asked] at allowed; exact allowed
    | _ => rw [asked] at changes; cases changes
  obtain ⟨now,session,admitted,prior⟩ := guarded_opening guarded
  have clock : (i,⟨.now,now⟩) ∈ before := mem_own.mp (prior.subset List.mem_cons_self)
  have opened : (i,⟨.openCookie SESSION_COOKIE,some (.session session)⟩) ∈ before :=
    mem_own.mp (prior.subset (List.mem_cons_of_mem _ List.mem_cons_self))
  obtain ⟨early,late,rfl⟩ := List.append_of_mem opened
  rw [List.append_assoc,List.cons_append] at path
  obtain ⟨j,front,back,rfl⟩ := opened_sealed path
  rw [List.append_assoc,List.cons_append] at path
  obtain ⟨filled,pending,time,idToken,claims,_,callback⟩ := sealed_callback oidcMode path
  refine ⟨now,session,?_⟩
  exact {
    posted := admitted.posted
    origin := by simpa [sameOrigin] using admitted.sameOrigin
    clock := clock
    unexpired := by simpa [Session.isExpired] using admitted.unexpired
    csrf := (checkCsrf_exact filled).mp admitted.csrf
    minted := ⟨j,front,back ++ (i,_) :: late,by rw [List.append_assoc,List.cons_append],by simp,pending,time,idToken,
      claims,callback admitted.admin⟩}

end Requests

-- An admin logs in and submits a key. The token's claims are the one that makes
-- an admin, and its `auth_time` is the one given.
def signedToken : String := "h.eyJhIjoiYSJ9.s"
def visitSigns (idToken nonce : String) : Prop := idToken = signedToken ∧ nonce = "nonce"
def visitToken : String := base64Encode (List.replicate 32 0)
def visitBody : String := "_csrf=" ++ visitToken ++ "&key=v"

@[reducible] def visitCrates : Crates where
  pairs bytes :=
    if bytes = asBytes "code=c&state=state" then [("code","c"),("state","state")]
    else if bytes = asBytes visitBody then [("_csrf",visitToken),("key","v")] else []
  pathParam segment := some segment
  isForm headers := headers.text "content-type" == some "application/x-www-form-urlencoded"
  cookies _ := []
  urlPath _ := none
  parseJson bytes :=
    if bytes = asBytes "\x7b\"a\":\"a\"\x7d" then some (.object [("a",.string "a")]) else none
  asset _ := none
  mime _ := "application/octet-stream"

def visitOidc : Oidc := ⟨["profile"],"a","a"⟩
def visitState : AppState where
  publicOrigin := "http://k"
  secure := false
  sessionTtl := .fromSecs 28800 (by decide) (by decide)
  stepUpMaxAge := some (.fromSecs 900 (by decide) (by decide))
  allowed := .allowAll
  auth := .oidc visitOidc

inductive Visit where
  | login
  | callback
  | submit
  deriving DecidableEq

def visits : Visit → Request
  | .login => {method := .get, path := "/auth/login"}
  | .callback => {method := .get, path := "/auth/callback", query := some "code=c&state=state"}
  | .submit => {
    method := .post
    path := "/keys/pair/rotate"
    headers := [("origin",asBytes "http://k"),("content-type",asBytes "application/x-www-form-urlencoded")]
    body := asBytes visitBody}

def reply (authTime : Option DateTime) (jar : Jar) : (op : Effect) → Option (Answer op × Jar)
  | .now => some (.epoch,jar)
  | .randomBytes => some (zeroBytes,jar)
  | .openCookie name => some (jar.lookup name,jar)
  | .sealCookie name value => some ((),(name,value) :: jar)
  | .list => some ([pairKey.key],jar)
  | .get name => if same : "pair" = name then some (some (same ▸ pairKey),jar) else some (none,jar)
  | .updateStatus _ _ => some (.error .conflict,jar)
  | .recordEvent _ _ => some ((),jar)
  | .probe _ _ => some (.ok none,jar)
  | .write _ _ => some (.ok (),jar)
  | .countRotation _ => some ((),jar)
  | .countProbe _ _ => some ((),jar)
  | .discover => some (.ok (),jar)
  | .authorizeUrl _ _ => some (someChallenge,jar)
  | .exchangeCode _ _ => some (.ok (some signedToken),jar)
  | .verifyToken idToken nonce =>
    if idToken = signedToken ∧ nonce = "nonce" then some (.ok ⟨"sub",none,none,none,authTime⟩,jar)
    else some (.error "unknown nonce",jar)

theorem reply_serves (authTime : Option DateTime) (jar : Jar) (op : Effect) (answer : Answer op) (after : Jar)
    (found : reply authTime jar op = some (answer,after)) : Serve visitSigns jar op answer after := by
  cases op with
  | openCookie name =>
    cases found
    apply Serve.opened
    intro value present
    obtain ⟨front,back,rfl,_⟩ := List.lookup_eq_some_iff.mp present
    simp
  | sealCookie name value =>
    cases found
    exact .sealed
  | verifyToken idToken nonce =>
    by_cases signed : idToken = signedToken ∧ nonce = "nonce"
    · simp only [reply,if_pos signed] at found
      cases found
      exact .verified fun _ _ => signed
    · simp only [reply,if_neg signed] at found
      cases found
      exact .verified fun _ accepted => nomatch accepted
  | get name =>
    by_cases same : "pair" = name
    · subst same
      simp only [reply,dif_pos] at found
      cases found
      exact .aside trivial
    · simp only [reply,dif_neg same] at found
      cases found
      exact .aside trivial
  | _ =>
    cases found
    exact .aside trivial

def visitTurns : List Visit :=
  List.replicate 4 .login ++ List.replicate 7 .callback ++ List.replicate 9 .submit

def visitLog (authTime : Option DateTime) : List (Visit × Event Answer) :=
  let _ := visitCrates
  let _ := noUrls
  let _ := epochFormat
  (schedule (reply authTime) visitTurns (fun i => router visitState (visits i)) []).1

theorem submission_admitted : ∃ before later now session,
    visitLog none = before ++ (.submit,⟨.write pairTargets[0] "v",.ok ()⟩) :: later ∧
    @AdminRequest visitCrates Visit visitSigns visitState visitOidc visits before .submit now session := by
  let _ := visitCrates
  let _ := noUrls
  let _ := epochFormat
  have written : (visitLog none)[15]? = some (.submit,⟨.write pairTargets[0] "v",.ok ()⟩) := rfl
  obtain ⟨before,later,parts⟩ := List.append_of_mem (List.mem_of_getElem? written)
  have path := schedule_runs (reply_serves none) visitTurns (fun i => router visitState (visits i)) []
  rw [show (schedule (reply none) visitTurns (fun i => router visitState (visits i)) []).1 = visitLog none from rfl,
    parts] at path
  obtain ⟨now,session,admitted⟩ := only_admins_change rfl path trivial
  exact ⟨before,later,now,session,parts,admitted⟩

end YouSpinMe.Admission
