import YouSpinMe.ResourceJson
import YouSpinMe.RouterWalk
import YouSpinMe.Admission
import YouSpinMe.LayeredRun

namespace YouSpinMe.CookieJson
open RequestProgram SharedRun LayeredRun FieldCodec ResourceJson Effects Validation Rotation RotationTraces RequestGuards RouterWalk Admission
  Identity Http Auth Web Text Jiff Crd

def sessionParts : Session ≃ String × String × Bool × String × Option Int × Int where
  toFun s := (s.sub,s.name,s.admin,s.csrf,s.authTime,s.exp)
  invFun x := ⟨x.1,x.2.1,x.2.2.1,x.2.2.2.1,x.2.2.2.2.1,x.2.2.2.2.2⟩
  left_inv _ := rfl
  right_inv _ := rfl

def session : Codec Json Session :=
  ((Fields.required "sub" text).and <| (Fields.required "name" text).and <| (Fields.required "admin" boolean).and <|
    (Fields.required "csrf" text).and <| (Fields.nullable "auth_time" int64).and <|
    Fields.required "exp" int64).as sessionParts |>.record

def loginParts : LoginState ≃ String × String × String × String × Int × Int × Bool where
  toFun l := (l.state,l.nonce,l.pkceVerifier,l.next,l.started,l.exp,l.reauth)
  invFun x := ⟨x.1,x.2.1,x.2.2.1,x.2.2.2.1,x.2.2.2.2.1,x.2.2.2.2.2.1,x.2.2.2.2.2.2⟩
  left_inv _ := rfl
  right_inv _ := rfl

def loginState : Codec Json LoginState :=
  ((Fields.required "state" text).and <| (Fields.required "nonce" text).and <| (Fields.required "pkce_verifier" text).and <|
    (Fields.required "next" text).and <| (Fields.required "started" int64).and <| (Fields.required "exp" int64).and <|
    Fields.required "reauth" boolean).as loginParts |>.record

theorem session_exact : session.Exact :=
  Fields.Exact.as ((text_exact.required "sub").and <| (text_exact.required "name").and <|
    (boolean_exact.required "admin").and <| (text_exact.required "csrf").and <|
    (int64_exact.nullable "auth_time").and <| int64_exact.required "exp") sessionParts

theorem loginState_exact : loginState.Exact :=
  Fields.Exact.as ((text_exact.required "state").and <| (text_exact.required "nonce").and <|
    (text_exact.required "pkce_verifier").and <| (text_exact.required "next").and <| (int64_exact.required "started").and <|
    (int64_exact.required "exp").and <| boolean_exact.required "reauth") loginParts

-- `to_string` of the one or the other.
def cookieJson : CookieValue → Json
  | .session s => session.write s
  | .login l => loginState.write l

def CookieFits : CookieValue → Prop
  | .session s => session.fits s
  | .login l => loginState.fits l

-- A cookie is read as what its name stands for.
def readCookie (name : String) (j : Json) : Option CookieValue :=
  if name = SESSION_COOKIE then (session.read j).map .session else (loginState.read j).map .login

theorem session_read {value : CookieValue} (fits : CookieFits value) : session.read (cookieJson value) = value.asSession := by
  cases value with
  | session s => exact session_exact.reads fits
  | login l => rfl

theorem loginState_read {value : CookieValue} (fits : CookieFits value) : loginState.read (cookieJson value) = value.asLogin := by
  cases value with
  | session s => rfl
  | login l => exact loginState_exact.reads fits

theorem wrap_fits (n : Int) : int64.fits (wrap n) := by
  refine ⟨?_,?_⟩
  · have lower : -((18446744073709551616 : Nat) / 2 : Int) ≤ wrap n := Int.le_bmod (by decide)
    simp only [i64Min]
    omega
  · have upper : wrap n < ((18446744073709551616 : Nat) + 1) / 2 := Int.bmod_lt (by decide)
    simp only [i64Max]
    omega

theorem second_fits (t : Timestamp) : int64.fits t.asSecond := by
  have bounds := t.asSecond_bounds
  refine ⟨?_,?_⟩
  · simp only [i64Min]
    omega
  · simp only [i64Max]
    omega

theorem claim_fits {claim : Option DateTime} {authTime : Option Int} (kept : loginAuthTime (claim.map DateTime.timestamp) pending now = .ok authTime) :
    ∀ n ∈ authTime, int64.fits n := by
  intro n member
  rw [loginAuthTime_kept kept] at member
  obtain ⟨instant,_,rfl⟩ := Option.map_eq_some_iff.mp member
  have lower := instant.lower
  have upper := instant.upper
  refine ⟨?_,?_⟩
  · simp only [i64Min]
    omega
  · simp only [i64Max]
    omega

def SealsFitting : Effect → Prop
  | .sealCookie _ value => CookieFits value
  | _ => True

theorem passive_fitting (passive : Passive op) : SealsFitting op := by
  cases op with
  | sealCookie => cases passive
  | _ => trivial

theorem passive_follows {past : Trace} {program : App α} (asks : Asks Passive program) :
    Follows (fun _ op => SealsFitting op) past program :=
  asks.follows fun _ _ passive => passive_fitting passive

theorem login_fitting {state : AppState} (q : LoginQuery) : Follows (fun _ op => SealsFitting op) [] (login state q) := by
  unfold login
  cases state.auth with
  | insecureDev csrf => trivial
  | oidc oidc =>
    apply orFail_follows (passive_follows client_passive)
    intro _ _ _
    refine ⟨trivial,fun challenge => ⟨trivial,fun now => ⟨?_,fun _ => trivial⟩⟩⟩
    exact ⟨trivial,trivial,trivial,trivial,second_fits now,wrap_fits _,trivial⟩

theorem callback_fitting [Crates] {state : AppState} (q : CallbackQuery) :
    Follows (fun _ op => SealsFitting op) [] (callback state q) := by
  unfold callback
  cases state.auth with
  | insecureDev csrf => trivial
  | oidc oidc =>
    cases q.error with
    | some error => trivial
    | none =>
      simp only
      rw [bind_ask,follows_request]
      refine ⟨trivial,?_⟩
      intro opened
      cases opened.bind CookieValue.asLogin with
      | none => trivial
      | some pending =>
        simp only
        rw [bind_ask,follows_request]
        refine ⟨trivial,?_⟩
        intro now
        apply orFail_pure
        intro code _
        apply orFail_follows (passive_follows client_passive)
        intro _ _ _
        apply orFail_follows (passive_follows exchange_passive)
        intro idToken _ _
        apply orFail_follows (passive_follows verify_passive)
        intro claims _ _
        apply orFail_pure
        intro authTime kept
        rw [randomToken,bind_assoc,bind_ask,follows_request]
        refine ⟨trivial,?_⟩
        intro bytes
        rw [pure_done,bind_done,bind_ask,follows_request]
        refine ⟨?_,fun _ => trivial⟩
        exact ⟨trivial,trivial,trivial,trivial,claim_fits kept,wrap_fits _⟩

theorem fitting_walk [CharTables] [Crates] {state : AppState} {request : Request} : Walk state request (fun _ op => SealsFitting op) := by
  refine ⟨fun _ _ passive => passive_fitting passive,fun q _ => login_fitting q,fun q _ _ => callback_fitting q,?_,?_⟩
  · intro _ session past _ name dates handled _ _ _
    apply saveRecord_follows
    · intro _ op asked
      cases asked with
      | updateStatus | recordEvent => trivial
    · intro _ _
      trivial
  · intro _ session past _ name form manual found _ _
    apply rotate_asks.follows
    intro _ op asked
    cases asked with
    | now | get | probe | countProbe | recordEvent | write | updateStatus | countRotation => trivial

-- The jar as the browsers hold it: what was sealed, as JSON. A cookie that is presented
-- is read as what its name stands for, and counts as none where that fails.
inductive JsonServe (signs : String → String → Prop) : Server (List (String × Json)) Answer where
  | opened {texts : List (String × Json)} {answer : Option CookieValue}
      (known : ∀ value, answer = some value → ∃ j, (name,j) ∈ texts ∧ readCookie name j = some value) :
      JsonServe signs texts (.openCookie name) answer texts
  | sealed {texts : List (String × Json)} : JsonServe signs texts (.sealCookie name value) () ((name,cookieJson value) :: texts)
  | verified {texts : List (String × Json)} {answer : Except String IdClaims}
      (signed : ∀ claims, answer = .ok claims → signs idToken nonce) : JsonServe signs texts (.verifyToken idToken nonce) answer texts
  | aside {texts : List (String × Json)} (aside : Aside op) : JsonServe signs texts op answer texts

def jarJson (jar : Jar) : List (String × Json) := jar.map fun entry => (entry.1,cookieJson entry.2)

structure SameJar (texts : List (String × Json)) (jar : Jar) : Prop where
  texts : texts = jarJson jar
  fits : ∀ entry ∈ jar, CookieFits entry.2

theorem readCookie_same {value other : CookieValue} (fits : CookieFits value) (read : readCookie name (cookieJson value) = some other) :
    value = other := by
  unfold readCookie at read
  split at read
  · rw [session_read fits] at read
    cases value with
    | session s => exact Option.some.inj read
    | login l => cases read
  · rw [loginState_read fits] at read
    cases value with
    | session s => cases read
    | login l => exact Option.some.inj read

theorem json_serves (op : Effect) (answer : Answer op) (fitting : SealsFitting op) (same : SameJar texts jar)
    (served : JsonServe signs texts op answer after) : ∃ final, Serve signs jar op answer final ∧ SameJar after final := by
  obtain ⟨rfl,fits⟩ := same
  cases served with
  | @opened name _ answer known =>
    refine ⟨jar,.opened ?_,rfl,fits⟩
    intro value presented
    obtain ⟨j,member,read⟩ := known value presented
    obtain ⟨⟨held,sealed⟩,within,equal⟩ := List.mem_map.mp member
    obtain ⟨rfl,rfl⟩ := Prod.mk.inj equal
    rwa [← readCookie_same (fits _ within) read]
  | @sealed name value =>
    refine ⟨(name,value) :: jar,.sealed,rfl,?_⟩
    exact List.forall_mem_cons.mpr ⟨fitting,fits⟩
  | verified signed => exact ⟨jar,.verified signed,rfl,fits⟩
  | aside aside => exact ⟨jar,.aside aside,rfl,fits⟩

section Run
variable [UrlCrate] [Format] [Crates] {ι : Type} [DecidableEq ι] {state : AppState} {requests : ι → Request}
  {signs : String → String → Prop}

-- Cookies may as well be values of their two types: over every interleaving of any
-- number of requests, what the browsers hold as JSON reads as what was sealed, and
-- neither kind is ever taken for the other.
theorem cookies_refine {texts : List (String × Json)}
    (path : Runs (JsonServe signs) (fun i => router state (requests i)) [] log remainder texts) :
    (∃ jar, Runs (Serve signs) (fun i => router state (requests i)) [] log remainder jar ∧ texts = jarJson jar) ∧
    ∀ i name value, (i,⟨.sealCookie name value,()⟩) ∈ log →
      session.read (cookieJson value) = value.asSession ∧ loginState.read (cookieJson value) = value.asLogin := by
  refine ⟨?_,?_⟩
  · have start : SameJar [] [] := ⟨rfl,List.forall_mem_nil _⟩
    obtain ⟨jar,runs,same⟩ := simulate_following SameJar (fun _ => router_walk fitting_walk)
      (fun _ _ op answer _ fitting same served => json_serves op answer fitting same served) path start
    exact ⟨jar,runs,same.texts⟩
  · intro i name value member
    obtain ⟨before,later,rfl⟩ := List.append_of_mem member
    have fits : CookieFits value := path.follows (router_walk fitting_walk)
    exact ⟨session_read fits,loginState_read fits⟩

end Run

def replyJson (texts : List (String × Json)) : (op : Effect) → Option (Answer op × List (String × Json))
  | .openCookie name => some ((texts.lookup name).bind (readCookie name),texts)
  | .sealCookie name value => some ((),(name,cookieJson value) :: texts)
  | op => (reply none [] op).map fun answered => (answered.1,texts)

theorem replyJson_serves (texts : List (String × Json)) (op : Effect) (answer : Answer op) (after : List (String × Json))
    (found : replyJson texts op = some (answer,after)) : JsonServe visitSigns texts op answer after := by
  cases op with
  | openCookie name =>
    cases found
    apply JsonServe.opened
    intro value presented
    obtain ⟨j,there,read⟩ := Option.bind_eq_some_iff.mp presented
    obtain ⟨front,back,rfl,_⟩ := List.lookup_eq_some_iff.mp there
    exact ⟨j,by simp,read⟩
  | sealCookie name value =>
    cases found
    exact .sealed
  | verifyToken idToken nonce =>
    obtain ⟨⟨checked,jar⟩,answered,same⟩ := Option.map_eq_some_iff.mp found
    cases same
    cases reply_serves none [] _ _ _ answered with
    | verified signed => exact .verified signed
    | aside aside => cases aside
  | get name =>
    obtain ⟨⟨checked,jar⟩,_,same⟩ := Option.map_eq_some_iff.mp found
    cases same
    exact .aside trivial
  | _ =>
    cases found
    exact .aside trivial

theorem login_sealed : ∃ pending : LoginState,
    let _ := visitCrates
    let _ := noUrls
    let _ := epochFormat
    (schedule replyJson (List.replicate 4 Visit.login) (fun i => router visitState (visits i)) []).2.2 =
      [(LOGIN_COOKIE,loginState.write pending)] ∧ loginState.read (loginState.write pending) = some pending := by
  let _ := visitCrates
  let _ := noUrls
  let _ := epochFormat
  have path := schedule_runs replyJson_serves (List.replicate 4 Visit.login) (fun i => router visitState (visits i)) []
  obtain ⟨⟨jar,_,same⟩,read⟩ := cookies_refine path
  have there : (schedule replyJson (List.replicate 4 Visit.login) (fun i => router visitState (visits i)) []).1[3]? =
    some (.login,⟨.sealCookie LOGIN_COOKIE (.login ⟨someChallenge.state,someChallenge.nonce,someChallenge.pkceVerifier,"/",0,600,false⟩),()⟩) := rfl
  exact ⟨_,rfl,(read _ _ _ (List.mem_of_getElem? there)).2⟩

end YouSpinMe.CookieJson
