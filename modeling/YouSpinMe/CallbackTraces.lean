import YouSpinMe.Auth

namespace YouSpinMe.CallbackTraces
open RequestProgram Effects Identity Http Auth Text Jiff Crd

def isSeal : Event Answer → Bool
  | ⟨.sealCookie _ _,_⟩ => true
  | _ => false

theorem orFail_returns {step : App (Except AppError α)} {next : α → App (Except AppError β)} :
    Returns (orFail step next) trace result ↔
      (∃ e, Returns step trace (.error e) ∧ result = .error e) ∨
      ∃ value first rest, trace = first ++ rest ∧ Returns step first (.ok value) ∧ Returns (next value) rest result := by
  unfold orFail
  rw [returns_bind]
  constructor
  · intro given
    obtain ⟨answer,first,rest,rfl,before,after⟩ := given
    cases answer with
    | error e =>
      obtain ⟨rfl,rfl⟩ := returns_done.mp after
      rw [List.append_nil]
      exact .inl ⟨e,before,rfl⟩
    | ok value => exact .inr ⟨value,first,rest,rfl,before,after⟩
  · intro given
    rcases given with ⟨e,path,rfl⟩ | ⟨value,first,rest,rfl,before,after⟩
    · exact ⟨.error e,trace,[],(List.append_nil _).symm,path,.nil⟩
    · exact ⟨.ok value,first,rest,rfl,before,after⟩

theorem orFail_pure_returns {parsed : Except AppError α} {next : α → App (Except AppError β)} :
    Returns (orFail (pure parsed) next) trace result ↔
      (∃ e, parsed = .error e ∧ trace = [] ∧ result = .error e) ∨
      ∃ value, parsed = .ok value ∧ Returns (next value) trace result := by
  cases parsed with
  | error e => simp [orFail]
  | ok value => simp [orFail]

def Unsealed (trace : Trace) : Prop := ∀ event ∈ trace, isSeal event = false

def isVerified : Event Answer → Bool
  | ⟨.verifyToken _ _,.ok _⟩ => true
  | _ => false

-- No session was left behind, and no ID token has passed.
def Unproved (trace : Trace) : Prop := ∀ event ∈ trace, isSeal event = false ∧ isVerified event = false

theorem Unproved.unsealed (unproved : Unproved trace) : Unsealed trace := fun event member => (unproved event member).1

theorem client_parts (path : Returns client trace result) :
    Unproved trace ∧ ∀ value, result = .ok value → trace = [⟨.discover,.ok ()⟩] := by
  unfold client at path
  simp only [bind_ask,returns_request] at path
  obtain ⟨answer,rest,rfl,path⟩ := path
  cases answer with
  | error e =>
    obtain ⟨rfl,rfl⟩ := returns_done.mp path
    exact ⟨by simp [Unproved,isSeal,isVerified],by simp⟩
  | ok value =>
    obtain ⟨rfl,rfl⟩ := returns_done.mp path
    exact ⟨by simp [Unproved,isSeal,isVerified],by simp⟩

theorem exchange_parts (path : Returns (exchange code pkceVerifier) trace result) :
    Unproved trace ∧ ∀ idToken, result = .ok idToken →
      trace = [⟨.exchangeCode code pkceVerifier,.ok (some idToken)⟩] := by
  unfold exchange at path
  simp only [bind_ask,returns_request] at path
  obtain ⟨answer,rest,rfl,path⟩ := path
  rcases answer with (e | e) | (_ | idToken)
  all_goals
    obtain ⟨rfl,rfl⟩ := returns_done.mp path
    exact ⟨by simp [Unproved,isSeal,isVerified],by simp⟩

theorem verify_parts (path : Returns (verify idToken nonce) trace result) :
    (∀ e, result = .error e → Unproved trace) ∧
      ∀ claims, result = .ok claims → trace = [⟨.verifyToken idToken nonce,.ok claims⟩] := by
  unfold verify at path
  simp only [bind_ask,returns_request] at path
  obtain ⟨answer,rest,rfl,path⟩ := path
  cases answer with
  | error e =>
    obtain ⟨rfl,rfl⟩ := returns_done.mp path
    exact ⟨by simp [Unproved,isSeal,isVerified],by simp⟩
  | ok claims =>
    obtain ⟨rfl,rfl⟩ := returns_done.mp path
    exact ⟨by simp [Unproved,isSeal,isVerified],by simp⟩

-- A completed login: what was asked, in order, and what it comes to.
def completed [Crates] (state : AppState) (oidc : Oidc) (pending : LoginState) (now : Timestamp) (code idToken : String)
    (claims : IdClaims) (bytes : RandomBytes) (authTime : Option Int) : Trace × Response :=
  let session := sessionFor state oidc idToken claims (base64Encode bytes.val) authTime now
  ([⟨.openCookie LOGIN_COOKIE,some (.login pending)⟩,⟨.now,now⟩,⟨.discover,.ok ()⟩,
      ⟨.exchangeCode code pending.pkceVerifier,.ok (some idToken)⟩,⟨.verifyToken idToken pending.nonce,.ok claims⟩,
      ⟨.randomBytes,bytes⟩,⟨.sealCookie SESSION_COOKIE (.session session),()⟩],
    {redirect pending.next with cookies :=
      [removal LOGIN_COOKIE,cookie state SESSION_COOKIE (.session session) state.sessionTtl.asSecs]})

theorem completed_seals [Crates] (state : AppState) (oidc : Oidc) (pending : LoginState) (now : Timestamp)
    (code idToken : String) (claims : IdClaims) (bytes : RandomBytes) (authTime : Option Int) :
    ∃ session, ⟨.sealCookie SESSION_COOKIE (.session session),()⟩ ∈
      (completed state oidc pending now code idToken claims bytes authTime).1 :=
  ⟨sessionFor state oidc idToken claims (base64Encode bytes.val) authTime now,by simp [completed]⟩

-- A login whose ID token passed, and whose `auth_time` claim did not.
def denied (pending : LoginState) (now : Timestamp) (code idToken : String) (claims : IdClaims) : Trace :=
  [⟨.openCookie LOGIN_COOKIE,some (.login pending)⟩,⟨.now,now⟩,⟨.discover,.ok ()⟩,
    ⟨.exchangeCode code pending.pkceVerifier,.ok (some idToken)⟩,⟨.verifyToken idToken pending.nonce,.ok claims⟩]

inductive CallbackTrace [Crates] (state : AppState) (oidc : Oidc) (q : CallbackQuery) :
    Trace → Except AppError Response → Prop where
  | failed (unproved : Unproved trace) : CallbackTrace state oidc q trace (.error e)
  | denied (fits : returnedCode q pending now = .ok code)
      (timed : loginAuthTime (claims.authTime.map DateTime.timestamp) pending now = .error e) :
      CallbackTrace state oidc q (denied pending now code idToken claims) (.error e)
  | completed (fits : returnedCode q pending now = .ok code)
      (timed : loginAuthTime (claims.authTime.map DateTime.timestamp) pending now = .ok authTime) :
      CallbackTrace state oidc q (completed state oidc pending now code idToken claims bytes authTime).1
        (.ok (completed state oidc pending now code idToken claims bytes authTime).2)

theorem callback_returns [Crates] (oidcMode : state.auth = .oidc oidc)
    (path : Returns (callback state q) trace result) : CallbackTrace state oidc q trace result := by
  simp only [callback,oidcMode] at path
  cases asked : q.error with
  | some error =>
    rw [asked] at path
    obtain ⟨rfl,rfl⟩ := returns_done.mp path
    exact .failed (by simp [Unproved])
  | none =>
    simp only [asked,bind_ask,returns_request] at path
    obtain ⟨opened,_,rfl,path⟩ := path
    rcases opened with _ | session | pending
    · simp only [Option.bind_none,pure_done,returns_done] at path
      obtain ⟨rfl,rfl⟩ := path
      exact .failed (by simp [Unproved,isSeal,isVerified])
    · simp only [Option.bind_some,CookieValue.asLogin,pure_done,returns_done] at path
      obtain ⟨rfl,rfl⟩ := path
      exact .failed (by simp [Unproved,isSeal,isVerified])
    -- each check and each request stops the callback or lets it go on
    · simp only [Option.bind_some,CookieValue.asLogin,returns_request] at path
      obtain ⟨now,_,rfl,opened⟩ := path
      rcases orFail_pure_returns.mp opened with ⟨_,_,rfl,rfl⟩ | ⟨code,fits,returned⟩
      · exact .failed (by simp [Unproved,isSeal,isVerified])
      rcases orFail_returns.mp returned with ⟨_,step,rfl⟩ | ⟨_,_,_,rfl,step,discovered⟩
      · exact .failed (by simpa [Unproved,isSeal,isVerified] using (client_parts step).1)
      obtain rfl := (client_parts step).2 _ rfl
      rcases orFail_returns.mp discovered with ⟨_,step,rfl⟩ | ⟨idToken,_,_,rfl,step,exchanged⟩
      · exact .failed (by simpa [Unproved,isSeal,isVerified] using (exchange_parts step).1)
      obtain rfl := (exchange_parts step).2 _ rfl
      rcases orFail_returns.mp exchanged with ⟨_,step,rfl⟩ | ⟨claims,_,_,rfl,step,verified⟩
      · exact .failed (by simpa [Unproved,isSeal,isVerified] using (verify_parts step).1 _ rfl)
      obtain rfl := (verify_parts step).2 _ rfl
      rcases orFail_pure_returns.mp verified with ⟨_,timed,rfl,rfl⟩ | ⟨authTime,timed,logged⟩
      · exact .denied fits timed
      simp only [randomToken,bind_ask,bind_request,pure_done,bind_done,returns_request,returns_done] at logged
      obtain ⟨bytes,_,rfl,_,_,rfl,rfl,rfl⟩ := logged
      exact .completed fits timed

end YouSpinMe.CallbackTraces
