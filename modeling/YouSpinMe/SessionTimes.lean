import YouSpinMe.Admission
import YouSpinMe.CallbackTraces

namespace YouSpinMe.SessionTimes
open RequestProgram Effects Identity Http Auth CallbackTraces Admission Text Jiff Crd

-- A forced login that comes back before its cookie has expired.
structure ReLogin (pending : LoginState) (returned : Timestamp) : Prop where
  forced : pending.reauth = true
  window : pending.exp = pending.started + LOGIN_TTL_SECS
  begun : pending.started ≤ returned.asSecond
  unexpired : returned.asSecond ≤ pending.exp

-- One callback of a login, at one time, with one `auth_time` claim.
structure CalledBack [Crates] (state : AppState) (q : CallbackQuery) (pending : LoginState) (returned : Timestamp)
    (claim : Option Int) (trace : Trace) (result : Except AppError Response) : Prop where
  run : Returns (callback state q) trace result
  opened : ⟨.openCookie LOGIN_COOKIE,some (.login pending)⟩ ∈ trace
  clock : ⟨.now,returned⟩ ∈ trace
  verified : ∃ idToken claims, ⟨.verifyToken idToken pending.nonce,.ok claims⟩ ∈ trace ∧
    claims.authTime.map DateTime.timestamp = claim

structure Fresh (age : SignedDuration) (started : Int) (returned : Timestamp) (session : Session) : Prop where
  enough : ∀ now, returned ≤ now → now.asSecond ≤ started + age.asSecs → session.freshEnough (some age) now = true
  expires : ∀ now : Timestamp, returned.asSecond + age.asSecs + 2 * CLOCK_SKEW_SECS < now.asSecond →
    session.freshEnough (some age) now = false

theorem asSecond_mono {a b : Timestamp} (order : a ≤ b) : a.asSecond ≤ b.asSecond :=
  Int.tdiv_le_tdiv (by decide) order

theorem skewed (now : Timestamp) : wrap (now.asSecond + CLOCK_SKEW_SECS) = now.asSecond + CLOCK_SKEW_SECS := by
  obtain ⟨first,last⟩ := now.asSecond_bounds
  exact wrap_inside (by simp only [i64Min,CLOCK_SKEW_SECS]; omega) (by simp only [i64Max,CLOCK_SKEW_SECS]; omega)

-- Without overflow the check is the one of unbounded integers.
theorem fresh_exact {session : Session} {t : Int} (stated : session.authTime = some t) (now : Timestamp)
    (elapsed : wrap (now.asSecond - t) = now.asSecond - t) (fits : age.asSecs + CLOCK_SKEW_SECS ≤ i64Max) :
    session.freshEnough (some age) now = true ↔
      t ≤ now.asSecond + CLOCK_SKEW_SECS ∧ now.asSecond - t ≤ age.asSecs + CLOCK_SKEW_SECS := by
  obtain ⟨shortest,_⟩ := age.asSecs_bounds
  have allowed : wrap (age.asSecs + CLOCK_SKEW_SECS) = age.asSecs + CLOCK_SKEW_SECS :=
    wrap_inside (by simp only [i64Min,CLOCK_SKEW_SECS] at *; omega) fits
  simp [Session.freshEnough,stated,skewed,elapsed,allowed]

theorem accepted_window (relogin : ReLogin pending returned)
    (accepted : loginAuthTime claim pending returned = .ok authTime) :
    ∃ t, authTime = some t ∧ pending.started - CLOCK_SKEW_SECS ≤ t ∧ t ≤ returned.asSecond + CLOCK_SKEW_SECS := by
  obtain ⟨first,last⟩ := returned.asSecond_bounds
  have window := relogin.window
  have unexpired := relogin.unexpired
  have begun := relogin.begun
  simp only [LOGIN_TTL_SECS] at window
  have early : wrap (pending.started - CLOCK_SKEW_SECS) = pending.started - CLOCK_SKEW_SECS :=
    wrap_inside (by simp only [i64Min,CLOCK_SKEW_SECS]; omega) (by simp only [i64Max,CLOCK_SKEW_SECS]; omega)
  simp only [loginAuthTime,relogin.forced,if_true,early,skewed] at accepted
  cases claim with
  | none => cases accepted
  | some t =>
    simp only at accepted
    split at accepted
    · cases accepted
    · rename_i inside
      cases accepted
      exact ⟨t,rfl,by omega,by omega⟩

theorem relogin_fresh (relogin : ReLogin pending returned) (fits : age.asSecs + CLOCK_SKEW_SECS ≤ i64Max)
    (accepted : loginAuthTime claim pending returned = .ok authTime) {session : Session}
    (stated : session.authTime = authTime) : Fresh age pending.started returned session := by
  obtain ⟨t,rfl,early,late⟩ := accepted_window relogin accepted
  obtain ⟨first,last⟩ := returned.asSecond_bounds
  have window := relogin.window
  have unexpired := relogin.unexpired
  simp only [LOGIN_TTL_SECS,CLOCK_SKEW_SECS] at *
  have exact_ : ∀ now : Timestamp, session.freshEnough (some age) now = true ↔
      t ≤ now.asSecond + 60 ∧ now.asSecond - t ≤ age.asSecs + 60 := by
    intro now
    obtain ⟨least,greatest⟩ := now.asSecond_bounds
    exact fresh_exact stated now (wrap_inside (by simp only [i64Min]; omega) (by simp only [i64Max]; omega)) fits
  constructor
  · intro now order recent
    have later := asSecond_mono order
    exact (exact_ now).mpr ⟨by omega,by omega⟩
  · intro now old
    simp only [CLOCK_SKEW_SECS] at old
    rw [Bool.eq_false_iff]
    intro fresh
    obtain ⟨_,recent⟩ := (exact_ now).mp fresh
    omega

section Callbacks
variable [Crates] {state : AppState} {oidc : Oidc}

-- A callback whose ID token passed leaves a session behind exactly when the claim is accepted.
theorem called_back (oidcMode : state.auth = .oidc oidc)
    (called : CalledBack state q pending returned claim trace result) :
    (∃ e, loginAuthTime claim pending returned = .error e ∧ result = .error e ∧ Unsealed trace) ∨
    ∃ authTime, loginAuthTime claim pending returned = .ok authTime ∧ (∃ response, result = .ok response) ∧
      (∃ session, ⟨.sealCookie SESSION_COOKIE (.session session),()⟩ ∈ trace) ∧
      ∀ name session, ⟨.sealCookie name (.session session),()⟩ ∈ trace →
        session.authTime = authTime ∧ session.exp = wrap (returned.asSecond + state.sessionTtl.asSecs) := by
  obtain ⟨idToken,claims,verified,rfl⟩ := called.verified
  have opened := called.opened
  have clock := called.clock
  cases callback_returns oidcMode called.run with
  | failed unproved =>
    obtain ⟨_,none⟩ := unproved _ verified
    cases none
  | denied fits timed =>
    simp [denied] at opened clock verified
    obtain ⟨⟨rfl,_⟩,rfl⟩ := verified
    subst opened clock
    exact .inl ⟨_,timed,rfl,by simp [Unsealed,denied,isSeal]⟩
  | completed fits timed =>
    simp [completed] at opened clock verified
    obtain ⟨⟨rfl,_⟩,rfl⟩ := verified
    subst opened clock
    refine .inr ⟨_,timed,⟨_,rfl⟩,completed_seals ..,?_⟩
    intro name session sealed_
    simp [completed] at sealed_
    rw [sealed_.2]
    exact ⟨rfl,rfl⟩

theorem forced_login (oidcMode : state.auth = .oidc oidc) (age : SignedDuration)
    (fits : age.asSecs + CLOCK_SKEW_SECS ≤ i64Max) (claim : Option Int) :
    (∀ pending returned, ReLogin pending returned → ∀ e, loginAuthTime claim pending returned = .error e →
      ∀ q trace result, CalledBack state q pending returned claim trace result →
        (∃ e, result = .error e) ∧ Unsealed trace) ∧
    (∀ pending returned, ReLogin pending returned → ∀ authTime,
      loginAuthTime claim pending returned = .ok authTime →
      (∀ session, session.authTime = authTime → Fresh age pending.started returned session) ∧
      ∀ q trace result, CalledBack state q pending returned claim trace result →
        (∃ response, result = .ok response) ∧
        (∃ session, ⟨.sealCookie SESSION_COOKIE (.session session),()⟩ ∈ trace) ∧
        ∀ name session, ⟨.sealCookie name (.session session),()⟩ ∈ trace → Fresh age pending.started returned session) ∧
    ∀ pending returned, pending.reauth = false → ∀ q trace result,
      CalledBack state q pending returned none trace result →
      (∃ session, ⟨.sealCookie SESSION_COOKIE (.session session),()⟩ ∈ trace) ∧
      ∀ name session, ⟨.sealCookie name (.session session),()⟩ ∈ trace → ∀ now, session.freshEnough (some age) now = false := by
  refine ⟨?_,?_,?_⟩
  · intro pending returned _ e rejected q trace result called
    rcases called_back oidcMode called with ⟨e,_,stopped,unsealed⟩ | ⟨authTime,accepted,_⟩
    · exact ⟨⟨e,stopped⟩,unsealed⟩
    · rw [rejected] at accepted
      cases accepted
  · intro pending returned relogin authTime accepted
    refine ⟨fun session stated => relogin_fresh relogin fits accepted stated,?_⟩
    intro q trace result called
    rcases called_back oidcMode called with ⟨e,rejected,_⟩ | ⟨other,kept,answered,sealed_,stated⟩
    · rw [rejected] at accepted
      cases accepted
    · exact ⟨answered,sealed_,fun name session own => relogin_fresh relogin fits kept (stated name session own).1⟩
  · intro pending returned ordinary q trace result called
    rcases called_back oidcMode called with ⟨e,rejected,_⟩ | ⟨authTime,accepted,_,sealed_,stated⟩
    · simp [loginAuthTime,ordinary] at rejected
    · refine ⟨sealed_,?_⟩
      intro name session own now
      have absent := (stated name session own).1
      rw [loginAuthTime_kept accepted] at absent
      simp [Session.freshEnough,absent]

end Callbacks

-- A forced login whose callback comes in the second in which it began, from a provider whose
-- clock is half a minute ahead.
def relogin : LoginState := ⟨"state","nonce","verifier","/",0,600,true⟩
def reloginClaims : IdClaims := ⟨"sub",none,none,none,some ⟨30,by decide,by decide⟩⟩

theorem relogin_accepted : let _ := visitCrates
    ∃ trace response session, Returns (callback visitState ⟨some "code",some "state",none,none⟩) trace (.ok response) ∧
      ⟨.sealCookie SESSION_COOKIE (.session session),()⟩ ∈ trace ∧
      Fresh (.fromSecs 900 (by decide) (by decide)) 0 .epoch session := by
  let _ := visitCrates
  have given : ReLogin relogin .epoch := ⟨rfl,rfl,by decide,by decide⟩
  have login := @forced_login visitCrates visitState visitOidc rfl (.fromSecs 900 (by decide) (by decide)) (by decide)
    (some 30)
  have run : Returns (callback visitState ⟨some "code",some "state",none,none⟩)
      (completed visitState visitOidc relogin .epoch "code" signedToken reloginClaims zeroBytes (some 30)).1
      (.ok (completed visitState visitOidc relogin .epoch "code" signedToken reloginClaims zeroBytes (some 30)).2) :=
    .cons (.cons (.cons (.cons (.cons (.cons (.cons .nil))))))
  have called : CalledBack visitState ⟨some "code",some "state",none,none⟩ relogin .epoch (some 30) _ _ :=
    ⟨run,by simp [completed],by simp [completed],signedToken,reloginClaims,by simp [completed],rfl⟩
  obtain ⟨_,⟨session,sealed_⟩,fresh⟩ := (login.2.1 _ _ given _ rfl).2 _ _ _ called
  exact ⟨_,_,session,run,sealed_,fresh _ session sealed_⟩

def Fits (n : Int) : Prop := i64Min ≤ n ∧ n ≤ i64Max

-- The durations of a state are ones that its flags were read as.
structure Configured (state : AppState) : Prop where
  sessionTtl : ∃ text, Duration.parse text = .ok state.sessionTtl
  stepUpMaxAge : ∀ age, state.stepUpMaxAge = some age → ∃ text, Duration.parse text = .ok age

-- The test of `fresh_enough`, over integers without bounds.
def freshUnbounded (authTime : Option Int) (maxAge : Option SignedDuration) (now : Timestamp) : Bool :=
  match maxAge with
  | none => true
  | some age => authTime.any fun t =>
    t ≤ now.asSecond + CLOCK_SKEW_SECS && now.asSecond - t ≤ age.asSecs + CLOCK_SKEW_SECS

structure ExactTimes [Crates] (state : AppState) (now : Timestamp) (claim : Option DateTime) : Prop where
  expiry : Fits (now.asSecond + state.sessionTtl.asSecs)
  skewed : Fits (now.asSecond + CLOCK_SKEW_SECS)
  elapsed : ∀ dateTime, claim = some dateTime → Fits (now.asSecond - dateTime.timestamp)
  allowed : ∀ age, state.stepUpMaxAge = some age → Fits (age.asSecs + CLOCK_SKEW_SECS)
  lasting : 0 < state.sessionTtl.asSecs → ∀ q pending stated trace result name session,
    CalledBack state q pending now stated trace result → ⟨.sealCookie name (.session session),()⟩ ∈ trace →
    session.isExpired now = false
  fresh : ∀ session : Session, session.authTime = claim.map DateTime.timestamp →
    session.freshEnough state.stepUpMaxAge now = freshUnbounded session.authTime state.stepUpMaxAge now

theorem parsed_nonneg (parsed : Duration.parse text = .ok d) : 0 ≤ d.asSecs :=
  Int.tdiv_nonneg (Duration.parse_nonneg parsed) (by decide)

theorem session_times_exact [Crates] (oidcMode : state.auth = .oidc oidc) (configured : Configured state)
    (now : Timestamp) (claim : Option DateTime) : ExactTimes state now claim ↔
      now.asSecond + state.sessionTtl.asSecs ≤ i64Max ∧
      ∀ age, state.stepUpMaxAge = some age → age.asSecs + CLOCK_SKEW_SECS ≤ i64Max := by
  obtain ⟨first,last⟩ := now.asSecond_bounds
  obtain ⟨text,parsed⟩ := configured.sessionTtl
  have positive := parsed_nonneg parsed
  constructor
  · intro times
    exact ⟨times.expiry.2,fun age set => (times.allowed age set).2⟩
  · intro given
    obtain ⟨expiry,allowed⟩ := given
    have lasts : Fits (now.asSecond + state.sessionTtl.asSecs) := ⟨by simp only [i64Min]; omega,expiry⟩
    have since : ∀ dateTime : DateTime, Fits (now.asSecond - dateTime.timestamp) := by
      intro dateTime
      have lower := dateTime.lower
      have upper := dateTime.upper
      exact ⟨by simp only [i64Min]; omega,by simp only [i64Max]; omega⟩
    refine ⟨lasts,⟨?_,?_⟩,fun dateTime _ => since dateTime,?_,?_,?_⟩
    · simp only [i64Min,CLOCK_SKEW_SECS]
      omega
    · simp only [i64Max,CLOCK_SKEW_SECS]
      omega
    · intro age set
      obtain ⟨_,other⟩ := configured.stepUpMaxAge age set
      have least := parsed_nonneg other
      exact ⟨by simp only [i64Min,CLOCK_SKEW_SECS]; omega,allowed age set⟩
    · intro lasting q pending stated trace result name session called sealed_
      rcases called_back oidcMode called with ⟨_,_,_,unsealed⟩ | ⟨_,_,_,_,kept⟩
      · cases unsealed _ sealed_
      · obtain ⟨_,exp⟩ := kept name session sealed_
        rw [wrap_inside lasts.1 lasts.2] at exp
        simp only [Session.isExpired,exp,decide_eq_false_iff_not]
        omega
    · intro session stated
      unfold freshUnbounded
      cases set : state.stepUpMaxAge with
      | none => rfl
      | some age =>
        cases claim with
        | none => simp [Session.freshEnough,stated]
        | some dateTime =>
          have elapsed := wrap_inside (since dateTime).1 (since dateTime).2
          rw [Bool.eq_iff_iff,fresh_exact stated now elapsed (allowed age set),stated]
          simp

-- With the longest duration that is read, a session is over when it begins and
-- the login that was just made is too old.
def newYear : Timestamp := ⟨1767225600000000000,by decide,by decide⟩
def longest : SignedDuration := .fromSecs 9223372036854775807 (by decide) (by decide)
def longestState : AppState := {visitState with sessionTtl := longest,stepUpMaxAge := some longest}

theorem longest_overflows : let _ := visitCrates
    Duration.parse "9223372036854775807s" = .ok longest ∧ ¬Fits (newYear.asSecond + longest.asSecs) ∧
    (∀ idToken claims csrf authTime,
      (sessionFor longestState visitOidc idToken claims csrf authTime newYear).isExpired newYear = true) ∧
    ∀ session : Session, session.authTime = some newYear.asSecond →
      session.freshEnough longestState.stepUpMaxAge newYear = false ∧
      freshUnbounded session.authTime longestState.stepUpMaxAge newYear = true := by
  let _ := visitCrates
  refine ⟨by decide +kernel,?_,fun _ _ _ _ => by rfl,?_⟩
  · intro given
    obtain ⟨_,upper⟩ := given
    exact absurd upper (by decide)
  · intro session stated
    simp only [Session.freshEnough,freshUnbounded,stated]
    exact ⟨by rfl,by rfl⟩

theorem visit_configured : Configured visitState := by
  refine ⟨⟨"8h",by decide +kernel⟩,?_⟩
  intro age set
  cases set
  exact ⟨"15m",by rfl⟩

theorem visit_times : @ExactTimes visitCrates visitState newYear (some ⟨1767225000,by decide,by decide⟩) := by
  let _ := visitCrates
  refine (session_times_exact rfl visit_configured newYear _).mpr ⟨by decide,?_⟩
  intro age set
  cases set
  decide

end YouSpinMe.SessionTimes
