import YouSpinMe.Admission

namespace YouSpinMe.StepUp
open RequestProgram SharedRun Effects Validation RotationOutcome RequestGuards Admission Identity Http Auth Web Text Jiff Crd

-- The login behind a session is known, not in the future and not too old, at a
-- time that was read before anything was changed. Both bounds allow for clocks
-- that differ by a minute.
structure Recent (age : SignedDuration) (seen : Trace) (handled : Timestamp) (session : Session) (t : Int) : Prop where
  untouched : ∀ event ∈ seen, ¬ Changes event.op
  clock : ⟨.now,handled⟩ ∈ seen
  presented : ⟨.openCookie SESSION_COOKIE,some (.session session)⟩ ∈ seen
  known : session.authTime = some t
  past : t ≤ handled.asSecond + 60
  recent : handled.asSecond - t ≤ age.asSecs + 60

-- What one request saw and did: a change needs a recent login before it.
def SteppedUp (age : SignedDuration) (trace : Trace) : Prop :=
  ∀ event ∈ trace, Changes event.op → ∃ seen handled session t, seen <+: trace ∧ Recent age seen handled session t

-- Every submission of a new key that gets past the handler's own checks carries
-- a login that is recent at the time the session was looked at. Requests to any
-- other route, `record` among them, meet this as they are.
def FreshRotation [Crates] (state : AppState) (request : Request) (trace : Trace) : Prop :=
  ∀ rawName now session, routeOf request.path = .rotate rawName → Admitted state request now session →
    opening now session <+: trace → session.freshEnough state.stepUpMaxAge now = true

theorem opening_untouched (now : Timestamp) (session : Session) : ∀ event ∈ opening now session, ¬ Changes event.op := by
  intro event member
  rcases List.mem_cons.mp member with rfl | member
  · exact id
  · rcases List.mem_singleton.mp member with rfl
    exact id

-- No sum overflows that matters: a login time is a chrono instant, and a maximal
-- age that overflows admits nothing.
theorem fresh_bounds {session : Session} {claim : Option DateTime}
    (stated : session.authTime = claim.map DateTime.timestamp) (fresh : session.freshEnough (some age) handled = true) :
    ∃ t, session.authTime = some t ∧ t ≤ handled.asSecond + 60 ∧ handled.asSecond - t ≤ age.asSecs + 60 := by
  cases claim with
  | none => simp [Session.freshEnough,stated] at fresh
  | some dateTime =>
    obtain ⟨t,early,late⟩ := dateTime
    obtain ⟨first,last⟩ := handled.asSecond_bounds
    obtain ⟨shortest,_⟩ := age.asSecs_bounds
    simp only [Session.freshEnough,stated,Option.map_some,Option.any_some,Bool.and_eq_true,decide_eq_true_eq]
      at fresh
    obtain ⟨past,recent⟩ := fresh
    have skewed : wrap (handled.asSecond + CLOCK_SKEW_SECS) = handled.asSecond + 60 :=
      wrap_inside (by simp only [i64Min,CLOCK_SKEW_SECS]; omega) (by simp only [i64Max,CLOCK_SKEW_SECS]; omega)
    have elapsed : wrap (handled.asSecond - t) = handled.asSecond - t :=
      wrap_inside (by simp only [i64Min]; omega) (by simp only [i64Max]; omega)
    have allowed : wrap (age.asSecs + CLOCK_SKEW_SECS) ≤ age.asSecs + 60 :=
      wrap_above (by simp only [i64Min,CLOCK_SKEW_SECS] at *; omega)
    rw [skewed] at past
    rw [elapsed] at recent
    exact ⟨t,stated,past,Int.le_trans recent allowed⟩

section Requests
variable [UrlCrate] [Format] [Crates] {ι : Type} [DecidableEq ι] {signs : String → String → Prop} {state : AppState}
  {oidc : Oidc} {requests : ι → Request} {after : Jar} {remainder : ι → App Response}

-- The login time of a session that is presented is the one its ID token stated.
theorem presented_stated (oidcMode : state.auth = .oidc oidc) {session : Session}
    (path : Runs (Serve signs) (fun i => router state (requests i)) [] log remainder after)
    (presented : ⟨.openCookie SESSION_COOKIE,some (.session session)⟩ ∈ own i log) :
    ∃ claim : Option DateTime, session.authTime = claim.map DateTime.timestamp := by
  obtain ⟨before,later,rfl⟩ := List.append_of_mem (mem_own.mp presented)
  obtain ⟨j,front,back,rfl⟩ := opened_sealed path
  rw [List.append_assoc,List.cons_append] at path
  obtain ⟨_,_,_,_,claims,stated,_⟩ := sealed_callback oidcMode path
  exact ⟨claims.authTime,stated⟩

theorem step_up_protects (oidcMode : state.auth = .oidc oidc) (configured : state.stepUpMaxAge = some age)
    (path : Runs (Serve signs) (fun i => router state (requests i)) [] log remainder after) (i : ι)
    (fresh : FreshRotation state (requests i) (own i log)) : SteppedUp age (own i log) := by
  intro event member changes
  obtain ⟨before,later,parts⟩ := List.append_of_mem (mem_own.mp member)
  have allowed : rule state oidc (requests i) (own i before) event.op := by
    rw [parts] at path
    exact path.follows (router_follows oidcMode)
  have guarded : Guarded state (requests i) (own i before) := by
    cases asked : event.op with
    | write | updateStatus => rw [asked] at allowed; exact allowed
    | _ => rw [asked] at changes; cases changes
  have reached : own i before <+: own i log := by
    rw [parts,own_append]
    exact List.prefix_append ..
  cases guarded with
  | @record rawName now session handled route admitted prior recent =>
    have seen := prior.trans reached
    have presented : ⟨.openCookie SESSION_COOKIE,some (.session session)⟩ ∈ opening now session ++ [⟨.now,handled⟩] := by
      simp [opening]
    obtain ⟨claim,stated⟩ := presented_stated oidcMode path (seen.subset presented)
    rw [configured] at recent
    obtain ⟨t,known,past,recent⟩ := fresh_bounds stated recent
    refine ⟨_,handled,session,t,seen,?_,by simp,presented,known,past,recent⟩
    intro other early
    rcases List.mem_append.mp early with opened | clock
    · exact opening_untouched now session other opened
    · rcases List.mem_singleton.mp clock with rfl
      exact id
  | @rotate rawName now session route admitted prior =>
    have seen := prior.trans reached
    have presented : ⟨.openCookie SESSION_COOKIE,some (.session session)⟩ ∈ opening now session := by simp [opening]
    obtain ⟨claim,stated⟩ := presented_stated oidcMode path (seen.subset presented)
    have recent := fresh rawName now session route admitted seen
    rw [configured] at recent
    obtain ⟨t,known,past,recent⟩ := fresh_bounds stated recent
    exact ⟨_,now,session,t,seen,opening_untouched now session,by simp [opening],presented,known,past,recent⟩

end Requests

def staleLogin : DateTime := ⟨-100000,by decide,by decide⟩
def currentLogin : DateTime := ⟨0,by decide,by decide⟩

theorem visit_run (authTime : Option DateTime) : ∃ remainder after,
    Runs (Serve visitSigns) (fun i => @router visitCrates noUrls epochFormat visitState (visits i)) []
      (visitLog authTime) remainder after :=
  ⟨_,_,@schedule_runs _ _ _ _ _ _ _ (reply authTime) (reply_serves authTime) visitTurns _ []⟩

-- What the clock shows and which login a presented session has.
def seesLogin (login : DateTime) : Event Answer → Bool
  | ⟨.now,t⟩ => t == Timestamp.epoch
  | ⟨.openCookie _,some (.session s)⟩ => s.authTime == some login.timestamp
  | _ => true

-- More than a day after the login, a new key is submitted and written.
theorem stale_rotation : ∃ age remainder after, visitState.stepUpMaxAge = some age ∧
    Runs (Serve visitSigns) (fun i => @router visitCrates noUrls epochFormat visitState (visits i)) []
      (visitLog (some staleLogin)) remainder after ∧ ¬ SteppedUp age (own .submit (visitLog (some staleLogin))) := by
  obtain ⟨remainder,after,path⟩ := visit_run (some staleLogin)
  refine ⟨_,remainder,after,rfl,path,?_⟩
  intro protected_
  have written : (own .submit (visitLog (some staleLogin)))[4]? = some ⟨.write pairTargets[0] "v",.ok ()⟩ := rfl
  have sees : (own .submit (visitLog (some staleLogin))).all (seesLogin staleLogin) = true := rfl
  obtain ⟨seen,handled,session,t,prior,login⟩ := protected_ _ (List.mem_of_getElem? written) trivial
  have clock := List.all_eq_true.mp sees _ (prior.subset login.clock)
  have presented := List.all_eq_true.mp sees _ (prior.subset login.presented)
  have handledAt : handled = .epoch := beq_iff_eq.mp clock
  have known : session.authTime = some (-100000) := beq_iff_eq.mp presented
  have recent := login.recent
  rw [login.known] at known
  cases known
  rw [handledAt,SignedDuration.asSecs_fromSecs] at recent
  exact absurd recent (by decide)

theorem current_rotation : ∃ age, visitState.stepUpMaxAge = some age ∧
    SteppedUp age (own .submit (visitLog (some currentLogin))) ∧
    ⟨.write pairTargets[0] "v",.ok ()⟩ ∈ own .submit (visitLog (some currentLogin)) := by
  let _ := visitCrates
  let _ := noUrls
  let _ := epochFormat
  obtain ⟨remainder,after,path⟩ := visit_run (some currentLogin)
  have written : (own .submit (visitLog (some currentLogin)))[4]? = some ⟨.write pairTargets[0] "v",.ok ()⟩ := rfl
  have sees : (own .submit (visitLog (some currentLogin))).all (seesLogin currentLogin) = true := rfl
  refine ⟨_,rfl,step_up_protects rfl rfl path .submit ?_,List.mem_of_getElem? written⟩
  intro rawName now session _ _ prior
  have clock := List.all_eq_true.mp sees _ (prior.subset List.mem_cons_self)
  have presented := List.all_eq_true.mp sees _ (prior.subset (List.mem_cons_of_mem _ List.mem_cons_self))
  have handledAt : now = .epoch := beq_iff_eq.mp clock
  have known : session.authTime = some 0 := beq_iff_eq.mp presented
  unfold Session.freshEnough
  rw [known,handledAt]
  decide

end YouSpinMe.StepUp
