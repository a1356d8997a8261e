import YouSpinMe.RouterWalk
import YouSpinMe.Admission
import YouSpinMe.KubeRepository

namespace YouSpinMe.Attribution
open RequestProgram SharedRun BlindRun LayeredRun Effects Validation Rotation RotationTraces RequestGuards RouterWalk Admission
  Repository KubeRepository Identity Http Auth Web Text Jiff Crd

-- A mutation in which nobody else appears than one actor.
structure ActsAs (actor : Actor) (mutate : ApiKeyStatus → ApiKeyStatus) : Prop where
  history : ∀ status, ∀ entry ∈ (mutate status).history, entry ∈ status.history ∨ entry.byActor = actor
  rotatedBy : ∀ status other, (mutate status).rotatedBy = some other → status.rotatedBy = some other ∨ other = actor

theorem applyRotation_acts (status : ApiKeyStatus) (atTime : Timestamp) (actor : Actor) (kind : HistoryKind)
    (manual : Option Timestamp) (probe : Option ProbeStatus) :
    (∀ entry ∈ (applyRotation status atTime actor kind manual probe).history,
      entry ∈ status.history ∨ entry.byActor = actor) ∧
    (applyRotation status atTime actor kind manual probe).rotatedBy = some actor := by
  refine ⟨?_,rfl⟩
  intro entry member
  rcases List.mem_cons.mp (List.mem_of_mem_take member) with rfl | earlier
  · exact .inr rfl
  · exact .inl earlier

theorem recordMutation_acts (actor : Actor) (rotatedAt : Timestamp) (expiresAt : Option Timestamp) :
    ActsAs actor (recordMutation actor rotatedAt expiresAt) := by
  refine ⟨?_,?_⟩
  · intro status
    exact (applyRotation_acts status rotatedAt actor .recorded expiresAt none).1
  · intro status other found
    exact .inr (Option.some.inj found).symm

theorem submitMutation_acts (references : List String) (outcomes : List TargetOutcome) (now : Timestamp)
    (req : RotateRequest) (probe : Option ProbeStatus) : ActsAs req.actor (submitMutation references outcomes now req probe) := by
  refine ⟨?_,?_⟩
  · intro status entry member
    unfold submitMutation at member
    split at member
    · exact (applyRotation_acts _ now req.actor .rotated req.manualExpiresAt probe).1 entry member
    · exact .inl member
  · intro status other found
    unfold submitMutation at found
    split at found
    · exact .inr (Option.some.inj found).symm
    · exact .inl found

-- What a session cookie says of its holder is what the provider said.
inductive Minted [Crates] (oidc : Oidc) (past : Trace) : String → CookieValue → Prop where
  | login {pending : LoginState} : Minted oidc past LOGIN_COOKIE (.login pending)
  | session {idToken nonce : String} {claims : IdClaims} {session : Session}
      (verified : ⟨.verifyToken idToken nonce,.ok claims⟩ ∈ past) (holder : session.actor = ⟨claims.subject,claims.displayName⟩)
      (admin : session.admin = claimContains (payloadOf idToken) oidc.adminClaim oidc.adminValue) :
      Minted oidc past SESSION_COOKIE (.session session)

def attributed [Crates] (oidc : Oidc) (past : Trace) : Effect → Prop
  | .updateStatus _ mutate => ∃ now session, opening now session <+: past ∧ session.admin = true ∧ ActsAs session.actor mutate
  | .sealCookie name value => Minted oidc past name value
  | _ => True

section Rules
variable [Crates] {state : AppState} {oidc : Oidc} {request : Request} {past : Trace}

theorem attributed_passive (op : Effect) (passive : Passive op) : attributed oidc past op := by
  cases op with
  | updateStatus | sealCookie => cases passive
  | _ => trivial

theorem passive_attributed {program : App α} (asks : Asks Passive program) : Follows (attributed oidc) past program :=
  asks.follows fun _ op passive => attributed_passive op passive

theorem login_attributed (mode : state.auth = .oidc oidc) (q : LoginQuery) : Follows (attributed oidc) past (login state q) := by
  simp only [login,mode]
  apply orFail_follows (passive_attributed client_passive)
  intro _ events _
  rw [bind_ask,follows_request]
  refine ⟨trivial,?_⟩
  intro challenge
  rw [bind_ask,follows_request]
  refine ⟨trivial,?_⟩
  intro now
  rw [bind_ask,follows_request]
  refine ⟨.login,?_⟩
  intro _
  trivial

theorem callback_attributed (mode : state.auth = .oidc oidc) (q : CallbackQuery) :
    Follows (attributed oidc) past (callback state q) := by
  simp only [callback,mode]
  cases q.error with
  | some error => trivial
  | none =>
    rw [bind_ask,follows_request]
    refine ⟨trivial,?_⟩
    intro opened
    cases opened.bind CookieValue.asLogin with
    | none => trivial
    | some pending =>
      change Follows _ _ (ask Effect.now >>= _)
      rw [bind_ask,follows_request]
      refine ⟨trivial,?_⟩
      intro now
      apply orFail_pure
      intro code _
      apply orFail_follows (passive_attributed client_passive)
      intro _ discovery _
      apply orFail_follows (passive_attributed exchange_passive)
      intro idToken exchanged _
      apply orFail_follows (passive_attributed verify_passive)
      intro claims verification path
      have verified := verify_returns path
      apply orFail_pure
      intro authTime _
      rw [randomToken,bind_assoc,bind_ask,follows_request]
      refine ⟨trivial,?_⟩
      intro bytes
      rw [pure_done,bind_done,bind_ask,follows_request]
      refine ⟨?_,fun _ => trivial⟩
      have told : ⟨.verifyToken idToken pending.nonce,.ok claims⟩ ∈
          past ++ [⟨.openCookie LOGIN_COOKIE,opened⟩] ++ [⟨.now,now⟩] ++ discovery ++ exchanged ++ verification := by
        simp [verified]
      exact .session (List.mem_append_left _ told) rfl rfl

omit [Crates] in
theorem entered_opening (mode : state.auth = .oidc oidc) (entered : Entered state past session) :
    ∃ now, past = opening now session := by
  cases entered with
  | @oidc _ now other seen unexpired => exact ⟨_,seen⟩
  | dev dev => rw [mode] at dev; cases dev

theorem attributed_walk [CharTables] (mode : state.auth = .oidc oidc) : Walk state request (attributed oidc) := by
  refine ⟨fun _ => attributed_passive,fun q _ => login_attributed mode q,fun q _ _ => callback_attributed mode q,?_,?_⟩
  · intro _ session past segment name dates handled _ acting _
    obtain ⟨now,rfl⟩ := entered_opening mode acting.entered
    apply saveRecord_follows
    · intro later op asked
      cases asked with
      | updateStatus =>
        rw [List.append_assoc]
        exact ⟨now,session,List.prefix_append ..,acting.admin,recordMutation_acts ..⟩
      | recordEvent => trivial
    · intro _ _
      trivial
  · intro _ session past segment name form manual found _ acting
    obtain ⟨now,rfl⟩ := entered_opening mode acting.entered
    apply rotate_asks.follows
    intro later op asked
    cases asked with
    | updateStatus =>
      rw [List.append_assoc]
      exact ⟨now,session,List.prefix_append ..,acting.admin,
        submitMutation_acts _ _ _ (Pages.rotateRequest session form manual) _⟩
    | _ => trivial

end Rules

-- A status in which nobody appears but those who are known.
structure BySome (known : Actor → Prop) (status : ApiKeyStatus) : Prop where
  history : ∀ entry ∈ status.history, known entry.byActor
  rotatedBy : ∀ actor, status.rotatedBy = some actor → known actor

theorem bySome_lasting (known : Actor → Prop) : Lasting (BySome known) := by
  refine ⟨⟨?_,?_⟩,?_⟩
  · intro entry member
    cases member
  · intro actor found
    cases found
  · intro status patch bySome
    exact ⟨bySome.history,bySome.rotatedBy⟩

theorem acts_keeps {known : Actor → Prop} (acts : ActsAs actor mutate) (knows : known actor) (bySome : BySome known status) :
    BySome known (mutate status) := by
  refine ⟨?_,?_⟩
  · intro entry member
    rcases acts.history status entry member with earlier | same
    · exact bySome.history entry earlier
    · exact same ▸ knows
  · intro other found
    rcases acts.rotatedBy status other found with earlier | same
    · exact bySome.rotatedBy other earlier
    · exact same ▸ knows

theorem BySome.mono {known more : Actor → Prop} (bySome : BySome known status) (implies : ∀ actor, known actor → more actor) :
    BySome more status :=
  ⟨fun entry member => implies _ (bySome.history entry member),fun actor found => implies _ (bySome.rotatedBy actor found)⟩

-- What a client was told above, some request below was told.
theorem direct_told {below : List (Event ClusterAnswer)} (carried : CarriedOut carryOut events below)
    (member : ⟨.verifyToken idToken nonce,answer⟩ ∈ events) :
    ⟨Sum.inl (.verifyToken idToken nonce),answer⟩ ∈ below := by
  obtain ⟨part,within,path⟩ := carriedOut_member carried member
  obtain ⟨reply,rest,rfl,ended⟩ := returns_request.mp path
  obtain ⟨rfl,rfl⟩ := returns_done.mp ended
  exact within.subset List.mem_cons_self

theorem spec_serves {signs : String → String → Prop} {s : Registry × Jar} {jar : Jar} (same : jar = s.2) (served : Spec (Serve signs) s op answer after) :
    ∃ final, Serve signs jar op answer final ∧ final = after.2 := by
  subst same
  obtain ⟨middle,others,does⟩ := served
  cases does with
  | updated | unsure | conflict | missing | failed | got | listed | noted => exact ⟨_,.aside trivial,rfl⟩
  | other elsewhere served => exact ⟨_,served,rfl⟩

section Run
variable [UrlCrate] [Format] [Crates] {ι : Type} [DecidableEq ι] {signs : String → String → Prop} {state : AppState}
  {oidc : Oidc} {requests : ι → Request} {remainder : ι → App Response}

-- Somebody who logged in during a run: the provider signed a token with the claim that
-- makes an admin, and this is who it said that is.
def Vouched (signs : String → String → Prop) (oidc : Oidc) (verified : String → String → IdClaims → Prop) (actor : Actor) : Prop :=
  ∃ idToken nonce claims, verified idToken nonce claims ∧ signs idToken nonce ∧
    claimContains (payloadOf idToken) oidc.adminClaim oidc.adminValue = true ∧ actor = ⟨claims.subject,claims.displayName⟩

def Verified (log : List (ι × Event Answer)) (idToken nonce : String) (claims : IdClaims) : Prop :=
  ∃ i, (i,⟨.verifyToken idToken nonce,.ok claims⟩) ∈ log

theorem update_vouched (mode : state.auth = .oidc oidc)
    (path : Runs (Serve signs) (fun i => router state (requests i)) []
      (before ++ (i,⟨.updateStatus name mutate,answer⟩) :: later) remainder after) :
    ∃ actor, Vouched signs oidc (Verified before) actor ∧ ActsAs actor mutate := by
  have walked : ∀ i, Follows (attributed oidc) [] (router state (requests i)) := fun i => router_walk (attributed_walk mode)
  obtain ⟨now,session,prior,isAdmin,acts⟩ := path.follows (walked i)
  refine ⟨session.actor,?_,acts⟩
  have opened : (i,⟨.openCookie SESSION_COOKIE,some (.session session)⟩) ∈ before :=
    mem_own.mp (prior.subset (List.mem_cons_of_mem _ List.mem_cons_self))
  obtain ⟨early,late,rfl⟩ := List.append_of_mem opened
  rw [List.append_assoc,List.cons_append] at path
  obtain ⟨j,front,back,rfl⟩ := opened_sealed path
  rw [List.append_assoc,List.cons_append] at path
  have minted : Minted oidc (own j front) SESSION_COOKIE (.session session) := path.follows (walked j)
  generalize named : SESSION_COOKIE = cookie at minted
  cases minted with
  | @session idToken nonce claims _ verified holder admin =>
    have told : (j,⟨.verifyToken idToken nonce,.ok claims⟩) ∈ front := mem_own.mp verified
    refine ⟨idToken,nonce,claims,⟨j,by simp [told]⟩,?_,admin.symm.trans isAdmin,holder⟩
    obtain ⟨start,rest,rfl⟩ := List.append_of_mem told
    rw [List.append_assoc,List.cons_append] at path
    exact verified_signed path

-- Nobody gets into a history but by a login here: over every interleaving of any number
-- of requests, of the controller and of what comes from git, an entry that was not there
-- at the start names an admin as the provider named them.
theorem history_attributed {w after : World} {known : Actor → Prop} (mode : state.auth = .oidc oidc) (numbered : Numbered w)
    (path : Runs (Cluster (Serve signs)) (fun i => onCluster (router state (requests i))) (w,[]) log below (after,jar))
    (start : (registryOf w).All (BySome known)) :
    (registryOf after).All (BySome fun actor => known actor ∨ Vouched signs oidc
      (fun idToken nonce claims => ∃ i, (i,⟨Sum.inl (.verifyToken idToken nonce),.ok claims⟩) ∈ log) actor) := by
  obtain ⟨history,above,reg,runs,behind,_,stands⟩ := cluster_runs numbered path
  apply outsides_all (bySome_lasting _) behind
  apply serves_all (bySome_lasting _) runs.serves
  · intro event member
    obtain ⟨entry,within,rfl⟩ := List.mem_map.mp member
    obtain ⟨before,later,rfl⟩ := List.append_of_mem within
    obtain ⟨i,op,answer⟩ := entry
    cases op with
    | updateStatus name mutate =>
      intro status bySome
      obtain ⟨final,served,_⟩ := simulate_runs (fun s jar => jar = s.2) (fun _ _ _ _ _ => spec_serves) runs rfl
      obtain ⟨actor,⟨idToken,nonce,claims,⟨j,verified⟩,signed,isAdmin,named⟩,acts⟩ := update_vouched mode served
      apply acts_keeps acts _ bySome
      refine .inr ⟨idToken,nonce,claims,⟨j,?_⟩,signed,isAdmin,named⟩
      obtain ⟨seen,begun,carried⟩ := (stands j).carried
      have told : ⟨.verifyToken idToken nonce,.ok claims⟩ ∈ own j (before ++ (i,⟨.updateStatus name mutate,answer⟩) :: later) :=
        mem_own.mpr (List.mem_append_left _ verified)
      exact mem_own.mp (begun.subset (direct_told carried told))
    | _ => trivial
  · exact ⟨fun name object found => (start.1 name object found).mono fun _ => .inl,
      fun name object member => (start.2 name object member).mono fun _ => .inl⟩

end Run

-- The visit of an admin, over the API server: the one entry is theirs.
def visitedTurns : List Visit :=
  List.replicate 4 Visit.login ++ List.replicate 7 Visit.callback ++ List.replicate 11 Visit.submit

def visited :=
  let _ := visitCrates
  let _ := noUrls
  let _ := epochFormat
  schedule (respond (reply none)) visitedTurns (fun i => onCluster (router visitState (visits i)))
    (World.single RotationOutcome.pairKey,[])

theorem visited_runs : Runs (Cluster (Serve visitSigns)) (fun i => onCluster (@router visitCrates noUrls epochFormat visitState (visits i)))
    (World.single RotationOutcome.pairKey,[]) visited.1 visited.2.1 (visited.2.2.1,visited.2.2.2) := by
  let _ := visitCrates
  let _ := noUrls
  let _ := epochFormat
  have answers : ∀ s op answer after, respond (reply none) s op = some (answer,after) → Cluster (Serve visitSigns) s op answer after :=
    respond_answers (reply_serves none)
  have path := schedule_runs answers visitedTurns (fun i => onCluster (router visitState (visits i)))
    (World.single RotationOutcome.pairKey,[])
  have same : schedule (respond (reply none)) visitedTurns (fun i => onCluster (router visitState (visits i)))
    (World.single RotationOutcome.pairKey,[]) = visited := rfl
  rw [same] at path
  clear same
  generalize visited = final at path ⊢
  exact path

theorem visited_stored : ∃ r, visited.2.2.1.objects "pair" = some r ∧
    r.object.status.history.map HistoryEntry.byActor = [⟨"sub","sub"⟩] := by
  have shown : (visited.2.2.1.objects "pair").map (fun r => r.object.status.history.map HistoryEntry.byActor) =
    some [⟨"sub","sub"⟩] := by decide +kernel
  exact Option.map_eq_some_iff.mp shown

theorem visited_attributed : ∃ r, visited.2.2.1.objects "pair" = some r ∧
    r.object.status.history.map HistoryEntry.byActor = [⟨"sub","sub"⟩] ∧
    ∀ entry ∈ r.object.status.history, @Vouched visitCrates visitSigns visitOidc
      (fun idToken nonce claims => ∃ i, (i,⟨Sum.inl (.verifyToken idToken nonce),.ok claims⟩) ∈ visited.1) entry.byActor := by
  let _ := visitCrates
  let _ := noUrls
  let _ := epochFormat
  obtain ⟨r,there,entries⟩ := visited_stored
  refine ⟨r,there,entries,?_⟩
  have unwritten : BySome (fun _ => False) RotationOutcome.pairKey.status := (bySome_lasting _).unwritten
  have attributed := history_attributed rfl (single_numbered _) visited_runs (single_all unwritten)
  intro entry member
  exact ((attributed.1 "pair" r.object (update_registry there)).history entry member).resolve_left id

end YouSpinMe.Attribution
