import YouSpinMe.MutexRun
import YouSpinMe.WriteProtocol

namespace YouSpinMe.TokenCache
open RequestProgram SharedRun MutexRun Effects Crd OpenBaoWriter WriterTraces WriteProtocol

-- The shared mutex and the token behind it. Whatever else is asked may be
-- answered in any way: tokens expire and are revoked at any time.
structure Cache where
  cached : Option CachedToken
  locked : Bool

def mutex : BaoOp → Kind
  | .lock => .acquire
  | .unlock _ => .release
  | _ => .other

inductive Serve : Server Cache BaoReply where
  | lock (free : s.locked = false) : Serve s .lock s.cached {s with locked := true}
  | unlock : Serve s (.unlock cached) () ⟨cached,false⟩
  | other (outside : mutex op = .other) : Serve s op answer s

theorem serve_guards : Guards mutex Cache.locked Serve where
  acquire := by
    intro s op answer after served acquire
    cases served with
    | lock free => exact free
    | unlock => cases acquire
    | other outside => rw [outside] at acquire; cases acquire
  locks := by
    intro s op answer after served
    cases served with
    | lock | unlock => rfl
    | other outside => rw [outside]; rfl

-- The token of a login that succeeded.
def issued : Event BaoReply → Option String
  | ⟨.login ..,.ok res⟩ => if res.isSuccess then res.login.toOption.map LoginAuth.clientToken else none
  | _ => none

-- What a client knows of the cache: what it put back last, or what it found
-- and the logins it made while it holds the mutex.
inductive Mode where
  | outside (left : Option CachedToken)
  | inside (found : Option CachedToken) (logins : List String)

def Mode.next : Mode → Event BaoReply → Mode
  | _,⟨.lock,cached⟩ => .inside cached []
  | _,⟨.unlock cached,_⟩ => .outside cached
  | .inside found logins,⟨.login url role jwt,answer⟩ =>
    .inside found (logins ++ (issued ⟨.login url role jwt,answer⟩).toList)
  | mode,_ => mode

def modeOf (past : BaoTrace) : Mode := past.foldl Mode.next (.outside none)

@[simp] theorem modeOf_snoc (past : BaoTrace) (event : Event BaoReply) :
    modeOf (past ++ [event]) = (modeOf past).next event := by
  rw [modeOf,List.foldl_append]
  rfl

theorem modeOf_clock (past : BaoTrace) (now : Instant) : modeOf (past ++ [⟨.clock,now⟩]) = modeOf past := by
  rw [modeOf_snoc]
  cases modeOf past <;> rfl

def Mode.holds : Mode → Bool
  | .outside _ => false
  | .inside .. => true

theorem holding_mode (past : BaoTrace) : holding mutex past = (modeOf past).holds := by
  induction past using List.reverseRecOn with
  | nil => rfl
  | append_singleton past event ih =>
    rw [holding_snoc,modeOf_snoc,ih]
    obtain ⟨op,answer⟩ := event
    cases modeOf past <;> cases op <;> rfl

-- The mutex is taken once; what is put back was found there, came from a login
-- under it, or is nothing; and a write carries the token that was put back.
def rule (past : BaoTrace) : BaoOp → Prop
  | .lock => (modeOf past).holds = false
  | .unlock cached => ∃ found logins, modeOf past = .inside found logins ∧
      ∀ t, cached = some t → cached = found ∨ t.token ∈ logins
  | .write _ _ token _ => ∃ t, modeOf past = .outside (some t) ∧ t.token = token
  | _ => True

theorem rule_disciplined {past : BaoTrace} {op : BaoOp} (kept : rule past op) : Disciplined mutex past op := by
  unfold Disciplined
  cases op with
  | lock => exact (holding_mode past).trans kept
  | unlock cached =>
    obtain ⟨found,logins,inside,_⟩ := kept
    exact (holding_mode past).trans (by rw [inside]; rfl)
  | clock | readFile | login | write => trivial

-- While the mutex is held the mode changes by logins only.
def Inside (found : Option CachedToken) (past : BaoTrace) : Prop := ∃ logins, modeOf past = .inside found logins

theorem readTrimmed_ensures (inside : Inside found past) (path what : String) :
    Ensures rule (fun _ later => Inside found later) past (readTrimmed path what) := by
  obtain ⟨logins,mode⟩ := inside
  refine ⟨trivial,fun answer => ?_⟩
  cases answer <;> exact ⟨logins,by simp [mode,Mode.next]⟩

theorem usable_ensures (inside : Inside cached past) :
    Ensures rule (fun result later => Inside cached later ∧ ∀ token, result = some token →
      ∃ t, cached = some t ∧ t.token = token) past (usable cached) := by
  cases cached with
  | none => exact ⟨inside,fun _ none => nomatch none⟩
  | some t =>
    dsimp only [usable]
    split
    · refine ⟨inside,fun token same => ⟨t,rfl,?_⟩⟩
      cases same
      rfl
    · refine ⟨trivial,fun now => ⟨?_,fun token same => ⟨t,rfl,?_⟩⟩⟩
      · obtain ⟨logins,mode⟩ := inside
        exact ⟨logins,(modeOf_clock ..).trans mode⟩
      · exact (Option.ite_none_right_eq_some.mp same).2 |> Option.some.inj

def LoggedIn (found : Option CachedToken) (result : Except TargetError CachedToken) (past : BaoTrace) : Prop :=
  ∃ logins, modeOf past = .inside found logins ∧ ∀ fresh, result = .ok fresh → fresh.token ∈ logins

theorem login_failed (mode : modeOf past = .inside found logins) : LoggedIn found (.error e) past := by
  refine ⟨logins,mode,fun fresh same => ?_⟩
  cases same

section Programs
variable [HttpCrates] {bao : OpenBao} {past : BaoTrace}

theorem login_ensures (kubernetes : bao.auth.isKubernetes = true) (inside : Inside found past) :
    Ensures rule (LoggedIn found) past bao.login := by
  unfold OpenBao.login
  cases auth : bao.auth with
  | tokenFile path =>
    rw [auth] at kubernetes
    cases kubernetes
  | kubernetes mount role jwtFile =>
    refine ensures_bind (readTrimmed_ensures inside ..) fun jwt past inside => ?_
    obtain ⟨logins,mode⟩ := inside
    cases jwt with
    | error e => exact login_failed mode
    | ok jwt =>
      cases bao.url ["auth",mount,"login"] with
      | error e => exact login_failed mode
      | ok url =>
        simp only [bind_ask,ensures_request]
        refine ⟨trivial,fun answer => ?_⟩
        have entered : modeOf (past ++ [⟨.login url role jwt,answer⟩]) =
            .inside found (logins ++ (issued ⟨.login url role jwt,answer⟩).toList) := by
          rw [modeOf_snoc,mode]
          rfl
        cases answer with
        | error e => exact login_failed entered
        | ok res =>
          dsimp only
          cases success : res.isSuccess with
          | false =>
            simp only [Bool.not_false,if_true]
            exact login_failed entered
          | true =>
            simp only [Bool.not_true,Bool.false_eq_true,if_false]
            cases reply : res.login with
            | error e => exact login_failed entered
            | ok auth =>
              have token : issued ⟨.login url role jwt,.ok res⟩ = some auth.clientToken := by
                simp [issued,success,reply,Except.toOption]
              dsimp only
              split
              · refine ⟨_,entered,fun fresh same => ?_⟩
                cases same
                simp [token]
              · refine ⟨trivial,fun now => ⟨_,(modeOf_clock ..).trans entered,fun fresh same => ?_⟩⟩
                cases same
                simp [token]

def Released (past : BaoTrace) : Prop := (modeOf past).holds = false

def Carries (result : Except TargetError String) (past : BaoTrace) : Prop :=
  Released past ∧ ∀ token, result = .ok token → ∃ t, modeOf past = .outside (some t) ∧ t.token = token

theorem token_ensures (kubernetes : bao.auth.isKubernetes = true) (released : Released past) :
    Ensures rule Carries past bao.token := by
  simp only [OpenBao.token,bind_ask,ensures_request]
  refine ⟨released,fun cached => ?_⟩
  have locked : modeOf (past ++ [⟨.lock,cached⟩]) = .inside cached [] := by
    rw [modeOf_snoc]
    rfl
  refine ensures_bind (usable_ensures ⟨[],locked⟩) fun result past usable => ?_
  obtain ⟨inside,found⟩ := usable
  cases result with
  | some token =>
    obtain ⟨logins,mode⟩ := inside
    obtain ⟨t,same,carried⟩ := found token rfl
    refine ⟨⟨cached,logins,mode,fun _ _ => .inl rfl⟩,fun _ => ⟨?_,fun other equal => ⟨t,?_,?_⟩⟩⟩
    · rw [Released,modeOf_snoc]
      rfl
    · rw [modeOf_snoc,same]
      rfl
    · cases equal
      exact carried
  | none =>
    refine ensures_bind (login_ensures kubernetes inside) fun result past loggedIn => ?_
    obtain ⟨logins,mode,fresh⟩ := loggedIn
    cases result with
    | error e =>
      refine ⟨⟨cached,logins,mode,fun _ _ => .inl rfl⟩,fun _ => ⟨?_,fun _ none => nomatch none⟩⟩
      rw [Released,modeOf_snoc]
      rfl
    | ok token =>
      refine ⟨⟨cached,logins,mode,fun t same => .inr ?_⟩,fun _ => ⟨?_,fun other equal => ⟨token,?_,?_⟩⟩⟩
      · cases same
        exact fresh token rfl
      · rw [Released,modeOf_snoc]
        rfl
      · rw [modeOf_snoc]
        rfl
      · cases equal
        rfl

theorem send_ensures (kubernetes : bao.auth.isKubernetes = true) (released : Released past) (method : Method)
    (url : List String) (body : WriteBody) :
    Ensures rule (fun _ later => Released later) past (bao.send method url body) := by
  refine ensures_bind (token_ensures kubernetes released) fun result past carries => ?_
  obtain ⟨released,carried⟩ := carries
  cases result with
  | error e => exact released
  | ok token =>
    obtain ⟨t,mode,same⟩ := carried token rfl
    refine ⟨⟨t,mode,same⟩,fun answer => ?_⟩
    have kept : Released (past ++ [⟨.write method url token body,answer⟩]) := by
      rw [Released,modeOf_snoc,mode]
      rfl
    cases answer <;> exact kept

theorem create_ensures (kubernetes : bao.auth.isKubernetes = true) (released : Released past) (url : List String)
    (body : WriteBody) : Ensures rule (fun _ later => Released later) past (bao.create url body) := by
  refine ensures_bind (send_ensures kubernetes released ..) fun result past released => ?_
  cases result with
  | error e => exact released
  | ok res =>
    dsimp only
    split <;> exact released

theorem round_ensures (kubernetes : bao.auth.isKubernetes = true) (released : Released past) (url : List String)
    (body : WriteBody) (next : ∀ program, again = some program → ∀ later, Released later →
      Ensures rule (fun _ later => Released later) later program) :
    Ensures rule (fun _ later => Released later) past (bao.round url body again) := by
  refine ensures_bind (send_ensures kubernetes released ..) fun result past released => ?_
  cases result with
  | error e => exact released
  | ok res =>
    dsimp only
    split
    · exact released
    · split
      · exact create_ensures kubernetes released url body
      · cases again with
        | none => exact released
        | some program =>
          dsimp only
          split
          · refine ensures_bind (?_ : Ensures rule (fun _ later => Released later) _ _) fun _ later =>
              next program rfl later
            refine ⟨released,fun cached => ⟨⟨cached,[],by rw [modeOf_snoc]; rfl,fun _ none => nomatch none⟩,?_⟩⟩
            intro answer
            show Released _
            rw [Released,modeOf_snoc]
            rfl
          · exact released

theorem writeKey_follows (kubernetes : bao.auth.isKubernetes = true) (target : OpenBaoTarget) (value : String) :
    Follows rule [] (bao.writeKey target value) := by
  unfold OpenBao.writeKey
  split
  · trivial
  · refine Ensures.follows (round_ensures kubernetes (show Released [] from rfl) _ _ ?_)
    intro program same later released
    cases same
    exact round_ensures kubernetes released _ _ fun _ none => nomatch none

end Programs

-- A mode all of whose tokens are good ones.
def Mode.Good (good : String → Prop) : Mode → Prop
  | .outside left => ∀ t, left = some t → good t.token
  | .inside found logins => (∀ t, found = some t → good t.token) ∧ ∀ token ∈ logins, good token

def Mode.GoodInside (good : String → Prop) (mode : Mode) : Prop := mode.holds = true → mode.Good good

theorem Mode.Good.mono {mode : Mode} {good better : String → Prop} (holds : mode.Good good)
    (implied : ∀ token, good token → better token) : mode.Good better := by
  cases mode with
  | outside left => exact fun t same => implied _ (holds t same)
  | inside found logins =>
    exact ⟨fun t same => implied _ (holds.1 t same),fun token member => implied _ (holds.2 token member)⟩

section Steps
variable {good : String → Prop} {op : BaoOp} {answer : BaoReply op}

-- One request keeps tokens good, when what is found behind the mutex is good
-- and so is what is issued now.
theorem inside_step {mode : Mode} (served : Serve s op answer after) (cached : ∀ t, s.cached = some t → good t.token)
    (fresh : ∀ token, issued ⟨op,answer⟩ = some token → good token) (inside : mode.GoodInside good) :
    (mode.next ⟨op,answer⟩).GoodInside good := by
  intro holds
  cases op with
  | lock =>
    cases served with
    | lock free => exact ⟨cached,fun _ none => nomatch none⟩
    | other outside => cases outside
  | unlock => cases holds
  | login url role jwt =>
    cases mode with
    | outside left => cases holds
    | inside found logins =>
      obtain ⟨first,rest⟩ := inside rfl
      refine ⟨first,fun token member => ?_⟩
      rcases List.mem_append.mp member with earlier | now
      · exact rest token earlier
      · exact fresh token (by simpa using now)
  | clock | readFile | write => cases mode <;> exact inside holds

theorem left_step {past : BaoTrace} (kept : rule past op) (inside : (modeOf past).GoodInside good)
    (left : ∀ t, modeOf past = .outside (some t) → good t.token) :
    ∀ t, modeOf (past ++ [⟨op,answer⟩]) = .outside (some t) → good t.token := by
  intro t mode
  rw [modeOf_snoc] at mode
  cases op with
  | lock => cases mode
  | unlock cached =>
    obtain ⟨found,logins,before,origin⟩ := kept
    obtain rfl : cached = some t := by simpa [Mode.next] using mode
    rw [before] at inside
    rcases origin t rfl with same | issued
    · exact (inside rfl).1 t same.symm
    · exact (inside rfl).2 _ issued
  | login =>
    cases before : modeOf past with
    | outside other => exact left t (before.trans (by rw [before] at mode; exact mode))
    | inside found logins =>
      rw [before] at mode
      cases mode
  | clock | readFile | write =>
    apply left
    revert mode
    cases modeOf past <;> exact id

theorem cached_step {past : BaoTrace} (served : Serve s op answer after) (kept : rule past op)
    (inside : (modeOf past).GoodInside good) (cached : ∀ t, s.cached = some t → good t.token) :
    ∀ t, after.cached = some t → good t.token := by
  cases served with
  | lock free => exact cached
  | unlock =>
    intro t same
    obtain ⟨found,logins,before,origin⟩ := kept
    rw [before] at inside
    rcases origin t same with found | issued
    · exact (inside rfl).1 t (found.symm.trans same)
    · exact (inside rfl).2 _ issued
  | other outside => exact cached

end Steps

section Clients
variable {ι : Type} [DecidableEq ι]

-- Some client's login in this stretch of the log was answered with the token.
def IssuedIn (log : List (ι × Event BaoReply)) (token : String) : Prop :=
  ∃ entry ∈ log, issued entry.2 = some token

-- All tokens that a client can still come by, and the one that client i has,
-- were issued after the front of the log.
structure Renewed (i : ι) (front back : List (ι × Event BaoReply)) (s : Cache) : Prop where
  cached : ∀ t, s.cached = some t → IssuedIn back t.token
  inside : ∀ j, (modeOf (own j (front ++ back))).GoodInside (IssuedIn back)
  left : ∀ t, modeOf (own i (front ++ back)) = .outside (some t) → IssuedIn back t.token

theorem renewed_step {front back : List (ι × Event BaoReply)} {i j : ι} {op : BaoOp} {answer : BaoReply op}
    (renewed : Renewed i front back s) (kept : rule (own j (front ++ back)) op) (served : Serve s op answer after) :
    Renewed i front (back ++ [(j,⟨op,answer⟩)]) after := by
  have more : ∀ token, IssuedIn back token → IssuedIn (back ++ [(j,⟨op,answer⟩)]) token := by
    rintro token ⟨entry,member,same⟩
    exact ⟨entry,List.mem_append_left _ member,same⟩
  have fresh : ∀ token, issued ⟨op,answer⟩ = some token → IssuedIn (back ++ [(j,⟨op,answer⟩)]) token :=
    fun token same => ⟨_,List.mem_append_right _ (.head _),same⟩
  have cached := fun t same => more _ (renewed.cached t same)
  have inside : ∀ k, (modeOf (own k (front ++ back))).GoodInside (IssuedIn (back ++ [(j,⟨op,answer⟩)])) :=
    fun k holds => (renewed.inside k holds).mono more
  have left := fun t same => more _ (renewed.left t same)
  refine ⟨cached_step served kept (inside j) cached,fun k => ?_,?_⟩
  · by_cases same : j = k
    · subst same
      rw [← List.append_assoc,own_append,own_cons_self,own_nil,modeOf_snoc]
      exact inside_step served cached fresh (inside j)
    · rw [← List.append_assoc,own_append,own_cons_other same,own_nil,List.append_nil]
      exact inside k
  · by_cases same : j = i
    · subst same
      rw [← List.append_assoc,own_append,own_cons_self,own_nil]
      exact left_step kept (inside j) left
    · rw [← List.append_assoc,own_append,own_cons_other same,own_nil,List.append_nil]
      exact left

section Run
variable {α : ι → Type} {clients remainder : (i : ι) → Bao (α i)} {front back : List (ι × Event BaoReply)} {i : ι}

theorem renewed_run (path : Runs Serve clients s back remainder after)
    (follows : ∀ j, Follows rule (own j front) (clients j)) (start : Renewed i front [] s) :
    Renewed i front back after := by
  induction path with
  | start => exact start
  | @step log remainder middle after j op next answer prior waiting served ih =>
    have asks := (follows j).later (prior.steps j)
    rw [waiting,← own_append] at asks
    exact renewed_step ih asks.1 served

-- A call that gives the token up leaves an empty cache, and so every token it
-- sends afterwards was issued afterwards.
theorem token_renewed (follows : ∀ j, Follows rule [] (clients j))
    (path : Runs Serve clients s (front ++ [(i,⟨.unlock none,()⟩)] ++ back ++ [(i,⟨.write method url token body,answer⟩)])
      remainder after) : IssuedIn back token := by
  obtain ⟨t,mode,same⟩ := path.follows (follows i)
  obtain ⟨waiting,before,path,last⟩ := path.split rfl
  obtain ⟨middle,m,path,later⟩ := path.split rfl
  obtain ⟨_,held,first,given⟩ := path.split rfl
  have released : m = ⟨none,false⟩ := by
    obtain ⟨_,served,rest⟩ := serves_cons.mp given.serves
    cases rest
    cases served with
    | unlock => rfl
    | other outside => cases outside
  have free := free_run path serve_guards (fun j => (follows j).mono fun _ _ => rule_disciplined) (by rw [released])
  have start : Renewed i (front ++ [(i,⟨.unlock none,()⟩)]) [] m := by
    rw [released]
    refine ⟨fun t none => ?_,fun j holds => ?_,fun t mode => ?_⟩
    · cases none
    · rw [List.append_nil,← holding_mode,free j] at holds
      cases holds
    · rw [List.append_nil,own_append,own_cons_self,own_nil,modeOf_snoc] at mode
      cases mode
  have renewed := renewed_run later (fun j => (follows j).later (path.steps j)) start
  exact same ▸ renewed.left t mode

end Run

end Clients

def forbidden : Event BaoReply → Prop
  | ⟨.write ..,.ok res⟩ => res.status = 403
  | _ => False

-- The first PATCH was answered 404, so that a POST was the next write request.
def FirstMissing (trace : BaoTrace) : Prop := ∃ first rest, sentOf trace = first :: rest ∧ first.answered 404

-- The first PATCH was answered 404, and the POST after it 403.
def CreationRefused (trace : BaoTrace) : Prop :=
  ∃ patch post, sentOf trace = [patch,post] ∧ patch.answered 404 ∧ post.answered 403

def EndsForbidden (trace : BaoTrace) : Prop :=
  ∃ method url token body res, trace.getLast? = some ⟨.write method url token body,.ok res⟩ ∧ res.status = 403

-- A call that ends with a 403 either ends with the POST after its first PATCH,
-- or gave the token up before it sent the request.
theorem last_refused [HttpCrates] {bao : OpenBao} (kubernetes : bao.auth.isKubernetes = true)
    (call : RoundTrace bao url body (some (bao.round url body none)) trace result)
    (parts : trace = prior ++ [⟨.write method place token sent,.ok res⟩]) (refused : res.status = 403) :
    FirstMissing trace ∨ ∃ earlier first cached later, prior = earlier ++ first ::
      ⟨.lock,cached⟩ :: ⟨.unlock none,()⟩ :: later ∧ forbidden first := by
  have requests : sentOf trace = sentOf prior ++ [⟨method,place,sent,.ok res⟩] := by rw [parts,sentOf_append]; rfl
  have only : ∀ s, sentOf trace = [s] → s.answer = .ok res := by
    intro s one
    rw [one] at requests
    cases (List.append_inj' (show [] ++ [s] = _ from requests) rfl).2
    rfl
  cases call with
  | unsent patch =>
    rcases send_unanswered patch with none | ⟨lost,one⟩
    · simp [none] at requests
    · cases only _ one
  | accepted patch success =>
    cases only _ (send_sent patch)
    rw [status_failed res (.inr refused)] at success
    cases success
  | uncreated patch missing post | created patch missing post success | unpermitted patch missing post failed =>
    exact .inl ⟨_,_,by rw [sentOf_append,send_sent patch]; rfl,_,rfl,missing⟩
  | refused patch failed final =>
    cases only _ (send_sent patch)
    exact absurd ⟨refused,kubernetes⟩ (final (by simp))
  | @renewed earlier first _ later _ cached patch again _ next rest =>
    right
    rcases List.eq_nil_or_concat later with rfl | ⟨front,event,rfl⟩
    · rw [List.append_nil] at parts
      have same := congrArg List.getLast? parts
      simp at same
    · cases patch with
      | @answered before t _ token =>
        rw [List.concat_eq_append,← List.append_assoc] at parts
        obtain ⟨shape,_⟩ := List.append_inj' parts rfl
        refine ⟨before,⟨.write .patch url t body,.ok first⟩,cached,front,?_,again⟩
        rw [← shape]
        simp

theorem answered_once {s : Sent} (first : s.answered 403) (second : s.answered 404) : False := by
  obtain ⟨res,same,refused⟩ := first
  obtain ⟨other,equal,missing⟩ := second
  cases same.symm.trans equal
  cases refused.symm.trans missing

-- After a PATCH that is answered 404 there is a POST at most.
theorem missing_short (exchange : Exchange kubernetes url body (start :: rest)) (missing : start.answered 404) :
    rest.length ≤ 1 := by
  cases exchange with
  | once attempt =>
    cases attempt with
    | patched => exact Nat.zero_le 1
    | created _ => exact Nat.le_refl 1
  | again _ forbidden attempt => cases answered_once ⟨_,rfl,forbidden⟩ missing

-- So no 403 precedes the last request.
theorem missing_last (exchange : Exchange kubernetes url body sent) (parts : sent = earlier ++ first :: (later ++ [last]))
    (refused : first.answered 403) (shape : sent = start :: rest) (missing : start.answered 404) : False := by
  subst shape
  have short := missing_short exchange missing
  have lengths := congrArg List.length parts
  simp only [List.length_append,List.length_cons,List.length_nil] at lengths
  obtain rfl : earlier = [] := List.eq_nil_of_length_eq_zero (by omega)
  obtain ⟨rfl,_⟩ := List.cons.inj parts
  exact answered_once refused missing

theorem missing_creation (exchange : Exchange kubernetes url body sent) (parts : sent = earlier ++ [last])
    (refused : last.answered 403) (shape : sent = start :: rest) (missing : start.answered 404) :
    ∃ patch post, sent = [patch,post] ∧ patch.answered 404 ∧ post.answered 403 := by
  subst shape
  have short := missing_short exchange missing
  cases earlier with
  | nil =>
    obtain ⟨rfl,_⟩ := List.cons.inj parts
    cases answered_once refused missing
  | cons patch earlier =>
    rw [List.cons_append] at parts
    obtain ⟨rfl,rfl⟩ := List.cons.inj parts
    rw [List.length_append,List.length_singleton] at short
    obtain rfl : earlier = [] := List.eq_nil_of_length_eq_zero (by omega)
    exact ⟨start,last,rfl,missing,refused⟩

-- Nothing follows the POST of such a call.
theorem creation_ends [HttpCrates] {bao : OpenBao} (call : RoundTrace bao url body again trace result)
    (creation : CreationRefused trace) : EndsForbidden trace := by
  obtain ⟨first,last,shape,missing,refused⟩ := creation
  have two : (sentOf trace).length = 2 := by rw [shape]; rfl
  cases call with
  | unsent patch =>
    rcases send_unanswered patch with none | ⟨lost,one⟩
    · simp [none] at two
    · simp [one] at two
  | accepted patch success => simp [send_sent patch] at two
  | refused patch failed final => simp [send_sent patch] at two
  | uncreated patch _ post =>
    rw [sentOf_append,send_sent patch] at shape two
    rcases send_unanswered post with none | ⟨lost,one⟩
    · simp [none] at two
    · rw [one] at shape
      cases shape
      obtain ⟨_,impossible,_⟩ := refused
      cases impossible
  | created patch _ post success =>
    rw [sentOf_append,send_sent patch,send_sent post] at shape
    cases shape
    obtain ⟨_,same,refused⟩ := refused
    cases same
    rw [status_failed _ (.inr refused)] at success
    cases success
  | unpermitted patch _ post failed =>
    rw [sentOf_append,send_sent patch,send_sent post] at shape
    cases shape
    obtain ⟨_,same,refused⟩ := refused
    cases same
    cases post with
    | answered token => exact ⟨_,_,_,_,_,by rw [← List.append_assoc,List.getLast?_concat],refused⟩
  | renewed patch again _ _ _ =>
    rw [sentOf_append,sentOf_append,send_sent patch] at shape
    obtain ⟨rfl,_⟩ := List.cons.inj shape
    cases answered_once ⟨_,rfl,again⟩ missing

section Calls
variable {ι : Type} [DecidableEq ι]

-- The last request of a call carried a token that some client's login was
-- answered with, after the call had received an earlier 403.
def LoggedInAgain (i : ι) (log : List (ι × Event BaoReply)) : Prop :=
  ∃ earlier first middle method url token body answer final, forbidden first ∧ IssuedIn middle token ∧
    own i final = [] ∧
    log = earlier ++ (i,first) :: (middle ++ (i,⟨.write method url token body,answer⟩) :: final)

theorem refused_writes [HttpCrates] (bao : OpenBao) (kubernetes : bao.auth.isKubernetes = true)
    (targets : ι → OpenBaoTarget) (values : ι → String)
    (path : Runs Serve (fun i => bao.writeKey (targets i) (values i)) s log remainder after)
    (finished : remainder i = .done (.error e)) :
    (EndsForbidden (own i log) → LoggedInAgain i log) ↔ ¬ CreationRefused (own i log) := by
  have run : Returns (bao.writeKey (targets i) (values i)) (own i log) (.error e) := by
    have steps := path.steps i
    rwa [finished] at steps
  have follows : ∀ j, Follows rule [] (bao.writeKey (targets j) (values j)) :=
    fun j => writeKey_follows kubernetes (targets j) (values j)
  rcases writeKey_trace run with ⟨none,_⟩ | ⟨place,_,call⟩
  · refine iff_of_true ?_ ?_
    · rintro ⟨_,_,_,_,_,last,_⟩
      simp [none] at last
    · rintro ⟨patch,post,shape,_⟩
      simp [none] at shape
  constructor
  · intro claimed creation
    have ended := creation_ends call creation
    obtain ⟨start,post,sent,missing,_⟩ := creation
    obtain ⟨earlier,⟨op,reply⟩,middle,method,url,token,last,answer,final,again,_,quiet,whole⟩ :=
      claimed ended
    cases op with
    | write first other _ body =>
      cases reply with
      | error lost => cases again
      | ok reply =>
        have shape : sentOf (own i log) = sentOf (own i earlier) ++ ⟨first,other,body,.ok reply⟩ ::
            (sentOf (own i middle) ++ [⟨method,url,last,answer⟩]) := by
          rw [whole,own_append,own_cons_self,own_append,own_cons_self,quiet,sentOf_append,sentOf_write,sentOf_append]
          rfl
        exact missing_last (call_sent call).1 shape ⟨reply,rfl,again⟩ sent missing
    | _ => cases again
  · intro uncreated given
    obtain ⟨method,url,token,body,res,last,refused⟩ := given
    obtain ⟨prior,parts⟩ := List.getLast?_eq_some_iff.mp last
    rcases last_refused kubernetes call parts refused with missing | ⟨earlier,first,cached,later,shape,again⟩
    · obtain ⟨start,rest,sent,missing⟩ := missing
      have ends : sentOf (own i log) = sentOf prior ++ [⟨method,url,body,.ok res⟩] := by rw [parts,sentOf_append]; rfl
      exact absurd (missing_creation (call_sent call).1 ends ⟨res,rfl,refused⟩ sent missing) uncreated
    · have saw : own i log = (earlier ++ [first,⟨.lock,cached⟩]) ++ ⟨.unlock none,()⟩ ::
          (later ++ [⟨.write method url token body,.ok res⟩]) := by
        rw [parts,shape]
        simp
      obtain ⟨front,rest,rfl,seen,ahead⟩ := own_eq_append saw
      obtain ⟨back,final,rfl,_,quiet⟩ := own_eq_append ahead
      obtain ⟨start,between,rfl,_,_⟩ := own_eq_append (show _ = earlier ++ first :: [_] from seen)
      have whole : (start ++ (i,first) :: between) ++ (i,⟨.unlock none,()⟩) ::
          (back ++ (i,⟨.write method url token body,.ok res⟩) :: final) =
          (start ++ (i,first) :: between) ++ [(i,⟨.unlock none,()⟩)] ++ back ++
            [(i,⟨.write method url token body,.ok res⟩)] ++ final := by simp
      obtain ⟨_,_,path,_⟩ := path.split whole
      obtain ⟨entry,member,same⟩ := token_renewed follows path
      refine ⟨start,first,between ++ (i,⟨.unlock none,()⟩) :: back,method,url,token,body,.ok res,final,again,
        ⟨entry,?_,same⟩,quiet,?_⟩
      · exact List.mem_append_right _ (List.mem_cons_of_mem _ member)
      · simp

end Calls

-- A cached token that has been revoked, refused at the PATCH and at the POST.
def kubernetesBao : OpenBao := ⟨⟨[],true⟩,.kubernetes "kubernetes" "you-spin-me" "/jwt"⟩
def staleToken : CachedToken := ⟨"stale",none⟩
def freshToken : CachedToken := ⟨"fresh",none⟩
def ciTarget : OpenBaoTarget := ⟨"secret","ci/app","a"⟩
def targetUrl : List String := ["v1","secret","data","ci","app"]

def refusedPatch : BaoTrace :=
  [⟨.lock,some staleToken⟩,⟨.unlock (some staleToken),()⟩,
    ⟨.write .patch targetUrl "stale" ⟨"a","v"⟩,.ok {status := 403}⟩,⟨.lock,some staleToken⟩,⟨.unlock none,()⟩,
    ⟨.lock,none⟩,⟨.readFile "/jwt",.ok "jwt"⟩,
    ⟨.login ["v1","auth","kubernetes","login"] "you-spin-me" "jwt",.ok {status := 200,login := .ok ⟨"fresh",0,by decide⟩}⟩,
    ⟨.unlock (some freshToken),()⟩,⟨.write .patch targetUrl "fresh" ⟨"a","v"⟩,.ok {status := 403}⟩]

def refusedPost : BaoTrace :=
  [⟨.lock,some staleToken⟩,⟨.unlock (some staleToken),()⟩,
    ⟨.write .patch targetUrl "stale" ⟨"a","v"⟩,.ok {status := 404}⟩,⟨.lock,some staleToken⟩,
    ⟨.unlock (some staleToken),()⟩,⟨.write .post targetUrl "stale" ⟨"a","v"⟩,.ok {status := 403}⟩]

def refusal (action : String) : TargetError := @errorFrom plainHttp {status := 403} action

theorem refusedPatch_returns :
    Returns (@OpenBao.writeKey plainHttp kubernetesBao ciTarget "v") refusedPatch (.error (refusal "OpenBao write")) :=
  .cons (.cons (.cons (.cons (.cons (.cons (.cons (.cons (.cons (.cons .nil)))))))))

theorem refusedPost_returns :
    Returns (@OpenBao.writeKey plainHttp kubernetesBao ciTarget "v") refusedPost (.error (refusal "OpenBao create")) :=
  .cons (.cons (.cons (.cons (.cons (.cons .nil)))))

theorem refusedPatch_serves : Serves Serve ⟨some staleToken,false⟩ refusedPatch ⟨some freshToken,false⟩ := by
  refine .cons (.lock rfl) (.cons .unlock (.cons (.other rfl) (.cons (.lock rfl) (.cons .unlock (.cons (.lock rfl)
    (.cons (.other rfl) (.cons (.other rfl) (.cons .unlock (.cons (.other rfl) .nil)))))))))

theorem refusedPost_serves : Serves Serve ⟨some staleToken,false⟩ refusedPost ⟨some staleToken,false⟩ :=
  .cons (.lock rfl) (.cons .unlock (.cons (.other rfl) (.cons (.lock rfl) (.cons .unlock (.cons (.other rfl) .nil)))))

theorem refusedPatch_renewed : LoggedInAgain () (refusedPatch.map fun event => ((),event)) := by
  let _ := plainHttp
  have path := Steps.alone refusedPatch_returns refusedPatch_serves
  refine (refused_writes kubernetesBao rfl (fun _ => ciTarget) (fun _ => "v") path rfl).mpr ?_ ⟨_,_,_,_,_,rfl,rfl⟩
  intro given
  obtain ⟨patch,post,shape,⟨res,answer,missing⟩,_⟩ := given
  cases shape
  cases answer
  cases missing

theorem refusedPost_stale : ∃ remainder after,
    Runs Serve (fun _ : Unit => @OpenBao.writeKey plainHttp kubernetesBao ciTarget "v") ⟨some staleToken,false⟩
      (refusedPost.map fun event => ((),event)) remainder after ∧
    remainder () = .done (.error (refusal "OpenBao create")) ∧
    refusedPost.getLast? = some ⟨.write .post targetUrl "stale" ⟨"a","v"⟩,.ok {status := 403}⟩ ∧
    ¬ LoggedInAgain () (refusedPost.map fun event => ((),event)) := by
  refine ⟨_,_,Steps.alone refusedPost_returns refusedPost_serves,rfl,rfl,?_⟩
  intro given
  obtain ⟨earlier,first,middle,_,_,token,_,_,final,_,⟨entry,member,login⟩,_,whole⟩ := given
  have quiet : ∀ entry ∈ refusedPost.map fun event => ((),event), issued entry.2 = none := by
    simp [refusedPost,issued]
  have listed : entry ∈ refusedPost.map fun event => ((),event) := by
    rw [whole]
    simp [member]
  rw [quiet entry listed] at login
  cases login

end YouSpinMe.TokenCache
