import YouSpinMe.OpenBaoStore

namespace YouSpinMe.WriteProtocol
open RequestProgram SharedRun Effects Crd OpenBaoWriter WriterTraces OpenBaoStore

-- The write requests of a call. Logins and the look at the token are not among
-- them.
structure Sent where
  method : Method
  url : List String
  body : WriteBody
  answer : Except Lost Response

def Sent.accepted (s : Sent) : Prop := ∃ res, s.answer = .ok res ∧ res.isSuccess = true
def Sent.answered (s : Sent) (status : Nat) : Prop := ∃ res, s.answer = .ok res ∧ res.status = status

def sentOf (trace : BaoTrace) : List Sent :=
  trace.filterMap fun event => match event with
    | ⟨.write method url _ body,answer⟩ => some ⟨method,url,body,answer⟩
    | _ => none

@[simp] theorem sentOf_nil : sentOf [] = [] := rfl
@[simp] theorem sentOf_append (earlier later : BaoTrace) : sentOf (earlier ++ later) = sentOf earlier ++ sentOf later :=
  List.filterMap_append ..
@[simp] theorem sentOf_write (method : Method) (url : List String) (token : String) (body : WriteBody)
    (answer : Except Lost Response) (trace : BaoTrace) :
    sentOf (⟨.write method url token body,answer⟩ :: trace) = ⟨method,url,body,answer⟩ :: sentOf trace := rfl

def quiet : BaoOp → Prop
  | .write .. => False
  | _ => True

theorem sentOf_quiet {trace : BaoTrace} (silent : ∀ event ∈ trace, quiet event.op) : sentOf trace = [] := by
  rw [sentOf,List.filterMap_eq_nil_iff]
  intro event member
  have other := silent event member
  obtain ⟨op,answer⟩ := event
  cases op <;> first | rfl | cases other

theorem readTrimmed_within (path what : String) : Within 1 (readTrimmed path what) := by
  intro answer
  cases answer <;> exact within_done ..

theorem usable_within (cached : Option CachedToken) : Within 1 (usable cached) := by
  cases cached with
  | none => exact within_done ..
  | some t =>
    dsimp only [usable]
    split
    · exact within_done ..
    · exact fun now => within_done ..

section Requests
variable [HttpCrates]

theorem login_within (bao : OpenBao) : Within 3 bao.login := by
  unfold OpenBao.login
  cases bao.auth with
  | tokenFile path =>
    refine within_bind (readTrimmed_within path _) (m := 0) (fun value => ?_) (by decide)
    cases value <;> exact within_done ..
  | kubernetes mount role jwtFile =>
    refine within_bind (readTrimmed_within jwtFile _) (m := 2) (fun value => ?_) (by decide)
    cases value with
    | error e => exact within_done ..
    | ok jwt =>
      cases bao.url ["auth",mount,"login"] with
      | error e => exact within_done ..
      | ok url =>
        simp only [bind_ask,within_request]
        intro answer
        cases answer with
        | error e => exact within_done ..
        | ok res =>
          dsimp only
          split
          · exact within_done ..
          · split
            · exact within_done ..
            · split
              · exact within_done ..
              · exact fun now => within_done ..

theorem token_within (bao : OpenBao) : Within 6 bao.token := by
  simp only [OpenBao.token,bind_ask,within_request]
  intro cached
  refine within_bind (usable_within cached) (m := 4) (fun found => ?_) (by decide)
  cases found with
  | some token => exact fun _ => within_done ..
  | none =>
    refine within_bind (login_within bao) (m := 1) (fun answer => ?_) (by decide)
    cases answer <;> exact fun _ => within_done ..

theorem send_within (bao : OpenBao) (method : Method) (url : List String) (body : WriteBody) :
    Within 7 (bao.send method url body) := by
  refine within_bind (token_within bao) (m := 1) (fun answer => ?_) (by decide)
  cases answer with
  | error e => exact within_done ..
  | ok token =>
    intro answer
    cases answer <;> exact within_done ..

theorem create_within (bao : OpenBao) (url : List String) (body : WriteBody) : Within 7 (bao.create url body) := by
  refine within_bind (send_within bao .post url body) (m := 0) (fun answer => ?_) (by decide)
  cases answer with
  | error e => exact within_done ..
  | ok res =>
    dsimp only
    split <;> exact within_done ..

theorem round_within {n k : Nat} (bao : OpenBao) (url : List String) (body : WriteBody)
    (next : ∀ program, again = some program → Within n program ∧ 2 + n ≤ k) (room : 7 ≤ k) :
    Within (7 + k) (bao.round url body again) := by
  refine within_bind (send_within bao .patch url body) (m := k) (fun answer => ?_) (Nat.le_refl _)
  cases answer with
  | error e => exact within_done ..
  | ok res =>
    dsimp only
    split
    · exact within_done ..
    · split
      · exact (create_within bao url body).mono room
      · cases again with
        | none => exact within_done ..
        | some program =>
          obtain ⟨bounded,fits⟩ := next program rfl
          dsimp only
          split
          · exact within_bind (n := 2) (fun _ _ => within_done ..) (fun _ => bounded) fits
          · exact within_done ..

theorem writeKey_within (bao : OpenBao) (target : OpenBaoTarget) (value : String) :
    Within 23 (bao.writeKey target value) := by
  unfold OpenBao.writeKey
  split
  · exact within_done ..
  · apply round_within bao _ _ (n := 14) (k := 16)
    · intro program same
      cases same
      refine ⟨round_within bao _ _ (n := 0) (k := 7) ?_ (by decide),by decide⟩
      intro program none
      cases none
    · decide

theorem token_quiet (bao : OpenBao) : Asks quiet bao.token := by
  have fetched : ∀ path what, Asks quiet (readTrimmed path what) := by
    intro path what
    refine ⟨trivial,fun answer => ?_⟩
    cases answer <;> trivial
  have renewed : Asks quiet bao.login := by
    unfold OpenBao.login
    split
    · refine asks_bind (fetched ..) fun value => ?_
      cases value <;> trivial
    · refine asks_bind (fetched ..) fun value => ?_
      split
      · trivial
      · split
        · trivial
        · refine ⟨trivial,fun answer => ?_⟩
          dsimp only [Program.bind]
          split
          · trivial
          · split
            · trivial
            · split
              · trivial
              · split
                · trivial
                · exact ⟨trivial,fun _ => trivial⟩
  have looked : ∀ cached, Asks quiet (usable cached) := by
    intro cached
    unfold usable
    split
    · trivial
    · split
      · trivial
      · exact ⟨trivial,fun _ => trivial⟩
  simp only [OpenBao.token,bind_ask,asks_request]
  refine ⟨trivial,fun cached => asks_bind (looked cached) fun found => ?_⟩
  split
  · exact ⟨trivial,fun _ => trivial⟩
  · refine asks_bind renewed fun answer => ?_
    cases answer <;> exact ⟨trivial,fun _ => trivial⟩

theorem returned_quiet {bao : OpenBao} (token : Returns bao.token trace result) : sentOf trace = [] :=
  sentOf_quiet ((token_quiet bao).steps token)

theorem send_sent {bao : OpenBao} (send : SendTrace bao method url body trace (.ok res)) :
    sentOf trace = [⟨method,url,body,.ok res⟩] := by
  cases send with
  | answered token => rw [sentOf_append,returned_quiet token,sentOf_write,sentOf_nil,List.nil_append]

theorem send_unanswered {bao : OpenBao} (send : SendTrace bao method url body trace (.error e)) :
    sentOf trace = [] ∨ ∃ lost, sentOf trace = [⟨method,url,body,.error lost⟩] := by
  cases send with
  | unlogged token => exact .inl (returned_quiet token)
  | @lost _ _ lost token =>
    refine .inr ⟨lost,?_⟩
    rw [sentOf_append,returned_quiet token,sentOf_write,sentOf_nil,List.nil_append]

end Requests

-- The write requests of one pass, and of a call.
inductive Attempt (url : List String) (body : WriteBody) : List Sent → Prop where
  | unsent : Attempt url body []
  | patched : Attempt url body [⟨.patch,url,body,answer⟩]
  | created (missing : res.status = 404) : Attempt url body [⟨.patch,url,body,.ok res⟩,⟨.post,url,body,answer⟩]

inductive Exchange (kubernetes : Prop) (url : List String) (body : WriteBody) : List Sent → Prop where
  | once (attempt : Attempt url body sent) : Exchange kubernetes url body sent
  | again (permitted : kubernetes) (forbidden : res.status = 403) (attempt : Attempt url body later) :
      Exchange kubernetes url body (⟨.patch,url,body,.ok res⟩ :: later)

-- Ok is returned on the last write request's 2xx answer and on nothing else.
def Settled (result : Except TargetError Unit) (sent : List Sent) : Prop :=
  result = .ok () ↔ ∃ s, sent.getLast? = some s ∧ s.accepted

theorem settled_none (e : TargetError) : Settled (.error e) [] := by simp [Settled]

theorem settled_refused (e : TargetError) (unaccepted : ¬ s.accepted) (earlier : List Sent) :
    Settled (.error e) (earlier ++ [s]) := by
  simpa [Settled] using unaccepted

theorem settled_accepted (accepted : s.accepted) (earlier : List Sent) : Settled (.ok ()) (earlier ++ [s]) := by
  simpa [Settled] using accepted

theorem Settled.cons (settled : Settled result later) (unaccepted : ¬ s.accepted) : Settled result (s :: later) := by
  cases later with
  | nil => simpa [Settled,unaccepted] using settled
  | cons first rest => simpa [Settled] using settled

theorem accepted_ok : (⟨method,url,body,.ok res⟩ : Sent).accepted ↔ res.isSuccess = true := by simp [Sent.accepted]
theorem accepted_error : ¬ (⟨method,url,body,.error lost⟩ : Sent).accepted := by simp [Sent.accepted]

theorem status_failed (res : Response) (other : res.status = 404 ∨ res.status = 403) : res.isSuccess = false := by
  simp only [Response.isSuccess,decide_eq_false_iff_not]
  omega

section Calls
variable [HttpCrates] {bao : OpenBao}

theorem round_sent (path : RoundTrace bao url body again trace result) :
    Attempt url body (sentOf trace) ∧ Settled result (sentOf trace) ∨
    ∃ res program later, again = some program ∧ bao.auth.isKubernetes = true ∧ res.status = 403 ∧
      Returns program later result ∧ sentOf trace = ⟨.patch,url,body,.ok res⟩ :: sentOf later := by
  cases path with
  | unsent patch =>
    left
    rcases send_unanswered patch with none | ⟨lost,one⟩
    · rw [none]
      exact ⟨.unsent,settled_none _⟩
    · rw [one]
      exact ⟨.patched,settled_refused _ accepted_error []⟩
  | accepted patch success =>
    rw [send_sent patch]
    exact .inl ⟨.patched,settled_accepted (accepted_ok.mpr success) []⟩
  | uncreated patch missing post =>
    left
    rw [sentOf_append,send_sent patch]
    have first := status_failed _ (.inl missing)
    rcases send_unanswered post with none | ⟨lost,one⟩
    · rw [none]
      exact ⟨.patched,settled_refused _ (by simp [accepted_ok,first]) []⟩
    · rw [one]
      exact ⟨.created missing,settled_refused _ accepted_error [_]⟩
  | created patch missing post success =>
    rw [sentOf_append,send_sent patch,send_sent post]
    exact .inl ⟨.created missing,settled_accepted (accepted_ok.mpr success) [_]⟩
  | unpermitted patch missing post failed =>
    rw [sentOf_append,send_sent patch,send_sent post]
    exact .inl ⟨.created missing,settled_refused _ (by simp [accepted_ok,failed]) [_]⟩
  | refused patch failed final =>
    rw [send_sent patch]
    exact .inl ⟨.patched,settled_refused _ (by simp [accepted_ok,failed]) []⟩
  | @renewed earlier res program later _ cached patch forbidden kubernetes next rest =>
    right
    refine ⟨res,program,later,next,kubernetes,forbidden,rest,?_⟩
    rw [sentOf_append,sentOf_append,send_sent patch]
    rfl

theorem call_sent
    (path : RoundTrace bao url body (some (bao.round url body none)) trace result) :
    Exchange (bao.auth.isKubernetes = true) url body (sentOf trace) ∧ Settled result (sentOf trace) := by
  rcases round_sent path with ⟨attempt,settled⟩ | ⟨res,program,later,next,kubernetes,forbidden,rest,sent⟩
  · exact ⟨.once attempt,settled⟩
  · cases next
    rcases round_sent (round_trace rest) with ⟨attempt,settled⟩ | ⟨_,_,_,none,_⟩
    · rw [sent]
      have failed := status_failed res (.inr forbidden)
      exact ⟨.again kubernetes forbidden attempt,settled.cons (by simp [accepted_ok,failed])⟩
    · cases none

end Calls

-- What the write requests of one call look like.
structure InProtocol [HttpCrates] (bao : OpenBao) (target : OpenBaoTarget) (value : String) (sent : List Sent) : Prop where
  patches : (sent.filter fun s => s.method = .patch).length ≤ 2
  posts : (sent.filter fun s => s.method = .post).length ≤ 1
  same : ∀ s ∈ sent, bao.url [target.mount,"data",target.path] = .ok s.url ∧ s.body = ⟨target.key,value⟩
  created : ∀ before s after, sent = before ++ s :: after → s.method = .post →
    ∃ prior, before.getLast? = some prior ∧ prior.method = .patch ∧ prior.answered 404
  retried : ∀ before s after, sent = before ++ s :: after → s.method = .patch → before ≠ [] →
    bao.auth.isKubernetes = true ∧ ∃ first, before = [first] ∧ first.method = .patch ∧ first.answered 403

theorem Attempt.urls (attempt : Attempt url body sent) : ∀ s ∈ sent, s.url = url ∧ s.body = body := by
  intro s member
  cases attempt with
  | unsent => cases member
  | patched =>
    cases List.mem_singleton.mp member
    exact ⟨rfl,rfl⟩
  | created missing =>
    simp only [List.mem_cons,List.not_mem_nil,or_false] at member
    rcases member with rfl | rfl <;> exact ⟨rfl,rfl⟩

theorem Exchange.urls (exchange : Exchange kubernetes url body sent) : ∀ s ∈ sent, s.url = url ∧ s.body = body := by
  cases exchange with
  | once attempt => exact attempt.urls
  | again permitted forbidden attempt =>
    intro s member
    rcases List.mem_cons.mp member with rfl | later
    · exact ⟨rfl,rfl⟩
    · exact attempt.urls s later

theorem Attempt.post (attempt : Attempt url body sent) (parts : sent = before ++ s :: after)
    (post : s.method = .post) : ∃ prior, before = [prior] ∧ prior.method = .patch ∧ prior.answered 404 := by
  cases attempt with
  | unsent => simp at parts
  | patched =>
    obtain ⟨rfl,same⟩ := List.append_eq_singleton_iff.mp parts.symm |>.resolve_right (by simp)
    cases same
    cases post
  | created missing =>
    rcases before with _ | ⟨prior,before⟩
    · cases parts
      cases post
    · obtain ⟨rfl,rest⟩ := List.cons.inj parts
      obtain ⟨rfl,_⟩ := List.append_eq_singleton_iff.mp rest.symm |>.resolve_right (by simp)
      exact ⟨_,rfl,rfl,_,rfl,missing⟩

theorem Attempt.patch (attempt : Attempt url body sent) (parts : sent = before ++ s :: after)
    (patch : s.method = .patch) : before = [] := by
  cases attempt with
  | unsent => simp at parts
  | patched => exact (List.append_eq_singleton_iff.mp parts.symm |>.resolve_right (by simp)).1
  | created missing =>
    rcases before with _ | ⟨prior,before⟩
    · rfl
    · obtain ⟨_,rest⟩ := List.cons.inj parts
      obtain ⟨_,same⟩ := List.append_eq_singleton_iff.mp rest.symm |>.resolve_right (by simp)
      cases same
      cases patch

theorem Attempt.counts (attempt : Attempt url body sent) :
    (sent.filter fun s => s.method = .patch).length ≤ 1 ∧ (sent.filter fun s => s.method = .post).length ≤ 1 := by
  cases attempt <;> simp

theorem exchange_protocol [HttpCrates] {bao : OpenBao} (found : bao.url [target.mount,"data",target.path] = .ok url)
    (exchange : Exchange (bao.auth.isKubernetes = true) url ⟨target.key,value⟩ sent) :
    InProtocol bao target value sent := by
  have urls : ∀ s ∈ sent, bao.url [target.mount,"data",target.path] = .ok s.url ∧ s.body = ⟨target.key,value⟩ := by
    intro s member
    obtain ⟨place,same⟩ := exchange.urls s member
    exact ⟨place ▸ found,same⟩
  cases exchange with
  | once attempt =>
    refine ⟨attempt.counts.1.trans (by decide),attempt.counts.2,urls,?_,?_⟩
    · intro before s after parts post
      obtain ⟨prior,rfl,patch,missing⟩ := attempt.post parts post
      exact ⟨prior,rfl,patch,missing⟩
    · intro before s after parts patch second
      exact absurd (attempt.patch parts patch) second
  | again permitted forbidden attempt =>
    refine ⟨Nat.succ_le_succ attempt.counts.1,attempt.counts.2,urls,?_,?_⟩
    · intro before s after parts post
      rcases before with _ | ⟨first,before⟩
      · cases parts
        cases post
      · obtain ⟨prior,rfl,patch,missing⟩ := attempt.post (List.cons.inj parts).2 post
        exact ⟨prior,rfl,patch,missing⟩
    · intro before s after parts patch second
      rcases before with _ | ⟨first,before⟩
      · exact absurd rfl second
      · obtain ⟨rfl,rest⟩ := List.cons.inj parts
        rw [attempt.patch rest patch]
        exact ⟨permitted,_,rfl,rfl,_,rfl,forbidden⟩

-- What the server makes of the requests when it serves nobody else meanwhile.
theorem serves_quiet (path : Serves (Serve update) w trace after) (silent : sentOf trace = []) :
    after.secrets = w.secrets := by
  induction path with
  | nil => rfl
  | @cons w op answer middle events after served rest ih =>
    have later : sentOf events = [] := by
      cases op with
      | write => simp at silent
      | _ => exact silent
    rw [ih later]
    cases served with
    | lock | unlock | clock | readFile | login => rfl
    | accepted | refused => simp at silent

theorem send_served [HttpCrates] {bao : OpenBao} (send : SendTrace bao method url body trace (.ok res))
    (path : Serves (Serve update) w trace after) :
    ∃ token before, before.secrets = w.secrets ∧ Serve update before (.write method url token body) (.ok res) after := by
  cases send with
  | answered token =>
    obtain ⟨before,first,last⟩ := serves_append.mp path
    obtain ⟨_,served,rest⟩ := serves_cons.mp last
    cases rest
    exact ⟨_,before,serves_quiet first (returned_quiet token),served⟩

theorem refused_served (served : Serve update w (.write method url token body) (.ok res) after)
    (failed : res.isSuccess = false) :
    after = w ∧ (method = .patch → res.status = 404 → w.secrets url = none) := by
  cases served with
  | accepted applies success => exact absurd success (by simp [taken,failed])
  | refused _ honest => exact ⟨rfl,fun patch => honest patch res rfl⟩

theorem accepted_served (served : Serve update w (.write method url token body) (.ok res) after)
    (success : res.isSuccess = true) : Applies update w method url body after := by
  cases served with
  | accepted applies _ => exact applies
  | refused failed _ => exact absurd success (by simpa [taken] using failed)

-- The key has the value and nothing else is different.
structure Written (url : List String) (body : WriteBody) (w after : World) : Prop where
  stored : after.holds url body.key = some body.value
  paths : ∀ place, place ≠ url → after.secrets place = w.secrets place
  keys : ∀ key, key ≠ body.key → after.holds url key = w.holds url key

theorem Written.from {first : World} (written : Written url body middle after) (same : middle.secrets = first.secrets) :
    Written url body first after := by
  refine ⟨written.stored,fun place other => (written.paths place other).trans (congrFun same place),?_⟩
  intro key other
  rw [written.keys key other,World.holds,World.holds,same]

theorem applies_exact (applies : Applies update w method url body after)
    (fresh : method = .post → w.secrets url = none) : Written url body w after := by
  refine ⟨applies_written applies,?_,?_⟩
  · intro place other
    cases applies with
    | merged | created | replaced => exact Function.update_of_ne other ..
  · intro key other
    cases applies with
    | merged there =>
      rw [World.holds_store,if_pos rfl]
      simp [merge,other,World.holds,there]
    | created missing =>
      rw [World.holds_store,if_pos rfl]
      simp [only,other,World.holds,missing]
    | replaced granted there => simp [fresh rfl] at there

theorem round_written [HttpCrates] {bao : OpenBao}
    (call : RoundTrace bao url body again trace (.ok ())) (path : Serves (Serve update) w trace after)
    (next : ∀ program, again = some program → ∀ later middle, Returns program later (.ok ()) →
      Serves (Serve update) middle later after → Written url body middle after) : Written url body w after := by
  cases call with
  | accepted patch success =>
    obtain ⟨token,before,same,served⟩ := send_served patch path
    refine (applies_exact (accepted_served served success) ?_).from same
    intro post
    cases post
  | created patch missing post success =>
    obtain ⟨middle,first,second⟩ := serves_append.mp path
    obtain ⟨_,before,same,patched⟩ := send_served patch first
    obtain ⟨rfl,honest⟩ := refused_served patched (status_failed _ (.inl missing))
    obtain ⟨_,ready,kept,posted⟩ := send_served post second
    have absent : ready.secrets url = none := (congrFun kept url).trans (honest rfl missing)
    exact (applies_exact (accepted_served posted success) fun _ => absent).from (kept.trans same)
  | renewed patch forbidden kubernetes left rest =>
    obtain ⟨middle,both,last⟩ := serves_append.mp path
    obtain ⟨between,first,renewing⟩ := serves_append.mp both
    obtain ⟨_,before,same,patched⟩ := send_served patch first
    obtain ⟨rfl,_⟩ := refused_served patched (status_failed _ (.inr forbidden))
    exact (next _ left _ middle rest last).from ((serves_quiet renewing rfl).trans same)

theorem write_protocol [HttpCrates] (bao : OpenBao) (target : OpenBaoTarget) (value : String) :
    (∀ trace remainder, Steps (bao.writeKey target value) trace remainder →
      trace.length ≤ 23 ∧ ∃ later result, Returns remainder later result) ∧
    ∀ trace result, Returns (bao.writeKey target value) trace result →
      InProtocol bao target value (sentOf trace) ∧
      (result = .ok () ↔ ∃ s, (sentOf trace).getLast? = some s ∧ s.accepted) ∧
      ∀ update w after, Serves (Serve update) w trace after → result = .ok () →
        ∃ url, bao.url [target.mount,"data",target.path] = .ok url ∧ Written url ⟨target.key,value⟩ w after := by
  have inhabited : ∀ op, Nonempty (BaoReply op) := by
    intro op
    cases op with
    | lock => exact ⟨none⟩
    | unlock => exact ⟨()⟩
    | clock => exact ⟨(0 : Int)⟩
    | readFile => exact ⟨.error ""⟩
    | login | write => exact ⟨.ok {status := 200}⟩
  refine ⟨fun trace remainder path => ⟨(writeKey_within bao target value).steps path,returns_exists remainder⟩,?_⟩
  intro trace result path
  rcases writeKey_trace path with ⟨rfl,e,rfl⟩ | ⟨url,found,call⟩
  · refine ⟨⟨by simp,by simp,by simp,by simp,by simp⟩,settled_none e,?_⟩
    intro update w after _ ok
    cases ok
  · obtain ⟨exchange,settled⟩ := call_sent call
    refine ⟨exchange_protocol found exchange,settled,?_⟩
    intro update w after served ok
    subst ok
    refine ⟨url,found,round_written call served ?_⟩
    intro program same later middle rest last
    cases same
    exact round_written (round_trace rest) last (by intro program none; cases none)

-- One call alone, on a path that is not there yet.
def creating := schedule (respond false) (List.replicate 7 ())
  (fun _ => @OpenBao.writeKey plainHttp tokenBao (creators false) "v") bareWorld

theorem creating_written : Written sharedUrl ⟨"a","v"⟩ bareWorld creating.2.2 := by
  let _ := plainHttp
  have path := schedule_runs (@respond_serves false) (List.replicate 7 ())
    (fun _ => tokenBao.writeKey (creators false) "v") bareWorld
  obtain ⟨_,_,written⟩ := (write_protocol tokenBao (creators false) "v").2 _ _ (path.steps ())
  obtain ⟨url,found,written⟩ := written false bareWorld _ path.serves rfl
  cases found
  exact written

end YouSpinMe.WriteProtocol
