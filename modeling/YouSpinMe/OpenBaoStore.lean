import YouSpinMe.WriterTraces
import YouSpinMe.SharedRun

namespace YouSpinMe.OpenBaoStore
open RequestProgram SharedRun Effects Text Crd OpenBaoWriter WriterTraces

-- The secrets of a KV v2 store by the path segments of their address, and the
-- writer's own mutex with what it guards.
structure World where
  secrets : List String → Option (String → Option String)
  cached : Option CachedToken := none
  locked : Bool := false

def World.holds (w : World) (url : List String) (key : String) : Option String :=
  (w.secrets url).bind fun secret => secret key

def only (body : WriteBody) : String → Option String := Function.update (fun _ => none) body.key (some body.value)
def merge (secret : String → Option String) (body : WriteBody) : String → Option String :=
  Function.update secret body.key (some body.value)

def World.store (w : World) (url : List String) (secret : String → Option String) : World :=
  {w with secrets := Function.update w.secrets url (some secret)}

-- What a request does that the server carries out. A POST on a path that is
-- there is an update, which the policy may or may not grant.
inductive Applies (update : Bool) (w : World) : Method → List String → WriteBody → World → Prop where
  | merged (there : w.secrets url = some secret) : Applies update w .patch url body (w.store url (merge secret body))
  | created (missing : w.secrets url = none) : Applies update w .post url body (w.store url (only body))
  | replaced (granted : update = true) (there : w.secrets url = some secret) :
      Applies update w .post url body (w.store url (only body))

def taken : Except Lost Response → Bool
  | .ok res => res.isSuccess
  | .error lost => lost.applied

inductive Serve (update : Bool) : Server World BaoReply where
  | lock (free : w.locked = false) : Serve update w .lock w.cached {w with locked := true}
  | unlock : Serve update w (.unlock cached) () {w with cached := cached,locked := false}
  | clock : Serve update w .clock now w
  | readFile : Serve update w (.readFile path) text w
  | login : Serve update w (.login url role jwt) reply w
  | accepted (applies : Applies update w method url body after) (success : taken answer = true) :
      Serve update w (.write method url token body) answer after
  | refused (failed : taken answer = false)
      (honest : method = .patch → ∀ res, answer = .ok res → res.status = 404 → w.secrets url = none) :
      Serve update w (.write method url token body) answer w

-- No accepted POST takes the place of a secret that has another key.
def Undisturbed (update : Bool) (w : World) : (op : BaoOp) → BaoReply op → Prop
  | .write .post url _ body,answer => update = true → taken answer = true →
      ∀ secret, w.secrets url = some secret → ∀ key, secret key ≠ none → key = body.key
  | _,_ => True

def writtenKey (url : List String) (key : String) : Event BaoReply → Option String
  | ⟨.write _ other _ body,answer⟩ =>
    if taken answer = true ∧ other = url ∧ body.key = key then some body.value else none
  | _ => none

theorem World.holds_store (w : World) (url other : List String) (secret : String → Option String) (key : String) :
    (w.store url secret).holds other key = if other = url then secret key else w.holds other key := by
  by_cases same : other = url
  · subst same
    simp [World.holds,World.store]
  · simp [World.holds,World.store,same]

theorem applies_written (applies : Applies update w method url body after) :
    after.holds url body.key = some body.value := by
  cases applies with
  | merged there => simp [World.holds_store,merge]
  | created missing => simp [World.holds_store,only]
  | replaced granted there => simp [World.holds_store,only]

theorem applies_kept (applies : Applies update w method url body after) (token : String)
    (undisturbed : Undisturbed update w (.write method url token body) answer) (success : taken answer = true)
    (other : ¬ (place = url ∧ key = body.key)) (present : w.holds place key ≠ none) :
    after.holds place key = w.holds place key := by
  by_cases same : place = url
  · subst same
    have different : key ≠ body.key := fun equal => other ⟨rfl,equal⟩
    cases applies with
    | merged there =>
      rw [World.holds_store,if_pos rfl]
      simp [merge,different,World.holds,there]
    | created missing => simp [World.holds,missing] at present
    | replaced granted there =>
      rename_i secret
      have has : secret key ≠ none := by simpa [World.holds,there] using present
      exact absurd (undisturbed granted success secret there key has) different
  · cases applies with
    | merged | created | replaced => simp [World.holds_store,same]

-- An accepted write is there afterwards; what was there and was not written stays.
theorem serve_holds (served : ((Serve update).restrict (Undisturbed update)) w op answer after) (url : List String)
    (key : String) :
    (∀ value, writtenKey url key ⟨op,answer⟩ = some value → after.holds url key = some value) ∧
    (writtenKey url key ⟨op,answer⟩ = none → w.holds url key ≠ none → after.holds url key = w.holds url key) := by
  obtain ⟨served,undisturbed⟩ := served
  cases served with
  | lock | unlock | clock | readFile | login =>
    refine ⟨?_,fun _ _ => rfl⟩
    intro value found
    cases found
  | @accepted _ method place body _ answer token applies success =>
    refine ⟨?_,?_⟩
    · intro value found
      simp only [writtenKey,Option.ite_none_right_eq_some,Option.some.injEq] at found
      obtain ⟨⟨_,rfl,rfl⟩,rfl⟩ := found
      exact applies_written applies
    · intro none present
      refine applies_kept applies token undisturbed success ?_ present
      intro same
      obtain ⟨rfl,rfl⟩ := same
      simp [writtenKey,success] at none
  | refused failed =>
    refine ⟨?_,fun _ _ => rfl⟩
    intro value found
    simp [writtenKey,failed] at found

theorem serves_holds (path : Serves ((Serve update).restrict (Undisturbed update)) w events after)
    (present : w.holds url key ≠ none) :
    after.holds url key ≠ none ∧
      ((∀ event ∈ events, writtenKey url key event = none) → after.holds url key = w.holds url key) := by
  induction path with
  | nil => exact ⟨present,fun _ => rfl⟩
  | @cons w op answer middle events after served rest ih =>
    obtain ⟨written,kept⟩ := serve_holds served url key
    have still : middle.holds url key ≠ none := by
      cases found : writtenKey url key ⟨op,answer⟩ with
      | none =>
        rw [kept found present]
        exact present
      | some value => simp [written value found]
    refine ⟨(ih still).1,?_⟩
    intro quiet
    have first := quiet _ (List.mem_cons_self ..)
    rw [(ih still).2 fun event member => quiet event (List.mem_cons_of_mem _ member)]
    exact kept first present

-- A call returns Ok only on a write that was taken.
def Took (url : List String) (body : WriteBody) (trace : List (Event BaoReply)) : Prop :=
  ∃ method token answer, ⟨.write method url token body,answer⟩ ∈ trace ∧ taken answer = true

theorem send_took [HttpCrates] {bao : OpenBao} (send : SendTrace bao method url body trace (.ok res))
    (success : res.isSuccess = true) : Took url body trace := by
  cases send with
  | @answered _ token _ found => exact ⟨method,token,.ok res,by simp,success⟩

theorem Took.prepend (took : Took url body rest) (earlier : List (Event BaoReply)) : Took url body (earlier ++ rest) := by
  obtain ⟨method,token,answer,member,success⟩ := took
  exact ⟨method,token,answer,List.mem_append_right _ member,success⟩

theorem round_took [HttpCrates] {bao : OpenBao}
    (next : ∀ program, again = some program → ∀ trace, Returns program trace (.ok ()) → Took url body trace)
    (path : RoundTrace bao url body again trace (.ok ())) : Took url body trace := by
  cases path with
  | accepted patch success => exact send_took patch success
  | created patch missing post success => exact (send_took post success).prepend _
  | renewed patch forbidden kubernetes left rest => exact (next _ left _ rest).prepend _

theorem writeKey_ok [HttpCrates] {bao : OpenBao} (path : Returns (bao.writeKey target value) trace (.ok ())) :
    ∃ url, bao.url [target.mount,"data",target.path] = .ok url ∧ Took url ⟨target.key,value⟩ trace := by
  rcases writeKey_trace path with ⟨_,e,failed⟩ | ⟨url,found,call⟩
  · cases failed
  · refine ⟨url,found,round_took ?_ call⟩
    intro program same trace again
    cases same
    exact round_took (by intro program none; cases none) (round_trace again)

-- A server that answers everything it can, with no login to offer.
def respond (update : Bool) (w : World) : (op : BaoOp) → Option (BaoReply op × World)
  | .lock => if w.locked = false then some (w.cached,{w with locked := true}) else none
  | .unlock cached => some ((),{w with cached := cached,locked := false})
  | .clock => some (0,w)
  | .readFile _ => some (.ok "root\n",w)
  | .login .. => some (.error "no login",w)
  | .write .patch url _ body => match w.secrets url with
    | some secret => some (.ok {status := 200},w.store url (merge secret body))
    | none => some (.ok {status := 404},w)
  | .write .post url _ body => match w.secrets url with
    | none => some (.ok {status := 200},w.store url (only body))
    | some _ =>
      if update then some (.ok {status := 200},w.store url (only body)) else some (.ok {status := 403},w)

theorem respond_serves (w : World) (op : BaoOp) (answer : BaoReply op) (after : World)
    (found : respond update w op = some (answer,after)) : Serve update w op answer after := by
  cases op with
  | lock =>
    by_cases free : w.locked = false
    · simp only [respond,free,if_true] at found
      cases found
      exact .lock free
    · simp [respond,free] at found
  | unlock | clock | readFile | login =>
    cases found
    constructor
  | write method url token body =>
    cases method with
    | patch =>
      cases there : w.secrets url with
      | none =>
        simp only [respond,there] at found
        cases found
        exact .refused rfl fun _ _ _ _ => there
      | some secret =>
        simp only [respond,there] at found
        cases found
        exact .accepted (.merged there) rfl
    | post =>
      cases there : w.secrets url with
      | none =>
        simp only [respond,there] at found
        cases found
        exact .accepted (.created there) rfl
      | some secret =>
        cases update with
        | true =>
          simp only [respond,there,if_true] at found
          cases found
          exact .accepted (.replaced rfl there) rfl
        | false =>
          simp only [respond,there,Bool.false_eq_true,if_false] at found
          cases found
          exact .refused rfl fun patched => nomatch patched

section Callers
variable {ι : Type} [DecidableEq ι]

theorem write_key_keeps [HttpCrates] (bao : OpenBao) (targets : ι → OpenBaoTarget) (values : ι → String)
    (path : Runs ((Serve update).restrict (Undisturbed update)) (fun i => bao.writeKey (targets i) (values i)) w
      log remainder after) :
    (∀ url key, w.holds url key ≠ none → after.holds url key ≠ none) ∧
    ∀ i, remainder i = .done (.ok ()) → ∃ url before event back, bao.url [(targets i).mount,"data",(targets i).path] = .ok url ∧
      log = before ++ (i,event) :: back ∧ writtenKey url (targets i).key event = some (values i) ∧
      after.holds url (targets i).key ≠ none ∧
      ((∀ entry ∈ back, writtenKey url (targets i).key entry.2 = none) →
        after.holds url (targets i).key = some (values i)) := by
  refine ⟨fun url key present => (serves_holds path.serves present).1,?_⟩
  intro i returned
  have run : Returns (bao.writeKey (targets i) (values i)) (own i log) (.ok ()) := by
    have steps := path.steps i
    rwa [returned] at steps
  obtain ⟨url,found,method,token,answer,member,success⟩ := writeKey_ok run
  have written : writtenKey url (targets i).key
      ⟨.write method url token ⟨(targets i).key,values i⟩,answer⟩ = some (values i) := by
    simp [writtenKey,success]
  obtain ⟨before,back,shape⟩ := List.append_of_mem (mem_own.mp member)
  have served := path.serves
  rw [shape,List.map_append,List.map_cons] at served
  obtain ⟨_,_,served⟩ := serves_append.mp served
  obtain ⟨middle,taken,rest⟩ := serves_cons.mp served
  have held : middle.holds url (targets i).key = some (values i) := (serve_holds taken url _).1 _ written
  have present : middle.holds url (targets i).key ≠ none := by simp [held]
  refine ⟨url,before,_,back,found,shape,written,(serves_holds rest present).1,?_⟩
  intro quiet
  rw [(serves_holds rest present).2 ?_,held]
  intro event listed
  obtain ⟨entry,member,rfl⟩ := List.mem_map.mp listed
  exact quiet entry member

theorem undisturbed_only (w : World) (op : BaoOp) (answer : BaoReply op) : Undisturbed false w op answer := by
  cases op with
  | write method url token body =>
    cases method with
    | patch => trivial
    | post => intro granted; cases granted
  | _ => trivial

-- Under a policy without update every run is one the theorem speaks of.
theorem write_only_policy [HttpCrates] (bao : OpenBao) (targets : ι → OpenBaoTarget) (values : ι → String)
    (path : Runs (Serve false) (fun i => bao.writeKey (targets i) (values i)) w log remainder after) :
    Runs ((Serve false).restrict (Undisturbed false)) (fun i => bao.writeKey (targets i) (values i)) w
      log remainder after := by
  apply path.mono
  intro s op answer next served
  exact ⟨served,undisturbed_only s op answer⟩

end Callers

-- Two calls that create one path with a key each.
def creators : Bool → OpenBaoTarget
  | false => ⟨"secret","ci/app","a"⟩
  | true => ⟨"secret","ci/app","b"⟩

def sharedUrl : List String := ["v1","secret","data","ci","app"]
def bareWorld : World := {secrets := fun _ => none}
def tokenBao : OpenBao := ⟨⟨[],true⟩,.tokenFile "/token"⟩

def creation (update : Bool) (turns : List Bool) :=
  schedule (respond update) turns (fun i => @OpenBao.writeKey plainHttp tokenBao (creators i) "v") bareWorld

-- Both find the path missing before either has created it.
def crossing : List Bool :=
  [false,false,false,false,true,true,true,false,false,false,true,true,true]

theorem creations_lose_key :
    Runs (Serve true) (fun i => @OpenBao.writeKey plainHttp tokenBao (creators i) "v") bareWorld
      (creation true crossing).1 (creation true crossing).2.1 (creation true crossing).2.2 ∧
    (∀ i, (creation true crossing).2.1 i = .done (.ok ())) ∧
    (creation true crossing).1.filterMap (fun entry => writtenKey sharedUrl "a" entry.2) = ["v"] ∧
    (creation true crossing).2.2.holds sharedUrl "a" = none := by
  refine ⟨schedule_runs respond_serves ..,?_,?_,?_⟩
  · intro i
    cases i with
    | false => rfl
    | true => rfl
  · rfl
  · rfl

theorem creations_kept : (creation false crossing).2.2.holds sharedUrl "a" ≠ none := by
  let _ := plainHttp
  have path := write_only_policy tokenBao creators (fun _ => "v")
    (schedule_runs respond_serves crossing (fun i => tokenBao.writeKey (creators i) "v") bareWorld)
  obtain ⟨url,_,_,_,found,_,_,present,_⟩ := (write_key_keeps tokenBao creators (fun _ => "v") path).2 false rfl
  have same : url = sharedUrl := (Except.ok.inj found).symm
  rw [same] at present
  exact present

end YouSpinMe.OpenBaoStore
