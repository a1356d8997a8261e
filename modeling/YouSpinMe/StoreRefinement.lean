import YouSpinMe.LayeredRun
import YouSpinMe.WriteProtocol
import YouSpinMe.SubmittedKey
import YouSpinMe.Repository

namespace YouSpinMe.StoreRefinement
open RequestProgram SharedRun BlindRun LayeredRun Effects OpenBaoWriter WriterTraces OpenBaoStore WriteProtocol SubmittedKey Text Crd

-- What the store is for: a value for every key at every address.
abbrev Places := List String → String → Option String

def Places.put (places : Places) (url : List String) (key value : String) : Places :=
  Function.update places url (Function.update (places url) key (some value))

-- A write request that took, and where a call may send its write requests.
def landed : Event BaoReply → Prop
  | ⟨.write _ _ _ _,answer⟩ => taken answer = true
  | _ => False

def Aims (url : List String) (body : WriteBody) (op : BaoOp) : Prop :=
  ∀ method place token other, op = .write method place token other → place = url ∧ other = body

def settled (result : Except TargetError Unit) (event : Option (Event BaoReply)) : Prop := result = .ok () → event.isSome = true

def answered (result : Except TargetError Response) (event : Option (Event BaoReply)) : Prop :=
  ∀ res, result = .ok res → (res.isSuccess = true ↔ event.isSome = true)

section Results
variable {past : List (Event BaoReply)}

theorem told_failed {res : Response} (told : Told landed answered (.ok res) past) (failed : res.isSuccess = false) :
    Quiet landed past := by
  rcases told with ⟨quiet,_⟩ | ⟨_,_,_,_,_,said⟩
  · exact quiet
  · exact absurd ((said res rfl).mpr rfl) (by simp [failed])

theorem told_error {e : TargetError} (told : Told landed answered result past) : Told landed settled (.error e) past :=
  told_mono told fun _ _ same => nomatch same

theorem quiet_error {e : TargetError} (quiet : Quiet landed past) : Told landed settled (.error e) past :=
  .inl ⟨quiet,fun same => nomatch same⟩

theorem told_success {res : Response} (told : Told landed answered (.ok res) past) (success : res.isSuccess = true) :
    Told landed settled (.ok ()) past :=
  told_mono told fun _ said _ => (said res rfl).mp success

end Results

section Calls
variable [HttpCrates] {bao : OpenBao} {url : List String} {body : WriteBody}

theorem token_ensures (quiet : Quiet landed past) :
    Ensures (Sole landed (Aims url body)) (fun _ later => Quiet landed later) past bao.token := by
  apply (token_quiet bao).ensures quiet
  intro past op quiet unwritten
  refine ⟨⟨quiet,?_⟩,?_⟩
  · intro method place token other same
    subst same
    cases unwritten
  · intro answer
    apply quiet_snoc quiet
    cases op with
    | write => cases unwritten
    | _ => exact id

theorem send_ensures (quiet : Quiet landed past) :
    Ensures (Sole landed (Aims url body)) (Told landed answered) past (bao.send method url body) := by
  apply ensures_bind (token_ensures quiet)
  intro result later quiet
  cases result with
  | error e => exact .inl ⟨quiet,fun _ same => nomatch same⟩
  | ok token =>
    simp only
    rw [bind_ask,ensures_request]
    refine ⟨⟨quiet,?_⟩,?_⟩
    · intro _ place _ other same
      cases same
      exact ⟨rfl,rfl⟩
    · intro answer
      by_cases took : landed ⟨.write method url token body,answer⟩
      · cases answer with
        | error lost => exact .inr ⟨later,_,rfl,quiet,took,fun _ same => nomatch same⟩
        | ok res =>
          refine .inr ⟨later,_,rfl,quiet,took,?_⟩
          intro found same
          cases same
          exact ⟨fun _ => rfl,fun _ => took⟩
      · have still := quiet_snoc quiet took
        cases answer with
        | error lost => exact .inl ⟨still,fun _ same => nomatch same⟩
        | ok res =>
          refine .inl ⟨still,?_⟩
          intro found same
          cases same
          exact ⟨fun success => absurd success took,fun some => nomatch some⟩

theorem create_ensures (quiet : Quiet landed past) :
    Ensures (Sole landed (Aims url body)) (Told landed settled) past (bao.create url body) := by
  apply ensures_bind (send_ensures quiet)
  intro result later told
  cases result with
  | error e => exact told_error told
  | ok res =>
    simp only
    split
    · rename_i success
      exact told_success told success
    · exact told_error told

theorem round_ensures {again : Option (Bao (Except TargetError Unit))} (quiet : Quiet landed past)
    (next : ∀ program, again = some program → ∀ past, Quiet landed past →
      Ensures (Sole landed (Aims url body)) (Told landed settled) past program) :
    Ensures (Sole landed (Aims url body)) (Told landed settled) past (bao.round url body again) := by
  apply ensures_bind (send_ensures quiet)
  intro result later told
  cases result with
  | error e => exact told_error told
  | ok res =>
    simp only
    split
    · rename_i success
      exact told_success told success
    · rename_i failed
      have quiet := told_failed told (by simpa using failed)
      split
      · exact create_ensures quiet
      · cases left : again with
        | none => exact quiet_error quiet
        | some program =>
          simp only
          split
          · rw [invalidate,bind_ask,bind_request,ensures_request]
            refine ⟨⟨quiet,fun _ _ _ _ same => nomatch same⟩,?_⟩
            intro cached
            have locked : Quiet landed (later ++ [⟨.lock,cached⟩]) := quiet_snoc quiet id
            refine ⟨⟨locked,fun _ _ _ _ same => nomatch same⟩,?_⟩
            intro _
            exact next program left _ (quiet_snoc locked id)
          · exact quiet_error quiet

theorem write_ensures (openbao : target.openbao = some t) (found : bao.url [t.mount,"data",t.path] = .ok url) (value : String) :
    Ensures (Sole landed (Aims url ⟨t.key,value⟩)) (Told landed settled) [] (bao.write target value) := by
  have nothing : Quiet landed [] := fun _ member => nomatch member
  unfold OpenBao.write
  rw [openbao]
  simp only [OpenBao.writeKey,found]
  apply round_ensures nothing
  intro program same past quiet
  cases same
  exact round_ensures quiet fun _ none => nomatch none

theorem write_asks (openbao : target.openbao = some t) (found : bao.url [t.mount,"data",t.path] = .ok url)
    (value : String) (answer : Except TargetError Unit) : toStore (bao.write target value) ≠ .done answer := by
  unfold OpenBao.write
  rw [openbao]
  simp only [OpenBao.writeKey,found]
  intro same
  cases same

end Calls

-- The requests of the writer among those of the application.
def lift (event : Event BaoReply) : Event SiteAnswer := ⟨.inr event.op,event.answer⟩

def Counts : Event SiteAnswer → Prop
  | ⟨.inl _,_⟩ => True
  | ⟨.inr op,answer⟩ => landed ⟨op,answer⟩

theorem lift_quiet {past : List (Event BaoReply)} (quiet : Quiet landed past) : Quiet Counts (past.map lift) := by
  intro event member
  obtain ⟨below,listed,rfl⟩ := List.mem_map.mp member
  exact quiet below listed

theorem toStore_ensures {rule : SiteTrace → SiteOp → Prop} {post : α → SiteTrace → Prop} {program : Bao α}
    (ensures : Ensures (fun past op => rule (past.map lift) (.inr op)) (fun value past => post value (past.map lift)) past program) :
    Ensures rule post (past.map lift) (toStore program) := by
  induction program generalizing past with
  | done value => exact ensures
  | request op next ih =>
    refine ⟨ensures.1,?_⟩
    intro answer
    have later := ih answer (ensures.2 answer)
    rwa [List.map_append] at later

def Configured [HttpCrates] (bao : OpenBao) : Effect → Prop
  | .write target _ => ∃ t url, target.openbao = some t ∧ bao.url [t.mount,"data",t.path] = .ok url
  | _ => True

def May [HttpCrates] (bao : OpenBao) : Effect → SiteOp → Prop
  | .write target value,.inr op => ∃ t url, target.openbao = some t ∧ bao.url [t.mount,"data",t.path] = .ok url ∧
      Aims url ⟨t.key,value⟩ op
  | .write _ _,.inl _ => False
  | op,below => below = .inl op

def Tells : (op : Effect) → Answer op → Option (Event SiteAnswer) → Prop
  | .write _ _,answer,event => answer = .ok () → event.isSome = true
  | op,answer,event => event = some ⟨.inl op,answer⟩

section Servers
variable {ρ : Type}

-- One write is one place set at one moment, or nothing; that it was nothing is never
-- reported as a success. The rest of the world is beside it.
inductive Stores [HttpCrates] (bao : OpenBao) (rest : Server ρ Answer) : Server (Places × ρ) Answer where
  | written {answer : Except TargetError Unit} (openbao : target.openbao = some t)
      (found : bao.url [t.mount,"data",t.path] = .ok url) :
      Stores bao rest (places,x) (.write target value) answer (places.put url t.key value,x)
  | failed : Stores bao rest (places,x) (.write target value) (.error e) (places,x)
  | other (elsewhere : ∀ target value, op ≠ .write target value) (served : rest x op answer y) :
      Stores bao rest (places,x) op answer (places,y)

-- The store over HTTP, as long as no accepted POST takes the place of a secret with another
-- key. Under a policy that grants create and patch and no update this is every run.
inductive Stack (update : Bool) (rest : Server ρ Answer) : Server (World × ρ) SiteAnswer where
  | bao {op : BaoOp} {answer : BaoReply op} (served : ((Serve update).restrict (Undisturbed update)) w op answer after) :
      Stack update rest (w,x) (.inr op) answer (after,x)
  | other {op : Effect} {answer : Answer op} (served : rest x op answer y) : Stack update rest (w,x) (.inl op) answer (w,y)

variable {update : Bool} {rest : Server ρ Answer}

theorem store_put (w : World) (url : List String) (body : WriteBody) {secret : String → Option String}
    (shape : ∀ key, secret key = if key = body.key then some body.value else w.holds url key) :
    (w.store url secret).holds = Places.put w.holds url body.key body.value := by
  funext place key
  rw [World.holds_store]
  by_cases same : place = url
  · subst same
    rw [if_pos rfl,shape]
    simp [Places.put,Function.update_apply]
  · simp [Places.put,same]

theorem applies_put (applies : Applies update w method url body after) (token : String)
    (undisturbed : Undisturbed update w (.write method url token body) answer) (success : taken answer = true) :
    after.holds = Places.put w.holds url body.key body.value := by
  cases applies with
  | merged there =>
    apply store_put
    intro key
    simp [merge,Function.update_apply,World.holds,there]
  | created missing =>
    apply store_put
    intro key
    simp [only,Function.update_apply,World.holds,missing]
  | replaced granted there =>
    rename_i secret
    apply store_put
    intro key
    by_cases equal : key = body.key
    · simp [only,equal]
    · have absent : secret key = none := by
        by_contra has
        exact equal (undisturbed granted success secret there key has)
      simp [only,equal,World.holds,there,absent]

theorem stack_silent {s after : World × ρ} {below : SiteOp} {reply : SiteAnswer below} (served : Stack update rest s below reply after)
    (uncounted : ¬ Counts ⟨below,reply⟩) : after.1.holds = s.1.holds ∧ after.2 = s.2 := by
  cases served with
  | other served => exact absurd trivial uncounted
  | bao served =>
    cases served.1 with
    | lock | unlock | clock | readFile | login => exact ⟨rfl,rfl⟩
    | accepted applies success => exact absurd success uncounted
    | refused failed honest => exact ⟨rfl,rfl⟩

theorem tells_direct {op : Effect} {answer : Answer op} {event : Option (Event SiteAnswer)}
    (elsewhere : ∀ target value, op ≠ .write target value) (told : Tells op answer event) : event = some ⟨.inl op,answer⟩ := by
  cases op with
  | write target value => exact absurd rfl (elsewhere target value)
  | _ => exact told

variable [HttpCrates] {bao : OpenBao}

theorem carryOut_ensures (configured : Configured bao op) :
    Ensures (Sole Counts (May bao op)) (Told Counts (Tells op)) [] (carryOut bao op) := by
  have nothing : Quiet Counts [] := fun _ member => nomatch member
  cases op with
  | write target value =>
    obtain ⟨t,url,openbao,found⟩ := configured
    show Ensures _ _ (([] : List (Event BaoReply)).map lift) _
    apply toStore_ensures
    apply (write_ensures openbao found value).mono
    · intro past op sole
      exact ⟨lift_quiet sole.1,t,url,openbao,found,sole.2⟩
    · intro result past told
      rcases told with ⟨quiet,said⟩ | ⟨earlier,event,rfl,quiet,counted,said⟩
      · exact .inl ⟨lift_quiet quiet,said⟩
      · exact .inr ⟨earlier.map lift,lift event,by simp,lift_quiet quiet,counted,said⟩
  | _ => exact ⟨⟨nothing,rfl⟩,fun answer => .inr ⟨[],_,rfl,nothing,trivial,rfl⟩⟩

theorem carryOut_asks {answer : Answer op} (configured : Configured bao op) : carryOut bao op ≠ .done answer := by
  cases op with
  | write target value =>
    obtain ⟨t,url,openbao,found⟩ := configured
    exact write_asks openbao found value answer
  | _ =>
    intro same
    cases same

theorem may_direct {op : Effect} (elsewhere : ∀ target value, op ≠ .write target value) (may : May bao op below) :
    below = .inl op := by
  cases op with
  | write target value => exact absurd rfl (elsewhere target value)
  | _ => exact may

theorem stack_counted {s after : World × ρ} {op : Effect} {answer : Answer op} {below : SiteOp} {reply : SiteAnswer below}
    (served : Stack update rest s below reply after) (may : May bao op below) (counted : Counts ⟨below,reply⟩)
    (told : Tells op answer (some ⟨below,reply⟩)) : Stores bao rest (s.1.holds,s.2) op answer (after.1.holds,after.2) := by
  by_cases writes : ∃ target value, op = .write target value
  · obtain ⟨target,value,rfl⟩ := writes
    cases served with
    | other served => cases may
    | bao served =>
      obtain ⟨served,undisturbed⟩ := served
      obtain ⟨t,url,openbao,found,aims⟩ := may
      cases served with
      | lock | unlock | clock | readFile | login => cases counted
      | refused failed honest => exact absurd counted (by simp [Counts,landed,failed])
      | accepted applies success =>
        obtain ⟨rfl,rfl⟩ := aims _ _ _ _ rfl
        rw [applies_put applies _ undisturbed success]
        exact .written openbao found
  · have elsewhere : ∀ target value, op ≠ .write target value := fun target value same => writes ⟨target,value,same⟩
    cases may_direct elsewhere may
    cases tells_direct elsewhere told
    cases served with
    | other served => exact .other elsewhere served

theorem tells_failed {op : Effect} {answer : Answer op} (told : Tells op answer none) (places : Places) (x : ρ) :
    Stores bao rest (places,x) op answer (places,x) := by
  cases op with
  | write target value =>
    cases answer with
    | error e => exact .failed
    | ok _ => exact nomatch told rfl
  | _ => cases told

def atomic (update : Bool) (bao : OpenBao) (rest : Server ρ Answer) :
    LastCounts (Stack update rest) (Stores bao rest) (carryOut bao) where
  permits := Configured bao
  related := fun s t => t = (s.1.holds,s.2)
  counts := Counts
  may := May bao
  tells := Tells
  ensures := carryOut_ensures
  asks := carryOut_asks
  silent := by
    intro s t below reply after related served uncounted
    obtain ⟨places,same⟩ := stack_silent served uncounted
    rw [related,places,same]
  failed := fun told => tells_failed told _ _
  counted := by
    intro s t op answer below reply after related served may counted told
    rw [related]
    exact ⟨_,stack_counted served may counted told,rfl⟩

variable {ι : Type} [DecidableEq ι] {α : ι → Type} {clients : (i : ι) → App (α i)}

theorem store_runs {w after : World} {x y : ρ} (asks : ∀ i, Asks (Configured bao) (clients i))
    (path : Runs (Stack update rest) (fun i => onSite bao (clients i)) (w,x) log remainder (after,y)) :
    ∃ history above, Runs (Stores bao rest) clients (w.holds,x) history above (after.holds,y) ∧
      (history.map Prod.fst).Sublist (log.map Prod.fst) ∧
      ∀ i, Stands (atomic update bao rest).toLayer (after,y) (own i log) (own i history) (above i) (remainder i) := by
  have start : (atomic update bao rest).toLayer.related (w,x) (w.holds,x) := rfl
  obtain ⟨history,above,final,runs,rfl,placed,stands⟩ := (atomic update bao rest).toLayer.runs path start asks
  exact ⟨history,above,runs,placed,stands⟩

-- However many calls share the writer, its token and its mutex: over every interleaving
-- of their requests each write is one place set at one moment, as the token expires, as
-- logins fail and as answers are lost. With a policy that grants update this is so as long
-- as no accepted POST takes the place of a secret with another key.
theorem openbao_atomic {w after : World} {x y : ρ} (asks : ∀ i, Asks (Configured bao) (clients i))
    (path : Runs (Stack update rest) (fun i => onSite bao (clients i)) (w,x) log remainder (after,y)) :
    ∃ history above, Runs (Stores bao rest) clients (w.holds,x) history above (after.holds,y) ∧
      (history.map Prod.fst).Sublist (log.map Prod.fst) ∧
      ∀ i, (∃ seen, seen <+: own i log ∧ CarriedOut (carryOut bao) (own i history) seen) ∧
        ∀ value, remainder i = .done value → above i = .done value ∧ CarriedOut (carryOut bao) (own i history) (own i log) := by
  obtain ⟨history,above,runs,placed,stands⟩ := store_runs asks path
  refine ⟨history,above,runs,placed,?_⟩
  intro i
  refine ⟨(stands i).carried,?_⟩
  intro value returned
  have standing := stands i
  rw [returned] at standing
  exact standing.returned

end Servers

def stackRespond {ρ : Type} (oracle : ρ → (op : Effect) → Option (Answer op × ρ)) (s : World × ρ) :
    (op : SiteOp) → Option (SiteAnswer op × (World × ρ))
  | .inr op => (OpenBaoStore.respond false s.1 op).map fun (answer,w) => (answer,(w,s.2))
  | .inl op => (oracle s.2 op).map fun (answer,y) => (answer,(s.1,y))

theorem stack_answers {ρ : Type} {rest : Server ρ Answer} {oracle : ρ → (op : Effect) → Option (Answer op × ρ)}
    (sound : ∀ x op answer y, oracle x op = some (answer,y) → rest x op answer y) (s : World × ρ) (op : SiteOp)
    (answer : SiteAnswer op) (after : World × ρ) (found : stackRespond oracle s op = some (answer,after)) :
    Stack false rest s op answer after := by
  cases op with
  | inr below =>
    obtain ⟨⟨reply,w⟩,told,same⟩ := Option.map_eq_some_iff.mp found
    cases same
    exact .bao ⟨respond_serves _ _ _ _ told,undisturbed_only _ _ _⟩
  | inl above =>
    obtain ⟨⟨reply,y⟩,told,same⟩ := Option.map_eq_some_iff.mp found
    cases same
    exact .other (sound _ _ _ _ told)

-- Two writes to one path that is not there yet, each with a key of its own.
def twoWrites : Bool → App (Except TargetError Unit)
  | false => writeTarget {openbao := some ⟨"secret","ci/app","a"⟩} "v"
  | true => writeTarget {openbao := some ⟨"secret","ci/app","b"⟩} "w"

def crossedWrites := schedule (stackRespond Repository.pausedOracle) crossing
  (fun i => @onSite _ plainHttp storeBao (twoWrites i)) (bareWorld,())

theorem crossedWrites_atomic : let _ := plainHttp
    ∃ history above, Runs (Stores storeBao fun _ _ _ _ => False) twoWrites (bareWorld.holds,()) history above
      (crossedWrites.2.2.1.holds,()) ∧ above false = .done (.ok ()) := by
  let _ := plainHttp
  have answers : ∀ s op answer after, stackRespond Repository.pausedOracle s op = some (answer,after) →
      Stack false (fun _ _ _ _ => False) s op answer after := stack_answers fun _ _ _ _ found => nomatch found
  have path := schedule_runs answers crossing (fun i => onSite storeBao (twoWrites i)) (bareWorld,())
  have configured : ∀ i, Asks (Configured storeBao) (twoWrites i) := by
    intro i
    cases i with
    | false => exact ⟨⟨_,_,rfl,rfl⟩,fun _ => trivial⟩
    | true => exact ⟨⟨_,_,rfl,rfl⟩,fun _ => trivial⟩
  obtain ⟨history,above,runs,_,stands⟩ := openbao_atomic configured path
  exact ⟨history,above,runs,((stands false).2 _ rfl).1⟩

end YouSpinMe.StoreRefinement
