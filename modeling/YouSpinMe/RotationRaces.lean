import YouSpinMe.RotationOutcome
import YouSpinMe.SharedRun

namespace YouSpinMe.RotationRaces
open RequestProgram SharedRun Effects Validation Rotation RotationTraces RotationOutcome Text Jiff Crd

-- The stores and the object that the calls on one key share.
structure Site (name : String) where
  store : TargetSpec → Option String
  object : Named name

def Site.status (site : Site name) : ApiKeyStatus := site.object.key.status.getD {}
def Site.targets (site : Site name) : List TargetSpec := site.object.key.spec.targets

-- Requests whose answer has nothing to do with the stores or the object.
def Aside (name : String) : Effect → Prop
  | .get other => other ≠ name
  | .write _ _ => False
  | .updateStatus other _ => other ≠ name
  | _ => True

-- A write is atomic and succeeds; the object that is read may be an older copy
-- with the same spec.
inductive Serve (name : String) : Server (Site name) Answer where
  | read {named : Named name} (same : named.key.spec = site.object.key.spec) :
      Serve name site (.get name) (some named) site
  | written : Serve name site (.write target value) (.ok ())
      {site with store := Function.update site.store target (some value)}
  | updated {updated : Named name} (same : updated.key = site.object.key.updateStatus mutate) :
      Serve name site (.updateStatus name mutate) (.ok updated) {site with object := updated}
  | refused : Serve name site (.updateStatus name mutate) (.error e) site
  | aside (aside : Aside name op) : Serve name site op answer site

def writtenTo (target : TargetSpec) : Event Answer → Option String
  | ⟨.write other value,_⟩ => if other = target then some value else none
  | _ => none

def appliedTo (name : String) : Event Answer → Option (ApiKeyStatus → ApiKeyStatus)
  | ⟨.updateStatus other mutate,.ok _⟩ => if other = name then some mutate else none
  | _ => none

theorem writtenTo_isWrite (picked : writtenTo target event = some value) : isWrite event = true := by
  obtain ⟨op,answer⟩ := event
  cases op with
  | write => rfl
  | _ => cases picked

theorem appliedTo_some (picked : appliedTo name event = some mutate) :
    ∃ updated, event = ⟨.updateStatus name mutate,.ok updated⟩ := by
  obtain ⟨op,answer⟩ := event
  cases op with
  | updateStatus other change =>
    cases answer with
    | error e => cases picked
    | ok updated =>
      simp only [appliedTo,Option.ite_none_right_eq_some,Option.some.injEq] at picked
      obtain ⟨rfl,rfl⟩ := picked
      exact ⟨updated,rfl⟩
  | _ => cases picked

theorem serve_store (served : Serve name site op answer after) (target : TargetSpec) :
    after.store target = (writtenTo target ⟨op,answer⟩).or (site.store target) := by
  cases served with
  | read | updated | refused => rfl
  | @written _ other value =>
    by_cases same : other = target
    · subst same
      simp [writtenTo]
    · simp [writtenTo,same,Function.update_of_ne (Ne.symm same)]
  | aside aside =>
    cases op with
    | write => cases aside
    | _ => rfl

theorem serve_status (served : Serve name site op answer after) :
    after.object.key.spec = site.object.key.spec ∧
      after.status = match appliedTo name ⟨op,answer⟩ with
        | some mutate => mutate site.status
        | none => site.status := by
  cases served with
  | read | written | refused => exact ⟨rfl,rfl⟩
  | updated same =>
    simp only [Site.status,same,appliedTo,if_true]
    exact ⟨rfl,rfl⟩
  | aside aside =>
    cases op with
    | updateStatus other mutate =>
      refine ⟨rfl,?_⟩
      cases answer with
      | error e => rfl
      | ok updated => simp only [appliedTo,if_neg aside]
    | _ => exact ⟨rfl,rfl⟩

-- Stores that take every value, an object that is always current, and nothing
-- unexpected from anyone else.
def respond (site : Site name) : (op : Effect) → Option (Answer op × Site name)
  | .now => some (.epoch,site)
  | .randomBytes => some (zeroBytes,site)
  | .openCookie _ => some (none,site)
  | .sealCookie _ _ => some ((),site)
  | .list => some ([site.object.key],site)
  | .get other => if same : name = other then some (some (same ▸ site.object),site) else some (none,site)
  | .updateStatus other mutate =>
    if same : name = other then
      let updated : Named name := ⟨site.object.key.updateStatus mutate,site.object.named⟩
      some (.ok (same ▸ updated),{site with object := updated})
    else some (.error (.notFound other),site)
  | .recordEvent _ _ => some ((),site)
  | .probe _ _ => some (.ok none,site)
  | .write target value => some (.ok (),{site with store := Function.update site.store target (some value)})
  | .countRotation _ => some ((),site)
  | .countProbe _ _ => some ((),site)
  | .discover => some (.error "",site)
  | .authorizeUrl _ _ => some (someChallenge,site)
  | .exchangeCode _ _ => some (.ok none,site)
  | .verifyToken _ _ => some (.error "",site)

theorem respond_serves (site : Site name) (op : Effect) (answer : Answer op) (after : Site name)
    (found : respond site op = some (answer,after)) : Serve name site op answer after := by
  cases op with
  | get other =>
    by_cases same : name = other
    · subst same
      simp only [respond,dif_pos] at found
      cases found
      exact .read rfl
    · simp only [respond,same,dif_neg,not_false_eq_true] at found
      cases found
      exact .aside (Ne.symm same)
  | updateStatus other mutate =>
    by_cases same : name = other
    · subst same
      simp only [respond,dif_pos] at found
      cases found
      exact .updated rfl
    · simp only [respond,same,dif_neg,not_false_eq_true] at found
      cases found
      exact .aside (Ne.symm same)
  | write target value =>
    cases found
    exact .written
  | _ =>
    cases found
    exact .aside trivial

section Calls
variable {ι : Type}

-- Every store holds what was written to it last.
theorem serves_store {log : List (ι × Event Answer)} (path : Serves (Serve name) site (log.map Prod.snd) after)
    (target : TargetSpec) :
    after.store target = ((latest (writtenTo target) log).map Prod.snd).or (site.store target) := by
  induction log generalizing site with
  | nil =>
    cases path
    rfl
  | cons entry log ih =>
    obtain ⟨i,event⟩ := entry
    obtain ⟨middle,served,rest⟩ := serves_cons.mp path
    rw [ih rest,serve_store served target,latest_cons]
    cases latest (writtenTo target) log with
    | some last => rfl
    | none =>
      cases writtenTo target ⟨event.op,event.answer⟩ with
      | none | some => rfl

-- Every status is what the update applied last made of the one before it.
theorem serves_status {log : List (ι × Event Answer)} (path : Serves (Serve name) site (log.map Prod.snd) after) :
    after.object.key.spec = site.object.key.spec ∧
    (latest (appliedTo name) log = none → after.status = site.status) ∧
    ∀ i mutate, latest (appliedTo name) log = some (i,mutate) → ∃ before, after.status = mutate before := by
  induction log generalizing site with
  | nil =>
    cases path
    exact ⟨rfl,fun _ => rfl,fun _ _ found => nomatch found⟩
  | cons entry log ih =>
    obtain ⟨j,event⟩ := entry
    obtain ⟨middle,served,rest⟩ := serves_cons.mp path
    obtain ⟨spec,same⟩ := serve_status served
    obtain ⟨later,quiet,applied⟩ := ih rest
    refine ⟨later.trans spec,?_,?_⟩
    · intro none
      rw [latest_cons,Option.or_eq_none_iff,Option.map_eq_none_iff] at none
      rw [quiet none.1,same]
      simp only [none.2]
    · intro i mutate found
      rw [latest_cons] at found
      cases last : latest (appliedTo name) log with
      | some value =>
        rw [last] at found
        exact applied i mutate (last.trans found)
      | none =>
        rw [last,Option.none_or,Option.map_eq_some_iff] at found
        obtain ⟨only,picked,equal⟩ := found
        cases equal
        refine ⟨site.status,?_⟩
        rw [quiet last,same]
        simp only [picked]

-- What holds of every event that was served, whoever asked for it.
theorem served_event {log : List (ι × Event Answer)} (path : Serves (Serve name) site (log.map Prod.snd) after)
    (member : (i,event) ∈ log) : ∃ before next, before.object.key.spec = site.object.key.spec ∧
      Serve name before event.op event.answer next := by
  have listed : event ∈ log.map Prod.snd := List.mem_map_of_mem member
  obtain ⟨earlier,later,before,next,_,first,served,_⟩ := path.at listed
  have path : Serves (Serve name) site ((earlier.map fun event => (i,event)).map Prod.snd) before := by
    simpa [List.map_map,Function.comp_def] using first
  exact ⟨before,next,(serves_status path).1,served⟩

def lastWriter (target : TargetSpec) (log : List (ι × Event Answer)) : Option ι :=
  (latest (writtenTo target) log).map Prod.fst

def lastUpdater (name : String) (log : List (ι × Event Answer)) : Option ι :=
  (latest (appliedTo name) log).map Prod.fst

variable [DecidableEq ι]

theorem latest_written [UrlCrate] {req : ι → RotateRequest}
    (path : Runs (Serve name) (fun i => rotate allowed name (req i)) site log remainder after)
    (found : latest (writtenTo target) log = some (i,value)) : value = (req i).value := by
  obtain ⟨before,event,rest,rfl,picked,_⟩ := latest_eq_some found
  have asked : RotateRequests name (req i) event.op :=
    path.asked (fun _ => rotate_asks) (i,event) (by simp)
  obtain ⟨op,answer⟩ := event
  cases asked with
  | write other =>
    simp only [writtenTo,Option.ite_none_right_eq_some,Option.some.injEq] at picked
    exact picked.2.symm
  | _ => cases picked

theorem store_writer [UrlCrate] {req : ι → RotateRequest}
    (path : Runs (Serve name) (fun i => rotate allowed name (req i)) site log remainder after) (target : TargetSpec) :
    after.store target = ((lastWriter target log).map fun i => (req i).value).or (site.store target) := by
  rw [serves_store path.serves,lastWriter]
  cases found : latest (writtenTo target) log with
  | none => rfl
  | some last =>
    obtain ⟨i,value⟩ := last
    rw [latest_written path found]
    rfl

-- What a call has read and written when it asks for its status update.
theorem update_asked [UrlCrate] {req : ι → RotateRequest}
    (path : Runs (Serve name) (fun i => rotate allowed name (req i)) site log remainder after)
    (returned : remainder i = .done result) (member : (i,⟨.updateStatus name mutate,answer⟩) ∈ log) :
    ∃ key probe written now, key.spec = site.object.key.spec ∧ written.map Prod.fst = site.targets ∧
      (∀ entry ∈ written, writeEvent (req i).value entry ∈ own i log ∧ entry.2 = .ok ()) ∧
      ⟨.now,now⟩ ∈ own i log ∧ mutate = mutationOf key (req i) probe written now := by
  have run : Returns (rotate allowed name (req i)) (own i log) result := by
    have steps := path.steps i
    rwa [returned] at steps
  obtain ⟨found,key,probe,written,now,passed,read,all,writes,clock,rfl⟩ :=
    (rotate_returns.mp run).updated (mem_own.mpr member)
  obtain ⟨named,rfl,rfl,_⟩ := gate_ok.mp passed
  have current : named.key.spec = site.object.key.spec := by
    obtain ⟨before,next,spec,served⟩ := served_event path.serves (mem_own.mp read)
    cases served with
    | read same => exact same.trans spec
    | aside aside => exact absurd rfl aside
  refine ⟨named.key,probe,written,now,current,by rw [all,current]; rfl,?_,clock,rfl⟩
  intro entry listed
  refine ⟨writes entry listed,?_⟩
  obtain ⟨before,next,_,served⟩ := served_event path.serves (mem_own.mp (writes entry listed))
  obtain ⟨target,answer⟩ := entry
  cases served with
  | written => rfl
  | aside aside => cases aside

-- The call whose update was applied last wrote every target and completed.
theorem updater_call [UrlCrate] {req : ι → RotateRequest}
    (path : Runs (Serve name) (fun i => rotate allowed name (req i)) site log remainder after)
    (returned : remainder i = .done result) (last : lastUpdater name log = some i) :
    (∀ target ∈ site.targets, ⟨.write target (req i).value,.ok ()⟩ ∈ own i log) ∧
    after.status.rotatedBy = some (req i).actor ∧
    ∃ now, ⟨.now,now⟩ ∈ own i log ∧ after.status.lastRotated = some now := by
  obtain ⟨⟨j,mutate⟩,found,same⟩ := Option.map_eq_some_iff.mp last
  change j = i at same
  subst same
  obtain ⟨front,event,back,shape,picked,_⟩ := latest_eq_some found
  obtain ⟨updated,rfl⟩ := appliedTo_some picked
  obtain ⟨status,applied⟩ := (serves_status path.serves).2.2 j mutate found
  have member : (j,⟨.updateStatus name mutate,.ok updated⟩) ∈ log := by
    rw [shape]
    simp
  obtain ⟨key,probe,written,now,_,all,writes,clock,rfl⟩ := update_asked path returned member
  have done : allWritten (written.map outcomeOf) = true := by
    simp only [allWritten,List.all_map,List.all_eq_true,Function.comp_apply]
    intro entry listed
    simp [outcomeOf,(writes entry listed).2,writeError]
  have recorded : recordOf after.status = recordOf (applyRotation status now (req j).actor .rotated
      (req j).manualExpiresAt (probeStatus now probe)) := by
    rw [applied,mutationOf,recordOf_submitMutation,if_pos done]
  refine ⟨?_,congrArg RotationRecord.rotatedBy recorded,now,clock,congrArg RotationRecord.lastRotated recorded⟩
  intro target member
  rw [← all] at member
  obtain ⟨entry,listed,rfl⟩ := List.mem_map.mp member
  obtain ⟨written,ok⟩ := writes entry listed
  obtain ⟨target,answer⟩ := entry
  cases ok
  exact written

theorem written_latest {log : List (ι × Event Answer)} (member : ⟨.write target value,answer⟩ ∈ own i log) :
    ∃ j, lastWriter target log = some j := by
  cases found : lastWriter target log with
  | some j => exact ⟨j,rfl⟩
  | none =>
    rw [lastWriter,Option.map_eq_none_iff,latest_eq_none] at found
    have none := found _ (mem_own.mp member)
    simp [writtenTo] at none

-- Once a call has begun to write, no other call writes any more.
def WritesLast (i : ι) (log : List (ι × Event Answer)) : Prop :=
  ∀ before event rest, log = before ++ (i,event) :: rest → isWrite event = true →
    ∀ entry ∈ rest, isWrite entry.2 = true → entry.1 = i

theorem writesLast_writer {log : List (ι × Event Answer)} (alone : WritesLast i log)
    (member : ⟨.write target value,answer⟩ ∈ own i log) : lastWriter target log = some i := by
  obtain ⟨before,rest,rfl⟩ := List.append_of_mem (mem_own.mp member)
  rw [lastWriter,latest_append,latest_cons]
  cases found : latest (writtenTo target) rest with
  | none => simp [writtenTo]
  | some last =>
    obtain ⟨j,written⟩ := last
    obtain ⟨earlier,event,later,rfl,picked,_⟩ := latest_eq_some found
    have own : j = i := alone before _ _ rfl rfl (j,event) (by simp) (writtenTo_isWrite picked)
    subst own
    rfl

theorem concurrent_rotations [UrlCrate] (req : ι → RotateRequest)
    (path : Runs (Serve name) (fun i => rotate allowed name (req i)) site log remainder after)
    (returned : ∀ i, ∃ result, remainder i = .done result) :
    (∀ target, after.store target = ((lastWriter target log).map fun i => (req i).value).or (site.store target)) ∧
    (lastUpdater name log = none → after.status = site.status) ∧
    ∀ i, lastUpdater name log = some i →
      (after.status.rotatedBy = some (req i).actor ∧
        ∃ now, ⟨.now,now⟩ ∈ own i log ∧ after.status.lastRotated = some now) ∧
      ((∀ j, (req j).value = (req i).value → j = i) →
        ((∀ target ∈ site.targets, after.store target = some (req i).value) ↔
          ∀ target ∈ site.targets, lastWriter target log = some i)) ∧
      (WritesLast i log → ∀ target ∈ site.targets, after.store target = some (req i).value) := by
  refine ⟨store_writer path,?_,?_⟩
  · intro none
    exact (serves_status path.serves).2.1 (Option.map_eq_none_iff.mp none)
  · intro i last
    obtain ⟨result,ended⟩ := returned i
    obtain ⟨wrote,shown⟩ := updater_call path ended last
    have writer : ∀ target, lastWriter target log = some i → after.store target = some (req i).value := by
      intro target writer
      rw [store_writer path,writer]
      rfl
    refine ⟨shown,?_,?_⟩
    · intro different
      refine ⟨?_,fun all target member => writer target (all target member)⟩
      intro same target member
      obtain ⟨j,later⟩ := written_latest (wrote target member)
      have held := same target member
      rw [store_writer path,later] at held
      rw [later,different j (Option.some.inj held)]
    · intro alone target member
      exact writer target (writesLast_writer alone (wrote target member))

end Calls

-- Two calls on a key with two targets.
def rivals : Bool → RotateRequest
  | false => ⟨"v0",⟨"u0","ada"⟩,none,false⟩
  | true => ⟨"v1",⟨"u1","bob"⟩,none,false⟩

def pairSite : Site "pair" := ⟨fun _ => none,pairKey⟩

def rivalRun (turns : List Bool) :=
  schedule respond turns (fun i => @rotate noUrls .allowAll "pair" (rivals i)) pairSite

-- The second call overtakes the first between its two writes.
def overtaking : List Bool :=
  [false,true,false,true,true,false,false,false,false,false,true,true,true,true]

theorem rotations_diverge :
    Runs (Serve "pair") (fun i => @rotate noUrls .allowAll "pair" (rivals i)) pairSite (rivalRun overtaking).1
      (rivalRun overtaking).2.1 (rivalRun overtaking).2.2 ∧
    (∀ i, ∃ o, (rivalRun overtaking).2.1 i = .done (.ok o) ∧ o.completed = true) ∧
    lastUpdater "pair" (rivalRun overtaking).1 = some true ∧
    pairTargets.map (rivalRun overtaking).2.2.store = [some "v1",some "v0"] := by
  refine ⟨schedule_runs respond_serves ..,?_,?_,?_⟩
  · intro i
    cases i with
    | false => exact ⟨_,rfl,rfl⟩
    | true => exact ⟨_,rfl,rfl⟩
  · rfl
  · rfl

def inTurn : List Bool := List.replicate 7 false ++ List.replicate 7 true

theorem rotations_in_turn : lastUpdater "pair" (rivalRun inTurn).1 = some true ∧
    ∀ target ∈ pairTargets, (rivalRun inTurn).2.2.store target = some "v1" := by
  let _ := noUrls
  have path := schedule_runs respond_serves inTurn (fun i => rotate .allowAll "pair" (rivals i)) pairSite
  have returned : ∀ i, ∃ result, (rivalRun inTurn).2.1 i = .done result := by
    intro i
    cases i with
    | false => exact ⟨_,rfl⟩
    | true => exact ⟨_,rfl⟩
  have different : ∀ j, (rivals j).value = (rivals true).value → j = true := by decide
  have last : ∀ target ∈ pairTargets, lastWriter target (rivalRun inTurn).1 = some true := by
    simp only [pairTargets,List.forall_mem_cons,List.not_mem_nil,false_implies,implies_true,and_true]
    exact ⟨rfl,rfl⟩
  have outcome := (concurrent_rotations rivals path returned).2.2 true rfl
  exact ⟨rfl,(outcome.2.1 different).mpr last⟩

end YouSpinMe.RotationRaces
