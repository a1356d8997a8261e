import YouSpinMe.StoreRefinement

namespace YouSpinMe.Delivery
open RequestProgram SharedRun BlindRun LayeredRun Effects Validation Rotation RotationTraces RotationOutcome OpenBaoWriter
  OpenBaoStore SubmittedKey StoreRefinement Text Jiff Crd

-- Which place a target names.
def placeOf [HttpCrates] (bao : OpenBao) (target : TargetSpec) : Option (List String × String) :=
  target.openbao.bind fun t => match bao.url [t.mount,"data",t.path] with
    | .ok url => some (url,t.key)
    | .error _ => none

-- The value that an event wrote to a place, or would have.
def writtenTo [HttpCrates] (bao : OpenBao) (place : List String × String) : Event Answer → Option String
  | ⟨.write target value,_⟩ => if placeOf bao target = some place then some value else none
  | _ => none

theorem put_exact (places : Places) (url other : List String) (key name value : String) :
    places.put url key value other name = if (url,key) = (other,name) then some value else places other name := by
  by_cases same : other = url
  · subst same
    by_cases equal : name = key
    · simp [Places.put,equal]
    · simp [Places.put,equal,Ne.symm equal]
  · simp [Places.put,same,Ne.symm same]

section Places
variable [HttpCrates] {ρ : Type} {bao : OpenBao} {rest : Server ρ Answer}

theorem stores_step {s after : Places × ρ} (served : Stores bao rest s op answer after) (place : List String × String) :
    after.1 place.1 place.2 = s.1 place.1 place.2 ∨
    ∃ value, writtenTo bao place ⟨op,answer⟩ = some value ∧ after.1 place.1 place.2 = some value := by
  cases served with
  | failed | other => exact .inl rfl
  | @written t url places x target value answer openbao found =>
    have named : placeOf bao target = some (url,t.key) := by simp [placeOf,openbao,found]
    show places.put url t.key value place.1 place.2 = _ ∨ ∃ given, _ = some given ∧ places.put url t.key value place.1 place.2 = _
    rw [put_exact]
    split
    · rename_i same
      exact .inr ⟨value,by simp [writtenTo,named,same],rfl⟩
    · exact .inl rfl

theorem stores_ok {s after : Places × ρ} (served : Stores bao rest s (.write target value) (.ok ()) after)
    (named : placeOf bao target = some place) : after.1 place.1 place.2 = some value := by
  cases served with
  | other elsewhere => exact absurd rfl (elsewhere target value)
  | @written t url places _ _ _ _ openbao found =>
    rw [placeOf,openbao] at named
    simp only [Option.bind_some,found,Option.some.injEq] at named
    rw [← named]
    show places.put url t.key value url t.key = _
    rw [put_exact,if_pos rfl]

-- A place holds what it held or what was written to it.
theorem serves_places {s after : Places × ρ} (path : Serves (Stores bao rest) s events after) (place : List String × String) :
    after.1 place.1 place.2 = s.1 place.1 place.2 ∨
    ∃ event ∈ events, ∃ value, writtenTo bao place event = some value ∧ after.1 place.1 place.2 = some value := by
  induction path with
  | nil => exact .inl rfl
  | cons served _ ih =>
    rcases ih with same | ⟨event,member,later⟩
    · rcases stores_step served place with kept | ⟨value,wrote,holds⟩
      · exact .inl (same.trans kept)
      · exact .inr ⟨_,List.mem_cons_self,value,wrote,same.trans holds⟩
    · exact .inr ⟨event,List.mem_cons_of_mem _ member,later⟩

-- After a write that was answered with ok the place holds that value or a later one.
theorem serves_ok {s after : Places × ρ} (path : Serves (Stores bao rest) s events after)
    (member : ⟨.write target value,.ok ()⟩ ∈ events) (named : placeOf bao target = some place) :
    ∃ event ∈ events, ∃ value, writtenTo bao place event = some value ∧ after.1 place.1 place.2 = some value := by
  obtain ⟨earlier,later,before,next,rfl,_,served,rest⟩ := path.at member
  rcases serves_places rest place with same | ⟨event,listed,last⟩
  · exact ⟨_,member,value,by simp [writtenTo,named],same.trans (stores_ok served named)⟩
  · exact ⟨event,List.mem_append_right _ (List.mem_cons_of_mem _ listed),last⟩

end Places

theorem rotate_configured [UrlCrate] [HttpCrates] {bao : OpenBao} (hierarchical : bao.addr.hierarchical = true) :
    Asks (Configured bao) (rotate allowed name req) := by
  have follows : Follows (fun _ op => Configured bao op) [] (rotate allowed name req) := by
    apply rotate_submits.mono
    intro past op submits
    cases op with
    | write target value =>
      obtain ⟨_,found,_,admitted,member⟩ := submits
      obtain ⟨t,openbao,_⟩ := validate_targets admitted.valid member
      exact ⟨t,_,openbao,if_pos hierarchical⟩
    | _ => trivial
  exact follows_asks follows

theorem configured_place [HttpCrates] {bao : OpenBao} (hierarchical : bao.addr.hierarchical = true) (openbao : target.openbao = some t) :
    ∃ url, placeOf bao target = some (url,t.key) := by
  refine ⟨([t.mount,"data",t.path].flatMap parts).foldl HttpCrates.push (HttpCrates.push bao.addr.base "v1"),?_⟩
  simp only [placeOf,openbao,Option.bind_some,OpenBao.url,hierarchical,if_true]

theorem site_told [HttpCrates] {bao : OpenBao} {below : SiteTrace} (carried : CarriedOut (carryOut bao) events below)
    (member : ⟨.get name,answer⟩ ∈ events) : ⟨Sum.inl (.get name),answer⟩ ∈ below := by
  obtain ⟨part,within,path⟩ := carriedOut_member carried member
  obtain ⟨reply,rest,rfl,ended⟩ := returns_request.mp path
  obtain ⟨rfl,rfl⟩ := returns_done.mp ended
  exact within.subset List.mem_cons_self

theorem rotate_ok [UrlCrate] (path : Returns (rotate allowed name req) trace (.ok o)) :
    ∃ (found : Named name) (written : Written), ⟨.get name,some found⟩ ∈ trace ∧ Admitted allowed req found.key ∧
      written.map Prod.fst = found.key.spec.targets ∧ o.targets = written.map outcomeOf ∧
      ∀ entry ∈ written, writeEvent req.value entry ∈ trace := by
  have run := rotate_returns.mp path
  cases run with
  | submitted passed check rest =>
    obtain ⟨found,rfl,rfl,admitted⟩ := gate_ok.mp passed
    cases rest with
    | @saved now written updated all =>
      refine ⟨found,written,by simp,admitted,all,rfl,?_⟩
      intro entry member
      have listed : writeEvent req.value entry ∈ written.map (writeEvent req.value) := List.mem_map_of_mem member
      simp [listed]

section Run
variable [UrlCrate] [HttpCrates] {ι : Type} [DecidableEq ι] {ρ : Type} {rest : Server ρ Answer} {bao : OpenBao}
  {update : Bool} {allowed : PathAllowList} {names : ι → String} {reqs : ι → RotateRequest}

-- Whose value may be at a place: a rotation that was let through, of a key with a target there.
def Aimed (bao : OpenBao) (allowed : PathAllowList) (names : ι → String) (reqs : ι → RotateRequest)
    (log : List (ι × Event SiteAnswer)) (place : List String × String) (i : ι) : Prop :=
  ∃ found, (i,⟨Sum.inl (.get (names i)),some found⟩) ∈ log ∧ Admitted allowed (reqs i) found.key ∧
    ∃ target ∈ found.key.spec.targets, placeOf bao target = some place

theorem written_aimed {history : List (ι × Event Answer)} {log : List (ι × Event SiteAnswer)}
    {above : (i : ι) → App (Except RotateError RotateOutcome)}
    (runs : Runs (Stores bao rest) (fun i => rotate allowed (names i) (reqs i)) start history above final)
    (carried : ∀ i, ∃ seen, seen <+: own i log ∧ CarriedOut (carryOut bao) (own i history) seen)
    (member : event ∈ history.map Prod.snd) (wrote : writtenTo bao place event = some value) :
    ∃ i, Aimed bao allowed names reqs log place i ∧ value = (reqs i).value := by
  obtain ⟨⟨i,event⟩,within,rfl⟩ := List.mem_map.mp member
  obtain ⟨before,later,rfl⟩ := List.append_of_mem within
  have submits : Submits allowed (names i) (reqs i) (own i before) event.op := runs.follows rotate_submits
  obtain ⟨op,answer⟩ := event
  cases op with
  | write target given =>
    simp only [writtenTo,Option.ite_none_right_eq_some,Option.some.injEq] at wrote
    obtain ⟨named,rfl⟩ := wrote
    obtain ⟨same,found,seen,admitted,listed⟩ := submits
    obtain ⟨part,begun,told⟩ := carried i
    refine ⟨i,⟨found,?_,admitted,target,listed,named⟩,same⟩
    have before : ⟨.get (names i),some found⟩ ∈ own i (before ++ (i,⟨.write target given,answer⟩) :: later) := by
      rw [own_append]
      exact List.mem_append_left _ seen
    exact mem_own.mp (begun.subset (site_told told before))
  | _ => cases wrote

-- A place of the store holds what it held before or what was submitted for it by a
-- rotation that was let through. A rotation that ends names its targets in their order,
-- and where it shows no error the value of a rotation is in place. With a policy that
-- grants update, no accepted POST may take the place of a secret with another key.
theorem rotations_delivered {w after : World} {x y : ρ} (hierarchical : bao.addr.hierarchical = true)
    (path : Runs (Stack update rest) (fun i => onSite bao (rotate allowed (names i) (reqs i))) (w,x) log remainder (after,y)) :
    (∀ place : List String × String, after.holds place.1 place.2 = w.holds place.1 place.2 ∨
      ∃ i, Aimed bao allowed names reqs log place i ∧ after.holds place.1 place.2 = some (reqs i).value) ∧
    ∀ i o, remainder i = .done (.ok o) → ∃ found, (i,⟨Sum.inl (.get (names i)),some found⟩) ∈ log ∧
      Admitted allowed (reqs i) found.key ∧
      o.targets.map TargetOutcome.reference = found.key.spec.targets.map TargetSpec.reference ∧
      ∀ pair ∈ found.key.spec.targets.zip o.targets, pair.2.error = none →
        ∃ place, placeOf bao pair.1 = some place ∧
          ∃ j, Aimed bao allowed names reqs log place j ∧ after.holds place.1 place.2 = some (reqs j).value := by
  obtain ⟨history,above,runs,_,stands⟩ := store_runs (fun _ => rotate_configured hierarchical) path
  have carried : ∀ i, ∃ seen, seen <+: own i log ∧ CarriedOut (carryOut bao) (own i history) seen :=
    fun i => (stands i).carried
  refine ⟨?_,?_⟩
  · intro place
    rcases serves_places runs.serves place with same | ⟨event,member,value,wrote,holds⟩
    · exact .inl same
    · obtain ⟨i,aimed,rfl⟩ := written_aimed runs carried member wrote
      exact .inr ⟨i,aimed,holds⟩
  · intro i o returned
    have standing := stands i
    rw [returned] at standing
    obtain ⟨ended,whole⟩ := standing.returned
    have run : Returns (rotate allowed (names i) (reqs i)) (own i history) (.ok o) := by
      have steps := runs.steps i
      rwa [ended] at steps
    obtain ⟨found,written,seen,admitted,all,outcomes,events⟩ := rotate_ok run
    refine ⟨found,mem_own.mp (site_told whole seen),admitted,?_,?_⟩
    · rw [outcomes,← all,List.map_map,List.map_map]
      rfl
    · intro pair member unfailed
      rw [← all,outcomes,List.zip_map'] at member
      obtain ⟨⟨target,answer⟩,listed,rfl⟩ := List.mem_map.mp member
      have ok : answer = .ok () := by
        cases answer with
        | ok _ => rfl
        | error e => cases unfailed
      subst ok
      have declared : target ∈ found.key.spec.targets := all ▸ List.mem_map_of_mem listed
      obtain ⟨t,openbao,_⟩ := validate_targets admitted.valid declared
      obtain ⟨url,named⟩ := configured_place hierarchical openbao
      have wrote : ⟨.write target (reqs i).value,.ok ()⟩ ∈ history.map Prod.snd :=
        List.mem_map_of_mem (mem_own.mp (events _ listed))
      obtain ⟨event,within,value,submitted,holds⟩ := serves_ok runs.serves wrote named
      obtain ⟨j,aimed,rfl⟩ := written_aimed runs carried within submitted
      exact ⟨_,named,j,aimed,holds⟩

end Run

-- Two rotations of one key at a time, with a repository that answers at once.
def calm : Unit → (op : Effect) → Option (Answer op × Unit)
  | _,.now => some (.epoch,())
  | _,.get name => if same : "pair" = name then some (some (same ▸ pairKey),()) else some (none,())
  | _,.updateStatus name _ => if same : "pair" = name then some (.ok (same ▸ pairKey),()) else some (.error .conflict,())
  | _,.recordEvent _ _ => some ((),())
  | _,.countRotation _ => some ((),())
  | _,_ => none

def rivalRequests : Bool → RotateRequest
  | false => ⟨"v",⟨"sub","ada"⟩,none,false⟩
  | true => ⟨"w",⟨"sub","bob"⟩,none,false⟩

def rivals :=
  let _ := noUrls
  let _ := plainHttp
  schedule (stackRespond calm) (List.replicate 9 false ++ List.replicate 18 true ++ List.replicate 10 false)
    (fun i => onSite storeBao (rotate .allowAll "pair" (rivalRequests i))) (bareWorld,())

theorem rivals_delivered : let _ := plainHttp; ∃ o, rivals.2.1 false = .done (.ok o) ∧ o.targets.map TargetOutcome.error = [none,none] ∧
    ∃ found : Named "pair", ∀ pair ∈ found.key.spec.targets.zip o.targets, pair.2.error = none →
      ∃ place, placeOf storeBao pair.1 = some place ∧
        ∃ j, rivals.2.2.1.holds place.1 place.2 = some (rivalRequests j).value := by
  let _ := noUrls
  let _ := plainHttp
  have answers : ∀ s op answer after, stackRespond calm s op = some (answer,after) →
      Stack false (fun _ _ _ _ => True) s op answer after :=
    stack_answers fun _ _ _ _ _ => trivial
  have path := schedule_runs answers (List.replicate 9 false ++ List.replicate 18 true ++ List.replicate 10 false)
    (fun i => onSite storeBao (rotate .allowAll "pair" (rivalRequests i))) (bareWorld,())
  obtain ⟨o,returned,shown⟩ : ∃ o, rivals.2.1 false = .done (.ok o) ∧ o.targets.map TargetOutcome.error = [none,none] := ⟨_,rfl,rfl⟩
  obtain ⟨found,_,_,_,delivered⟩ := (rotations_delivered rfl path).2 false o returned
  refine ⟨o,returned,shown,found,?_⟩
  intro pair member unfailed
  obtain ⟨place,named,j,_,holds⟩ := delivered pair member unfailed
  exact ⟨place,named,j,holds⟩

end YouSpinMe.Delivery
