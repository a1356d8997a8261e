import YouSpinMe.KubeStatus
import YouSpinMe.RotationTraces

namespace YouSpinMe.ValidCondition
open RequestProgram SharedRun Effects Validation Rotation RotationTraces Kube KubeStatus Text Jiff Crd

def isValid (c : Condition) : Bool := c.type = VALID_CONDITION
def conditionsOf (key : ApiKey) : List Condition := (key.status.getD {}).conditions

-- The status value of the condition, if the object has the condition.
def validStatus (key : ApiKey) : Option String := (key.condition VALID_CONDITION).map Condition.status

def reconciled [UrlCrate] (allowed : PathAllowList) (key : ApiKey) (now : Timestamp) : ApiKey :=
  match reconcilePatch key allowed now with
  | none => key
  | some patch => key.updateStatus patch.merge

structure Converged [UrlCrate] (allowed : PathAllowList) (before after : ApiKey) : Prop where
  one : ∃ c, (conditionsOf after).filter isValid = [c]
  settled : ∀ later, desiredValidCondition after allowed later = none
  quiet : ∀ later, reconcile allowed after later = pure (.ok ())
  others : (conditionsOf after).filter (fun c => !isValid c) = (conditionsOf before).filter fun c => !isValid c
  kept : core (after.status.getD {}) = core (before.status.getD {})
  unmoved : after.metadata = before.metadata ∧ after.spec = before.spec

def verdict [UrlCrate] (spec : ApiKeySpec) (allowed : PathAllowList) : String :=
  if validate spec allowed = [] then "True" else "False"

def note [UrlCrate] (spec : ApiKeySpec) (allowed : PathAllowList) : String :=
  if validate spec allowed = [] then "Spec is valid" else "; ".intercalate (validate spec allowed)

-- The condition found is the one that would be written.
def UpToDate [UrlCrate] (key : ApiKey) (allowed : PathAllowList) : Prop :=
  ∃ c, key.condition VALID_CONDITION = some c ∧ c.status = verdict key.spec allowed ∧
    c.message = note key.spec allowed ∧ c.observedGeneration = key.metadata.generation

def transition (now : Timestamp) (status : String) : Option Condition → Timestamp
  | none => now
  | some c => if c.status = status then c.lastTransitionTime else now

theorem verdict_exact [UrlCrate] (spec : ApiKeySpec) (allowed : PathAllowList) :
    verdict spec allowed = "True" ↔ validate spec allowed = [] := by
  unfold verdict
  split
  · exact iff_of_true rfl ‹_›
  · exact iff_of_false (by decide) ‹_›

theorem condition_exact (key : ApiKey) : key.condition VALID_CONDITION = (conditionsOf key).find? isValid := by
  unfold ApiKey.condition conditionsOf
  cases key.status with
  | none => rfl
  | some status => rfl

theorem desired_none [UrlCrate] {key : ApiKey} : desiredValidCondition key allowed now = none ↔ UpToDate key allowed := by
  unfold desiredValidCondition UpToDate verdict note
  by_cases valid : validate key.spec allowed = []
  · simp [valid]
  · simp [valid]

-- What is written is decided by the spec, the generation and the condition found.
theorem desired_some [UrlCrate] {key : ApiKey} (found : desiredValidCondition key allowed now = some c) :
    c.type = VALID_CONDITION ∧ c.status = verdict key.spec allowed ∧ c.message = note key.spec allowed ∧
      c.observedGeneration = key.metadata.generation ∧
      c.lastTransitionTime = transition now c.status (key.condition VALID_CONDITION) := by
  have outdated : ¬UpToDate key allowed := by
    intro current
    rw [desired_none.mpr current] at found
    cases found
  unfold desiredValidCondition at found
  unfold UpToDate verdict note at outdated
  unfold verdict note transition
  by_cases valid : validate key.spec allowed = []
  · simp only [valid,if_true] at found outdated ⊢
    rw [if_neg outdated] at found
    cases found
    exact ⟨rfl,rfl,rfl,rfl,by cases key.condition VALID_CONDITION <;> rfl⟩
  · simp only [valid,if_false] at found outdated ⊢
    rw [if_neg outdated] at found
    cases found
    exact ⟨rfl,rfl,rfl,rfl,by cases key.condition VALID_CONDITION <;> rfl⟩

theorem patch_parts [UrlCrate] {key : ApiKey} (found : reconcilePatch key allowed now = some patch) :
    ∃ c, desiredValidCondition key allowed now = some c ∧ isValid c = true ∧
      conditionsOf (key.updateStatus patch.merge) = ((conditionsOf key).filter fun c => !isValid c) ++ [c] := by
  obtain ⟨c,desired,rfl⟩ := Option.map_eq_some_iff.mp found
  refine ⟨c,desired,by simp [isValid,(desired_some desired).1],?_⟩
  have kept : (conditionsOf key).filter (fun c => c.type ≠ VALID_CONDITION) =
      (conditionsOf key).filter fun c => !isValid c := by
    apply List.filter_congr
    intro c _
    simp [isValid]
  rw [← kept]
  rfl

-- The condition written is the only one of its type, and the one that is found.
theorem patch_condition [UrlCrate] {key : ApiKey} (found : reconcilePatch key allowed now = some patch) :
    ∃ c, desiredValidCondition key allowed now = some c ∧
      (key.updateStatus patch.merge).condition VALID_CONDITION = some c ∧
      (conditionsOf (key.updateStatus patch.merge)).filter isValid = [c] := by
  obtain ⟨c,desired,own,conditions⟩ := patch_parts found
  have none : ((conditionsOf key).filter fun c => !isValid c).filter isValid = [] := by
    rw [List.filter_filter,List.filter_eq_nil_iff]
    intro other _
    simp
  have single : (conditionsOf (key.updateStatus patch.merge)).filter isValid = [c] := by
    rw [conditions,List.filter_append,none]
    simp [own]
  refine ⟨c,desired,?_,single⟩
  rw [condition_exact,← List.head?_filter,single]
  rfl

theorem patch_others [UrlCrate] {key : ApiKey} (found : reconcilePatch key allowed now = some patch) :
    (conditionsOf (key.updateStatus patch.merge)).filter (fun c => !isValid c) =
      (conditionsOf key).filter fun c => !isValid c := by
  obtain ⟨c,_,own,conditions⟩ := patch_parts found
  rw [conditions,List.filter_append,List.filter_filter]
  simp [own]

theorem reconcile_converges [UrlCrate] {key : ApiKey} (found : reconcilePatch key allowed now = some patch) :
    Converged allowed key (key.updateStatus patch.merge) := by
  obtain ⟨c,desired,stored,one⟩ := patch_condition found
  obtain ⟨_,status,message,generation,_⟩ := desired_some desired
  have settled : ∀ later, desiredValidCondition (key.updateStatus patch.merge) allowed later = none :=
    fun later => desired_none.mpr ⟨c,stored,status,message,generation⟩
  refine ⟨⟨c,one⟩,settled,?_,patch_others found,rfl,rfl,rfl⟩
  intro later
  rw [reconcile,reconcilePatch,settled later]
  rfl

-- A reconciliation leaves a condition that is up to date alone, and otherwise sends the
-- one patch and ends with its answer.
theorem reconcile_exact [UrlCrate] (key : ApiKey) (allowed : PathAllowList) (now : Timestamp) :
    (reconcile allowed key now = .done (.ok ()) ∧ UpToDate key allowed) ∨
    ∃ patch next, reconcile allowed key now = .request (.patchStatus key.name patch) next ∧
      reconcilePatch key allowed now = some patch ∧ ∀ answer, next answer = .done (answer.map fun _ => ()) := by
  unfold reconcile
  cases found : reconcilePatch key allowed now with
  | none => exact .inl ⟨rfl,desired_none.mp (Option.map_eq_none_iff.mp found)⟩
  | some patch =>
    refine .inr ⟨patch,_,rfl,rfl,?_⟩
    intro answer
    cases answer with
    | error e => rfl
    | ok updated => rfl

abbrev Specs := List (Option Int × ApiKeySpec)

def Bumps (before after : Option Int) : Prop := ∃ g, after = some g ∧ ∀ old, before = some old → old < g

-- One object, with the specs it had, each with its generation, and the time of
-- the last reconciliation at which the value of its condition changed.
inductive Run [UrlCrate] [Format] (allowed : PathAllowList) (name : String) (start : ApiKey) :
    ApiKey → Specs → Option Timestamp → Prop where
  | start : Run allowed name start start [(start.metadata.generation,start.spec)] none
  | edit (prior : Run allowed name start key specs changed) (metadata : Metadata) (spec : ApiKeySpec)
      (bumped : Bumps key.metadata.generation metadata.generation) :
      Run allowed name start ⟨metadata,spec,key.status⟩ ((metadata.generation,spec) :: specs) changed
  | record (prior : Run allowed name start key specs changed)
      (run : Returns (Rotation.record name actor rotatedAt expiresAt now) trace result)
      (asked : ⟨.updateStatus name mutate,answer⟩ ∈ trace) :
      Run allowed name start (key.updateStatus mutate) specs changed
  | rotate (prior : Run allowed name start key specs changed)
      (run : Returns (Rotation.rotate allowed name req) trace result)
      (asked : ⟨.updateStatus name mutate,answer⟩ ∈ trace) :
      Run allowed name start (key.updateStatus mutate) specs changed
  | reconcile (prior : Run allowed name start key specs changed) (now : Timestamp) :
      Run allowed name start (reconciled allowed key now) specs
        (if validStatus (reconciled allowed key now) = validStatus key then changed else some now)

-- The condition of type `Valid` speaks of one spec the object had.
structure Truthful [UrlCrate] (allowed : PathAllowList) (key : ApiKey) (specs : Specs) (changed : Option Timestamp) :
    Prop where
  current : (key.metadata.generation,key.spec) ∈ specs
  numbered : (specs.map Prod.fst).Nodup
  latest : ∀ entry ∈ specs, entry.1 = key.metadata.generation ∨ Bumps entry.1 key.metadata.generation
  one : ((conditionsOf key).filter isValid).length ≤ 1
  told : ∀ c ∈ conditionsOf key, c.type = VALID_CONDITION → ∃ spec, (c.observedGeneration,spec) ∈ specs ∧
    (c.status = "True" ↔ validate spec allowed = []) ∧ changed = some c.lastTransitionTime

theorem frames_conditions {mutate : ApiKeyStatus → ApiKeyStatus} (frames : Frames mutate) (status : ApiKeyStatus) :
    (mutate status).conditions = status.conditions := by
  have same : mutate status = StatusPatch.merge ⟨status.conditions,status.observedGeneration⟩ (mutate status) :=
    frames status ⟨status.conditions,status.observedGeneration⟩
  rw [same]
  rfl

theorem condition_status (found : key.condition VALID_CONDITION = some c) : validStatus key = some c.status := by
  rw [validStatus,found]
  rfl

theorem record_frames [Format] (run : Returns (Rotation.record name actor rotatedAt expiresAt now) trace result)
    (asked : ⟨.updateStatus name mutate,answer⟩ ∈ trace) : Frames mutate := by
  have request : RecordRequests _ _ _ _ _ := record_asks.steps run _ asked
  cases request
  exact recordMutation_frames _ _ _

section Steps
variable [UrlCrate]

theorem rotate_frames (run : Returns (Rotation.rotate allowed name req) trace result)
    (asked : ⟨.updateStatus name mutate,answer⟩ ∈ trace) : Frames mutate := by
  have request : RotateRequests _ _ _ := rotate_asks.steps run _ asked
  cases request
  exact submitMutation_frames _ _ _ _ _

theorem update_truthful (truthful : Truthful allowed key specs changed) (frames : Frames mutate) :
    Truthful allowed (key.updateStatus mutate) specs changed := by
  have conditions : conditionsOf (key.updateStatus mutate) = conditionsOf key := frames_conditions frames _
  refine ⟨truthful.current,truthful.numbered,truthful.latest,?_,?_⟩
  · rw [conditions]
    exact truthful.one
  · rw [conditions]
    exact truthful.told

theorem edit_truthful (truthful : Truthful allowed key specs changed)
    (bumped : Bumps key.metadata.generation metadata.generation) :
    Truthful allowed ⟨metadata,spec,key.status⟩ ((metadata.generation,spec) :: specs) changed := by
  have older : ∀ entry ∈ specs, Bumps entry.1 metadata.generation := by
    intro entry member
    obtain ⟨g,raised,higher⟩ := bumped
    refine ⟨g,raised,?_⟩
    intro old had
    rcases truthful.latest entry member with same | ⟨next,between,above⟩
    · exact higher old (same ▸ had)
    · exact Int.lt_trans (above old had) (higher next between)
  refine ⟨List.mem_cons_self,?_,?_,truthful.one,?_⟩
  · rw [List.map_cons,List.nodup_cons]
    refine ⟨?_,truthful.numbered⟩
    intro used
    obtain ⟨entry,member,same⟩ := List.mem_map.mp used
    obtain ⟨g,raised,higher⟩ := older entry member
    exact Int.lt_irrefl g (higher g (same.trans raised))
  · intro entry member
    rcases List.mem_cons.mp member with rfl | earlier
    · exact .inl rfl
    · exact .inr (older entry earlier)
  · intro c member own
    obtain ⟨seen,listed,told⟩ := truthful.told c member own
    exact ⟨seen,List.mem_cons_of_mem _ listed,told⟩

theorem reconcile_truthful (truthful : Truthful allowed key specs changed) (now : Timestamp) :
    Truthful allowed (reconciled allowed key now) specs
      (if validStatus (reconciled allowed key now) = validStatus key then changed else some now) := by
  unfold reconciled
  cases found : reconcilePatch key allowed now with
  | none =>
    rw [if_pos rfl]
    exact truthful
  | some patch =>
    obtain ⟨c,desired,stored,single⟩ := patch_condition found
    obtain ⟨_,status,_,generation,time⟩ := desired_some desired
    refine ⟨truthful.current,truthful.numbered,truthful.latest,by simp [single],?_⟩
    intro other member own
    have listed : other ∈ (conditionsOf (key.updateStatus patch.merge)).filter isValid :=
      List.mem_filter.mpr ⟨member,by simp [isValid,own]⟩
    rw [single,List.mem_singleton] at listed
    subst listed
    refine ⟨key.spec,generation ▸ truthful.current,?_,?_⟩
    · rw [status]
      exact verdict_exact ..
    · rw [condition_status stored,time]
      -- the time of the condition found is kept exactly when its value is
      cases existing : key.condition VALID_CONDITION with
      | none => simp [validStatus,existing,transition]
      | some old =>
        have held : old ∈ conditionsOf key := by
          rw [condition_exact] at existing
          exact List.mem_of_find?_eq_some existing
        have type : old.type = VALID_CONDITION := by
          rw [condition_exact] at existing
          simpa [isValid] using List.find?_some existing
        obtain ⟨_,_,_,last⟩ := truthful.told old held type
        rw [condition_status existing,transition]
        by_cases same : old.status = other.status
        · rw [if_pos same,if_pos (congrArg some same.symm)]
          exact last
        · rw [if_neg same,if_neg (fun equal => same (Option.some.inj equal).symm)]

theorem run_truthful [Format] (unset : ∀ c ∈ conditionsOf start, c.type ≠ VALID_CONDITION)
    (path : Run allowed name start key specs changed) : Truthful allowed key specs changed := by
  induction path with
  | start =>
    have bare : (conditionsOf start).filter isValid = [] := by
      rw [List.filter_eq_nil_iff]
      intro c member
      simpa [isValid] using unset c member
    refine ⟨List.mem_cons_self,List.nodup_singleton _,?_,by simp [bare],?_⟩
    · intro entry member
      exact .inl (List.mem_singleton.mp member ▸ rfl)
    · intro c member own
      exact absurd own (unset c member)
  | edit prior metadata spec bumped ih => exact edit_truthful ih bumped
  | record prior run asked ih => exact update_truthful ih (record_frames run asked)
  | rotate prior run asked ih => exact update_truthful ih (rotate_frames run asked)
  | reconcile prior now ih => exact reconcile_truthful ih now

theorem valid_condition [Format] (allowed : PathAllowList) :
    (∀ key now, (reconcile allowed key now = .done (.ok ()) ∧ UpToDate key allowed) ∨
      ∃ patch next, reconcile allowed key now = .request (.patchStatus key.name patch) next ∧
        reconcilePatch key allowed now = some patch ∧ (∀ answer, next answer = .done (answer.map fun _ => ())) ∧
        Converged allowed key (key.updateStatus patch.merge)) ∧
    ∀ name start, (∀ c ∈ conditionsOf start, c.type ≠ VALID_CONDITION) → ∀ key specs changed,
      Run allowed name start key specs changed → Truthful allowed key specs changed := by
  refine ⟨?_,fun _ _ unset _ _ _ path => run_truthful unset path⟩
  intro key now
  rcases reconcile_exact key allowed now with quiet | ⟨patch,next,asks,found,ends⟩
  · exact .inl quiet
  · exact .inr ⟨patch,next,asks,found,ends,reconcile_converges found⟩

end Steps

-- A key without targets is reconciled, gets a target without a mount, and is reconciled again.
def fresh : ApiKey := {metadata := {name := some "k",generation := some 1},spec := {}}
def mountless : ApiKeySpec := {targets := [⟨some ⟨"","x","k"⟩⟩]}
def edited (key : ApiKey) : ApiKey := ⟨{name := some "k",generation := some 2},mountless,key.status⟩

theorem fresh_reconciled : let _ := noUrls; let _ := epochFormat
    (∃ patch next, reconcile .allowAll fresh .epoch = .request (.patchStatus "k" patch) next ∧
      Converged .allowAll fresh (fresh.updateStatus patch.merge)) ∧
    ∃ specs changed, Truthful .allowAll (reconciled .allowAll (edited (reconciled .allowAll fresh .epoch)) .epoch)
      specs changed := by
  let _ := noUrls
  let _ := epochFormat
  obtain ⟨converges,truthful⟩ := valid_condition .allowAll
  refine ⟨?_,_,_,truthful "k" fresh ?_ _ _ _
    (.reconcile (.edit (.reconcile .start .epoch) _ _ ?_) .epoch)⟩
  · rcases converges fresh .epoch with ⟨impossible,_⟩ | ⟨patch,next,asks,_,_,converged⟩
    · cases impossible
    · exact ⟨patch,next,asks,converged⟩
  · intro c member
    cases member
  · refine ⟨2,rfl,?_⟩
    intro old had
    have first : (some 1 : Option Int) = some old := had
    cases first
    decide

example : @validStatus (@reconciled noUrls .allowAll fresh .epoch) = some "True" := by decide

end YouSpinMe.ValidCondition
