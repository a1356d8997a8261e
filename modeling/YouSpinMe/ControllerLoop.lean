import YouSpinMe.WorkQueue
import YouSpinMe.ValidCondition
import YouSpinMe.Bookkeeping

namespace YouSpinMe.ControllerLoop
open RequestProgram SharedRun LayeredRun WorkQueue Effects Validation Rotation RotationTraces RequestGuards RouterWalk Repository KubeRepository Kube
  KubeStatus ValidCondition Admission Identity Http Auth Web Text Jiff Crd

-- What the controller knows of each object: the watch's cache and the queue of kube-runtime.
abbrev Desk := (name : String) → Work (Revision name)

section Controller
variable [UrlCrate]

-- A condition of type `Valid` is the verdict on a spec that an object of the name had, under
-- the generation it had then.
structure Judged (allowed : PathAllowList) (past : List (Named name)) (key : ApiKey) : Prop where
  one : ((conditionsOf key).filter isValid).length ≤ 1
  told : ∀ c ∈ conditionsOf key, isValid c = true → ∃ seen ∈ past, c.observedGeneration = seen.key.metadata.generation ∧
    c.status = verdict seen.key.spec allowed ∧ c.message = note seen.key.spec allowed

structure Truthful (allowed : PathAllowList) (w : World) : Prop where
  present : ∀ name r, w.objects name = some r → r.object ∈ w.past name
  judged : ∀ name, ∀ object ∈ w.past name, Judged allowed (w.past name) object.key

theorem Judged.mono {past more : List (Named name)} (judged : Judged allowed past key) (within : ∀ object ∈ past, object ∈ more) :
    Judged allowed more key := by
  refine ⟨judged.one,?_⟩
  intro c member own
  obtain ⟨seen,was,told⟩ := judged.told c member own
  exact ⟨seen,within seen was,told⟩

theorem Judged.same {past : List (Named name)} (judged : Judged allowed past key) (same : conditionsOf other = conditionsOf key) :
    Judged allowed past other := by
  refine ⟨?_,?_⟩
  · rw [same]
    exact judged.one
  · rw [same]
    exact judged.told

end Controller

section Pending
variable {ρ : Type} {rest : Server ρ Answer} {ι : Type} [DecidableEq ι] {α : ι → Type} {clients : (i : ι) → App (α i)}

end Pending

section Tended
variable [UrlCrate] {ρ : Type} {allowed : PathAllowList} {rest : Server ρ Answer}

variable {ι : Type} [DecidableEq ι] {α : ι → Type} {clients : (i : ι) → App (α i)}

end Tended

-- The controller has nothing to do for the name and has seen the object as it is.
structure Settled {name : String} (s : World × Desk) (r : Revision name) : Prop where
  there : s.1.objects name = some r
  idle : Idle (s.2 name)
  caught : (s.2 name).cache = some r

section Settling
variable [UrlCrate] {allowed : PathAllowList} {name : String}

end Settling

section Service
variable [UrlCrate] [Format] [Crates] {ι : Type} [DecidableEq ι] {state : AppState} {requests : ι → Request} {ρ : Type}
  {rest : Server ρ Answer}

end Service

end YouSpinMe.ControllerLoop
