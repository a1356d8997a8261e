import YouSpinMe.ManualExpiry
import YouSpinMe.TargetViews

namespace YouSpinMe.LastSubmission
open RequestProgram Effects Validation Rotation RotationTraces RotationOutcome TargetTable TargetViews Text Jiff Crd
open ManualExpiry (clockOf clockOf_append written_shows)

-- What a call read and what its writes were answered.
def readSpec : Trace → Option ApiKeySpec
  | ⟨.get _,some found⟩ :: _ => some found.key.spec
  | _ => none

def answersOf (trace : Trace) : Written :=
  trace.filterMap fun event => match event with
    | ⟨.write target _,answer⟩ => some (target,answer)
    | _ => none

structure Mirrors [UrlCrate] (allowed : PathAllowList) (trace : Trace) (spec : ApiKeySpec) (now : Timestamp)
    (targets : List TargetStatus) : Prop where
  read : readSpec trace = some spec
  valid : validate spec allowed = []
  clock : clockOf trace = [now]
  tried : (answersOf trace).map Prod.fst = spec.targets
  once : (targets.map TargetStatus.reference).Nodup
  listed : ∀ reference, reference ∈ targets.map TargetStatus.reference ↔
    reference ∈ spec.targets.map TargetSpec.reference
  written : ∀ entry ∈ targets, entry.lastWritten = some now
  answered : ∀ entry ∈ targets, ∀ target answer, (target,answer) ∈ answersOf trace →
    target.reference = entry.reference →
    (entry.result = .ok ↔ answer = .ok ()) ∧ (entry.message.isSome ↔ ∃ e, answer = .error e)

-- An object, with the last call whose status update was applied to it. Edits,
-- records and reconciliations come in between.
inductive Reached [UrlCrate] [Format] (name : String) (start : ApiKey) : Option (PathAllowList × Trace) → ApiKey → Prop
  where
  | start : Reached name start none start
  | rotate (prior : Reached name start last before) (run : Returns (Rotation.rotate allowed name req) trace result)
      (asked : ⟨.updateStatus name mutate,answer⟩ ∈ trace) :
      Reached name start (some (allowed,trace)) (before.updateStatus mutate)
  | other (prior : Reached name start last before) (next : Step name before move after)
      (other : ∀ trace, move ≠ .rotate trace) : Reached name start last after

def Mirrored [UrlCrate] (last : Option (PathAllowList × Trace)) (targets : List TargetStatus) : Prop :=
  match last with
  | none => targets = []
  | some (allowed,trace) => ∃ spec now, Mirrors allowed trace spec now targets

theorem answersOf_append (first second : Trace) :
    answersOf (first ++ second) = answersOf first ++ answersOf second := List.filterMap_append ..

theorem answersOf_written (value : String) (written : Written) :
    answersOf (written.map (writeEvent value)) = written := by
  simp [answersOf,List.filterMap_map,Function.comp_def,writeEvent]

theorem check_reads (check : CheckTrace key req checks answer) : answersOf checks = [] ∧ clockOf checks = [] := by
  cases check <;> exact ⟨rfl,rfl⟩

-- What a call that asks for a status update read and was answered.
theorem submission_reads [UrlCrate] (path : RotateTrace allowed name req trace result)
    (asked : ⟨.updateStatus name mutate,answer⟩ ∈ trace) :
    ∃ key probe now, readSpec trace = some key.spec ∧ validate key.spec allowed = [] ∧ clockOf trace = [now] ∧
      (answersOf trace).map Prod.fst = key.spec.targets ∧ mutate = mutationOf key req probe (answersOf trace) now := by
  obtain ⟨found,key,checks,probe,written,now,reply,noted,counted,passed,check,all,rfl,rest,rfl⟩ := path.submission asked
  obtain ⟨named,rfl,rfl,admitted⟩ := gate_ok.mp passed
  obtain ⟨unwritten,untimed⟩ := check_reads check
  have closing : answersOf noted = [] ∧ clockOf noted = [] := by
    rcases rest with rfl | ⟨about,event,rfl⟩
    · exact ⟨rfl,rfl⟩
    · exact ⟨rfl,rfl⟩
  have opened : answersOf (⟨.get name,some named⟩ :: checks) = [] ∧
      clockOf (⟨.get name,some named⟩ :: checks) = [] := ⟨unwritten,untimed⟩
  have saved : ∀ mutate : ApiKeyStatus → ApiKeyStatus,
      answersOf (⟨.now,now⟩ :: ⟨.updateStatus name mutate,reply⟩ :: noted) = [] ∧
      clockOf (⟨.now,now⟩ :: ⟨.updateStatus name mutate,reply⟩ :: noted) = [now] :=
    fun mutate => ⟨closing.1,congrArg (now :: ·) closing.2⟩
  have count : answersOf [⟨.countRotation counted,()⟩] = [] ∧
      clockOf [⟨.countRotation counted,()⟩] = [] := ⟨rfl,rfl⟩
  have answers := answersOf_written req.value written
  have times := (written_shows req.value written).1
  refine ⟨named.key,probe,now,rfl,admitted.valid,?_,?_,?_⟩
  · rw [clockOf_append,clockOf_append,clockOf_append,opened.2,times,(saved _).2,count.2]
    rfl
  · rw [answersOf_append,answersOf_append,answersOf_append,opened.1,answers,(saved _).1,count.1]
    simpa using all
  · rw [answersOf_append,answersOf_append,answersOf_append,opened.1,answers,(saved _).1,count.1]
    simp

theorem entry_answered (now : Timestamp) (entry : TargetSpec × Except TargetError Unit) :
    ((targetEntry now (outcomeOf entry)).result = .ok ↔ entry.2 = .ok ()) ∧
      ((targetEntry now (outcomeOf entry)).message.isSome ↔ ∃ e, entry.2 = .error e) := by
  obtain ⟨target,answer⟩ := entry
  cases answer with
  | ok value => simp [targetEntry,outcomeOf,writeError]
  | error e => simp [targetEntry,outcomeOf,writeError]

section Table
variable [UrlCrate]

-- One applied update makes the table the one of its call, whatever was in it.
theorem rotate_mirrors (before : ApiKeyStatus) (path : RotateTrace allowed name req trace result)
    (asked : ⟨.updateStatus name mutate,answer⟩ ∈ trace) (once : Once before.targets) :
    ∃ spec now, Mirrors allowed trace spec now (mutate before).targets := by
  obtain ⟨key,probe,now,read,valid,clock,tried,rfl⟩ := submission_reads path asked
  have references := (written_references (answersOf trace)).trans (congrArg _ tried)
  have distinct := validate_distinct valid
  have table : (mutationOf key req probe (answersOf trace) now before).targets.Perm
      ((answersOf trace).map fun entry => targetEntry now (outcomeOf entry)) := by
    rw [mutationOf,submitMutation_targets]
    have merged : (mergeTargets (key.spec.targets.map TargetSpec.reference) now _ before.targets).Perm _ :=
      mergeTargets_perm references distinct once
    rwa [List.map_map] at merged
  have named : ((answersOf trace).map fun entry => targetEntry now (outcomeOf entry)).map TargetStatus.reference =
      key.spec.targets.map TargetSpec.reference := by
    rw [← references,List.map_map,List.map_map]
    rfl
  refine ⟨key.spec,now,read,valid,clock,tried,?_,?_,?_,?_⟩
  · rw [(table.map _).nodup_iff,named]
    exact distinct
  · intro reference
    rw [(table.map _).mem_iff,named]
  · intro entry member
    obtain ⟨write,_,rfl⟩ := List.mem_map.mp (table.mem_iff.mp member)
    rfl
  · intro entry member target answer attempt same
    obtain ⟨write,listed,rfl⟩ := List.mem_map.mp (table.mem_iff.mp member)
    -- the references are distinct, so it is the write of this entry
    rw [← named,List.map_map] at distinct
    have one := List.inj_on_of_nodup_map distinct attempt listed same
    exact one ▸ entry_answered now write

theorem mirrored_once {last : Option (PathAllowList × Trace)} (mirrored : Mirrored last targets) : Once targets := by
  cases last with
  | none =>
    cases mirrored
    exact List.nodup_nil
  | some call =>
    obtain ⟨spec,now,mirrors⟩ := mirrored
    exact mirrors.once

theorem other_targets [Format] (next : Step name before move after) (other : ∀ trace, move ≠ .rotate trace) :
    (statusOf after).targets = (statusOf before).targets := by
  cases next with
  | record run asked =>
    have kept : RecordRequests _ _ _ _ _ := record_asks.steps run _ asked
    cases kept
    rfl
  | rotate => exact absurd rfl (other _)
  | reconcile => rfl
  | edit => rfl

theorem target_table [Format] (empty : (statusOf start).targets = []) (path : Reached name start last key) :
    Mirrored last (statusOf key).targets := by
  induction path with
  | start => exact empty
  | rotate prior run asked ih =>
    have mirrors := fun status => rotate_mirrors status (rotate_returns.mp run) asked
    exact mirrors _ (mirrored_once ih)
  | other prior next other ih => exact other_targets next other ▸ ih

end Table

theorem pair_reached :
    ∃ trace, @Reached noUrls epochFormat "pair" pairKey.key (some (.allowAll,trace)) partlyRotated := by
  let _ := noUrls
  let _ := epochFormat
  have path := @SubmitTrace.saved "pair" pairKey.key pairRequest .notSupported .epoch pairWritten pairKey rfl
  have run := rotate_returns.mpr (.submitted pairKey_passes (.generic rfl rfl) path)
  exact ⟨_,.rotate .start run (.tail _ (.tail _ (.tail _ (.tail _ (.head _)))))⟩

-- After an edit the table is still the one of the last rotation.
theorem pair_mirrored : let _ := noUrls; let _ := epochFormat
    ∃ trace, Mirrored (some (.allowAll,trace))
      (statusOf ⟨partlyRotated.metadata,shortened,partlyRotated.status⟩).targets := by
  let _ := noUrls
  let _ := epochFormat
  obtain ⟨trace,path⟩ := pair_reached
  exact ⟨trace,target_table rfl (.other path (.edit _ shortened) (by simp))⟩

end YouSpinMe.LastSubmission
