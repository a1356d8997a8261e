import YouSpinMe.TargetTable
import YouSpinMe.RotationOutcome
import YouSpinMe.Metrics
import YouSpinMe.Views

namespace YouSpinMe.TargetViews
open RequestProgram Effects Validation Rotation RotationTraces RotationOutcome Scheduling PromQl Metrics Kube Views
  TargetTable Text Jiff Crd

-- How many targets of a list have one of some references.
def named (references : List String) (targets : List TargetSpec) : Nat :=
  targets.countP fun target => target.reference ∈ references

def statusOf (key : ApiKey) : ApiKeyStatus := key.status.getD {}

def failedRows [UrlCrate] [Format] (detail : KeyDetail) : Nat :=
  (detail.targets.filter fun row => row.result = "failed").length

-- The samples of one key: their labels start with the labels of the key.
def failedSamples (collector : KeyCollector) (key : ApiKey) : Nat :=
  (exported collector.encode).countP fun s =>
    s.metric = "youspinme_apikey_target_healthy" && ((keyLabels key).isPrefixOf s.labels && s.value = 0)

def Agree [UrlCrate] [Format] (key : ApiKey) : Prop :=
  ∀ (collector : KeyCollector) (now : Timestamp), key ∈ collector.repo.keys →
    let row := KeyRow.new key collector.thresholds now
    row.targetsFailed = failedRows (KeyDetail.new key collector.thresholds now) ∧
    row.targetsFailed = failedSamples collector key ∧ row.targetsFailed ≤ row.targetsTotal

theorem targetsFailed_exact [UrlCrate] [Format] (key : ApiKey) (thresholds : Thresholds) (now : Timestamp) :
    (KeyRow.new key thresholds now).targetsFailed = (failing (statusOf key)).length := by
  cases stored : key.status with
  | none => simp [KeyRow.new,statusOf,stored,failing]
  | some status => simp [KeyRow.new,statusOf,stored,failing,failedTargets]

theorem targetRow_failed {status : ApiKeyStatus} (once : Once status.targets) (now : Timestamp) (target : TargetSpec) :
    (targetRow status now target).result = "failed" ↔ target.reference ∈ failing status := by
  have shown : (targetRow status now target).result =
      resultText ((status.targets.find? fun s => s.reference = target.reference).map TargetStatus.result) := rfl
  rw [shown,failing,List.mem_map]
  cases found : status.targets.find? fun s => s.reference = target.reference with
  | none =>
    refine iff_of_false (by simp [resultText]) ?_
    rintro ⟨t,member,same⟩
    exact absurd same (by simpa using List.find?_eq_none.mp found t (List.mem_of_mem_filter member))
  | some t =>
    have same : t.reference = target.reference := by simpa using List.find?_some found
    have listed := List.mem_of_find?_eq_some found
    have text : resultText (some t.result) = "failed" ↔ t.result = .failed := by
      cases t.result with
      | ok => simp [resultText]
      | failed => simp [resultText]
    rw [Option.map_some,text]
    constructor
    · intro failed
      exact ⟨t,List.mem_filter.mpr ⟨listed,by simpa using failed⟩,same⟩
    · rintro ⟨other,member,equal⟩
      obtain ⟨present,failed⟩ := List.mem_filter.mp member
      have one : other = t := List.inj_on_of_nodup_map once present listed (equal.trans same.symm)
      subst one
      simpa using failed

theorem failedRows_exact [UrlCrate] [Format] {key : ApiKey} (once : Once (statusOf key).targets) (thresholds : Thresholds)
    (now : Timestamp) :
    failedRows (KeyDetail.new key thresholds now) = named (failing (statusOf key)) key.spec.targets := by
  have rows : (KeyDetail.new key thresholds now).targets = key.spec.targets.map (targetRow (statusOf key) now) := rfl
  rw [failedRows,rows,List.filter_map,List.length_map,named,List.countP_eq_length_filter]
  congr 1
  apply List.filter_congr
  intro target _
  rw [Function.comp_apply,Bool.eq_iff_iff,decide_eq_true_iff,decide_eq_true_iff]
  exact targetRow_failed once now target

theorem exported_count (families : List Family) (name : String) (p : Labels → ℚ → Bool) :
    (exported families).countP (fun s => s.metric = name && p s.labels s.value) =
      (select (exported families) name).countP fun s => p s.1 s.2 := by
  rw [select,List.countP_map,List.countP_filter]
  apply List.countP_congr
  intro s _
  rw [Function.comp_apply,Bool.and_comm]

theorem own_samples (key : ApiKey) (thresholds : Thresholds) :
    (targetSamples (rowOf thresholds key)).countP (fun s => (keyLabels key).isPrefixOf s.1 && s.2 = 0) =
      (failing (statusOf key)).length := by
  have stored : ((key.status.map ApiKeyStatus.targets).getD []) = (statusOf key).targets := by
    unfold statusOf
    cases key.status with
    | none => rfl
    | some status => rfl
  rw [targetSamples,show (rowOf thresholds key).key = key from rfl,stored,List.countP_map,failing,List.length_map,
    List.countP_eq_length_filter]
  congr 1
  apply List.filter_congr
  intro t _
  cases result : t.result with
  | ok => simp [flag,result]
  | failed => simp [flag,rowOf,result]

theorem other_samples {key other : ApiKey} (different : keyLabels key ≠ keyLabels other) (thresholds : Thresholds) :
    (targetSamples (rowOf thresholds other)).countP (fun s => (keyLabels key).isPrefixOf s.1 && s.2 = 0) = 0 := by
  rw [List.countP_eq_zero]
  intro s member
  obtain ⟨t,_,rfl⟩ := List.mem_map.mp member
  simp only [Bool.and_eq_true,not_and]
  intro starts
  -- both label lists have four labels of their own
  have both := List.isPrefixOf_iff_prefix.mp starts
  exact absurd (List.prefix_of_prefix_length_le both (List.prefix_append _ _) (Nat.le_refl 4) |>.eq_of_length rfl)
    different

theorem failedSamples_exact (collector : KeyCollector) (member : key ∈ collector.repo.keys) :
    failedSamples collector key = (failing (statusOf key)).length := by
  have family : select (exported collector.encode) "youspinme_apikey_target_healthy" =
      collector.repo.keys.flatMap fun other => targetSamples (rowOf collector.thresholds other) := by
    have listed : targetFamily collector.rows ∈ collector.encode :=
      .tail _ (.tail _ (.tail _ (.tail _ (.tail _ (.tail _ (.tail _ (.tail _ (.head _))))))))
    refine (select_family (encode_names collector) listed).trans ?_
    rw [targetFamily,KeyCollector.rows,List.flatMap_map]
  rw [failedSamples,exported_count _ _ fun labels x => (keyLabels key).isPrefixOf labels && x = 0,family]
  obtain ⟨earlier,later,keys⟩ := List.append_of_mem member
  have distinct := listed_once collector.repo
  rw [keys,List.map_append,List.map_cons,List.nodup_middle,List.nodup_cons,← List.map_append] at distinct
  have others : ∀ rest : List ApiKey, (∀ other ∈ rest, other ∈ earlier ++ later) →
      (rest.flatMap fun other => targetSamples (rowOf collector.thresholds other)).countP
        (fun s => (keyLabels key).isPrefixOf s.1 && s.2 = 0) = 0 := by
    intro rest inside
    rw [List.countP_eq_zero]
    intro s listed
    obtain ⟨other,present,own⟩ := List.mem_flatMap.mp listed
    have different : keyLabels key ≠ keyLabels other := by
      intro same
      exact distinct.1 (same ▸ List.mem_map_of_mem (inside other present))
    exact List.countP_eq_zero.mp (other_samples different collector.thresholds) s own
  rw [keys,List.flatMap_append,List.flatMap_cons,List.countP_append,List.countP_append,own_samples,
    others earlier fun other present => List.mem_append_left _ present,
    others later fun other present => List.mem_append_right _ present]
  simp

theorem agree_exact [UrlCrate] [Format] {key : ApiKey} (once : Once (statusOf key).targets) :
    Agree key ↔ named (failing (statusOf key)) key.spec.targets = (failing (statusOf key)).length := by
  constructor
  · intro agree
    have views := (agree ⟨.single key,.default⟩ .epoch (.head _)).1
    rw [targetsFailed_exact,failedRows_exact once] at views
    exact views.symm
  · intro same collector now member
    refine ⟨?_,?_,?_⟩
    · rw [targetsFailed_exact,failedRows_exact once,same]
    · rw [targetsFailed_exact,failedSamples_exact collector member]
    · rw [targetsFailed_exact,← same]
      exact List.countP_le_length

-- What moves an object: one applied status update of some call, whose run is
-- kept, one reconciliation or one edit of the spec. Other requests leave it alone.
inductive Move where
  | record
  | rotate (trace : Trace)
  | reconcile
  | edit (spec : ApiKeySpec)

-- A call that stops midway made the requests of some whole run.
inductive Step [UrlCrate] [Format] (name : String) : ApiKey → Move → ApiKey → Prop where
  | record (run : Returns (Rotation.record name actor rotatedAt expiresAt now) trace result)
      (asked : ⟨.updateStatus name mutate,answer⟩ ∈ trace) : Step name before .record (before.updateStatus mutate)
  | rotate (run : Returns (Rotation.rotate allowed name req) trace result)
      (asked : ⟨.updateStatus name mutate,answer⟩ ∈ trace) :
      Step name before (.rotate trace) (before.updateStatus mutate)
  | reconcile (found : reconcilePatch seen allowed now = some patch) :
      Step name before .reconcile (before.updateStatus patch.merge)
  | edit (metadata : Metadata) (spec : ApiKeySpec) : Step name before (.edit spec) ⟨metadata,spec,before.status⟩

-- The targets of the spec that a call read, and those it failed to write.
def readTargets : Trace → List TargetSpec
  | ⟨.get _,some found⟩ :: _ => found.key.spec.targets
  | _ => []

def failedWrites (trace : Trace) : List String :=
  trace.filterMap fun event => match event with
    | ⟨.write target _,.error _⟩ => some target.reference
    | _ => none

-- An edit leaves unchanged how many targets of the spec are ones whose last write failed;
-- for a call, this is asked of the edits between its read and its status update.
def Permitted (before : ApiKey) : Move → Prop
  | .rotate trace => named (failedWrites trace) before.spec.targets = named (failedWrites trace) (readTargets trace)
  | .edit spec => named (failing (statusOf before)) spec.targets = named (failing (statusOf before)) before.spec.targets
  | .record | .reconcile => True

inductive Run [UrlCrate] [Format] (name : String) (start : ApiKey) : ApiKey → Prop where
  | start : Run name start start
  | step (prior : Run name start before) (next : Step name before move after) (permitted : Permitted before move) :
      Run name start after

theorem failedWrites_append (first second : Trace) :
    failedWrites (first ++ second) = failedWrites first ++ failedWrites second := List.filterMap_append ..

theorem failedWrites_quiet (quiet : writesOf trace = []) : failedWrites trace = [] := by
  rw [failedWrites,List.filterMap_eq_nil_iff]
  intro event member
  have other := writesOf_nil.mp quiet event member
  obtain ⟨op,answer⟩ := event
  cases op <;> first | rfl | cases other

theorem failedWrites_written (value : String) (written : Written) :
    failedWrites (written.map (writeEvent value)) = failedReferences (written.map outcomeOf) := by
  induction written with
  | nil => rfl
  | cons entry written ih =>
    obtain ⟨target,answer⟩ := entry
    cases answer with
    | ok value => exact ih
    | error e => exact congrArg (target.reference :: ·) ih

-- A call that asks for a status update read a valid spec, tried to write every
-- target of it, and reports how that went.
theorem rotate_submission [UrlCrate] (path : RotateTrace allowed name req trace result)
    (asked : ⟨.updateStatus name mutate,answer⟩ ∈ trace) :
    ∃ key probe written now, validate key.spec allowed = [] ∧ written.map Prod.fst = key.spec.targets ∧
      mutate = mutationOf key req probe written now ∧ readTargets trace = key.spec.targets ∧
      failedWrites trace = failedReferences (written.map outcomeOf) := by
  obtain ⟨found,key,checks,probe,written,now,reply,noted,counted,passed,check,all,rfl,rest,rfl⟩ := path.submission asked
  obtain ⟨named,rfl,rfl,admitted⟩ := gate_ok.mp passed
  refine ⟨named.key,probe,written,now,admitted.valid,all,rfl,rfl,?_⟩
  have opening : failedWrites ((⟨.get name,some named⟩ :: checks : Trace)) = [] := by
    refine failedWrites_quiet (writesOf_nil.mpr fun event member => ?_)
    rcases List.mem_cons.mp member with rfl | checked
    · rfl
    · exact (CheckTrace.untouched check event checked).1
  have closing : failedWrites ((⟨.now,now⟩ ::
      ⟨.updateStatus name (mutationOf named.key req probe written now),reply⟩ :: noted : Trace)) = [] := by
    apply failedWrites_quiet
    rcases rest with rfl | ⟨about,event,rfl⟩
    · rfl
    · rfl
  have count : failedWrites ([⟨.countRotation counted,()⟩] : Trace) = [] := rfl
  rw [failedWrites_append,failedWrites_append,failedWrites_append,opening,closing,failedWrites_written,count,
    List.nil_append,List.append_nil,List.append_nil]

-- In a list that names each target once, as many targets have a failed
-- reference as writes failed.
theorem named_written {targets : List TargetSpec} {written : Written} (all : written.map Prod.fst = targets)
    (distinct : (targets.map TargetSpec.reference).Nodup) :
    named (failedReferences (written.map outcomeOf)) targets = (failedReferences (written.map outcomeOf)).length := by
  subst all
  have failures : (failedReferences (written.map outcomeOf)).length =
      (written.filter ((fun outcome => outcome.error.isSome) ∘ outcomeOf)).length := by
    rw [failedReferences,List.length_map,List.filter_map,List.length_map]
  rw [failures,named,List.countP_map,List.countP_eq_length_filter,failedReferences]
  congr 1
  apply List.filter_congr
  intro entry member
  rw [Function.comp_apply,Function.comp_apply,Bool.eq_iff_iff,decide_eq_true_iff,List.mem_map]
  constructor
  · rintro ⟨outcome,failed,same⟩
    obtain ⟨listed,isFailed⟩ := List.mem_filter.mp failed
    obtain ⟨other,present,rfl⟩ := List.mem_map.mp listed
    have one : other = entry := by
      rw [List.map_map] at distinct
      exact List.inj_on_of_nodup_map distinct present member same
    rwa [one] at isFailed
  · intro failed
    exact ⟨outcomeOf entry,List.mem_filter.mpr ⟨List.mem_map_of_mem member,failed⟩,rfl⟩

theorem named_perm {first second : List String} (same : first.Perm second) (targets : List TargetSpec) :
    named first targets = named second targets := by
  apply List.countP_congr
  intro target _
  simp only [decide_eq_true_eq]
  exact same.mem_iff

section Steps
variable [UrlCrate] [Format]

theorem step_once (once : Once (statusOf before).targets) (next : Step name before move after) :
    Once (statusOf after).targets := by
  cases next with
  | record run asked =>
    have kept : RecordRequests _ _ _ _ _ := record_asks.steps run _ asked
    cases kept
    exact once
  | rotate run asked =>
    obtain ⟨key,probe,written,now,valid,all,rfl,_,_⟩ := rotate_submission (rotate_returns.mp run) asked
    have references := (written_references written).trans (congrArg _ all)
    exact submitMutation_targets _ ▸ mergeTargets_once references (validate_distinct valid) once
  | reconcile found => exact once
  | edit metadata spec => exact once

-- One step keeps the views in agreement exactly when it is permitted.
theorem step_agree (once : Once (statusOf before).targets) (agree : Agree before) (next : Step name before move after) :
    Agree after ↔ Permitted before move := by
  have balanced := (agree_exact once).mp agree
  rw [agree_exact (step_once once next)]
  cases next with
  | record run asked =>
    have kept : RecordRequests _ _ _ _ _ := record_asks.steps run _ asked
    cases kept
    exact iff_of_true balanced trivial
  | @rotate _ req _ _ _ _ _ run asked =>
    obtain ⟨key,probe,written,now,valid,all,rfl,read,failed⟩ := rotate_submission (rotate_returns.mp run) asked
    have references := (written_references written).trans (congrArg _ all)
    have table : (failing (statusOf (before.updateStatus (mutationOf key req probe written now)))).Perm
        (failedReferences (written.map outcomeOf)) := failing_submit references (validate_distinct valid) once
    rw [Permitted,read,failed,named_written all (validate_distinct valid),named_perm table,table.length_eq]
    rfl
  | reconcile found => exact iff_of_true balanced trivial
  | edit metadata spec => exact (Eq.congr_right balanced.symm).trans Iff.rfl

theorem run_agree (empty : (statusOf start).targets = []) (path : Run name start key) :
    Once (statusOf key).targets ∧ Agree key := by
  induction path with
  | start =>
    have once : Once (statusOf start).targets := by
      rw [empty]
      exact List.nodup_nil
    refine ⟨once,(agree_exact once).mpr ?_⟩
    simp [failing,empty,named]
  | step prior next permitted ih => exact ⟨step_once ih.1 next,(step_agree ih.1 ih.2 next).mpr permitted⟩

theorem views_agree (key : ApiKey) (fresh : statusOf key = {}) (path : Run name key before) :
    Agree before ∧ ∀ move after, Step name before move after → (Agree after ↔ Permitted before move) := by
  have kept := run_agree (congrArg ApiKeyStatus.targets fresh) path
  exact ⟨kept.2,fun move after next => step_agree kept.1 kept.2 next⟩

end Steps

-- A rotation whose second write fails, after which the spec drops that target.
def partlyRotated : ApiKey :=
  pairKey.key.updateStatus (mutationOf pairKey.key pairRequest .notSupported pairWritten .epoch)
def shortened : ApiKeySpec := {targets := pairTargets.take 1}

theorem partly_rotated : ∃ trace, Permitted pairKey.key (.rotate trace) ∧
    @Step noUrls epochFormat "pair" pairKey.key (.rotate trace) partlyRotated := by
  let _ := noUrls
  let _ := epochFormat
  have path := @SubmitTrace.saved "pair" pairKey.key pairRequest .notSupported .epoch pairWritten pairKey rfl
  have run := rotate_returns.mpr (.submitted pairKey_passes (.generic rfl rfl) path)
  refine ⟨_,?_,.rotate run (.tail _ (.tail _ (.tail _ (.tail _ (.head _)))))⟩
  rfl

theorem partlyRotated_run : @Run noUrls epochFormat "pair" pairKey.key partlyRotated := by
  let _ := noUrls
  let _ := epochFormat
  obtain ⟨trace,permitted,next⟩ := partly_rotated
  exact .step .start next permitted

theorem partlyRotated_agrees : @Agree noUrls epochFormat partlyRotated := by
  let _ := noUrls
  let _ := epochFormat
  exact (views_agree pairKey.key rfl partlyRotated_run).1

theorem dropped_target_lingers : ∃ before after, @Run noUrls epochFormat "pair" pairKey.key before ∧
    @Step noUrls epochFormat "pair" before (.edit shortened) after ∧ ¬ @Agree noUrls epochFormat after := by
  let _ := noUrls
  let _ := epochFormat
  have once := (run_agree rfl partlyRotated_run).1
  have edit : Step "pair" partlyRotated (.edit shortened) ⟨partlyRotated.metadata,shortened,partlyRotated.status⟩ :=
    .edit _ _
  refine ⟨_,_,partlyRotated_run,edit,fun agree => ?_⟩
  exact absurd ((agree_exact (step_once once edit)).mp agree) (by decide)

end YouSpinMe.TargetViews
