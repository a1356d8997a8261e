import YouSpinMe.StoredStatus
import YouSpinMe.Admission

namespace YouSpinMe.MergePatch
open RequestProgram SharedRun FieldCodec ResourceJson StoredStatus Effects Validation Rotation RotationTraces RequestGuards RouterWalk
  Identity Http Auth Web Jiff Crd Kube

def setField (name : String) (value : Json) : List (String × Json) → List (String × Json)
  | [] => [(name,value)]
  | field :: rest => if field.1 = name then (name,value) :: rest else field :: setField name value rest

def removeField (name : String) (fields : List (String × Json)) : List (String × Json) :=
  fields.filter fun field => decide (field.1 ≠ name)

-- A JSON merge patch: null removes, an object is merged, anything else replaces.
mutual
def mergePatch : Json → Json → Json
  | .object patches,target => .object (mergeFields patches ((fieldsOf target).getD []))
  | patch,_ => patch
def mergeFields : List (String × Json) → List (String × Json) → List (String × Json)
  | [],fields => fields
  | (name,patch) :: rest,fields => mergeFields rest
      (if isNull patch then removeField name fields
        else setField name (mergePatch patch ((fields.lookup name).getD .null)) fields)
end

theorem lookup_setField (name : String) (value : Json) (fields : List (String × Json)) (other : String) :
    (setField name value fields).lookup other = if other = name then some value else fields.lookup other := by
  induction fields with
  | nil =>
    by_cases asked : other = name
    · simp [setField,asked]
    · rw [setField,lookup_other asked,if_neg asked]
  | cons field rest ih =>
    obtain ⟨held,old⟩ := field
    by_cases same : held = name
    · subst same
      by_cases asked : other = held
      · simp [setField,asked]
      · rw [setField,if_pos rfl,lookup_other asked,lookup_other asked,if_neg asked]
    · rw [setField,if_neg same]
      by_cases asked : other = held
      · subst asked
        rw [List.lookup_cons_self,List.lookup_cons_self,if_neg same]
      · rw [lookup_other asked,lookup_other asked,ih]

theorem lookup_removeField (name : String) (fields : List (String × Json)) (other : String) :
    (removeField name fields).lookup other = if other = name then none else fields.lookup other := by
  induction fields with
  | nil => simp [removeField]
  | cons field rest ih =>
    obtain ⟨held,old⟩ := field
    unfold removeField at ih ⊢
    by_cases same : held = name
    · rw [List.filter_cons_of_neg (by simpa using same),ih]
      by_cases asked : other = name
      · rw [if_pos asked,if_pos asked]
      · rw [if_neg asked,if_neg asked,lookup_other (same ▸ asked)]
    · rw [List.filter_cons_of_pos (by simpa using same)]
      by_cases asked : other = held
      · subst asked
        rw [List.lookup_cons_self,List.lookup_cons_self,if_neg same]
      · rw [lookup_other asked,lookup_other asked,ih]

-- What a patch makes of one field.
def patched (patch : Option Json) (old : Option Json) : Option Json :=
  match patch with
  | none => old
  | some patch => if isNull patch then none else some (mergePatch patch (old.getD .null))

theorem lookup_mergeFields {patches : List (String × Json)} (distinct : (patches.map Prod.fst).Nodup)
    (fields : List (String × Json)) (name : String) :
    (mergeFields patches fields).lookup name = patched (patches.lookup name) (fields.lookup name) := by
  induction patches generalizing fields with
  | nil => rfl
  | cons head rest ih =>
    obtain ⟨held,patch⟩ := head
    obtain ⟨fresh,others⟩ := List.nodup_cons.mp distinct
    rw [mergeFields,ih others]
    by_cases asked : name = held
    · subst asked
      rw [lookup_outside fresh,List.lookup_cons_self]
      unfold patched
      simp only
      split
      · simp [lookup_removeField]
      · simp [lookup_setField]
    · rw [lookup_other asked]
      congr 1
      split
      · simp [lookup_removeField,asked]
      · simp [lookup_setField,asked]

section Objects
variable [KubeTypes]

def statusOf (entries : List (String × Json)) : Option (Option ApiKeyStatus) := (Fields.optional "status" status).read entries

-- The `json!` of a reconciliation.
def statusPatch (patch : StatusPatch) : List (String × Json) :=
  [("conditions",KubeTypes.condition.list.write patch.conditions),
    ("observedGeneration",(patch.observedGeneration.map int64.write).getD .null)]

def patchJson (patch : StatusPatch) : Json := .object [("status",.object (statusPatch patch))]

theorem statusFields_read {entries : List (String × Json)} {s : ApiKeyStatus} :
    statusFields.read entries = some s ↔
      (Fields.optional "lastRotated" KubeTypes.time).read entries = some s.lastRotated ∧
      (Fields.optional "rotatedBy" actor).read entries = some s.rotatedBy ∧
      (Fields.optional "expiresAt" KubeTypes.time).read entries = some s.expiresAt ∧
      (Fields.optional "expiresAtSource" expirySource).read entries = some s.expiresAtSource ∧
      (Fields.optional "manualExpiresAt" KubeTypes.time).read entries = some s.manualExpiresAt ∧
      (Fields.optional "probe" probeStatus).read entries = some s.probe ∧
      (vec "targets" targetStatus).read entries = some s.targets ∧ (vec "history" historyEntry).read entries = some s.history ∧
      (vec "conditions" KubeTypes.condition).read entries = some s.conditions ∧
      (Fields.optional "observedGeneration" int64).read entries = some s.observedGeneration := by
  simp only [statusFields,Fields.as_read,Fields.and_read,statusParts,Equiv.coe_fn_mk]

-- The fields under `status`, none where there is no status yet.
def statusEntries (entries : List (String × Json)) : List (String × Json) :=
  (fieldsOf ((entries.lookup "status").getD .null)).getD []

theorem statusEntries_read (held : statusOf entries = some found) : statusFields.read (statusEntries entries) = some (found.getD {}) := by
  change getOption status (entries.lookup "status") = some found at held
  unfold statusEntries
  cases there : entries.lookup "status" with
  | none =>
    rw [there] at held
    cases Option.some.inj held
    rfl
  | some j =>
    rw [there] at held
    simp only [getOption] at held
    split at held
    · rename_i null
      cases Option.some.inj held
      cases j with
      | null => rfl
      | bool | number | string | array | object => cases null
    · obtain ⟨s,read,rfl⟩ := Option.map_eq_some_iff.mp held
      obtain ⟨fields,known,read⟩ := Option.bind_eq_some_iff.mp read
      rw [Option.getD_some,show fieldsOf j = some fields from known]
      exact read

theorem lookup_statusPatch (patch : StatusPatch) (fields : List (String × Json)) (name : String) :
    (mergeFields (statusPatch patch) fields).lookup name = patched ((statusPatch patch).lookup name) (fields.lookup name) :=
  lookup_mergeFields (by simp [statusPatch]) fields name

theorem patched_other {patch : StatusPatch} {fields : List (String × Json)} (conditions : name ≠ "conditions")
    (generation : name ≠ "observedGeneration") : (mergeFields (statusPatch patch) fields).lookup name = fields.lookup name := by
  rw [lookup_statusPatch,statusPatch,lookup_other conditions,lookup_other generation]
  rfl

theorem patched_conditions {patch : StatusPatch} (fields : List (String × Json))
    (conditions : ∀ c ∈ patch.conditions, KubeTypes.condition.fits c) :
    (vec "conditions" KubeTypes.condition).read (mergeFields (statusPatch patch) fields) =
      some (patch.conditions.map KubeTypes.condition.kept) := by
  have there : (mergeFields (statusPatch patch) fields).lookup "conditions" =
      some (KubeTypes.condition.list.write patch.conditions) := by
    rw [lookup_statusPatch,statusPatch,List.lookup_cons_self]
    rfl
  change getDefault KubeTypes.condition.list [] ((mergeFields (statusPatch patch) fields).lookup "conditions") = _
  rw [there]
  exact KubeTypes.condition.list.reads conditions

theorem patched_generation {patch : StatusPatch} (fields : List (String × Json))
    (generation : ∀ n ∈ patch.observedGeneration, i64Min ≤ n ∧ n ≤ i64Max) :
    (Fields.optional "observedGeneration" int64).read (mergeFields (statusPatch patch) fields) = some patch.observedGeneration := by
  have there : (mergeFields (statusPatch patch) fields).lookup "observedGeneration" = patch.observedGeneration.map int64.write := by
    rw [lookup_statusPatch,statusPatch,lookup_other (by decide),List.lookup_cons_self]
    cases patch.observedGeneration with
    | none => rfl
    | some n => rfl
  change getOption int64 ((mergeFields (statusPatch patch) fields).lookup "observedGeneration") = _
  rw [there,getOption_write generation]
  exact congrArg some Option.map_id'

theorem patched_fields {patch : StatusPatch} {fields : List (String × Json)}
    (conditions : ∀ c ∈ patch.conditions, KubeTypes.condition.fits c)
    (generation : ∀ n ∈ patch.observedGeneration, i64Min ≤ n ∧ n ≤ i64Max) (read : statusFields.read fields = some s) :
    statusFields.read (mergeFields (statusPatch patch) fields) =
      some (({patch with conditions := patch.conditions.map KubeTypes.condition.kept} : StatusPatch).merge s) := by
  have same : ∀ {name : String} {α : Type} (f : Fields Json [name] α) (_ : name ≠ "conditions") (_ : name ≠ "observedGeneration"),
      f.read (mergeFields (statusPatch patch) fields) = f.read fields := by
    intro name α f first second
    exact f.looks_single (patched_other first second)
  rw [statusFields_read] at read ⊢
  obtain ⟨rotated,by_,expires,source,manual,probe,targets,history,_,_⟩ := read
  refine ⟨?_,?_,?_,?_,?_,?_,?_,?_,patched_conditions fields conditions,patched_generation fields generation⟩
  all_goals rwa [same _ (by decide) (by decide)]

-- A reconciliation's patch is the merge of the model: of the object it changes these two
-- fields of its status and nothing else, whatever else is stored there.
theorem patch_merges {patch : StatusPatch} {entries : List (String × Json)}
    (conditions : ∀ c ∈ patch.conditions, KubeTypes.condition.fits c)
    (generation : ∀ n ∈ patch.observedGeneration, i64Min ≤ n ∧ n ≤ i64Max) (held : statusOf entries = some found) :
    ∃ after, mergePatch (patchJson patch) (.object entries) = .object after ∧
      statusOf after = some (some (({patch with conditions := patch.conditions.map KubeTypes.condition.kept} : StatusPatch).merge (found.getD {}))) ∧
      (∀ name, name ≠ "status" → after.lookup name = entries.lookup name) ∧
      ∀ name, name ≠ "conditions" → name ≠ "observedGeneration" →
        (statusEntries after).lookup name = (statusEntries entries).lookup name := by
  have merged : ∀ name, (mergeFields [("status",.object (statusPatch patch))] entries).lookup name =
      patched ([("status",.object (statusPatch patch))].lookup name) (entries.lookup name) :=
    lookup_mergeFields (by simp) entries
  have there : (mergeFields [("status",.object (statusPatch patch))] entries).lookup "status" =
      some (.object (mergeFields (statusPatch patch) (statusEntries entries))) := by
    rw [merged,List.lookup_cons_self]
    simp only [patched,isNull,mergePatch]
    rfl
  refine ⟨mergeFields [("status",.object (statusPatch patch))] entries,?_,?_,?_,?_⟩
  · rw [patchJson,mergePatch]
    rfl
  · change getOption status _ = _
    rw [there]
    change ((statusFields.read (mergeFields (statusPatch patch) (statusEntries entries))).map some) = _
    rw [patched_fields conditions generation (statusEntries_read held)]
    rfl
  · intro name other
    rw [merged,lookup_other other]
    rfl
  · intro name first second
    have inside : statusEntries (mergeFields [("status",.object (statusPatch patch))] entries) =
        mergeFields (statusPatch patch) (statusEntries entries) := by
      rw [statusEntries,there]
      rfl
    rw [inside,patched_other first second]

-- What the API server does to an object it keeps as JSON.
inductive Change where
  | replace (mutate : ApiKeyStatus → ApiKeyStatus)
  | merge (patch : StatusPatch)

def Change.mutate : Change → ApiKeyStatus → ApiKeyStatus
  | .replace mutate => mutate
  | .merge patch => patch.merge

-- A replacement sends back the status that was read, mutated; `None` counts as the default.
def Change.apply (entries : List (String × Json)) : Change → Option (List (String × Json))
  | .replace mutate => (statusOf entries).map fun found => setField "status" (status.write (mutate (found.getD {}))) entries
  | .merge patch => fieldsOf (mergePatch (patchJson patch) (.object entries))

-- The stored object is the JSON of this status, up to what a text keeps of it.
structure Holds (entries : List (String × Json)) (s : ApiKeyStatus) : Prop where
  read : ∃ found, statusOf entries = some found ∧ found.getD {} = keptStatus s
  fits : status.fits s

theorem Holds.replace {mutate : ApiKeyStatus → ApiKeyStatus} (holds : Holds entries s) (robust : Robust mutate) :
    ∃ after, (Change.replace mutate).apply entries = some after ∧ Holds after (mutate s) ∧
      ∀ other, other ≠ "status" → after.lookup other = entries.lookup other := by
  obtain ⟨found,read,kept⟩ := holds.read
  have same : status.write (mutate (keptStatus s)) = status.write (mutate s) := by
    have equal : status.kept (mutate (keptStatus s)) = status.kept (mutate s) := by
      rw [status_kept,status_kept,robust.kept holds.fits]
    rw [← status.rewrites,equal,status.rewrites]
  refine ⟨setField "status" (status.write (mutate s)) entries,?_,⟨⟨some (keptStatus (mutate s)),?_,rfl⟩,robust.fits holds.fits⟩,?_⟩
  · rw [Change.apply,read,Option.map_some,kept,same]
  · change getOption status ((setField "status" (status.write (mutate s)) entries).lookup "status") = _
    rw [lookup_setField,if_pos rfl,← status_kept]
    have written : ∀ y ∈ some (mutate s), status.fits y := fun _ member => Option.mem_some.mp member ▸ robust.fits holds.fits
    exact getOption_write written
  · intro other different
    rw [lookup_setField,if_neg different]

theorem Holds.merge {patch : StatusPatch} (holds : Holds entries s) (conditions : ∀ c ∈ patch.conditions, KubeTypes.condition.fits c)
    (generation : ∀ n ∈ patch.observedGeneration, i64Min ≤ n ∧ n ≤ i64Max) :
    ∃ after, (Change.merge patch).apply entries = some after ∧ Holds after (patch.merge s) ∧
      ∀ other, other ≠ "status" → after.lookup other = entries.lookup other := by
  obtain ⟨found,read,kept⟩ := holds.read
  obtain ⟨after,merged,stored,others,_⟩ := patch_merges conditions generation read
  refine ⟨after,?_,⟨⟨_,stored,?_⟩,status_fits.mpr ⟨conditions,generation⟩⟩,others⟩
  · rw [Change.apply,merged]
    rfl
  · rw [merge_kept,← kept]
    rfl

section Runs
variable [UrlCrate] [Format] [Crates] {σ ι : Type} [DecidableEq ι] {state : AppState} {requests : ι → Request} {rest : Server σ Answer}

-- The changes this program makes to the object of a name: the updates that the requests
-- ask for, and the controller's patches, made from an object that was read here.
inductive Asked (log : List (ι × Event Answer)) (name : String) : Change → Prop where
  | updated (member : (i,⟨.updateStatus name mutate,answer⟩) ∈ log) : Asked log name (.replace mutate)
  | reconciled (patched : reconcilePatch key allowed now = some patch) (held : status.fits (key.status.getD {}))
      (generation : ∀ n ∈ key.metadata.generation, i64Min ≤ n ∧ n ≤ i64Max) : Asked log name (.merge patch)

-- No update depends on what a stored time loses: an object that is kept as JSON, and read
-- and written for every change, is the JSON of the status that was never written down.
theorem stored_objects {changes : List Change} (path : Runs rest (fun i => router state (requests i)) x log remainder y)
    (asked : ∀ change ∈ changes, Asked log name change) (start : Holds entries s) :
    ∃ after, changes.foldlM Change.apply entries = some after ∧
      Holds after (changes.foldl (fun s change => change.mutate s) s) ∧
      ∀ other, other ≠ "status" → after.lookup other = entries.lookup other := by
  induction changes generalizing entries s with
  | nil => exact ⟨entries,rfl,start,fun _ _ => rfl⟩
  | cons change changes ih =>
    obtain ⟨first,others⟩ := List.forall_mem_cons.mp asked
    have step : ∃ after, change.apply entries = some after ∧ Holds after (change.mutate s) ∧
        ∀ other, other ≠ "status" → after.lookup other = entries.lookup other := by
      cases first with
      | updated member =>
        obtain ⟨before,later,rfl⟩ := List.append_of_mem member
        exact start.replace (path.follows (router_walk stores_walk))
      | reconciled patched held generation =>
        obtain ⟨conditions,observed⟩ := reconcilePatch_fits patched held generation
        exact start.merge conditions observed
    obtain ⟨middle,applied,holds,same⟩ := step
    obtain ⟨after,run,final,kept⟩ := ih others holds
    refine ⟨after,?_,final,fun other different => (kept other different).trans (same other different)⟩
    rw [List.foldlM_cons,applied]
    exact run

end Runs

end Objects

-- A submission over an object with no status yet, and then a reconciliation of it.
def bareEntries : List (String × Json) := [("spec",spec.write RotationOutcome.pairKey.key.spec),("kept",.bool true)]

theorem bare_holds [KubeTypes] : Holds bareEntries {} := by
  refine ⟨⟨none,rfl,rfl⟩,status_fits.mpr ⟨List.forall_mem_nil _,?_⟩⟩
  intro n none
  cases none

def pairPatch : StatusPatch := ⟨[⟨VALID_CONDITION,"True","Valid","Spec is valid",none,.epoch⟩],none⟩

theorem submitted_object : let _ := secondTypes
    ∃ mutate after, [Change.replace mutate,.merge pairPatch].foldlM Change.apply bareEntries = some after ∧
      Holds after (pairPatch.merge (mutate {})) ∧ (mutate {}).history.length = 1 ∧
      after.lookup "spec" = some (spec.write RotationOutcome.pairKey.key.spec) := by
  let _ := secondTypes
  let _ := Admission.visitCrates
  let _ := noUrls
  let _ := epochFormat
  have asked : ((Admission.visitLog none)[18]?).bind (fun entry => (Repository.mutationOf "pair" entry.2).map fun mutate =>
      (mutate {}).history.length) = some 1 := by decide +kernel
  have path := schedule_runs (Admission.reply_serves none) Admission.visitTurns
    (fun i => router Admission.visitState (Admission.visits i)) []
  rw [show (schedule (Admission.reply none) Admission.visitTurns (fun i => router Admission.visitState (Admission.visits i)) []).1 =
    Admission.visitLog none from rfl] at path
  obtain ⟨⟨i,op,answer⟩,found,shape⟩ := Option.bind_eq_some_iff.mp asked
  obtain ⟨mutate,updates,entries⟩ := Option.map_eq_some_iff.mp shape
  have member := List.mem_of_getElem? found
  cases op with
  | updateStatus name other =>
    obtain ⟨rfl,rfl⟩ : name = "pair" ∧ other = mutate := by simpa [Repository.mutationOf] using updates
    have reconciled : reconcilePatch RotationOutcome.pairKey.key .allowAll .epoch = some pairPatch := by decide +kernel
    have changes : ∀ change ∈ [Change.replace other,.merge pairPatch], Asked (Admission.visitLog none) "pair" change := by
      intro change listed
      rcases List.mem_pair.mp listed with rfl | rfl
      · exact .updated member
      · refine .reconciled reconciled bare_holds.fits ?_
        intro n none
        cases none
    obtain ⟨after,run,holds,others⟩ := stored_objects path changes bare_holds
    exact ⟨other,after,run,holds,entries,others "spec" (by decide)⟩
  | _ => cases updates

end YouSpinMe.MergePatch
