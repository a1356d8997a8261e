import YouSpinMe.Bookkeeping

namespace YouSpinMe.Stores
open RequestProgram SharedRun Effects Validation Rotation RotationTraces RotationOutcome RequestGuards RouterWalk Repository KubeRepository
  Attribution Admission Identity Http Auth Web Text Jiff Crd

-- Records writes in memory. Of a value it stores only the length.
structure MemoryWriter where
  writes : List (String × Nat)
  failing : List (String × String)
  deriving DecidableEq

namespace MemoryWriter

def default : MemoryWriter := ⟨[],[]⟩

def fail (writer : MemoryWriter) (reference message : String) : MemoryWriter :=
  {writer with failing := writer.failing ++ [(reference,message)]}

def write (writer : MemoryWriter) (target : TargetSpec) (value : String) : Except TargetError Unit × MemoryWriter :=
  match writer.failing.lookup target.reference with
  | some message => (.error (.store message),writer)
  | none => (.ok (),{writer with writes := writer.writes ++ [(target.reference,(asBytes value).length)]})

end MemoryWriter

def noStoreText : String := "no OpenBao address configured (--openbao-addr)"

-- The writer without an address, the prober of every deployment and the one of the demo.
def NoStore.write (_ : TargetSpec) (_ : String) : Except TargetError Unit := .error (.store noStoreText)
def NoProbe.probe (_ : Provider) (_ : String) : Except ProbeError (Option ProbeResult) := .ok none
def StaticProber.probe (answer : Except ProbeError (Option ProbeResult)) (_ : Provider) (_ : String) :
    Except ProbeError (Option ProbeResult) := answer

-- How the answers look that come from a prober, or from a writer that keeps nothing.
def ByProber (probe : Provider → String → Except ProbeError (Option ProbeResult)) : Event Answer → Prop
  | ⟨.probe provider value,answer⟩ => answer = probe provider value
  | _ => True

def ByWriter (write : TargetSpec → String → Except TargetError Unit) : Event Answer → Prop
  | ⟨.write target value,answer⟩ => answer = write target value
  | _ => True

-- A server whose answers are of a kind, as far as they are not the repository's.
abbrev Telling (told : Event Answer → Prop) (rest : Server ρ Answer) : Server ρ Answer :=
  rest.restrict fun _ op answer => told ⟨op,answer⟩

def Unasked (told : Event Answer → Prop) : Prop := ∀ op (answer : Answer op), isRepository op = true → told ⟨op,answer⟩

theorem byProber_unasked (probe : Provider → String → Except ProbeError (Option ProbeResult)) : Unasked (ByProber probe) := by
  intro op answer repository
  cases op with
  | probe => cases repository
  | _ => trivial

theorem byWriter_unasked (write : TargetSpec → String → Except TargetError Unit) : Unasked (ByWriter write) := by
  intro op answer repository
  cases op with
  | write => cases repository
  | _ => trivial

def updates : Effect → Bool
  | .updateStatus _ _ => true
  | _ => false

-- What is allowed once every answer was of a kind.
def Held (told : Event Answer → Prop) (allowed : Effect → Prop) (past : Trace) (op : Effect) : Prop :=
  (∀ event ∈ past, told event) → allowed op

section Told
variable {ρ : Type} {told : Event Answer → Prop} {rest : Server ρ Answer} {inv : ApiKeyStatus → Prop}

theorem spec_told (unasked : Unasked told) (served : Spec (Telling told rest) s op answer after) : told ⟨op,answer⟩ := by
  obtain ⟨middle,_,does⟩ := served
  cases does with
  | other elsewhere served => exact served.2
  | _ => exact unasked _ _ rfl

theorem serves_told (unasked : Unasked told) (path : Serves (Spec (Telling told rest)) s trace after) : ∀ event ∈ trace, told event := by
  intro event member
  obtain ⟨earlier,later,before,next,_,_,served,_⟩ := path.at member
  exact spec_told unasked served

-- An invariant of statuses that no request breaks after answers of that kind.
theorem cluster_told {ι : Type} [DecidableEq ι] {α : ι → Type} {clients : (i : ι) → App (α i)}
    {log : List (ι × Event ClusterAnswer)} {below : (i : ι) → OnCluster (α i)} {w after : World} {x y : ρ}
    (unasked : Unasked told) (lasting : Lasting inv) (numbered : Numbered w)
    (path : Runs (Cluster (Telling told rest)) (fun i => onCluster (clients i)) (w,x) log below (after,y))
    (keeps : ∀ i, RequestProgram.Follows (Held told (Keeps inv)) [] (clients i))
    (start : (registryOf w).All inv) : (registryOf after).All inv := by
  obtain ⟨history,above,reg,runs,behind,_,_⟩ := cluster_runs numbered path
  apply outsides_all lasting behind
  apply serves_all lasting runs.serves _ start
  intro event member
  obtain ⟨⟨i,_⟩,within,rfl⟩ := List.mem_map.mp member
  obtain ⟨before,later,rfl⟩ := List.append_of_mem within
  apply runs.follows (keeps i)
  intro earlier seen
  have there : (i,earlier) ∈ before := mem_own.mp seen
  exact serves_told unasked runs.serves earlier (List.mem_map_of_mem (f := Prod.snd) (List.mem_append_left _ there))

variable {allowed : Effect → Prop} (quiet : ∀ op, updates op = false → allowed op)

-- The status updates of a rotation that came after answers of that kind.
def Updating (told : Event Answer → Prop) (allowed : Effect → Prop) : Prop :=
  ∀ {name req checks probe written now} {named : Named name}, told ⟨.get name,some named⟩ →
    CheckTrace named.key req checks (.ok probe) → (∀ event ∈ checks, told event) →
    (∀ entry ∈ written, told (writeEvent req.value entry)) → written.map Prod.fst = named.key.spec.targets →
    named.key.spec.targets ≠ [] → allowed (.updateStatus name (RotationTraces.mutationOf named.key req probe written now))

include quiet

-- What a rotation may ask for after answers of that kind comes down to its one update.
theorem rotate_held [UrlCrate] {paths : PathAllowList} {req : RotateRequest} {past : Trace} (updating : Updating told allowed) :
    Follows (Held told allowed) past (rotate paths name req) := by
  apply rotate_submits.mono
  intro past op submits seen
  cases op with
  | updateStatus other mutate =>
    obtain ⟨rfl,found,checks,probe,written,now,asked,admitted,check,checked,all,tried,_,rfl⟩ := submits
    apply updating (seen _ asked) check _ _ all admitted.listed
    · exact fun event member => seen event (checked member)
    · exact fun entry member => seen _ (tried entry member)
  | _ => exact quiet _ rfl

theorem record_held [CharTables] [Format] {past : Trace} (update : allowed (.updateStatus name (recordMutation session.actor rotatedAt expiresAt))) :
    Follows (Held told allowed) past (Pages.saveRecord session name rotatedAt expiresAt now) := by
  apply saveRecord_follows
  · intro later op asked _
    cases asked with
    | updateStatus => exact update
    | recordEvent => exact quiet _ rfl
  · intro _ _ _
    exact quiet _ rfl

-- Where the updates of a form that is saved and of a rotation are allowed, a request asks
-- for nothing else.
theorem router_held [Crates] [UrlCrate] [Format] {state : AppState} {request : Request}
    (record : ∀ name actor rotatedAt expiresAt, allowed (.updateStatus name (recordMutation actor rotatedAt expiresAt)))
    (updating : Updating told allowed) : Follows (Held told allowed) [] (router state request) := by
  apply router_walk
  apply Walk.acting
  · intro _ op silent _
    apply quiet
    cases op with
    | updateStatus => cases silent
    | _ => rfl
  · intro _ session past name dates handled _
    exact record_held quiet (record _ _ _ _)
  · intro _ session past name form manual found _
    exact rotate_held quiet updating

end Told

theorem keeps_quiet (inv : ApiKeyStatus → Prop) (op : Effect) (quiet : updates op = false) : Keeps inv op := by
  cases op with
  | updateStatus => cases quiet
  | _ => trivial

-- Statuses in which nothing was ever learned from a provider: the expiry is the one that
-- was typed in.
structure Unprobed (status : ApiKeyStatus) : Prop where
  probe : status.probe = none
  source : status.expiresAtSource ≠ some .probe
  expiry : status.expiresAt = status.manualExpiresAt

theorem unprobed_lasting : Lasting Unprobed := by
  refine ⟨⟨rfl,?_,rfl⟩,fun status patch kept => ⟨kept.probe,kept.source,kept.expiry⟩⟩
  intro same
  cases same

theorem applyRotation_unprobed (status : ApiKeyStatus) (atTime : Timestamp) (actor : Actor) (kind : HistoryKind)
    (manual : Option Timestamp) : Unprobed (applyRotation status atTime actor kind manual none) := by
  cases manual with
  | none => exact ⟨rfl,(by intro same; cases same),rfl⟩
  | some m => exact ⟨rfl,(by intro same; cases same),rfl⟩

theorem submitMutation_unprobed {references : List String} {outcomes : List TargetOutcome} {now : Timestamp} {req : RotateRequest}
    (kept : Unprobed status) : Unprobed (submitMutation references outcomes now req none status) := by
  unfold submitMutation
  simp only
  split
  · exact applyRotation_unprobed ..
  · exact ⟨kept.probe,kept.source,kept.expiry⟩

-- A check that passes without a provider leaves nothing to keep.
theorem unprobed_status (check : CheckTrace key req checks (.ok probe)) (told : ∀ event ∈ checks, ByProber NoProbe.probe event) :
    probeStatus now probe = none := by
  cases check with
  | skipped | generic | unsupported => rfl
  | @checked result consults =>
    have answered := told _ List.mem_cons_self
    cases answered

-- Statuses in which no rotation was ever completed but the known ones, and no target
-- written.
structure Unstored (known : HistoryEntry → Prop) (row : TargetStatus → Prop) (status : ApiKeyStatus) : Prop where
  history : ∀ entry ∈ status.history, entry.kind = .rotated → known entry
  targets : ∀ t ∈ status.targets, row t ∨ t.result = .failed ∧ t.message = some noStoreText

theorem unstored_lasting (known : HistoryEntry → Prop) (row : TargetStatus → Prop) : Lasting (Unstored known row) := by
  refine ⟨⟨?_,?_⟩,fun status patch kept => ⟨kept.history,kept.targets⟩⟩
  · intro entry member
    cases member
  · intro t member
    cases member

theorem record_unstored (kept : Unstored known row status) (actor : Actor) (rotatedAt : Timestamp) (expiresAt : Option Timestamp) :
    Unstored known row (recordMutation actor rotatedAt expiresAt status) := by
  refine ⟨?_,kept.targets⟩
  intro entry member rotated
  rcases List.mem_cons.mp (List.mem_of_mem_take member) with rfl | earlier
  · cases rotated
  · exact kept.history entry earlier rotated

theorem merged_unstored {outcomes : List TargetOutcome} {targets : List TargetStatus} {row : TargetStatus → Prop}
    (failed : ∀ outcome ∈ outcomes, outcome.error = some noStoreText)
    (rows : ∀ t ∈ targets, row t ∨ t.result = .failed ∧ t.message = some noStoreText) :
    ∀ t ∈ outcomes.foldl (fun merged outcome => upsert (targetEntry now outcome) merged) targets,
      row t ∨ t.result = .failed ∧ t.message = some noStoreText := by
  induction outcomes generalizing targets with
  | nil => exact rows
  | cons outcome outcomes ih =>
    obtain ⟨first,others⟩ := List.forall_mem_cons.mp failed
    apply ih others
    intro t member
    rcases Bookkeeping.mem_upsert member with rfl | earlier
    · exact .inr ⟨by rw [targetEntry,first]; rfl,first⟩
    · exact rows t earlier

-- Every write failed, and there was one.
theorem submit_unstored {written : Written} (kept : Unstored known row status)
    (told : ∀ entry ∈ written, ByWriter NoStore.write (writeEvent req.value entry)) (tried : written ≠ []) :
    Unstored known row (submitMutation references (written.map outcomeOf) now req probe status) := by
  have failed : ∀ outcome ∈ written.map outcomeOf, outcome.error = some noStoreText := by
    intro outcome member
    obtain ⟨entry,listed,rfl⟩ := List.mem_map.mp member
    have answered : entry.2 = NoStore.write entry.1 req.value := told entry listed
    rw [outcomeOf,answered]
    rfl
  have incomplete : allWritten (written.map outcomeOf) = false := by
    cases written with
    | nil => exact absurd rfl tried
    | cons entry rest =>
      have first := failed (outcomeOf entry) List.mem_cons_self
      simp [allWritten,first]
  rw [submitMutation,incomplete]
  refine ⟨kept.history,?_⟩
  apply merged_unstored failed
  intro t member
  exact kept.targets t (List.mem_of_mem_filter member)

section Run
variable [UrlCrate] [Format] [Crates] {ι ρ : Type} [DecidableEq ι] {state : AppState} {requests : ι → Request} {rest : Server ρ Answer}
  {x y : ρ}

-- Outside the demo no provider is ever asked: whatever requests come, in whatever order,
-- no status learns an expiry from one, and the expiry it shows is the one typed in.
theorem expiries_typed_in {w after : World} (numbered : Numbered w)
    (path : Runs (Cluster (Telling (ByProber NoProbe.probe) rest)) (fun i => onCluster (router state (requests i))) (w,x) log below (after,y))
    (start : (registryOf w).All Unprobed) : (registryOf after).All Unprobed := by
  apply cluster_told (byProber_unasked _) unprobed_lasting numbered path _ start
  intro i
  apply router_held (keeps_quiet _)
  · intro name actor rotatedAt expiresAt status _
    exact applyRotation_unprobed ..
  · intro name req checks probe written now named _ check told _ _ _ status kept
    rw [RotationTraces.mutationOf,unprobed_status check told]
    exact submitMutation_unprobed kept

-- Without an address of a store no rotation is ever completed, and every target that is
-- tried says why.
theorem never_rotated {w after : World} {known : HistoryEntry → Prop} {row : TargetStatus → Prop} (numbered : Numbered w)
    (path : Runs (Cluster (Telling (ByWriter NoStore.write) rest)) (fun i => onCluster (router state (requests i))) (w,x) log below (after,y))
    (start : (registryOf w).All (Unstored known row)) : (registryOf after).All (Unstored known row) := by
  apply cluster_told (byWriter_unasked _) (unstored_lasting known row) numbered path _ start
  intro i
  apply router_held (keeps_quiet _)
  · intro name actor rotatedAt expiresAt status kept
    exact record_unstored kept ..
  · intro name req checks probe written now named _ _ _ told all listed status kept
    apply submit_unstored kept told
    intro none
    exact listed (by rw [← all,none]; rfl)

end Run

-- The visit of an admin again, and then without a store.
def storeless (jar : Jar) : (op : Effect) → Option (Answer op × Jar)
  | .write target value => some (NoStore.write target value,jar)
  | op => reply none jar op

theorem reply_unprobed (jar : Jar) (op : Effect) (answer : Answer op) (after : Jar)
    (found : reply none jar op = some (answer,after)) : Telling (ByProber NoProbe.probe) (Serve visitSigns) jar op answer after := by
  refine ⟨reply_serves _ _ _ _ _ found,?_⟩
  cases op with
  | probe =>
    cases found
    rfl
  | _ => trivial

theorem storeless_serves (jar : Jar) (op : Effect) (answer : Answer op) (after : Jar)
    (found : storeless jar op = some (answer,after)) : Telling (ByWriter NoStore.write) (Serve visitSigns) jar op answer after := by
  cases op with
  | write =>
    cases found
    exact ⟨.aside trivial,rfl⟩
  | _ => exact ⟨reply_serves none _ _ _ _ found,trivial⟩

def storelessRun :=
  let _ := visitCrates
  let _ := noUrls
  let _ := epochFormat
  schedule (KubeRepository.respond storeless) visitedTurns (fun i => onCluster (router visitState (visits i)))
    (World.single RotationOutcome.pairKey,[])

theorem visited_typed_in : ∃ r, visited.2.2.1.objects "pair" = some r ∧ r.object.status.history.length = 1 ∧
    Unprobed r.object.status := by
  let _ := visitCrates
  let _ := noUrls
  let _ := epochFormat
  have answers : ∀ s op answer after, KubeRepository.respond (reply none) s op = some (answer,after) →
      Cluster (Telling (ByProber NoProbe.probe) (Serve visitSigns)) s op answer after := respond_answers reply_unprobed
  have path := schedule_runs answers visitedTurns (fun i => onCluster (router visitState (visits i)))
    (World.single RotationOutcome.pairKey,[])
  have same : schedule (KubeRepository.respond (reply none)) visitedTurns
    (fun i => onCluster (router visitState (visits i))) (World.single RotationOutcome.pairKey,[]) = visited := rfl
  rw [same] at path
  clear same
  have once : (visited.2.2.1.objects "pair").map (fun r => r.object.status.history.length) = some 1 := by decide +kernel
  obtain ⟨r,there,one⟩ := Option.map_eq_some_iff.mp once
  refine ⟨r,there,one,?_⟩
  generalize visited = final at path there
  obtain ⟨log,below,after,jar⟩ := final
  exact (expiries_typed_in (single_numbered _) path (single_all unprobed_lasting.unwritten)).1 "pair" r.object (update_registry there)

theorem storeless_failed : ∃ r, storelessRun.2.2.1.objects "pair" = some r ∧
    r.object.status.targets.map TargetStatus.message = [some noStoreText,some noStoreText] ∧
    Unstored (fun _ => False) (fun _ => False) r.object.status := by
  let _ := visitCrates
  let _ := noUrls
  let _ := epochFormat
  have answers : ∀ s op answer after, KubeRepository.respond storeless s op = some (answer,after) →
      Cluster (Telling (ByWriter NoStore.write) (Serve visitSigns)) s op answer after := respond_answers storeless_serves
  have path := schedule_runs answers visitedTurns (fun i => onCluster (router visitState (visits i)))
    (World.single RotationOutcome.pairKey,[])
  have same : schedule (KubeRepository.respond storeless) visitedTurns
    (fun i => onCluster (router visitState (visits i))) (World.single RotationOutcome.pairKey,[]) = storelessRun := rfl
  rw [same] at path
  clear same
  have both : (storelessRun.2.2.1.objects "pair").map (fun r => r.object.status.targets.map TargetStatus.message) =
    some [some noStoreText,some noStoreText] := by decide +kernel
  obtain ⟨r,there,rows⟩ := Option.map_eq_some_iff.mp both
  refine ⟨r,there,rows,?_⟩
  generalize storelessRun = final at path there
  obtain ⟨log,below,after,jar⟩ := final
  exact (never_rotated (single_numbered _) path (single_all (unstored_lasting _ _).unwritten)).1 "pair" r.object (update_registry there)

end YouSpinMe.Stores
