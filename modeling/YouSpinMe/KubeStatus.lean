import YouSpinMe.Kube
import YouSpinMe.Rotation
import Mathlib.Data.List.DropRight
import Mathlib.Data.List.Nodup

namespace YouSpinMe.KubeStatus
open RequestProgram SharedRun Effects Validation Jiff Crd Rotation Kube Text

-- A mutation that neither reads nor writes what a reconciliation patches.
def Frames (mutate : ApiKeyStatus → ApiKeyStatus) : Prop :=
  ∀ status (patch : StatusPatch), mutate (patch.merge status) = patch.merge (mutate status)

def core (status : ApiKeyStatus) : ApiKeyStatus := StatusPatch.merge ⟨[],none⟩ status

theorem Frames.core {mutate : ApiKeyStatus → ApiKeyStatus} (frames : Frames mutate) (status : ApiKeyStatus) :
    core (mutate status) = mutate (core status) := (frames status ⟨[],none⟩).symm

theorem recordMutation_frames (actor : Actor) (rotatedAt : Timestamp) (expiresAt : Option Timestamp) :
    Frames (recordMutation actor rotatedAt expiresAt) := fun _ _ => rfl

theorem submitMutation_frames (references : List String) (outcomes : List TargetOutcome) (now : Timestamp)
    (req : RotateRequest) (probe : Option ProbeStatus) : Frames (submitMutation references outcomes now req probe) := by
  intro status patch
  unfold submitMutation
  split
  · rfl
  · rfl

-- The events that changed the object of a name.
def commits (name : String) : Event Reply → Bool
  | ⟨.replaceStatus other _,.ok _⟩ => other = name
  | ⟨.patchStatus other _,.ok _⟩ => other = name
  | _ => false

@[simp] theorem commits_error (name : String) (op : ApiCall) (e : ApiError) :
    commits name ⟨op,.error e⟩ = false := by
  cases op with
  | getStatus | replaceStatus | patchStatus => rfl

theorem serve_exact (served : Serve cluster op answer after) (there : cluster name = some object) :
    (commits name ⟨op,answer⟩ = false ∧ after name = some object) ∨
    (commits name ⟨op,answer⟩ = true ∧ ∃ status, after name = some (object.commit status)) := by
  cases served with
  | got => exact .inl ⟨rfl,there⟩
  | stale | absent | failed => exact .inl ⟨commits_error ..,there⟩
  | @replaced _ stored other obj held current =>
    by_cases same : other = name
    · subst same
      cases held.symm.trans there
      exact .inr ⟨by simp [commits],obj.status,by simp⟩
    · exact .inl ⟨by simp [commits,same],by rw [Function.update_of_ne (Ne.symm same),there]⟩
  | @patched _ stored other patch held =>
    by_cases same : other = name
    · subst same
      cases held.symm.trans there
      exact .inr ⟨by simp [commits],some (patch.merge object.status),by simp [Stored.patch]⟩
    · exact .inl ⟨by simp [commits,same],by rw [Function.update_of_ne (Ne.symm same),there]⟩

-- A version counts commits, so an object whose version stood still is the same object.
theorem serves_versions (path : Serves Serve cluster events after) (there : cluster name = some object) :
    ∃ later, after name = some later ∧ later.version = object.version + events.countP (commits name) ∧
      (events.countP (commits name) = 0 → later = object) := by
  induction path generalizing object with
  | nil => exact ⟨object,there,rfl,fun _ => rfl⟩
  | cons served rest ih =>
    rcases serve_exact served there with ⟨quiet,same⟩ | ⟨committed,status,changed⟩
    · obtain ⟨later,found,version,still⟩ := ih same
      refine ⟨later,found,?_,?_⟩
      · simpa [List.countP_cons,quiet] using version
      · intro none
        exact still (by simpa [List.countP_cons,quiet] using none)
    · obtain ⟨later,found,version,_⟩ := ih changed
      refine ⟨later,found,?_,?_⟩
      · rw [version,List.countP_cons,if_pos committed]
        simp only [Stored.commit]
        omega
      · intro none
        simp [committed] at none

-- Every partial run of `update_status`, attempt by attempt.
inductive AttemptTrace (name : String) (mutate : ApiKeyStatus → ApiKeyStatus) :
    Nat → List (Event Reply) → Api (Except RepoError ApiKey) → Prop where
  | exhausted : AttemptTrace name mutate 0 [] (.done (.error .conflict))
  | idle : AttemptTrace name mutate (n + 1) [] (attempt name mutate (n + 1))
  | unread (failed : e ≠ .conflict) :
      AttemptTrace name mutate (n + 1) [⟨.getStatus name,.error reply⟩] (.done (.error e))
  | read : AttemptTrace name mutate (n + 1) [⟨.getStatus name,.ok obj⟩]
      (.request (.replaceStatus name (obj.updateStatus mutate)) next)
  | saved : AttemptTrace name mutate (n + 1)
      [⟨.getStatus name,.ok obj⟩,⟨.replaceStatus name (obj.updateStatus mutate),.ok updated⟩] (.done (.ok updated))
  | unsaved (failed : e ≠ .conflict) : AttemptTrace name mutate (n + 1)
      [⟨.getStatus name,.ok obj⟩,⟨.replaceStatus name (obj.updateStatus mutate),.error reply⟩] (.done (.error e))
  | retried (rest : AttemptTrace name mutate n events remainder) : AttemptTrace name mutate (n + 1)
      (⟨.getStatus name,.ok obj⟩ :: ⟨.replaceStatus name (obj.updateStatus mutate),.error (.conflict detail)⟩ :: events)
      remainder

theorem attempt_steps (path : Steps (attempt name mutate n) events remainder) :
    AttemptTrace name mutate n events remainder := by
  induction n generalizing events with
  | zero =>
    obtain ⟨rfl,rfl⟩ := steps_done.mp path
    exact .exhausted
  | succ n ih =>
    unfold attempt at path
    rw [bind_ask,steps_request] at path
    rcases path with ⟨rfl,rfl⟩ | ⟨answer,rest,rfl,path⟩
    · exact .idle
    · cases answer with
      | error e =>
        cases e with
        | notFound | conflict | other => obtain ⟨rfl,rfl⟩ := steps_done.mp path; exact .unread (by simp)
      | ok obj =>
        simp only [bind_ask] at path
        rw [steps_request] at path
        rcases path with ⟨rfl,rfl⟩ | ⟨answer,rest,rfl,path⟩
        · exact .read
        · cases answer with
          | ok updated => obtain ⟨rfl,rfl⟩ := steps_done.mp path; exact .saved
          | error e =>
            cases e with
            | conflict detail => exact .retried (ih path)
            | notFound | other => obtain ⟨rfl,rfl⟩ := steps_done.mp path; exact .unsaved (by simp)

def returnedOk : Api (Except RepoError ApiKey) → Bool
  | .done (.ok _) => true
  | _ => false

-- A call commits at most once, and it has committed exactly when it has returned Ok.
theorem AttemptTrace.committed (path : AttemptTrace name mutate n events remainder) (other : String) :
    events.countP (commits other) = if name = other ∧ returnedOk remainder = true then 1 else 0 := by
  induction path with
  | exhausted | unread | unsaved | read => simp [commits,returnedOk]
  | idle => simp [attempt,returnedOk]
  | saved => simp [commits,returnedOk,List.countP_cons]
  | retried rest ih => simpa [commits] using ih

-- A pending replacement carries the mutated object of the read just before it.
theorem AttemptTrace.pending (path : AttemptTrace name mutate n events (.request op next))
    (writes : commits other ⟨op,answer⟩ = true) :
    ∃ front obj, events = front ++ [⟨.getStatus name,.ok obj⟩] ∧
      op = .replaceStatus name (obj.updateStatus mutate) := by
  generalize waiting : Program.request op next = remainder at path
  induction path with
  | exhausted | unread | unsaved | saved => cases waiting
  | idle =>
    unfold attempt at waiting
    cases waiting
    cases answer <;> simp [commits] at writes
  | @read _ obj later =>
    cases waiting
    exact ⟨[],obj,rfl,rfl⟩
  | retried rest ih =>
    obtain ⟨front,obj,same,asked⟩ := ih waiting
    exact ⟨_ :: _ :: front,obj,by rw [same]; rfl,asked⟩

theorem reconcile_pending [UrlCrate] (path : Steps (reconcile allowed key now) events (.request op next)) :
    ∃ patch, reconcilePatch key allowed now = some patch ∧ op = .patchStatus key.name patch := by
  unfold reconcile at path
  cases found : reconcilePatch key allowed now with
  | none =>
    rw [found] at path
    cases (steps_done.mp path).2
  | some patch =>
    simp only [found,bind_ask] at path
    rw [steps_request] at path
    rcases path with ⟨_,same⟩ | ⟨answer,rest,_,path⟩
    · cases same
      exact ⟨patch,rfl,rfl⟩
    · cases answer with
      | error | ok => cases (steps_done.mp path).2

structure UpdateCall where
  name : String
  mutate : ApiKeyStatus → ApiKeyStatus

structure ReconcileCall where
  allowed : PathAllowList
  key : ApiKey
  now : Timestamp

@[reducible] def Outcome : ι ⊕ κ → Type
  | .inl _ => Except RepoError ApiKey
  | .inr _ => Except ApiError Unit

section Writers
variable {ι κ : Type} [DecidableEq ι] [DecidableEq κ]

def writers [UrlCrate] (updates : ι → UpdateCall) (reconciles : κ → ReconcileCall) : (w : ι ⊕ κ) → Api (Outcome w)
  | .inl i => updateStatus (updates i).name (updates i).mutate
  | .inr k => reconcile (reconciles k).allowed (reconciles k).key (reconciles k).now

-- What a writer's commit does to the status it is committed on.
def effect [UrlCrate] (updates : ι → UpdateCall) (reconciles : κ → ReconcileCall) (status : ApiKeyStatus) :
    ι ⊕ κ → ApiKeyStatus
  | .inl i => (updates i).mutate status
  | .inr k => match reconcilePatch (reconciles k).key (reconciles k).allowed (reconciles k).now with
    | none => status
    | some patch => patch.merge status

def commitOrder (name : String) (log : List ((ι ⊕ κ) × Event Reply)) : List (ι ⊕ κ) :=
  (log.filter fun entry => commits name entry.2).map Prod.fst

-- The object that a replacement was computed from is the object it replaces:
-- equal versions leave no room for a commit between the read and the write.
theorem replaced_current {log : List ((ι ⊕ κ) × Event Reply)} {w : ι ⊕ κ}
    (path : Serves Serve cluster (log.map Prod.snd) middle)
    (saw : own w log = front ++ [⟨.getStatus name,.ok obj⟩]) (there : middle name = some later)
    (current : obj.metadata.resourceVersion = some later.version) : obj = later.served := by
  obtain ⟨before,between,rfl,_,_⟩ := own_eq_append saw
  rw [List.map_append,List.map_cons,serves_append] at path
  obtain ⟨first,_,path⟩ := path
  obtain ⟨second,read,rest⟩ := serves_cons.mp path
  cases read with
  | got found =>
    obtain ⟨last,held,version,still⟩ := serves_versions rest found
    cases held.symm.trans there
    simp only [Stored.served,Option.some.injEq] at current
    have unmoved := still (by omega)
    rw [unmoved]

theorem commit_status [UrlCrate] {updates : ι → UpdateCall} {reconciles : κ → ReconcileCall} {w : ι ⊕ κ}
    {next : Reply op → Api (Outcome w)}
    (prior : Runs Serve (writers updates reconciles) cluster log remainder middle)
    (waiting : remainder w = .request op next) (served : Serve middle op answer after)
    (there : middle name = some later) (writes : commits name ⟨op,answer⟩ = true) :
    ∃ changed, after name = some changed ∧ changed.status = effect updates reconciles later.status w := by
  have path := prior.steps w
  rw [waiting] at path
  cases w with
  | inl i =>
    obtain ⟨front,obj,saw,rfl⟩ := (attempt_steps path).pending writes
    cases served with
    | @replaced _ _ other obj found current =>
      have same : (updates i).name = name := by simpa [commits] using writes
      subst same
      cases found.symm.trans there
      have read := replaced_current prior.serves saw there current
      refine ⟨_,Function.update_self ..,?_⟩
      simp [Stored.commit,Stored.status,effect,read,Stored.served]
    | stale | absent | failed => simp at writes
  | inr k =>
    obtain ⟨patch,found,rfl⟩ := reconcile_pending path
    cases served with
    | patched held =>
      have same : (reconciles k).key.name = name := by simpa [commits] using writes
      subst same
      cases held.symm.trans there
      refine ⟨_,Function.update_self ..,?_⟩
      simp [Stored.patch,Stored.commit,Stored.status,effect,found]
    | absent | failed => simp at writes

theorem runs_status [UrlCrate] {updates : ι → UpdateCall} {reconciles : κ → ReconcileCall}
    (path : Runs Serve (writers updates reconciles) cluster log remainder after) (there : cluster name = some object) :
    ∃ later, after name = some later ∧
      later.status = (commitOrder name log).foldl (effect updates reconciles) object.status := by
  induction path with
  | start => exact ⟨object,there,rfl⟩
  | @step log remainder middle after w op next answer prior waiting served ih =>
    obtain ⟨current,held,folded⟩ := ih
    rcases serve_exact served held with ⟨quiet,same⟩ | ⟨writes,_,_⟩
    · refine ⟨current,same,?_⟩
      simpa [commitOrder,quiet] using folded
    · obtain ⟨changed,found,applied⟩ := commit_status prior waiting served held writes
      refine ⟨changed,found,?_⟩
      simp [commitOrder,writes,applied,folded]

-- Committed updates of a name, in commit order.
def updateOrder (name : String) (log : List ((ι ⊕ κ) × Event Reply)) : List ι :=
  (commitOrder name log).filterMap Sum.getLeft?

theorem updateOrder_count (name : String) (log : List ((ι ⊕ κ) × Event Reply)) (i : ι) :
    (updateOrder name log).count i = (own (.inl i) log).countP (commits name) := by
  induction log with
  | nil => rfl
  | cons entry log ih =>
    obtain ⟨w,event⟩ := entry
    by_cases same : w = .inl i
    · subst same
      rw [own_cons_self,List.countP_cons,← ih]
      cases writes : commits name event <;> simp [updateOrder,commitOrder,writes]
    · rw [own_cons_other same,← ih]
      cases writes : commits name event with
      | false => simp [updateOrder,commitOrder,writes]
      | true =>
        cases w with
        | inl j =>
          have different : j ≠ i := fun equal => same (congrArg Sum.inl equal)
          simp [updateOrder,commitOrder,writes,different]
        | inr k => simp [updateOrder,commitOrder,writes,List.filterMap_cons]

theorem runs_committed [UrlCrate] {updates : ι → UpdateCall} {reconciles : κ → ReconcileCall}
    (path : Runs Serve (writers updates reconciles) cluster log remainder after) (i : ι) :
    (updateOrder name log).count i =
      if (updates i).name = name ∧ returnedOk (remainder (.inl i)) = true then 1 else 0 := by
  rw [updateOrder_count]
  exact (attempt_steps (path.steps (.inl i))).committed name

-- The part of a run in which a client was at work, from its first event to its last.
def during (w : ι ⊕ κ) (log : List ((ι ⊕ κ) × Event Reply)) : List ((ι ⊕ κ) × Event Reply) :=
  (log.dropWhile fun entry => entry.1 ≠ w).rdropWhile fun entry => entry.1 ≠ w

def rivalCommit (name : String) (w : ι ⊕ κ) (entry : (ι ⊕ κ) × Event Reply) : Bool :=
  commits name entry.2 && entry.1 ≠ w

theorem rival_count {name : String} {w : ι ⊕ κ} {log : List ((ι ⊕ κ) × Event Reply)} (foreign : own w log = []) :
    log.countP (rivalCommit name w) = (log.map Prod.snd).countP (commits name) := by
  rw [List.countP_map]
  refine List.countP_congr fun entry member => ?_
  have other := own_eq_nil.mp foreign entry member
  simp [rivalCommit,other]

-- Each failed attempt leaves a commit of someone else between its read and its write.
theorem conflict_rivals {log : List ((ι ⊕ κ) × Event Reply)} {w : ι ⊕ κ}
    (path : Serves Serve cluster (log.map Prod.snd) after)
    (run : AttemptTrace name mutate n (own w log) (.done (.error .conflict))) :
    n ≤ (log.rdropWhile fun entry => entry.1 ≠ w).countP (rivalCommit name w) := by
  induction n generalizing log cluster with
  | zero => exact Nat.zero_le _
  | succ n ih =>
    generalize saw : own w log = seen at run
    generalize ended : Program.done (Except.error RepoError.conflict) = remainder at run
    cases run with
    | unread failed | unsaved failed => cases ended; exact absurd rfl failed
    | idle | read | saved => cases ended
    | retried rest =>
      subst ended
      obtain ⟨before,more,rfl,_,saw⟩ := own_eq_cons saw
      obtain ⟨between,tail,rfl,foreign,saw⟩ := own_eq_cons saw
      simp only [List.map_append,List.map_cons] at path
      obtain ⟨_,_,path⟩ := serves_append.mp path
      obtain ⟨_,read,path⟩ := serves_cons.mp path
      obtain ⟨middle,window,path⟩ := serves_append.mp path
      obtain ⟨_,refused,path⟩ := serves_cons.mp path
      have later : n ≤ (tail.rdropWhile fun entry => entry.1 ≠ w).countP (rivalCommit name w) :=
        ih path (by rw [saw]; exact rest)
      have moved : 1 ≤ between.countP (rivalCommit name w) := by
        rw [rival_count foreign]
        cases read with
        | got found =>
          obtain ⟨last,held,version,_⟩ := serves_versions window found
          cases refused with
          | stale there outdated =>
            cases held.symm.trans there
            by_contra none
            refine outdated ?_
            simp only [ApiKey.updateStatus,Stored.served,Option.some.injEq]
            omega
      rw [← List.cons_append,← List.append_assoc,rdropWhile_stop (by simp)]
      simp only [List.countP_append,List.countP_cons]
      omega

theorem conflict_during [UrlCrate] {updates : ι → UpdateCall} {reconciles : κ → ReconcileCall}
    (path : Runs Serve (writers updates reconciles) cluster log remainder after)
    (ended : remainder (.inl i) = .done (.error .conflict)) :
    MAX_STATUS_ATTEMPTS ≤ (during (.inl i) log).countP (rivalCommit (updates i).name (.inl i)) := by
  have run := attempt_steps (path.steps (.inl i))
  rw [ended] at run
  cases first : own (.inl i) log with
  | nil =>
    rw [first] at run
    generalize same : Program.done (Except.error RepoError.conflict) = remainder at run
    cases run
    cases same
  | cons event rest =>
    obtain ⟨before,more,rfl,foreign,saw⟩ := own_eq_cons first
    have skipped : ∀ entry ∈ before, decide (entry.1 ≠ .inl i) = true := by
      simpa using own_eq_nil.mp foreign
    have path := path.serves
    rw [List.map_append] at path
    obtain ⟨_,_,path⟩ := serves_append.mp path
    rw [during,List.dropWhile_append_of_pos skipped,List.dropWhile_cons_of_neg (by simp)]
    rw [first,← saw,← own_cons_self] at run
    exact conflict_rivals path run

omit [DecidableEq ι] [DecidableEq κ] in
theorem core_fold [UrlCrate] {updates : ι → UpdateCall} {reconciles : κ → ReconcileCall}
    (frames : ∀ i, Frames (updates i).mutate) (order : List (ι ⊕ κ)) (status : ApiKeyStatus) :
    core (order.foldl (effect updates reconciles) status) =
      (order.filterMap Sum.getLeft?).foldl (fun status i => (updates i).mutate status) (core status) := by
  induction order generalizing status with
  | nil => rfl
  | cons w order ih =>
    rw [List.foldl_cons,ih]
    cases w with
    | inl i => simp [effect,(frames i).core]
    | inr k =>
      have unseen : core (effect updates reconciles status (.inr k)) = core status := by
        simp only [effect]
        split
        · rfl
        · rfl
      rw [unseen]
      rfl

theorem returnedOk_iff {program : Api (Except RepoError ApiKey)} :
    returnedOk program = true ↔ ∃ key, program = .done (.ok key) := by
  cases program with
  | request => simp [returnedOk]
  | done value =>
    cases value with
    | error | ok => simp [returnedOk]

theorem status_updates_linear [UrlCrate] (updates : ι → UpdateCall) (reconciles : κ → ReconcileCall)
    (path : Runs Serve (writers updates reconciles) cluster log remainder after) (name : String) :
    (∀ object, cluster name = some object → ∃ later, after name = some later ∧
      later.status = (commitOrder name log).foldl (effect updates reconciles) object.status ∧
      ((∀ i, Frames (updates i).mutate) → core later.status =
        (updateOrder name log).foldl (fun status i => (updates i).mutate status) (core object.status))) ∧
    (updateOrder name log).Nodup ∧
    (∀ i ∈ updateOrder name log, (updates i).name = name) ∧
    (∀ i, (updates i).name = name →
      (i ∈ updateOrder name log ↔ ∃ key, remainder (.inl i) = .done (.ok key)) ∧
      (∀ e, remainder (.inl i) = .done (.error e) → i ∉ updateOrder name log) ∧
      (remainder (.inl i) = .done (.error .conflict) →
        MAX_STATUS_ATTEMPTS ≤ (during (.inl i) log).countP (rivalCommit name (.inl i)))) ∧
    (∀ actor rotatedAt expiresAt, Frames (recordMutation actor rotatedAt expiresAt)) ∧
    ∀ references outcomes now req probe, Frames (submitMutation references outcomes now req probe) := by
  have counted : ∀ i, (updateOrder name log).count i = _ := fun i => runs_committed path i
  refine ⟨?_,?_,?_,?_,recordMutation_frames,submitMutation_frames⟩
  · intro object there
    obtain ⟨later,found,folded⟩ := runs_status path there
    refine ⟨later,found,folded,?_⟩
    intro frames
    rw [folded,core_fold frames]
    rfl
  · rw [List.nodup_iff_count_le_one]
    intro i
    rw [counted i]
    split <;> omega
  · intro i member
    have positive := List.count_pos_iff.mpr member
    rw [counted i] at positive
    by_contra other
    simp [other] at positive
  · intro i named
    have exact : i ∈ updateOrder name log ↔ ∃ key, remainder (.inl i) = .done (.ok key) := by
      rw [← returnedOk_iff,← List.count_pos_iff,counted i]
      cases returnedOk (remainder (.inl i)) <;> simp [named]
    refine ⟨exact,?_,?_⟩
    · intro e failed member
      obtain ⟨key,ok⟩ := exact.mp member
      rw [failed] at ok
      cases ok
    · intro ended
      have rivals := conflict_during path ended
      rwa [named] at rivals

-- Two updates that read the same version: the second one to write starts over, and adds
-- its row to what the first one wrote.
def adding (reference : String) (status : ApiKeyStatus) : ApiKeyStatus :=
  {status with targets := ⟨reference,none,.ok,none⟩ :: status.targets}

def crossed : Bool → UpdateCall
  | false => ⟨"k",adding "first"⟩
  | true => ⟨"k",adding "second"⟩

def oneKey : Cluster := fun name => if name = "k" then some ⟨{metadata := {name := some "k"},spec := {}},7⟩ else none

def crossing [UrlCrate] := schedule respond
  [.inl false,.inl true,.inl false,.inl true,.inl true,.inl true] (writers crossed (Empty.elim : Empty → ReconcileCall)) oneKey

theorem crossed_linear : updateOrder "k" (@crossing noUrls).1 = [false,true] ∧
    (updateOrder "k" (@crossing noUrls).1).Nodup ∧ (∃ key, (@crossing noUrls).2.1 (.inl true) = .done (.ok key)) ∧
    ∃ later, (@crossing noUrls).2.2 "k" = some later ∧ later.status.targets.map TargetStatus.reference = ["second","first"] := by
  let _ := noUrls
  have path := schedule_runs respond_serves [.inl false,.inl true,.inl false,.inl true,.inl true,.inl true]
    (writers crossed (Empty.elim : Empty → ReconcileCall)) oneKey
  obtain ⟨folded,distinct,_,exact,_⟩ := status_updates_linear crossed Empty.elim path "k"
  have order : updateOrder "k" (@crossing noUrls).1 = [false,true] := rfl
  have member : true ∈ updateOrder "k" (@crossing noUrls).1 := by
    rw [order]
    decide
  obtain ⟨later,found,status,_⟩ := folded _ rfl
  refine ⟨order,distinct,(exact true rfl).1.mp member,later,found,?_⟩
  rw [status]
  rfl

end Writers
end YouSpinMe.KubeStatus
