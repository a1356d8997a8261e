import YouSpinMe.Rotation

namespace YouSpinMe.RotationTraces
open RequestProgram Effects Validation Rotation Text Jiff Crd

-- Every completed run of `record`, with every answer it may be given.
inductive RecordTrace [Format] (name : String) (actor : Actor) (rotatedAt : Timestamp)
    (expiresAt : Option Timestamp) (now : Timestamp) : Trace → Except RecordError ApiKey → Prop where
  | future (late : now < rotatedAt) : RecordTrace name actor rotatedAt expiresAt now [] (.error .futureDate)
  | early (dated : ¬ now < rotatedAt) (before : ∃ e, expiresAt = some e ∧ e < rotatedAt) :
      RecordTrace name actor rotatedAt expiresAt now [] (.error .expiryBeforeRotation)
  | unsaved (dated : ¬ now < rotatedAt) (ordered : ¬ ∃ e, expiresAt = some e ∧ e < rotatedAt) :
      RecordTrace name actor rotatedAt expiresAt now
        [⟨.updateStatus name (recordMutation actor rotatedAt expiresAt),.error e⟩] (.error (.repo e))
  | recorded (dated : ¬ now < rotatedAt) (ordered : ¬ ∃ e, expiresAt = some e ∧ e < rotatedAt) :
      RecordTrace name actor rotatedAt expiresAt now
        [⟨.updateStatus name (recordMutation actor rotatedAt expiresAt),.ok updated⟩,
          ⟨.recordEvent updated.key ⟨"Recorded",recordNote actor rotatedAt expiresAt,false⟩,()⟩] (.ok updated.key)

theorem record_returns [Format] : Returns (record name actor rotatedAt expiresAt now) trace result ↔
    RecordTrace name actor rotatedAt expiresAt now trace result := by
  unfold record
  split
  · rename_i late
    rw [pure_done,returns_done]
    constructor
    · intro path; obtain ⟨rfl,rfl⟩ := path; exact .future late
    · intro path; cases path <;> first | exact ⟨rfl,rfl⟩ | contradiction
  · rename_i dated
    split
    · rename_i before
      rw [pure_done,returns_done]
      constructor
      · intro path; obtain ⟨rfl,rfl⟩ := path; exact .early dated before
      · intro path; cases path <;> first | exact ⟨rfl,rfl⟩ | contradiction
    · rename_i ordered
      rw [bind_ask,returns_request]
      constructor
      · intro path
        obtain ⟨answer,rest,rfl,path⟩ := path
        cases answer with
        | error e => obtain ⟨rfl,rfl⟩ := returns_done.mp path; exact .unsaved dated ordered
        | ok updated =>
          simp only [bind_ask,pure_done,returns_request,returns_done] at path
          obtain ⟨_,_,rfl,rfl,rfl⟩ := path
          exact .recorded dated ordered
      · intro path
        cases path with
        | future | early => contradiction
        | unsaved => exact ⟨_,_,rfl,returns_done.mpr ⟨rfl,rfl⟩⟩
        | recorded => exact ⟨_,_,rfl,.cons .nil⟩

-- The prober is asked exactly when neither the admin nor the provider excludes it.
def Consults (key : ApiKey) (req : RotateRequest) : Prop :=
  req.skipVerification = false ∧ key.spec.provider ≠ .generic

inductive CheckTrace (key : ApiKey) (req : RotateRequest) : Trace → Except ProbeError ProbeOutcome → Prop where
  | skipped (skip : req.skipVerification = true) : CheckTrace key req [] (.ok .skipped)
  | generic (verify : req.skipVerification = false) (generic : key.spec.provider = .generic) :
      CheckTrace key req [] (.ok .notSupported)
  | checked (consults : Consults key req) : CheckTrace key req
      [⟨.probe key.spec.provider req.value,.ok (some result)⟩,⟨.countProbe key.spec.provider.asStr "ok",()⟩]
      (.ok (.checked result))
  | unsupported (consults : Consults key req) :
      CheckTrace key req [⟨.probe key.spec.provider req.value,.ok none⟩] (.ok .notSupported)
  | refused (consults : Consults key req) : CheckTrace key req
      [⟨.probe key.spec.provider req.value,.error e⟩,
        ⟨.countProbe key.spec.provider.asStr (ProbeError.label e),()⟩,
        ⟨.recordEvent key ⟨"RotationRejected",req.actor.display ++ ": " ++ e.text,true⟩,()⟩] (.error e)

theorem checkKey_returns : Returns (checkKey key req) trace result ↔ CheckTrace key req trace result := by
  unfold checkKey
  split
  · rename_i skip
    rw [pure_done,returns_done]
    constructor
    · intro path; obtain ⟨rfl,rfl⟩ := path; exact .skipped skip
    · intro path
      cases path with
      | skipped => exact ⟨rfl,rfl⟩
      | generic verify => simp [skip] at verify
      | checked consults | unsupported consults | refused consults => simp [skip,Consults] at consults
  · rename_i verify
    have verify : req.skipVerification = false := by simpa using verify
    split
    · rename_i generic
      rw [pure_done,returns_done]
      constructor
      · intro path; obtain ⟨rfl,rfl⟩ := path; exact .generic verify generic
      · intro path
        cases path with
        | skipped skip => simp [verify] at skip
        | generic => exact ⟨rfl,rfl⟩
        | checked consults | unsupported consults | refused consults => exact absurd generic consults.2
    · rename_i probed
      have consults : Consults key req := ⟨verify,probed⟩
      rw [bind_ask,returns_request]
      constructor
      · intro path
        obtain ⟨answer,rest,rfl,path⟩ := path
        rcases answer with e | result | result
        · simp only [bind_ask,pure_done,returns_request,returns_done] at path
          obtain ⟨_,_,rfl,_,_,rfl,rfl,rfl⟩ := path
          exact .refused consults
        · obtain ⟨rfl,rfl⟩ := returns_done.mp path
          exact .unsupported consults
        · simp only [bind_ask,pure_done,returns_request,returns_done] at path
          obtain ⟨_,_,rfl,rfl,rfl⟩ := path
          exact .checked consults
      · intro path
        cases path with
        | skipped skip => simp [verify] at skip
        | generic _ generic => exact absurd generic probed
        | checked => exact ⟨_,_,rfl,.cons .nil⟩
        | unsupported => exact ⟨_,_,rfl,.nil⟩
        | refused => exact ⟨_,_,rfl,.cons (.cons .nil)⟩

-- One write of a target list, with its answer.
abbrev Written := List (TargetSpec × Except TargetError Unit)

def writeEvent (value : String) (entry : TargetSpec × Except TargetError Unit) : Event Answer :=
  ⟨.write entry.1 value,entry.2⟩

def outcomeOf (entry : TargetSpec × Except TargetError Unit) : TargetOutcome :=
  ⟨entry.1.reference,writeError entry.2⟩

theorem writeTargets_returns : Returns (writeTargets value targets) trace outcomes ↔
    ∃ written : Written, written.map Prod.fst = targets ∧ trace = written.map (writeEvent value) ∧
      outcomes = written.map outcomeOf := by
  induction targets generalizing trace outcomes with
  | nil =>
    simp only [writeTargets,pure_done,returns_done,List.map_eq_nil_iff]
    constructor
    · intro path; obtain ⟨rfl,rfl⟩ := path; exact ⟨[],rfl,rfl,rfl⟩
    · intro path; obtain ⟨_,rfl,rfl,rfl⟩ := path; exact ⟨rfl,rfl⟩
  | cons target rest ih =>
    simp only [writeTargets,bind_ask,returns_request,returns_bind,ih,pure_done,returns_done]
    constructor
    · intro path
      obtain ⟨answer,_,rfl,_,_,_,rfl,⟨written,same,rfl,rfl⟩,rfl,rfl⟩ := path
      exact ⟨(target,answer) :: written,by simp [same],by simp [writeEvent],by simp [outcomeOf]⟩
    · intro path
      obtain ⟨written,same,rfl,rfl⟩ := path
      cases written with
      | nil => simp at same
      | cons entry written =>
        obtain ⟨rfl,tail⟩ := List.cons.inj same
        exact ⟨entry.2,written.map (writeEvent value),rfl,_,_,[],by simp,⟨written,tail,rfl,rfl⟩,rfl,rfl⟩

def mutationOf (key : ApiKey) (req : RotateRequest) (probe : ProbeOutcome) (written : Written) (now : Timestamp) :
    ApiKeyStatus → ApiKeyStatus :=
  submitMutation (key.spec.targets.map TargetSpec.reference) (written.map outcomeOf) now req (probeStatus now probe)

def outcomeFor (req : RotateRequest) (probe : ProbeOutcome) (written : Written) (now : Timestamp) : RotateOutcome :=
  ⟨probe,written.map outcomeOf,allWritten (written.map outcomeOf),
    expiryMismatch ((probeStatus now probe).bind ProbeStatus.expiresAt) req.manualExpiresAt⟩

inductive SubmitTrace (name : String) (key : ApiKey) (req : RotateRequest) (probe : ProbeOutcome) :
    Trace → Except RotateError RotateOutcome → Prop where
  | unsaved {written : Written} (all : written.map Prod.fst = key.spec.targets) :
      SubmitTrace name key req probe
        (written.map (writeEvent req.value) ++
          [⟨.now,now⟩,⟨.updateStatus name (mutationOf key req probe written now),.error e⟩])
        (.error (.status e))
  | saved {written : Written} {updated : Named name} (all : written.map Prod.fst = key.spec.targets) :
      SubmitTrace name key req probe
        (written.map (writeEvent req.value) ++
          [⟨.now,now⟩,⟨.updateStatus name (mutationOf key req probe written now),.ok updated⟩,
            ⟨.recordEvent updated.key (submitEvent req.actor (written.map outcomeOf)),()⟩])
        (.ok (outcomeFor req probe written now))

theorem submit_returns : Returns (submit name key req probe) trace result ↔
    SubmitTrace name key req probe trace result := by
  unfold submit
  simp only [returns_bind,writeTargets_returns,bind_ask,returns_request]
  constructor
  · intro path
    obtain ⟨_,_,_,rfl,⟨written,all,rfl,rfl⟩,now,_,rfl,answer,_,rfl,path⟩ := path
    cases answer with
    | error e => obtain ⟨rfl,rfl⟩ := returns_done.mp path; exact .unsaved all
    | ok updated =>
      simp only [pure_done,returns_request,returns_done] at path
      obtain ⟨_,_,rfl,rfl,rfl⟩ := path
      exact .saved all
  · intro path
    cases path with
    | unsaved all => exact ⟨_,_,_,rfl,⟨_,all,rfl,rfl⟩,_,_,rfl,_,_,rfl,.nil⟩
    | saved all => exact ⟨_,_,_,rfl,⟨_,all,rfl,rfl⟩,_,_,rfl,_,_,rfl,.cons .nil⟩

inductive RotateTrace [UrlCrate] (allowed : PathAllowList) (name : String) (req : RotateRequest) :
    Trace → Except RotateError RotateOutcome → Prop where
  | gated (stopped : gate allowed name req found = .error e) :
      RotateTrace allowed name req [⟨.get name,found⟩,⟨.countRotation "rejected",()⟩] (.error e)
  | refused (passed : gate allowed name req found = .ok key) (check : CheckTrace key req checks (.error e)) :
      RotateTrace allowed name req (⟨.get name,found⟩ :: checks ++ [⟨.countRotation "rejected",()⟩])
        (.error (.probe e))
  | submitted (passed : gate allowed name req found = .ok key) (check : CheckTrace key req checks (.ok probe))
      (rest : SubmitTrace name key req probe submission result) :
      RotateTrace allowed name req
        (⟨.get name,found⟩ :: checks ++ submission ++ [⟨.countRotation (label result),()⟩]) result

theorem rotate_returns [UrlCrate] : Returns (rotate allowed name req) trace result ↔
    RotateTrace allowed name req trace result := by
  simp only [rotate,rotateInner,bind_ask,bind_request,returns_request]
  constructor
  · intro path
    obtain ⟨found,_,rfl,path⟩ := path
    cases passed : gate allowed name req found with
    | error e =>
      simp only [passed,pure_done,bind_done,returns_request,returns_done] at path
      obtain ⟨_,_,rfl,rfl,rfl⟩ := path
      exact .gated passed
    | ok key =>
      simp only [passed,returns_bind,checkKey_returns] at path
      obtain ⟨_,_,_,rfl,⟨answer,checks,later,rfl,check,path⟩,counted⟩ := path
      simp only [returns_request,pure_done,returns_done] at counted
      obtain ⟨_,_,rfl,rfl,rfl⟩ := counted
      cases answer with
      | error e =>
        obtain ⟨rfl,rfl⟩ := returns_done.mp path
        rw [List.append_nil]
        exact .refused passed check
      | ok probe => exact .submitted passed check (submit_returns.mp path)
  · intro path
    cases path with
    | gated stopped =>
      refine ⟨_,_,rfl,?_⟩
      simp only [stopped,pure_done,bind_done]
      exact .cons .nil
    | refused passed check =>
      refine ⟨_,_,rfl,?_⟩
      simp only [passed,returns_bind]
      exact ⟨_,_,_,rfl,⟨_,_,_,(List.append_nil _).symm,checkKey_returns.mpr check,.nil⟩,.cons .nil⟩
    | submitted passed check rest =>
      refine ⟨_,_,rfl,?_⟩
      simp only [passed,returns_bind]
      exact ⟨_,_,_,rfl,⟨_,_,_,rfl,checkKey_returns.mpr check,submit_returns.mpr rest⟩,.cons .nil⟩

-- A submission asks for one status update, after its writes and its one look at
-- the clock; an audit event may follow.
theorem SubmitTrace.update (path : SubmitTrace name key req probe submission result)
    (member : ⟨.updateStatus other mutate,answer⟩ ∈ submission) :
    ∃ written now reply noted, written.map Prod.fst = key.spec.targets ∧ mutate = mutationOf key req probe written now ∧
      (noted = [] ∨ ∃ about event, noted = [⟨.recordEvent about event,()⟩]) ∧
      submission = written.map (writeEvent req.value) ++ (⟨.now,now⟩ :: ⟨.updateStatus name mutate,reply⟩ :: noted) := by
  cases path with
  | @unsaved e now written all =>
    simp [writeEvent] at member
    obtain ⟨⟨rfl,rfl⟩,rfl⟩ := member
    exact ⟨written,now,_,[],all,rfl,.inl rfl,rfl⟩
  | @saved now written updated all =>
    simp [writeEvent] at member
    obtain ⟨⟨rfl,rfl⟩,rfl⟩ := member
    exact ⟨written,now,_,_,all,rfl,.inr ⟨_,_,rfl⟩,rfl⟩

-- A call that asks for a status update: what it did before its submission, the
-- submission, and its count.
theorem RotateTrace.submission [UrlCrate] (path : RotateTrace allowed name req trace result)
    (member : ⟨.updateStatus other mutate,answer⟩ ∈ trace) :
    ∃ found key checks probe written now reply noted counted, gate allowed name req found = .ok key ∧
      CheckTrace key req checks (.ok probe) ∧ written.map Prod.fst = key.spec.targets ∧
      mutate = mutationOf key req probe written now ∧
      (noted = [] ∨ ∃ about event, noted = [⟨.recordEvent about event,()⟩]) ∧
      trace = ⟨.get name,found⟩ :: checks ++ (written.map (writeEvent req.value) ++
        (⟨.now,now⟩ :: ⟨.updateStatus name mutate,reply⟩ :: noted)) ++ [⟨.countRotation counted,()⟩] := by
  cases path with
  | gated stopped => simp at member
  | refused passed check =>
    cases check
    simp at member
  | @submitted found key checks probe submission _ passed check rest =>
    have quiet : ⟨.updateStatus other mutate,answer⟩ ∉ checks := by cases check <;> simp
    have inside : ⟨.updateStatus other mutate,answer⟩ ∈ submission := by simpa [quiet] using member
    obtain ⟨written,now,reply,noted,all,same,quiet,rfl⟩ := SubmitTrace.update rest inside
    exact ⟨found,key,checks,probe,written,now,reply,noted,_,passed,check,all,same,quiet,rfl⟩

-- A call that asks for a status update has read its key and the clock, and has
-- tried to write every target of that key.
theorem RotateTrace.updated [UrlCrate] (path : RotateTrace allowed name req trace result)
    (member : ⟨.updateStatus other mutate,answer⟩ ∈ trace) :
    ∃ found key probe written now, gate allowed name req found = .ok key ∧ ⟨.get name,found⟩ ∈ trace ∧
      written.map Prod.fst = key.spec.targets ∧ (∀ entry ∈ written, writeEvent req.value entry ∈ trace) ∧
      ⟨.now,now⟩ ∈ trace ∧ mutate = mutationOf key req probe written now := by
  obtain ⟨found,key,checks,probe,written,now,reply,noted,counted,passed,_,all,same,_,rfl⟩ := path.submission member
  refine ⟨found,key,probe,written,now,passed,by simp,all,?_,by simp,same⟩
  intro entry listed
  simp [List.mem_map_of_mem listed]

-- What a call can ask for, whatever it is answered and wherever it stops.
inductive RecordRequests (name : String) (actor : Actor) (rotatedAt : Timestamp) (expiresAt : Option Timestamp) :
    Effect → Prop where
  | updateStatus :
      RecordRequests name actor rotatedAt expiresAt (.updateStatus name (recordMutation actor rotatedAt expiresAt))
  | recordEvent (key : ApiKey) (event : AuditEvent) :
      RecordRequests name actor rotatedAt expiresAt (.recordEvent key event)

inductive RotateRequests (name : String) (req : RotateRequest) : Effect → Prop where
  | now : RotateRequests name req .now
  | get : RotateRequests name req (.get name)
  | probe (provider : Provider) : RotateRequests name req (.probe provider req.value)
  | countProbe (provider result : String) : RotateRequests name req (.countProbe provider result)
  | recordEvent (key : ApiKey) (event : AuditEvent) : RotateRequests name req (.recordEvent key event)
  | write (target : TargetSpec) : RotateRequests name req (.write target req.value)
  | updateStatus (references : List String) (outcomes : List TargetOutcome) (now : Timestamp)
      (probe : Option ProbeStatus) :
      RotateRequests name req (.updateStatus name (submitMutation references outcomes now req probe))
  | countRotation (result : String) : RotateRequests name req (.countRotation result)

theorem record_asks [Format] : Asks (RecordRequests name actor rotatedAt expiresAt) (record name actor rotatedAt expiresAt now) := by
  unfold record
  split
  · trivial
  · split
    · trivial
    · rw [bind_ask,asks_request]
      refine ⟨.updateStatus,?_⟩
      intro answer
      cases answer with
      | error e => trivial
      | ok updated => exact ⟨.recordEvent _ _,fun _ => trivial⟩

theorem checkKey_asks : Asks (RotateRequests name req) (checkKey key req) := by
  unfold checkKey
  split
  · trivial
  · split
    · trivial
    · rw [bind_ask,asks_request]
      refine ⟨.probe _,?_⟩
      intro answer
      rcases answer with e | result | result
      · exact ⟨.countProbe _ _,fun _ => ⟨.recordEvent _ _,fun _ => trivial⟩⟩
      · trivial
      · exact ⟨.countProbe _ _,fun _ => trivial⟩

theorem writeTargets_asks : Asks (RotateRequests name req) (writeTargets req.value targets) := by
  induction targets with
  | nil => trivial
  | cons target rest ih =>
    unfold writeTargets
    rw [bind_ask,asks_request]
    refine ⟨.write _,?_⟩
    intro answer
    apply asks_bind
    · exact ih
    · intro outcomes
      trivial

theorem submit_asks : Asks (RotateRequests name req) (submit name key req probe) := by
  apply asks_bind
  · exact writeTargets_asks
  · intro outcomes
    simp only [bind_ask,asks_request]
    refine ⟨.now,fun now => ⟨.updateStatus _ _ _ _,?_⟩⟩
    intro answer
    cases answer with
    | error e => trivial
    | ok updated => exact ⟨.recordEvent _ _,fun _ => trivial⟩

theorem rotateInner_asks [UrlCrate] : Asks (RotateRequests name req) (rotateInner allowed name req) := by
  unfold rotateInner
  rw [bind_ask,asks_request]
  refine ⟨.get,?_⟩
  intro found
  cases gate allowed name req found with
  | error e => trivial
  | ok key =>
    apply asks_bind
    · exact checkKey_asks
    · intro checked
      cases checked with
      | error e => trivial
      | ok probe => exact submit_asks

theorem rotate_asks [UrlCrate] : Asks (RotateRequests name req) (rotate allowed name req) := by
  apply asks_bind
  · exact rotateInner_asks
  · intro result
    exact ⟨.countRotation _,fun _ => trivial⟩

end YouSpinMe.RotationTraces
