import YouSpinMe.Stores
import YouSpinMe.Counters

namespace YouSpinMe.Demo
open RequestProgram SharedRun Effects Validation Rotation RotationTraces RotationOutcome RotationHistory TargetTable RequestGuards RouterWalk
  KeyedList Repository Bookkeeping Stores Identity Http Auth Web Text Jiff Crd

-- A difference outside the range of timestamps panics, as a sum does.
def checkedSub (t : Timestamp) (d : SignedDuration) : Option Timestamp :=
  if lower : -377705023201000000000 ≤ t.nanos - d.nanos then
    if upper : t.nanos - d.nanos ≤ 253402207200999999999 then some ⟨t.nanos - d.nanos,lower,upper⟩
    else none
  else none

-- Seconds of that many days, as far as an i64 holds them.
def days (n : Int) : Option SignedDuration :=
  if lower : i64Min ≤ 24 * n * 3600 then
    if upper : 24 * n * 3600 ≤ i64Max then some (.fromSecs (24 * n * 3600) lower upper)
    else none
  else none

def target (path key : String) : TargetSpec := ⟨some ⟨"secret",path,key⟩⟩

structure Sample where
  name : String
  display : String
  provider : Provider
  renew : String
  permissions : List String
  maxAge : Option String
  targets : List TargetSpec
  consumers : List String
  rotatedDaysAgo : Option Int
  expiresInDays : Option Int
  targetFailed : Bool

def Sample.spec (s : Sample) : ApiKeySpec where
  displayName := some s.display
  provider := s.provider
  owner := some "david"
  renewUrl := some s.renew
  setup := {permissions := s.permissions}
  rotation := {maxAge := s.maxAge}
  targets := s.targets
  consumers := s.consumers

def david : Actor := ⟨"demo|david","david"⟩

def Sample.status (s : Sample) (rotated : Timestamp) (expires : Option Timestamp) : ApiKeyStatus where
  lastRotated := some rotated
  rotatedBy := some david
  expiresAtSource := some (if expires.isSome then .manual else .none)
  manualExpiresAt := expires
  expiresAt := expires
  targets := s.targets.map fun t => {
    reference := t.reference
    lastWritten := some rotated
    result := if s.targetFailed then .failed else .ok
    message := if s.targetFailed then some "OpenBao returned 403: permission denied" else none}
  history := [⟨rotated,david,if s.targets.isEmpty then .recorded else .rotated,expires⟩]

def Sample.expires (now : Timestamp) (s : Sample) : Option (Option Timestamp) :=
  match s.expiresInDays with
  | none => some none
  | some d => ((days d).bind now.checkedAdd).map some

def Sample.key (now : Timestamp) (s : Sample) : Option ApiKey := do
  let metadata : Metadata := {name := some s.name, namespace_ := some "demo"}
  match s.rotatedDaysAgo with
  | none => some ⟨metadata,s.spec,none⟩
  | some ago => do
    let rotated ← (days ago).bind (checkedSub now)
    let expires ← s.expires now
    some ⟨metadata,s.spec,some (s.status rotated expires)⟩

def samples : List Sample := [
  {name := "renovate-github", display := "Renovate – GitHub token", provider := .github
   renew := "https://github.com/settings/personal-access-tokens"
   permissions := ["contents: read","pull_requests: write","workflows: write"]
   maxAge := some "90d", targets := [target "ci/renovate" "token"]
   consumers := ["GitHub Actions secret RENOVATE_TOKEN in infra repo"]
   rotatedDaysAgo := some 80, expiresInDays := some 10, targetFailed := false},
  {name := "cloudflare-ddns", display := "Cloudflare – DDNS", provider := .cloudflare
   renew := "https://dash.cloudflare.com/profile/api-tokens"
   permissions := ["Zone.DNS: edit"]
   maxAge := none, targets := []
   consumers := ["Router web UI → Dynamic DNS"]
   rotatedDaysAgo := some 360, expiresInDays := some 3, targetFailed := false},
  {name := "openai-homeassistant", display := "OpenAI – Home Assistant", provider := .generic
   renew := "https://platform.openai.com/api-keys"
   permissions := ["project: home-assistant","models: read"]
   maxAge := some "180d", targets := [target "home/home-assistant" "openai_api_key"]
   consumers := []
   rotatedDaysAgo := some 20, expiresInDays := none, targetFailed := false},
  {name := "hetzner-backups", display := "Hetzner – backup box", provider := .generic
   renew := "https://console.hetzner.cloud/"
   permissions := ["read & write"]
   maxAge := some "365d", targets := [target "backups/restic" "hcloud_token"]
   consumers := []
   rotatedDaysAgo := some 370, expiresInDays := none, targetFailed := true},
  {name := "tailscale-authkey", display := "Tailscale – auth key", provider := .generic
   renew := "https://login.tailscale.com/admin/settings/keys"
   permissions := ["reusable","tag:k8s"]
   maxAge := some "90d", targets := [target "net/tailscale" "authkey"]
   consumers := []
   rotatedDaysAgo := none, expiresInDays := none, targetFailed := false}]

def sampleKeys (now : Timestamp) : Option (List ApiKey) := samples.mapM (Sample.key now)

def resticReference : String := "openbao/secret/backups/restic#hcloud_token"

-- What `stores` gives to the rotator in the demo. The prober's answer is drawn up once,
-- when the process starts.
def demoWriter : MemoryWriter := MemoryWriter.default.fail resticReference "OpenBao write returned 403: permission denied"

def demoProbe (started : Timestamp) : Option (Except ProbeError (Option ProbeResult)) := do
  let expires ← (days 90).bind started.checkedAdd
  some (.ok (some ⟨some expires,some "demo-user"⟩))

def isStore : Effect → Bool
  | .write _ _ | .probe _ _ => true
  | _ => false

-- The stores of the demo, with the rest of the world beside them.
inductive Stocked (answer : Except ProbeError (Option ProbeResult)) (rest : Server ρ Answer) : Server (MemoryWriter × ρ) Answer where
  | written {writer : MemoryWriter} {spec : TargetSpec} : Stocked answer rest (writer,x) (.write spec value)
      (writer.write spec value).1 ((writer.write spec value).2,x)
  | probed {writer : MemoryWriter} : Stocked answer rest (writer,x) (.probe provider value) (StaticProber.probe answer provider value)
      (writer,x)
  | aside {writer : MemoryWriter} (elsewhere : isStore op = false) (served : rest x op reply y) :
      Stocked answer rest (writer,x) op reply (writer,y)

-- What is kept of a write.
def stored : Event Answer → Option (String × Nat)
  | ⟨.write spec value,.ok _⟩ => some (spec.reference,(asBytes value).length)
  | _ => none

-- Every answer is about the specs there were at the start, and a reference that fails
-- fails.
def Kept (repo : MemoryRepository) (writer : MemoryWriter) : Event Answer → Prop
  | ⟨.get name,answer⟩ => ∀ named : Named name, answer = some named → ∃ first, repo.get name = some first ∧ named.key.spec = first.key.spec
  | ⟨.write spec _,answer⟩ => (writer.failing.lookup spec.reference).isSome = true → ∃ message, answer = .error (.store message)
  | _ => True

theorem applyAll_spec (mutations : List (ApiKeyStatus → ApiKeyStatus)) (object : Named name) :
    (applyAll mutations object).key.spec = object.key.spec := by
  induction mutations generalizing object with
  | nil => rfl
  | cons mutate mutations ih => exact ih (object.updateStatus mutate)

theorem applyAll_keeps {inv : ApiKeyStatus → Prop} {mutations : List (ApiKeyStatus → ApiKeyStatus)} {object : Named name}
    (keeps : ∀ mutate ∈ mutations, ∀ status, inv status → inv (mutate status)) (start : inv object.status) :
    inv (applyAll mutations object).status := by
  induction mutations generalizing object with
  | nil => exact start
  | cons mutate mutations ih =>
    obtain ⟨first,others⟩ := List.forall_mem_cons.mp keeps
    exact ih others (first _ start)

theorem write_failing {writer : MemoryWriter} {spec : TargetSpec} :
    (writer.write spec value).2.failing = writer.failing ∧
    (writer.write spec value).2.writes = writer.writes ++ (stored ⟨.write spec value,(writer.write spec value).1⟩).toList ∧
    ((writer.failing.lookup spec.reference).isSome = true → ∃ message, (writer.write spec value).1 = .error (.store message)) ∧
    ∀ entry, stored ⟨.write spec value,(writer.write spec value).1⟩ = some entry → writer.failing.lookup entry.1 = none := by
  unfold MemoryWriter.write
  cases found : writer.failing.lookup spec.reference with
  | some message =>
    refine ⟨rfl,(List.append_nil _).symm,fun _ => ⟨message,rfl⟩,?_⟩
    intro entry kept
    cases kept
  | none =>
    refine ⟨rfl,rfl,(fun fails => by cases fails),?_⟩
    intro entry kept
    cases kept
    exact found

section Run
variable {ρ : Type} {answer : Except ProbeError (Option ProbeResult)} {rest : Server ρ Answer}

-- One request: what it is told, and what it leaves of the writer.
theorem stocked_step {s after : MemoryRepository × MemoryWriter × ρ} (served : Memory (Stocked answer rest) s op reply after) :
    Kept s.1 s.2.1 ⟨op,reply⟩ ∧ after.2.1.failing = s.2.1.failing ∧
    after.2.1.writes = s.2.1.writes ++ (stored ⟨op,reply⟩).toList ∧
    ∀ entry, stored ⟨op,reply⟩ = some entry → s.2.1.failing.lookup entry.1 = none := by
  cases served with
  | list | updateStatus | recordEvent => exact ⟨trivial,rfl,(List.append_nil _).symm,fun _ none => by cases none⟩
  | get =>
    refine ⟨?_,rfl,(List.append_nil _).symm,fun _ none => by cases none⟩
    intro named found
    exact ⟨named,found,rfl⟩
  | other elsewhere served =>
    cases served with
    | written =>
      obtain ⟨failing,writes,fails,kept⟩ := write_failing
      exact ⟨fails,failing,writes,kept⟩
    | probed => exact ⟨trivial,rfl,(List.append_nil _).symm,fun _ none => by cases none⟩
    | aside apart =>
      cases op with
      | write | probe => cases apart
      | get => cases elsewhere
      | _ => exact ⟨trivial,rfl,(List.append_nil _).symm,fun _ none => by cases none⟩

-- What is kept of an answer does not depend on when it was given.
theorem kept_earlier {repo later : MemoryRepository} {writer : MemoryWriter} {event : Event Answer}
    {mutations : String → List (ApiKeyStatus → ApiKeyStatus)} (kept : Kept later writer event) (same : ∀ name, later.get name = (repo.get name).map (applyAll (mutations name))) :
    Kept repo writer event := by
  obtain ⟨op,reply⟩ := event
  cases op with
  | get name =>
    intro named found
    obtain ⟨held,there,specs⟩ := kept named found
    rw [same,Option.map_eq_some_iff] at there
    obtain ⟨first,there,rfl⟩ := there
    exact ⟨first,there,specs.trans (applyAll_spec ..)⟩
  | _ => exact kept

theorem stocked_serves {s after : MemoryRepository × MemoryWriter × ρ} (path : Serves (Memory (Stocked answer rest)) s trace after) :
    (∀ event ∈ trace, Kept s.1 s.2.1 event) ∧ after.2.1.failing = s.2.1.failing ∧
    after.2.1.writes = s.2.1.writes ++ trace.filterMap stored ∧
    ∀ event ∈ trace, ∀ entry, stored event = some entry → s.2.1.failing.lookup entry.1 = none := by
  induction path with
  | nil => exact ⟨List.forall_mem_nil _,rfl,(List.append_nil _).symm,List.forall_mem_nil _⟩
  | @cons s op reply middle events after served rest ih =>
    obtain ⟨kept,failing,writes,fresh⟩ := stocked_step served
    obtain ⟨later,still,more,others⟩ := ih
    have same := fun name => (memory_served served).1 name
    refine ⟨List.forall_mem_cons.mpr ⟨kept,?_⟩,still.trans failing,?_,List.forall_mem_cons.mpr ⟨fresh,?_⟩⟩
    · intro event member
      have held := kept_earlier (later event member) same
      obtain ⟨op,reply⟩ := event
      cases op with
      | write =>
        unfold Kept at held ⊢
        rwa [failing] at held
      | _ => exact held
    · rw [more,writes,List.append_assoc,List.filterMap_cons]
      cases stored ⟨op,reply⟩ with
      | none => rfl
      | some entry => rfl
    · intro event member entry found
      have none := others event member entry found
      rwa [failing] at none

end Run

-- An invariant of the status of one name.
def OnName (name : String) (inv : ApiKeyStatus → Prop) : Effect → Prop
  | .updateStatus changed mutate => changed = name → ∀ status, inv status → inv (mutate status)
  | _ => True

theorem onName_quiet (name : String) (inv : ApiKeyStatus → Prop) (op : Effect) (quiet : updates op = false) : OnName name inv op := by
  cases op with
  | updateStatus => cases quiet
  | _ => trivial

-- The entries of completed rotations are known.
def RotatedOnly (known : HistoryEntry → Prop) (status : ApiKeyStatus) : Prop := ∀ entry ∈ status.history, entry.kind = .rotated → known entry

-- A key with a target that fails is never rotated, whatever else it has.
theorem failing_updating {repo : MemoryRepository} {writer : MemoryWriter} {first : Named name} {known : HistoryEntry → Prop}
    (there : repo.get name = some first) (listed : spec ∈ first.key.spec.targets)
    (fails : (writer.failing.lookup spec.reference).isSome = true) : Updating (Kept repo writer) (OnName name (RotatedOnly known)) := by
  intro other req checks probe written now named got _ _ told all _ same status kept
  subst same
  obtain ⟨held,found,specs⟩ := got named rfl
  rw [there,Option.some.injEq] at found
  subst held
  rw [← specs,← all] at listed
  obtain ⟨entry,tried,rfl⟩ := List.mem_map.mp listed
  obtain ⟨message,answered⟩ := told entry tried fails
  have incomplete : allWritten (written.map outcomeOf) = false := by
    rw [allWritten,List.all_eq_false]
    refine ⟨_,List.mem_map_of_mem tried,?_⟩
    simp [outcomeOf,answered,writeError]
  rw [RotationTraces.mutationOf,submitMutation,incomplete]
  exact kept

theorem record_onName (other : String) (actor : Actor) (rotatedAt : Timestamp) (expiresAt : Option Timestamp) :
    OnName name (RotatedOnly known) (.updateStatus other (recordMutation actor rotatedAt expiresAt)) := by
  intro _ status kept entry member rotated
  rcases List.mem_cons.mp (List.mem_of_mem_take member) with rfl | earlier
  · cases rotated
  · exact kept entry earlier rotated

section Stack
variable [UrlCrate] [Format] [Crates] {ι ρ : Type} [DecidableEq ι] {state : AppState} {requests : ι → Request}
  {answer : Except ProbeError (Option ProbeResult)} {rest : Server ρ Answer} {repo after : MemoryRepository} {writer final : MemoryWriter} {x y : ρ}

-- The objects of the repository, as they were at the start but for their statuses.
theorem stack_objects (path : Runs (Memory (Stocked answer rest)) (fun i => router state (requests i)) (repo,(writer,x)) log remainder (after,(final,y)))
    (start : ∀ name object, repo.get name = some object → WellKept object.status) :
    ∀ name object, after.get name = some object → ∃ first, repo.get name = some first ∧ object.key.spec = first.key.spec ∧
      WellKept object.status ∧ ∀ spec ∈ first.key.spec.targets, (writer.failing.lookup spec.reference).isSome = true →
        ∀ entry ∈ object.status.history, entry.kind = .rotated → entry ∈ first.status.history := by
  intro name object found
  have objects := (memory_serves path.serves).1 name
  rw [found] at objects
  obtain ⟨first,there,rfl⟩ := Option.map_eq_some_iff.mp objects.symm
  refine ⟨first,there,applyAll_spec ..,?_,?_⟩
  · apply applyAll_keeps _ (start name first there)
    intro mutate asked
    obtain ⟨⟨op,reply⟩,member,updated⟩ := List.mem_filterMap.mp asked
    obtain ⟨⟨i,_⟩,within,rfl⟩ := List.mem_map.mp member
    obtain ⟨before,later,rfl⟩ := List.append_of_mem within
    have keeps : Keeps WellKept op := path.follows (router_walk keeps_walk)
    cases op with
    | updateStatus other change =>
      obtain ⟨_,rfl⟩ : other = name ∧ change = mutate := by simpa [Repository.mutationOf] using updated
      exact keeps
    | _ => cases updated
  · intro spec listed fails
    change RotatedOnly (fun entry => entry ∈ first.status.history) (applyAll _ first).status
    apply applyAll_keeps _ fun entry member _ => member
    intro mutate asked
    obtain ⟨⟨op,reply⟩,member,updated⟩ := List.mem_filterMap.mp asked
    obtain ⟨⟨i,_⟩,within,rfl⟩ := List.mem_map.mp member
    obtain ⟨before,later,rfl⟩ := List.append_of_mem within
    have held := path.follows (router_held (onName_quiet name _) (fun other actor rotatedAt expiresAt => record_onName other actor rotatedAt expiresAt) (failing_updating there listed fails)
      : Follows (Held (Kept repo writer) (OnName name (RotatedOnly fun entry => entry ∈ first.status.history))) [] (router state (requests i)))
    have kept := held fun event seen => (stocked_serves path.serves).1 event
      (List.mem_map_of_mem (f := Prod.snd) (List.mem_append_left _ (mem_own.mp seen)))
    cases op with
    | updateStatus other change =>
      obtain ⟨same,rfl⟩ : other = name ∧ change = mutate := by simpa [Repository.mutationOf] using updated
      exact kept same
    | _ => cases updated

end Stack

-- The status of a sample is one that a rotation could have left.
theorem sample_wellKept {s : Sample} (distinct : (s.targets.map TargetSpec.reference).Nodup) (rotatedAt : Timestamp)
    (expires : Option Timestamp) : WellKept (s.status rotatedAt expires) := by
  let entry : HistoryEntry := ⟨rotatedAt,david,if s.targets.isEmpty then .recorded else .rotated,expires⟩
  have expiry : entry.expiresAt = (expiryOf expires none).1 := by cases expires <;> rfl
  have same : recordOf (s.status rotatedAt expires) = rotated blank entry (expiryOf expires none).2 expires none := by
    cases expires <;> rfl
  refine ⟨⟨[entry],?_⟩,?_,?_⟩
  · rw [same]
    exact rotated_coherent blank_coherent entry expiry fun _ => rfl
  · simpa [Once,Sample.status,Function.comp_def] using distinct
  · intro t member
    obtain ⟨spec,_,rfl⟩ := List.mem_map.mp member
    cases failed : s.targetFailed with
    | false => simp
    | true => simp

theorem key_parts {s : Sample} (found : s.key now = some key) :
    key.name = s.name ∧ key.spec = s.spec ∧
    (key.status = none ∨ ∃ rotatedAt expires, key.status = some (s.status rotatedAt expires)) := by
  unfold Sample.key at found
  cases ago : s.rotatedDaysAgo with
  | none =>
    rw [ago] at found
    cases found
    exact ⟨rfl,rfl,.inl rfl⟩
  | some n =>
    simp only [ago,Option.bind_eq_bind,Option.bind_eq_some_iff,Option.some.injEq] at found
    obtain ⟨rotatedAt,_,expires,_,rfl⟩ := found
    exact ⟨rfl,rfl,.inr ⟨rotatedAt,expires,rfl⟩⟩

theorem samples_apart : ∀ s ∈ samples, (s.targets.map TargetSpec.reference).Nodup := by decide

theorem samples_named : (samples.map Sample.name).Nodup := by decide

theorem keys_parts {ss : List Sample} (apart : ∀ s ∈ ss, (s.targets.map TargetSpec.reference).Nodup)
    (built : ss.mapM (Sample.key now) = some keys) :
    keys.map ApiKey.name = ss.map Sample.name ∧ ∀ key ∈ keys, WellKept (key.status.getD {}) := by
  induction ss generalizing keys with
  | nil =>
    cases built
    exact ⟨rfl,List.forall_mem_nil _⟩
  | cons s ss ih =>
    rw [List.mapM_cons] at built
    obtain ⟨key,first,built⟩ := Option.bind_eq_some_iff.mp built
    obtain ⟨others,rest,same⟩ := Option.bind_eq_some_iff.mp built
    cases same
    obtain ⟨one,later⟩ := List.forall_mem_cons.mp apart
    obtain ⟨names,kept⟩ := ih later rest
    obtain ⟨named,_,status⟩ := key_parts first
    refine ⟨by rw [List.map_cons,List.map_cons,named,names],List.forall_mem_cons.mpr ⟨?_,kept⟩⟩
    rcases status with none | ⟨rotatedAt,expires,some⟩
    · rw [none]
      exact wellKept_lasting.unwritten
    · rw [some]
      exact sample_wellKept one rotatedAt expires

theorem mem_inserted {keys : List ApiKey} {repo : MemoryRepository} (distinct : (keys.map ApiKey.name).Nodup) (key : ApiKey) :
    key ∈ (keys.foldl MemoryRepository.insert repo).list ↔ key ∈ keys ∨ key ∈ repo.list ∧ key.name ∉ keys.map ApiKey.name := by
  induction keys generalizing repo with
  | nil => simp
  | cons head rest ih =>
    obtain ⟨fresh,others⟩ := List.nodup_cons.mp distinct
    have placed : key ∈ (repo.insert head).list ↔ key = head ∨ key ∈ repo.list ∧ key.name ≠ head.name := mem_place repo.ordered
    rw [List.foldl_cons,ih others,placed,List.map_cons,List.mem_cons,List.mem_cons]
    constructor
    · intro found
      rcases found with later | ⟨rfl | ⟨member,different⟩,apart⟩
      · exact .inl (.inr later)
      · exact .inl (.inl rfl)
      · exact .inr ⟨member,not_or.mpr ⟨different,apart⟩⟩
    · intro found
      rcases found with (rfl | later) | ⟨member,apart⟩
      · exact .inr ⟨.inl rfl,fresh⟩
      · exact .inl later
      · obtain ⟨different,unlisted⟩ := not_or.mp apart
        exact .inr ⟨.inr ⟨member,different⟩,unlisted⟩

theorem mem_new {keys : List ApiKey} (distinct : (keys.map ApiKey.name).Nodup) (key : ApiKey) :
    key ∈ (MemoryRepository.new keys).list ↔ key ∈ keys := by
  rw [MemoryRepository.new,mem_inserted distinct]
  simp [MemoryRepository.default,MemoryRepository.list]

section Demonstration
variable [UrlCrate] [Format] [Crates] {ι ρ : Type} [DecidableEq ι] {state : AppState} {requests : ι → Request}
  {answer : Except ProbeError (Option ProbeResult)} {rest : Server ρ Answer} {repo : MemoryRepository} {writer : MemoryWriter} {x y : ρ}

-- The demo as it is started, and whatever its visitors do to it: every sample is still
-- there with its spec, in a state that a real key could be in; a value that was submitted
-- leaves its length behind, and the key whose target fails is never rotated.
theorem demo_kept (started : sampleKeys now = some keys)
    (path : Runs (Memory (Stocked answer rest)) (fun i => router state (requests i)) (.new keys,(demoWriter,x)) log remainder (repo,(writer,y))) :
    (∀ first ∈ keys, ∃ key ∈ repo.list, key.name = first.name ∧ key.spec = first.spec) ∧
    (∀ key ∈ repo.list, ∃ first ∈ keys, key.name = first.name ∧ key.spec = first.spec ∧ WellKept (key.status.getD {}) ∧
      (resticReference ∈ key.spec.targets.map TargetSpec.reference → ∀ entry ∈ (key.status.getD {}).history,
        entry.kind = .rotated → entry ∈ (first.status.getD {}).history)) ∧
    writer.writes = (log.map Prod.snd).filterMap stored ∧ ∀ entry ∈ writer.writes, entry.1 ≠ resticReference := by
  obtain ⟨names,kept⟩ := keys_parts samples_apart started
  have distinct : (keys.map ApiKey.name).Nodup := names ▸ samples_named
  have start : ∀ name object, (MemoryRepository.new keys).get name = some object → WellKept object.status :=
    fun name object found => kept object.key ((mem_new distinct _).mp ((MemoryRepository.get_exact _).mp found))
  obtain ⟨_,_,writes,fresh⟩ := stocked_serves path.serves
  have all : writer.writes = (log.map Prod.snd).filterMap stored := writes
  refine ⟨?_,?_,all,?_⟩
  · intro first member
    have there : (MemoryRepository.new keys).get first.name = some ⟨first,rfl⟩ :=
      (MemoryRepository.get_exact _).mpr ((mem_new distinct _).mpr member)
    have objects := (memory_serves path.serves).1 first.name
    rw [there,Option.map_some] at objects
    exact ⟨_,(MemoryRepository.get_exact _).mp objects,Named.named _,applyAll_spec ..⟩
  · intro key member
    have found : repo.get key.name = some ⟨key,rfl⟩ := (MemoryRepository.get_exact _).mpr member
    obtain ⟨first,there,specs,well,never⟩ := stack_objects path start key.name ⟨key,rfl⟩ found
    refine ⟨first.key,(mem_new distinct _).mp ((MemoryRepository.get_exact _).mp there),first.named.symm,specs,well,?_⟩
    intro listed
    obtain ⟨spec,member,reference⟩ := List.mem_map.mp listed
    apply never spec (specs ▸ member)
    rw [reference]
    decide
  · intro entry member same
    rw [all] at member
    obtain ⟨event,within,found⟩ := List.mem_filterMap.mp member
    have missing := fresh event within entry found
    rw [same] at missing
    have fails : demoWriter.failing.lookup resticReference ≠ none := by decide
    exact fails missing

end Demonstration

-- Two visitors of a demo that was started at the epoch, one for a key whose target takes
-- the value and one for the key whose target does not.
@[reducible] def sampleUrls : UrlCrate where
  escaped _ := false
  parse s := if s = "https://github.com/settings/personal-access-tokens" then some ⟨"https","/settings/personal-access-tokens",s⟩
    else if s = "https://console.hetzner.cloud/" then some ⟨"https","/",s⟩ else none

def demoVisits (renovate : Bool) : Request :=
  {Admission.visits .submit with path := if renovate then "/keys/renovate-github/rotate" else "/keys/hetzner-backups/rotate"}

def demoAnswer : Except ProbeError (Option ProbeResult) := ((demoProbe .epoch).getD (.ok none))

def demoRespond (s : MemoryRepository × MemoryWriter × Unit) : (op : Effect) → Option (Answer op × MemoryRepository × MemoryWriter × Unit)
  | .now => some (.epoch,s)
  | .countRotation _ => some ((),s)
  | .countProbe _ _ => some ((),s)
  | .write spec value => some ((s.2.1.write spec value).1,(s.1,((s.2.1.write spec value).2,())))
  | .probe provider value => some (StaticProber.probe demoAnswer provider value,s)
  | .get name => some (s.1.get name,s)
  | .updateStatus name mutate => some ((s.1.updateStatus name mutate).1,((s.1.updateStatus name mutate).2,s.2))
  | .recordEvent key event => some ((),(s.1.recordEvent key event,s.2))
  | _ => none

theorem demoRespond_serves (s : MemoryRepository × MemoryWriter × Unit) (op : Effect) (reply : Answer op)
    (after : MemoryRepository × MemoryWriter × Unit) (found : demoRespond s op = some (reply,after)) :
    Memory (Stocked demoAnswer fun _ _ _ _ => True) s op reply after := by
  cases op with
  | now | countRotation | countProbe =>
    cases found
    exact .other rfl (.aside rfl trivial)
  | write =>
    cases found
    exact .other rfl .written
  | probe =>
    cases found
    exact .other rfl .probed
  | get => cases found; exact .get
  | updateStatus => cases found; exact .updateStatus
  | recordEvent => cases found; exact .recordEvent
  | _ => cases found

def demoKeys : List ApiKey := (sampleKeys .epoch).getD []

def demoRun :=
  let _ := Admission.visitCrates
  let _ := sampleUrls
  let _ := epochFormat
  schedule demoRespond (List.replicate 14 true ++ List.replicate 12 false)
    (fun renovate => router Counters.openDoor (demoVisits renovate)) (MemoryRepository.new demoKeys,(demoWriter,()))

theorem demoRun_kept : (demoRun.2.2.1.get "renovate-github").map (fun object => object.status.history.length) = some 2 ∧
    (demoRun.2.2.1.get "hetzner-backups").map (fun object => object.status.targets.map TargetStatus.message) =
      some [some "OpenBao write returned 403: permission denied"] ∧
    demoRun.2.2.2.1.writes = [("openbao/secret/ci/renovate#token",1)] ∧
    ∀ key ∈ demoRun.2.2.1.list, WellKept (key.status.getD {}) := by
  let _ := Admission.visitCrates
  let _ := sampleUrls
  let _ := epochFormat
  have path := schedule_runs demoRespond_serves (List.replicate 14 true ++ List.replicate 12 false)
    (fun renovate => router Counters.openDoor (demoVisits renovate)) (MemoryRepository.new demoKeys,(demoWriter,()))
  have same : schedule demoRespond (List.replicate 14 true ++ List.replicate 12 false)
    (fun renovate => router Counters.openDoor (demoVisits renovate)) (MemoryRepository.new demoKeys,(demoWriter,())) = demoRun := rfl
  rw [same] at path
  clear same
  have started : sampleKeys .epoch = some demoKeys := by
    have isSome : (sampleKeys .epoch).isSome = true := by decide +kernel
    obtain ⟨keys,found⟩ := Option.isSome_iff_exists.mp isSome
    rw [demoKeys,found,Option.getD_some]
  refine ⟨by decide +kernel,by decide +kernel,by decide +kernel,?_⟩
  generalize demoRun = final at path ⊢
  obtain ⟨log,remainder,repo,writer,_⟩ := final
  obtain ⟨_,kept,_,_⟩ := demo_kept started path
  intro key member
  obtain ⟨_,_,_,_,well,_⟩ := kept key member
  exact well

end YouSpinMe.Demo
