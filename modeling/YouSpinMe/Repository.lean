import YouSpinMe.LayeredRun
import YouSpinMe.KeyedList
import YouSpinMe.Kube
import Mathlib.Logic.Relation
import Mathlib.Data.String.Basic

namespace YouSpinMe.Repository
open RequestProgram SharedRun LayeredRun KeyedList Effects Crd Kube

-- The requests that go to the repository; the others are someone else's to answer.
def isRepository : Effect → Bool
  | .list | .get _ | .updateStatus _ _ | .recordEvent _ _ => true
  | _ => false

-- What a repository is for: the object of every name, and the objects it was before,
-- which a cache may still hand out.
structure Registry where
  current : (name : String) → Option (Named name)
  past : (name : String) → List (Named name)

namespace Registry

def put (reg : Registry) (name : String) (object : Named name) : Registry where
  current := Function.update reg.current name (some object)
  past := Function.update reg.past name (object :: reg.past name)

def drop (reg : Registry) (name : String) : Registry := {reg with current := Function.update reg.current name none}

end Registry

-- What others do to the objects at any time: the controller's patches, and the specs
-- that come from git. The status of an object is written by this application alone.
inductive Outside : Registry → Registry → Prop where
  | patched {reg : Registry} {object : Named name} (there : reg.current name = some object) (patch : StatusPatch) :
      Outside reg (reg.put name (object.updateStatus patch.merge))
  | applied {reg : Registry} {object : Named name} (there : reg.current name = some object) (next : Named name) (kept : next.key.status = object.key.status) :
      Outside reg (reg.put name next)
  | created {reg : Registry} (missing : reg.current name = none) (object : Named name) (bare : object.key.status = none) :
      Outside reg (reg.put name object)
  | deleted {reg : Registry} : Outside reg (reg.drop name)

section Servers
variable {ρ : Type}

-- One request, with the rest of the world beside the repository. A mutation is applied
-- to the current object once, or not at all; whether it was is unclear only when the
-- answer is an error of the connection.
inductive Does (rest : Server ρ Answer) : Server (Registry × ρ) Answer where
  | updated {reg : Registry} {object : Named name} (there : reg.current name = some object) :
      Does rest (reg,x) (.updateStatus name mutate) (.ok ((object.updateStatus mutate).versioned version))
        (reg.put name (object.updateStatus mutate),x)
  | unsure {reg : Registry} {object : Named name} (there : reg.current name = some object) :
      Does rest (reg,x) (.updateStatus name mutate) (.error (.kube detail))
        (reg.put name (object.updateStatus mutate),x)
  | conflict : Does rest (reg,x) (.updateStatus name mutate) (.error .conflict) (reg,x)
  | missing {reg : Registry} (missing : reg.current name = none) :
      Does rest (reg,x) (.updateStatus name mutate) (.error (.notFound name)) (reg,x)
  | failed : Does rest (reg,x) (.updateStatus name mutate) (.error (.kube detail)) (reg,x)
  | got {reg : Registry} {answer : Option (Named name)}
      (known : ∀ object, answer = some object → ∃ held ∈ reg.past name, ∃ version, object = held.versioned version) :
      Does rest (reg,x) (.get name) answer (reg,x)
  | listed {reg : Registry} {keys : List ApiKey} (distinct : (keys.map ApiKey.name).Nodup)
      (known : ∀ key ∈ keys, ∃ held ∈ reg.past key.name, ∃ version, key = (held.versioned version).key) :
      Does rest (reg,x) .list keys (reg,x)
  | noted : Does rest (reg,x) (.recordEvent key event) () (reg,x)
  | other (elsewhere : isRepository op = false) (served : rest x op answer y) : Does rest (reg,x) op answer (reg,y)

def Spec (rest : Server ρ Answer) : Server (Registry × ρ) Answer := fun s op answer after =>
  ∃ middle, Relation.ReflTransGen Outside s.1 middle ∧ Does rest (middle,s.2) op answer after

variable {rest : Server ρ Answer} {inv : ApiKeyStatus → Prop}

-- What holds of the status of every object, those of the past included.
def Registry.All (reg : Registry) (inv : ApiKeyStatus → Prop) : Prop :=
  (∀ name object, reg.current name = some object → inv object.status) ∧
  ∀ name, ∀ object ∈ reg.past name, inv object.status

theorem put_all (all : Registry.All reg inv) (object : Named name) (holds : inv object.status) :
    (reg.put name object).All inv := by
  refine ⟨?_,?_⟩
  · intro other held found
    by_cases same : other = name
    · subst same
      simp only [Registry.put,Function.update_self,Option.some.injEq] at found
      exact found ▸ holds
    · simp only [Registry.put,Function.update_of_ne same] at found
      exact all.1 other held found
  · intro other held member
    by_cases same : other = name
    · subst same
      simp only [Registry.put,Function.update_self] at member
      rcases List.mem_cons.mp member with rfl | earlier
      · exact holds
      · exact all.2 other held earlier
    · simp only [Registry.put,Function.update_of_ne same] at member
      exact all.2 other held member

theorem drop_all (all : Registry.All reg inv) (name : String) : (reg.drop name).All inv := by
  refine ⟨?_,all.2⟩
  intro other held found
  by_cases same : other = name
  · subst same
    simp [Registry.drop] at found
  · simp only [Registry.drop,Function.update_of_ne same] at found
    exact all.1 other held found

-- A property of statuses that holds of an unwritten one and that no patch breaks.
structure Lasting (inv : ApiKeyStatus → Prop) : Prop where
  unwritten : inv {}
  patched : ∀ status (patch : StatusPatch), inv status → inv (patch.merge status)

def Keeps (inv : ApiKeyStatus → Prop) : Effect → Prop
  | .updateStatus _ mutate => ∀ status, inv status → inv (mutate status)
  | _ => True

theorem outside_all (lasting : Lasting inv) (step : Outside reg after) (all : reg.All inv) : after.All inv := by
  cases step with
  | @patched _ name object there patch => exact put_all all _ (lasting.patched _ _ (all.1 _ _ there))
  | @applied _ name object there next kept =>
    apply put_all all
    rw [Named.status,kept]
    exact all.1 _ _ there
  | created missing object bare =>
    apply put_all all
    rw [Named.status,bare]
    exact lasting.unwritten
  | deleted => exact drop_all all _

theorem outsides_all (lasting : Lasting inv) (steps : Relation.ReflTransGen Outside reg after) (all : reg.All inv) :
    after.All inv := by
  induction steps with
  | refl => exact all
  | tail _ step ih => exact outside_all lasting step ih

theorem spec_all (lasting : Lasting inv) (served : Spec rest s op answer after) (keeps : Keeps inv op)
    (all : s.1.All inv) : after.1.All inv := by
  obtain ⟨middle,others,does⟩ := served
  have between := outsides_all lasting others all
  cases does with
  | updated there | unsure there => exact put_all between _ (keeps _ (between.1 _ _ there))
  | conflict | missing | failed | got | listed | noted | other => exact between

theorem serves_all (lasting : Lasting inv) (path : Serves (Spec rest) s events after)
    (keeps : ∀ event ∈ events, Keeps inv event.op) (all : s.1.All inv) : after.1.All inv := by
  induction path with
  | nil => exact all
  | cons served _ ih =>
    obtain ⟨first,later⟩ := List.forall_mem_cons.mp keeps
    exact ih later (spec_all lasting served first all)

end Servers

-- `MemoryRepository`: a BTreeMap of the objects by their names, and the events.
structure MemoryRepository where
  keys : List ApiKey
  ordered : Ordered ApiKey.name keys
  events : List (String × AuditEvent)

def find (name : String) : List ApiKey → Option (Named name)
  | [] => none
  | key :: rest => if named : key.name = name then some ⟨key,named⟩ else find name rest

namespace MemoryRepository

def default : MemoryRepository := ⟨[],ordered_nil,[]⟩

def insert (repo : MemoryRepository) (key : ApiKey) : MemoryRepository where
  keys := place ApiKey.name key repo.keys
  ordered := place_ordered repo.ordered key
  events := repo.events

def new (keys : List ApiKey) : MemoryRepository := keys.foldl insert default

def list (repo : MemoryRepository) : List ApiKey := repo.keys
def get (repo : MemoryRepository) (name : String) : Option (Named name) := find name repo.keys

def updateStatus (repo : MemoryRepository) (name : String) (mutate : ApiKeyStatus → ApiKeyStatus) :
    Except RepoError (Named name) × MemoryRepository :=
  match repo.get name with
  | none => (.error (.notFound name),repo)
  | some current =>
    let updated := current.updateStatus mutate
    (.ok updated,repo.insert updated.key)

def recordEvent (repo : MemoryRepository) (key : ApiKey) (event : AuditEvent) : MemoryRepository :=
  {repo with events := repo.events ++ [(key.name,event)]}

end MemoryRepository

theorem find_exact {keys : List ApiKey} (ordered : Ordered ApiKey.name keys) {object : Named name} :
    find name keys = some object ↔ object.key ∈ keys := by
  induction keys with
  | nil => simp [find]
  | cons key rest ih =>
    unfold find
    split
    · rename_i named
      constructor
      · intro found
        cases found
        exact List.mem_cons_self
      · intro member
        have equal := ordered.same member List.mem_cons_self (object.named.trans named.symm)
        exact congrArg some (Named.same equal.symm)
    · rename_i different
      rw [ih (ordered_cons.mp ordered).2,List.mem_cons]
      constructor
      · intro member
        exact .inr member
      · intro found
        rcases found with same | member
        · exact absurd (same ▸ object.named) different
        · exact member

namespace MemoryRepository

theorem get_exact (repo : MemoryRepository) {object : Named name} : repo.get name = some object ↔ object.key ∈ repo.list :=
  find_exact repo.ordered

theorem get_insert (repo : MemoryRepository) (object : Named name) (other : String) :
    (repo.insert object.key).get other = Function.update repo.get name (some object) other := by
  apply Option.ext
  intro held
  rw [get_exact]
  show held.key ∈ place ApiKey.name object.key repo.keys ↔ _
  rw [mem_place repo.ordered,held.named,object.named]
  by_cases same : other = name
  · subst same
    simp only [ne_eq,not_true_eq_false,and_false,or_false,Function.update_self,Option.some.injEq]
    exact ⟨fun equal => (Named.same equal).symm,fun equal => equal ▸ rfl⟩
  · rw [Function.update_of_ne same,get_exact]
    constructor
    · intro found
      rcases found with equal | ⟨member,_⟩
      · exact absurd (held.named.symm.trans ((congrArg ApiKey.name equal).trans object.named)) same
      · exact member
    · intro member
      exact .inr ⟨member,same⟩

theorem updateStatus_missing {repo : MemoryRepository} (missing : repo.get name = none)
    (mutate : ApiKeyStatus → ApiKeyStatus) : repo.updateStatus name mutate = (.error (.notFound name),repo) := by
  simp [updateStatus,missing]

theorem updateStatus_found {repo : MemoryRepository} (found : repo.get name = some current)
    (mutate : ApiKeyStatus → ApiKeyStatus) : repo.updateStatus name mutate =
      (.ok (current.updateStatus mutate),repo.insert (current.updateStatus mutate).key) := by
  simp [updateStatus,found]

-- The registry that a repository starts out as: its cache is never out of date.
def registry (repo : MemoryRepository) : Registry := ⟨repo.get,fun name => (repo.get name).toList⟩

end MemoryRepository

section Memory
variable {ρ : Type} {rest : Server ρ Answer}

inductive Memory (rest : Server ρ Answer) : Server (MemoryRepository × ρ) Answer where
  | list {repo : MemoryRepository} : Memory rest (repo,x) .list repo.list (repo,x)
  | get {repo : MemoryRepository} : Memory rest (repo,x) (.get name) (repo.get name) (repo,x)
  | updateStatus {repo : MemoryRepository} : Memory rest (repo,x) (.updateStatus name mutate)
      (repo.updateStatus name mutate).1 ((repo.updateStatus name mutate).2,x)
  | recordEvent {repo : MemoryRepository} :
      Memory rest (repo,x) (.recordEvent key event) () (repo.recordEvent key event,x)
  | other (elsewhere : isRepository op = false) (served : rest x op answer y) : Memory rest (repo,x) op answer (repo,y)

structure Mirrors (repo : MemoryRepository) (reg : Registry) : Prop where
  current : ∀ name, reg.current name = repo.get name
  held : ∀ name object, repo.get name = some object → object ∈ reg.past name

-- The repository mirrors the registry, and the rest is the same in both.
def Beside (s : MemoryRepository × ρ) (t : Registry × ρ) : Prop := Mirrors s.1 t.1 ∧ t.2 = s.2

theorem insert_mirrors {repo : MemoryRepository} (mirrors : Mirrors repo reg) (object : Named name) :
    Mirrors (repo.insert object.key) (reg.put name object) := by
  refine ⟨?_,?_⟩
  · intro other
    rw [MemoryRepository.get_insert]
    simp only [Registry.put,← funext mirrors.current]
  · intro other held found
    rw [MemoryRepository.get_insert] at found
    by_cases same : other = name
    · subst same
      rw [Function.update_self,Option.some.injEq] at found
      simp [Registry.put,found]
    · rw [Function.update_of_ne same] at found
      simp only [Registry.put,Function.update_of_ne same]
      exact mirrors.held other held found

theorem memory_does {repo : MemoryRepository} (mirrors : Mirrors repo reg) (served : Memory rest (repo,x) op answer after) :
    ∃ final, Does rest (reg,x) op answer (final,after.2) ∧ Mirrors after.1 final := by
  cases served with
  | list =>
    refine ⟨reg,.listed repo.ordered.nodup ?_,mirrors⟩
    intro key member
    exact ⟨⟨key,rfl⟩,mirrors.held _ _ (repo.get_exact.mpr member),key.metadata.resourceVersion,rfl⟩
  | @get name =>
    refine ⟨reg,.got ?_,mirrors⟩
    intro object found
    exact ⟨object,mirrors.held _ _ found,_,object.versioned_same.symm⟩
  | @updateStatus _ name mutate =>
    cases found : repo.get name with
    | none =>
      rw [MemoryRepository.updateStatus_missing found]
      exact ⟨reg,.missing ((mirrors.current name).trans found),mirrors⟩
    | some current =>
      rw [MemoryRepository.updateStatus_found found]
      refine ⟨_,?_,insert_mirrors mirrors (current.updateStatus mutate)⟩
      exact .updated ((mirrors.current name).trans found)
  | recordEvent => exact ⟨reg,.noted,⟨mirrors.current,mirrors.held⟩⟩
  | other elsewhere served => exact ⟨reg,.other elsewhere served,mirrors⟩

-- The mutation that an event asks for on the object of a name.
def mutationOf (name : String) : Event Answer → Option (ApiKeyStatus → ApiKeyStatus)
  | ⟨.updateStatus other mutate,_⟩ => if other = name then some mutate else none
  | _ => none

def applyAll (mutations : List (ApiKeyStatus → ApiKeyStatus)) (object : Named name) : Named name :=
  mutations.foldl Named.updateStatus object

theorem applyAll_nil (held : Option (Named name)) : held = held.map (applyAll []) := by
  cases held with
  | none => rfl
  | some object => rfl

-- Everything a served request leaves behind.
theorem memory_served {repo after : MemoryRepository} (served : Memory rest (repo,x) op answer (after,y)) :
    (∀ name, after.get name = (repo.get name).map (applyAll (mutationOf name ⟨op,answer⟩).toList)) ∧
    after.events = repo.events ++ auditOf [⟨op,answer⟩] := by
  have idle : ∀ name, repo.get name = (repo.get name).map (applyAll []) := fun _ => applyAll_nil _
  cases served with
  | list | get => exact ⟨idle,(List.append_nil _).symm⟩
  | @updateStatus _ name mutate =>
    refine ⟨?_,?_⟩
    · intro other
      by_cases same : name = other
      · subst same
        cases found : repo.get name with
        | none => simp [MemoryRepository.updateStatus_missing found,found]
        | some current =>
          rw [MemoryRepository.updateStatus_found found]
          simp [MemoryRepository.get_insert,mutationOf,applyAll]
      · have unasked : mutationOf other ⟨.updateStatus name mutate,(repo.updateStatus name mutate).1⟩ = none := by
          simp [mutationOf,same]
        rw [unasked]
        cases found : repo.get name with
        | none =>
          rw [MemoryRepository.updateStatus_missing found]
          exact idle other
        | some current =>
          rw [MemoryRepository.updateStatus_found found,MemoryRepository.get_insert,Function.update_of_ne (Ne.symm same)]
          exact idle other
    · show (repo.updateStatus name mutate).2.events = repo.events ++ []
      rw [List.append_nil]
      cases found : repo.get name with
      | none => rw [MemoryRepository.updateStatus_missing found]
      | some current =>
        rw [MemoryRepository.updateStatus_found found]
        rfl
  | recordEvent => exact ⟨idle,rfl⟩
  | other elsewhere served =>
    cases op with
    | updateStatus | recordEvent => cases elsewhere
    | _ => exact ⟨idle,(List.append_nil _).symm⟩

def refusals : Event Answer → Option String
  | ⟨.updateStatus name _,.error _⟩ => some name
  | _ => none

theorem memory_refuses {repo after : MemoryRepository} (served : Memory rest (repo,x) op answer (after,y))
    (refused : refusals ⟨op,answer⟩ = some name) : repo.get name = none := by
  cases served with
  | list | get | recordEvent => cases refused
  | @updateStatus _ other mutate =>
    cases found : repo.get other with
    | none =>
      simp only [MemoryRepository.updateStatus_missing found,refusals,Option.some.injEq] at refused
      exact refused ▸ found
    | some current => simp [MemoryRepository.updateStatus_found found,refusals] at refused
  | other elsewhere served =>
    cases op with
    | updateStatus => cases elsewhere
    | _ => cases refused

theorem memory_serves {start final : MemoryRepository × ρ} (path : Serves (Memory rest) start events final) :
    (∀ name, final.1.get name = (start.1.get name).map (applyAll (events.filterMap (mutationOf name)))) ∧
    final.1.events = start.1.events ++ auditOf events ∧
    ∀ event ∈ events, ∀ name, refusals event = some name → start.1.get name = none := by
  induction path with
  | nil =>
    exact ⟨fun _ => applyAll_nil _,(List.append_nil _).symm,fun _ member => nomatch member⟩
  | @cons s op answer middle events final served rest ih =>
    obtain ⟨objects,written,refused⟩ := ih
    obtain ⟨object,noted⟩ := memory_served served
    refine ⟨?_,?_,?_⟩
    · intro name
      rw [objects name,object name,Option.map_map]
      congr 1
      funext held
      cases asked : mutationOf name ⟨op,answer⟩ with
      | none => simp [asked,applyAll]
      | some mutate => simp [asked,applyAll]
    · rw [written,noted,List.append_assoc]
      simp [auditOf,← List.filterMap_append]
    · intro event member name found
      rcases List.mem_cons.mp member with rfl | later
      · exact memory_refuses served found
      · have missing := refused event later name found
        rw [object name,Option.map_eq_none_iff] at missing
        exact missing

variable {ι : Type} [DecidableEq ι] {α : ι → Type} {clients : (i : ι) → App (α i)}

theorem memory_runs {repo after : MemoryRepository} {x y : ρ}
    (path : Runs (Memory rest) clients (repo,x) log remainder (after,y)) :
    ∃ final, Runs (Spec rest) clients (repo.registry,x) log remainder (final,y) ∧ Mirrors after final := by
  have started : Mirrors repo repo.registry := by
    refine ⟨fun _ => rfl,?_⟩
    intro name object found
    simp [MemoryRepository.registry,found]
  have step : ∀ s t op answer next, Beside s t → Memory rest s op answer next →
      ∃ final, Spec rest t op answer final ∧ Beside next final := by
    intro s t op answer next still served
    obtain ⟨final,does,kept⟩ := memory_does still.1 served
    refine ⟨(final,next.2),⟨t.1,.refl,?_⟩,kept,rfl⟩
    rwa [still.2]
  have start : Beside (repo,x) (repo.registry,x) := ⟨started,rfl⟩
  obtain ⟨final,runs,mirrors,same⟩ := simulate_runs Beside step path start
  refine ⟨final.1,?_,mirrors⟩
  rw [show (final.1,y) = final from Prod.ext rfl same.symm]
  exact runs

-- In memory, every interleaving of any number of clients is a run of the abstract
-- repository. No update of a key that is there is refused, none is lost or applied
-- twice, and the events are the recorded ones in their order.
theorem memory_repository {repo after : MemoryRepository} {x y : ρ}
    (path : Runs (Memory rest) clients (repo,x) log remainder (after,y)) :
    (∃ final, Runs (Spec rest) clients (repo.registry,x) log remainder (final,y) ∧
      ∀ name, final.current name = after.get name) ∧
    (∀ name, after.get name =
      (repo.get name).map (applyAll (log.filterMap fun entry => mutationOf name entry.2))) ∧
    after.events = repo.events ++ auditOf (log.map Prod.snd) ∧
    (∀ entry ∈ log, ∀ name, refusals entry.2 = some name → repo.get name = none) ∧
    (after.list.map ApiKey.name).Pairwise (· < ·) := by
  obtain ⟨final,runs,mirrors⟩ := memory_runs path
  obtain ⟨objects,written,refused⟩ := memory_serves path.serves
  refine ⟨⟨final,runs,mirrors.current⟩,?_,written,?_,after.ordered⟩
  · intro name
    rw [objects name,List.filterMap_map]
    rfl
  · intro entry member name found
    exact refused entry.2 (List.mem_map_of_mem member) name found

-- The repository as a function. It leaves the rest unanswered.
def serve (repo : MemoryRepository) : (op : Effect) → Option (Answer op × MemoryRepository)
  | .list => some (repo.list,repo)
  | .get name => some (repo.get name,repo)
  | .updateStatus name mutate => some (repo.updateStatus name mutate)
  | .recordEvent key event => some ((),repo.recordEvent key event)
  | _ => none

theorem serve_memory (s : MemoryRepository × Unit) (op : Effect) (answer : Answer op) (after : MemoryRepository × Unit)
    (found : (serve s.1 op).map (fun (answer,repo) => (answer,(repo,()))) = some (answer,after)) :
    Memory (fun _ _ _ _ => False) s op answer after := by
  obtain ⟨repo,_⟩ := s
  cases op with
  | list => cases found; exact .list
  | get name => cases found; exact .get
  | updateStatus name mutate => cases found; exact .updateStatus
  | recordEvent key event => cases found; exact .recordEvent
  | _ => cases found

end Memory

-- Two keys, and two clients that update one of them and one that is not there.
def bareKey : Named "k" := ⟨{metadata := {name := some "k"},spec := {}},rfl⟩
def pausedOracle : Unit → (op : Effect) → Option (Answer op × Unit) := fun _ _ => none
def otherKey : Named "a" := ⟨{metadata := {name := some "a"},spec := {}},rfl⟩

def twoUpdates : Bool → App (Except RepoError (Named "k"))
  | false => do
    let _ ← updateStatus "none" fun status => {status with targets := []}
    updateStatus "k" fun status => {status with rotatedBy := some ⟨"a","ada"⟩}
  | true => updateStatus "k" fun status => {status with rotatedBy := some ⟨"b","bob"⟩}

def twoKeys : MemoryRepository := .new [bareKey.key,otherKey.key]

theorem twoKeys_updated : ∃ after : MemoryRepository, (after.get "k").map (fun object => object.status.rotatedBy) = some (some ⟨"a","ada"⟩) ∧
    after.get "none" = none ∧ after.list.map ApiKey.name = ["a","k"] ∧
    (after.list.map ApiKey.name).Pairwise (· < ·) := by
  have path := schedule_runs serve_memory [false,true,false] twoUpdates (twoKeys,())
  obtain ⟨_,objects,_,_,ordered⟩ := memory_repository path
  exact ⟨_,by rw [objects]; rfl,by rw [objects]; rfl,rfl,ordered⟩

end YouSpinMe.Repository
