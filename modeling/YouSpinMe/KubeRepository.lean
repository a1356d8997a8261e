import YouSpinMe.Repository

namespace YouSpinMe.KubeRepository
open RequestProgram SharedRun BlindRun LayeredRun Effects Crd Kube Repository

-- The application over the API server: a status update is `update_status`, reads come
-- from the watch's cache.
abbrev ClusterOp := Effect ⊕ ApiCall
@[reducible] def ClusterAnswer : ClusterOp → Type
  | .inl op => Answer op
  | .inr call => Reply call

abbrev OnCluster := Program ClusterAnswer

def onApi : Api α → OnCluster α := implement fun call => ask (Sum.inr call : ClusterOp)

-- The API server answers for a name with the object of that name.
def namedResult (name : String) : Except RepoError ApiKey → Except RepoError (Named name)
  | .error e => .error e
  | .ok key => if named : key.name = name then .ok ⟨key,named⟩ else .error (.notFound name)

def saving (name : String) (program : Api (Except RepoError ApiKey)) : OnCluster (Except RepoError (Named name)) :=
  onApi program >>= fun result => pure (namedResult name result)

def carryOut : (op : Effect) → OnCluster (Answer op)
  | .updateStatus name mutate => saving name (Kube.updateStatus name mutate)
  | op => ask (Sum.inl op : ClusterOp)

def onCluster : App α → OnCluster α := implement carryOut

structure Revision (name : String) where
  object : Named name
  version : Nat

def Revision.served (r : Revision name) : Named name := r.object.versioned (some r.version)

-- The API server. Versions are drawn from one counter, so that no two objects, and no
-- two versions of an object, ever share one.
structure World where
  objects : (name : String) → Option (Revision name)
  past : (name : String) → List (Named name)
  revision : Nat

namespace World

def commit (w : World) (name : String) (object : Named name) : World where
  objects := Function.update w.objects name (some ⟨object,w.revision + 1⟩)
  past := Function.update w.past name (object :: w.past name)
  revision := w.revision + 1

def delete (w : World) (name : String) : World :=
  {w with objects := Function.update w.objects name none,revision := w.revision + 1}

end World

def withStatus (object : Named name) (status : Option ApiKeyStatus) : Named name :=
  ⟨{object.key with status := status},object.named⟩

inductive Moves : World → World → Prop where
  | patched {w : World} {r : Revision name} (there : w.objects name = some r) (patch : StatusPatch) :
      Moves w (w.commit name (r.object.updateStatus patch.merge))
  | applied {w : World} {r : Revision name} (there : w.objects name = some r) (next : Named name)
      (kept : next.key.status = r.object.key.status) : Moves w (w.commit name next)
  | created {w : World} (missing : w.objects name = none) (object : Named name) (bare : object.key.status = none) :
      Moves w (w.commit name object)
  | deleted {w : World} : Moves w (w.delete name)

section Servers
variable {ρ : Type}

-- An update that was carried out may still be answered with an error of the
-- connection, and the cache may lag behind as far as it likes.
inductive Responds (rest : Server ρ Answer) : Server (World × ρ) ClusterAnswer where
  | read {w : World} {r : Revision name} (there : w.objects name = some r) :
      Responds rest (w,x) (.inr (.getStatus name)) (.ok r.served.key) (w,x)
  | replaced {w : World} {r : Revision name} (there : w.objects name = some r)
      (current : obj.metadata.resourceVersion = some r.version) :
      Responds rest (w,x) (.inr (.replaceStatus name obj))
        (.ok ((withStatus r.object obj.status).versioned (some (w.revision + 1))).key)
        (w.commit name (withStatus r.object obj.status),x)
  | lost {w : World} {r : Revision name} (there : w.objects name = some r)
      (current : obj.metadata.resourceVersion = some r.version) :
      Responds rest (w,x) (.inr (.replaceStatus name obj)) (.error (.other detail))
        (w.commit name (withStatus r.object obj.status),x)
  | outdated {w : World} {r : Revision name} (there : w.objects name = some r)
      (outdated : obj.metadata.resourceVersion ≠ some r.version) :
      Responds rest (w,x) (.inr (.replaceStatus name obj)) (.error (.conflict detail)) (w,x)
  | absent {w : World} {call : ApiCall} (missing : w.objects call.name = none) :
      Responds rest (w,x) (.inr call) (.error (.notFound detail)) (w,x)
  | failed {w : World} : Responds rest (w,x) (.inr call) (.error (.other detail)) (w,x)
  | watched {w : World} {answer : Option (Named name)}
      (known : ∀ object, answer = some object → ∃ held ∈ w.past name, ∃ version, object = held.versioned version) :
      Responds rest (w,x) (.inl (.get name)) answer (w,x)
  | listed {w : World} {keys : List ApiKey} (distinct : (keys.map ApiKey.name).Nodup)
      (known : ∀ key ∈ keys, ∃ held ∈ w.past key.name, ∃ version, key = (held.versioned version).key) :
      Responds rest (w,x) (.inl .list) keys (w,x)
  | noted {w : World} : Responds rest (w,x) (.inl (.recordEvent key event)) () (w,x)
  | other {w : World} {op : Effect} {answer : Answer op} (elsewhere : isRepository op = false)
      (served : rest x op answer y) : Responds rest (w,x) (.inl op) answer (w,y)

def Cluster (rest : Server ρ Answer) : Server (World × ρ) ClusterAnswer := fun s op answer after =>
  ∃ middle, Relation.ReflTransGen Moves s.1 middle ∧ Responds rest (middle,s.2) op answer after

end Servers

def registryOf (w : World) : Registry := ⟨fun name => (w.objects name).map Revision.object,w.past⟩

def Numbered (w : World) : Prop := ∀ name r, w.objects name = some r → r.version ≤ w.revision

-- What a client knows that has read an object and not yet replaced it: as long as the
-- version stands, so does the object.
def ReadAt (w : World) (name : String) (obj : ApiKey) : Prop :=
  ∃ version, obj.metadata.resourceVersion = some version ∧ version ≤ w.revision ∧
    ∀ r, w.objects name = some r → r.version = version → obj = r.served.key

theorem commit_registry (w : World) (object : Named name) :
    registryOf (w.commit name object) = (registryOf w).put name object := by
  unfold registryOf Registry.put World.commit
  congr 1
  funext other
  by_cases same : other = name
  · subst same
    simp
  · simp [same]

theorem delete_registry (w : World) (name : String) : registryOf (w.delete name) = (registryOf w).drop name := by
  unfold registryOf Registry.drop World.delete
  congr 1
  funext other
  by_cases same : other = name
  · subst same
    simp
  · simp [same]

theorem commit_numbered {w : World} (numbered : Numbered w) (object : Named name) : Numbered (w.commit name object) := by
  intro other r found
  by_cases same : other = name
  · subst same
    simp only [World.commit,Function.update_self,Option.some.injEq] at found
    rw [← found]
    exact Nat.le_refl _
  · simp only [World.commit,Function.update_of_ne same] at found
    exact (numbered other r found).trans (Nat.le_succ _)

theorem commit_readAt {w : World} (readAt : ReadAt w name obj) (object : Named other) : ReadAt (w.commit other object) name obj := by
  obtain ⟨version,stamped,early,still⟩ := readAt
  refine ⟨version,stamped,early.trans (Nat.le_succ _),?_⟩
  intro r found same
  by_cases equal : name = other
  · subst equal
    simp only [World.commit,Function.update_self,Option.some.injEq] at found
    subst found
    subst same
    exact absurd early (Nat.not_succ_le_self _)
  · simp only [World.commit,Function.update_of_ne equal] at found
    exact still r found same

theorem delete_numbered {w : World} (numbered : Numbered w) (name : String) : Numbered (w.delete name) := by
  intro other r found
  by_cases same : other = name
  · subst same
    simp [World.delete] at found
  · simp only [World.delete,Function.update_of_ne same] at found
    exact (numbered other r found).trans (Nat.le_succ _)

theorem delete_readAt {w : World} (readAt : ReadAt w name obj) (other : String) : ReadAt (w.delete other) name obj := by
  obtain ⟨version,stamped,early,still⟩ := readAt
  refine ⟨version,stamped,early.trans (Nat.le_succ _),?_⟩
  intro r found same
  by_cases equal : name = other
  · subst equal
    simp [World.delete] at found
  · simp only [World.delete,Function.update_of_ne equal] at found
    exact still r found same

-- One move of the others, in every view that a client or the registry has of it.
theorem moves_parts {w after : World} (moved : Moves w after) :
    Outside (registryOf w) (registryOf after) ∧ (Numbered w → Numbered after) ∧
    ∀ name obj, ReadAt w name obj → ReadAt after name obj := by
  cases moved with
  | @patched name _ r there patch =>
    rw [commit_registry]
    exact ⟨.patched (by simp [registryOf,there]) patch,fun numbered => commit_numbered numbered _,
      fun _ _ readAt => commit_readAt readAt _⟩
  | @applied name _ r there next kept =>
    rw [commit_registry]
    exact ⟨.applied (by simp [registryOf,there]) next kept,fun numbered => commit_numbered numbered _,
      fun _ _ readAt => commit_readAt readAt _⟩
  | @created name _ missing object bare =>
    rw [commit_registry]
    exact ⟨.created (by simp [registryOf,missing]) object bare,fun numbered => commit_numbered numbered _,
      fun _ _ readAt => commit_readAt readAt _⟩
  | @deleted name =>
    rw [delete_registry]
    exact ⟨.deleted,fun numbered => delete_numbered numbered _,fun _ _ readAt => delete_readAt readAt _⟩

theorem others_parts {w after : World} (moved : Relation.ReflTransGen Moves w after) :
    Relation.ReflTransGen Outside (registryOf w) (registryOf after) ∧ (Numbered w → Numbered after) ∧
    ∀ name obj, ReadAt w name obj → ReadAt after name obj := by
  induction moved with
  | refl => exact ⟨.refl,id,fun _ _ => id⟩
  | tail _ step ih =>
    obtain ⟨path,numbered,readAt⟩ := ih
    obtain ⟨last,still,known⟩ := moves_parts step
    exact ⟨path.tail last,fun first => still (numbered first),fun name obj first => known name obj (readAt name obj first)⟩

-- The second half of an attempt.
def replacing (name : String) (mutate : ApiKeyStatus → ApiKeyStatus) (attempts : Nat) (obj : ApiKey) :
    Api (Except RepoError ApiKey) := do
  match ← ask (ApiCall.replaceStatus name (obj.updateStatus mutate)) with
  | .ok updated => pure (.ok updated)
  | .error (.conflict _) => attempt name mutate attempts
  | .error e => pure (.error (.kube e.text))

def afterRead (name : String) (mutate : ApiKeyStatus → ApiKeyStatus) (attempts : Nat) :
    Except ApiError ApiKey → Api (Except RepoError ApiKey)
  | .error (.notFound _) => pure (.error (.notFound name))
  | .error e => pure (.error (.kube e.text))
  | .ok obj => replacing name mutate attempts obj

def afterReplace (name : String) (mutate : ApiKeyStatus → ApiKeyStatus) (attempts : Nat) :
    Except ApiError ApiKey → Api (Except RepoError ApiKey)
  | .ok updated => pure (.ok updated)
  | .error (.conflict _) => attempt name mutate attempts
  | .error e => pure (.error (.kube e.text))

theorem saving_attempt (name : String) (mutate : ApiKeyStatus → ApiKeyStatus) (attempts : Nat) :
    saving name (attempt name mutate (attempts + 1)) =
      .request (Sum.inr (.getStatus name) : ClusterOp) fun answer => saving name (afterRead name mutate attempts answer) := by
  unfold saving attempt
  simp only [bind_ask,onApi,implement,bind_request]
  congr 1
  funext answer
  rcases answer with e | obj
  · cases e <;> rfl
  · rfl

theorem saving_replacing (name : String) (mutate : ApiKeyStatus → ApiKeyStatus) (attempts : Nat) (obj : ApiKey) :
    saving name (replacing name mutate attempts obj) =
      .request (Sum.inr (.replaceStatus name (obj.updateStatus mutate)) : ClusterOp) fun answer =>
        saving name (afterReplace name mutate attempts answer) := by
  unfold saving replacing
  simp only [bind_ask,onApi,implement,bind_request]
  congr 1
  funext answer
  rcases answer with e | obj
  · cases e <;> rfl
  · rfl

inductive Knows (w : World) : (op : Effect) → OnCluster (Answer op) → Prop where
  | direct (elsewhere : ∀ name mutate, op ≠ .updateStatus name mutate) : Knows w op (ask (Sum.inl op : ClusterOp))
  | reading : Knows w (.updateStatus name mutate) (saving name (attempt name mutate (attempts + 1)))
  | writing (readAt : ReadAt w name obj) :
      Knows w (.updateStatus name mutate) (saving name (replacing name mutate attempts obj))

theorem carryOut_knows (w : World) (op : Effect) : Knows w op (carryOut op) := by
  cases op with
  | updateStatus name mutate => exact .reading
  | _ => exact .direct fun _ _ same => nomatch same

theorem Knows.mono {w after : World} {program : OnCluster (Answer op)} (knows : Knows w op program)
    (readAt : ∀ name obj, ReadAt w name obj → ReadAt after name obj) : Knows after op program := by
  cases knows with
  | direct elsewhere => exact .direct elsewhere
  | reading => exact .reading
  | writing known => exact .writing (readAt _ _ known)

theorem knows_waits {w : World} {op : Effect} {answer : Answer op} : ¬ Knows w op (.done answer) := by
  intro knows
  generalize ended : Program.done answer = program at knows
  cases knows with
  | direct => cases ended
  | reading =>
    rw [saving_attempt] at ended
    cases ended
  | writing =>
    rw [saving_replacing] at ended
    cases ended

section Layers
variable {ρ : Type} {rest : Server ρ Answer}

theorem responds_parts {w after : World} {x y : ρ} {below : ClusterOp} {reply : ClusterAnswer below}
    (served : Responds rest (w,x) below reply (after,y)) :
    (Numbered w → Numbered after) ∧ ∀ name obj, ReadAt w name obj → ReadAt after name obj := by
  cases served with
  | replaced | lost => exact ⟨fun numbered => commit_numbered numbered _,fun _ _ readAt => commit_readAt readAt _⟩
  | read | outdated | absent | failed | watched | listed | noted | other => exact ⟨id,fun _ _ => id⟩

-- What the others have done to the cluster, they may still have to do in the registry.
structure Follows (s : World × ρ) (t : Registry × ρ) : Prop where
  behind : Relation.ReflTransGen Outside t.1 (registryOf s.1)
  numbered : Numbered s.1
  same : t.2 = s.2

theorem direct_moves {m after : World} {x y : ρ} {op : Effect} {reply : Answer op} (numbered : Numbered m)
    (elsewhere : ∀ name mutate, op ≠ .updateStatus name mutate)
    (served : Responds rest (m,x) (.inl op) reply (after,y)) :
    ∃ final, Does rest (registryOf m,x) op reply final ∧ Follows (after,y) final := by
  have still : Follows (m,y) (registryOf m,y) := ⟨.refl,numbered,rfl⟩
  cases served with
  | watched known => exact ⟨_,.got known,still⟩
  | listed distinct known => exact ⟨_,.listed distinct known,still⟩
  | noted => exact ⟨_,.noted,still⟩
  | other elsewhere served => exact ⟨_,.other elsewhere served,still⟩

-- An object that was replaced is the one that was read: the mutation took its status
-- from the object that it is put in the place of.
theorem read_current {m : World} {r : Revision name} (readAt : ReadAt m name obj) (there : m.objects name = some r)
    (current : (obj.updateStatus mutate).metadata.resourceVersion = some r.version) :
    withStatus r.object (obj.updateStatus mutate).status = r.object.updateStatus mutate := by
  obtain ⟨version,stamped,_,still⟩ := readAt
  have same : r.version = version := Option.some.inj (current.symm.trans stamped)
  rw [still r there same]
  rfl

theorem update_registry {m : World} {r : Revision name} (there : m.objects name = some r) :
    (registryOf m).current name = some r.object := by
  simp [registryOf,there]

theorem registry_missing {m : World} (missing : m.objects name = none) : (registryOf m).current name = none := by
  simp [registryOf,missing]

theorem replace_moves {m after : World} {x y : ρ} {reply : Except ApiError ApiKey} (numbered : Numbered m)
    (readAt : ReadAt m name obj)
    (served : Responds rest (m,x) (.inr (.replaceStatus name (obj.updateStatus mutate))) reply (after,y)) :
    (∃ answer final, saving name (afterReplace name mutate attempts reply) = .done answer ∧
      Does rest (registryOf m,x) (.updateStatus name mutate) answer final ∧ Follows (after,y) final) ∨
    Follows (after,y) (registryOf m,x) ∧
      Knows after (.updateStatus name mutate) (saving name (afterReplace name mutate attempts reply)) := by
  have still : Follows (m,x) (registryOf m,x) := ⟨.refl,numbered,rfl⟩
  cases served with
  | @replaced _ _ _ _ r there current =>
    have same := read_current readAt there current
    rw [same]
    refine .inl ⟨.ok ((r.object.updateStatus mutate).versioned (some (m.revision + 1))),_,?_,
      .updated (update_registry there),?_⟩
    · exact congrArg Program.done (dif_pos (Named.named _))
    · rw [← commit_registry]
      exact ⟨.refl,commit_numbered numbered _,rfl⟩
  | @lost _ _ _ detail _ r there current =>
    have same := read_current readAt there current
    rw [same]
    refine .inl ⟨.error (.kube detail),_,rfl,.unsure (update_registry there),?_⟩
    rw [← commit_registry]
    exact ⟨.refl,commit_numbered numbered _,rfl⟩
  | outdated there outdated =>
    cases attempts with
    | zero => exact .inl ⟨.error .conflict,_,rfl,.conflict,still⟩
    | succ attempts => exact .inr ⟨still,.reading⟩
  | @absent _ detail _ call missing => exact .inl ⟨.error (.kube detail),_,rfl,.failed,still⟩
  | @failed _ _ detail => exact .inl ⟨.error (.kube detail),_,rfl,.failed,still⟩

theorem read_moves {m after : World} {x y : ρ} {reply : Except ApiError ApiKey} (numbered : Numbered m)
    (served : Responds rest (m,x) (.inr (.getStatus name)) reply (after,y)) :
    (∃ answer final, saving name (afterRead name mutate attempts reply) = .done answer ∧
      Does rest (registryOf m,x) (.updateStatus name mutate) answer final ∧ Follows (after,y) final) ∨
    Follows (after,y) (registryOf m,x) ∧
      Knows after (.updateStatus name mutate) (saving name (afterRead name mutate attempts reply)) := by
  have still : Follows (m,x) (registryOf m,x) := ⟨.refl,numbered,rfl⟩
  cases served with
  | @read _ _ _ r there =>
    refine .inr ⟨still,.writing ⟨r.version,rfl,numbered name r there,?_⟩⟩
    intro other found _
    rw [there] at found
    cases found
    rfl
  | absent missing => exact .inl ⟨.error (.notFound name),_,rfl,.missing (registry_missing missing),still⟩
  | @failed _ _ detail => exact .inl ⟨.error (.kube detail),_,rfl,.failed,still⟩

theorem others_follow {s : World × ρ} {t : Registry × ρ} (follows : Follows s t) (moved : Relation.ReflTransGen Moves s.1 m) :
    Relation.ReflTransGen Outside t.1 (registryOf m) ∧ Numbered m ∧ ∀ name obj, ReadAt s.1 name obj → ReadAt m name obj := by
  obtain ⟨path,numbered,readAt⟩ := others_parts moved
  exact ⟨follows.behind.trans path,numbered follows.numbered,readAt⟩

theorem cluster_lasts {s after : World × ρ} {t : Registry × ρ} {program : OnCluster (Answer op)} (follows : Follows s t)
    (served : Cluster rest s below reply after) (knows : Knows s.1 op program) : Knows after.1 op program := by
  obtain ⟨middle,moved,responds⟩ := served
  obtain ⟨_,numbered,readAt⟩ := others_follow follows moved
  obtain ⟨_,kept⟩ := responds_parts responds
  exact knows.mono fun name obj first => kept name obj (readAt name obj first)

theorem cluster_moves {s after : World × ρ} {t : Registry × ρ} {next : ClusterAnswer below → OnCluster (Answer op)}
    (follows : Follows s t) (served : Cluster rest s below reply after) (knows : Knows s.1 op (.request below next)) :
    (∃ answer final, next reply = .done answer ∧ Spec rest t op answer final ∧ Follows after final) ∨
    (Follows after t ∧ Knows after.1 op (next reply)) := by
  obtain ⟨middle,moved,responds⟩ := served
  obtain ⟨path,numbered,readAt⟩ := others_follow follows moved
  have same : t.2 = s.2 := follows.same
  generalize waiting : Program.request below next = program at knows
  cases knows with
  | direct elsewhere =>
    cases waiting
    obtain ⟨final,does,still⟩ := direct_moves numbered elsewhere responds
    exact .inl ⟨reply,final,rfl,⟨_,path,same ▸ does⟩,still⟩
  | @reading _ _ attempts =>
    rw [saving_attempt] at waiting
    cases waiting
    rcases read_moves numbered responds with ⟨answer,final,ended,does,still⟩ | ⟨still,knows⟩
    · exact .inl ⟨answer,final,ended,⟨_,path,same ▸ does⟩,still⟩
    · exact .inr ⟨⟨path.trans still.behind,still.numbered,same.trans still.same⟩,knows⟩
  | writing known =>
    rw [saving_replacing] at waiting
    cases waiting
    rcases replace_moves numbered (readAt _ _ known) responds with ⟨answer,final,ended,does,still⟩ | ⟨still,knows⟩
    · exact .inl ⟨answer,final,ended,⟨_,path,same ▸ does⟩,still⟩
    · exact .inr ⟨⟨path.trans still.behind,still.numbered,same.trans still.same⟩,knows⟩

def layer (rest : Server ρ Answer) : Layer (Cluster rest) (Spec rest) carryOut where
  permits := fun _ => True
  related := Follows
  knows := fun s op program => Knows s.1 op program
  begins := fun _ _ => carryOut_knows _ _
  waits := knows_waits
  lasts := cluster_lasts
  moves := cluster_moves

variable {ι : Type} [DecidableEq ι] {α : ι → Type} {clients : (i : ι) → App (α i)}

theorem cluster_runs {w after : World} {x y : ρ} (numbered : Numbered w)
    (path : Runs (Cluster rest) (fun i => onCluster (clients i)) (w,x) log remainder (after,y)) :
    ∃ history above reg, Runs (Spec rest) clients (registryOf w,x) history above (reg,y) ∧
      Relation.ReflTransGen Outside reg (registryOf after) ∧ (history.map Prod.fst).Sublist (log.map Prod.fst) ∧
      ∀ i, Stands (layer rest) (after,y) (own i log) (own i history) (above i) (remainder i) := by
  have start : (layer rest).related (w,x) (registryOf w,x) := ⟨.refl,numbered,rfl⟩
  obtain ⟨history,above,final,runs,follows,placed,stands⟩ := (layer rest).runs path start fun _ => asks_anything _
  have same : final = (final.1,y) := Prod.ext rfl follows.same
  rw [same] at runs
  exact ⟨history,above,final.1,runs,follows.behind,placed,stands⟩

-- An invariant of statuses that no request breaks and nobody else can break.
theorem cluster_all {inv : ApiKeyStatus → Prop} {w after : World} {x y : ρ} (lasting : Lasting inv) (numbered : Numbered w)
    (path : Runs (Cluster rest) (fun i => onCluster (clients i)) (w,x) log remainder (after,y))
    (keeps : ∀ i, RequestProgram.Follows (fun _ op => Keeps inv op) [] (clients i)) (start : (registryOf w).All inv) :
    (registryOf after).All inv := by
  obtain ⟨history,above,reg,runs,behind,_,_⟩ := cluster_runs numbered path
  apply outsides_all lasting behind
  apply serves_all lasting runs.serves _ start
  intro event member
  obtain ⟨⟨i,_⟩,within,rfl⟩ := List.mem_map.mp member
  obtain ⟨before,later,rfl⟩ := List.append_of_mem within
  exact runs.follows (keeps i)

-- Every interleaving of the API calls of any number of clients is a run of the abstract
-- repository: whoever writes in between, each status update happens at one moment, on
-- the object of that moment, and what a client returns it returns there too.
theorem kube_repository {w after : World} {x y : ρ} (numbered : Numbered w)
    (path : Runs (Cluster rest) (fun i => onCluster (clients i)) (w,x) log remainder (after,y)) :
    ∃ history above reg, Runs (Spec rest) clients (registryOf w,x) history above (reg,y) ∧
      Relation.ReflTransGen Outside reg (registryOf after) ∧
      (history.map Prod.fst).Sublist (log.map Prod.fst) ∧
      ∀ i, (∃ seen, seen <+: own i log ∧ CarriedOut carryOut (own i history) seen) ∧
        ∀ value, remainder i = .done value → above i = .done value ∧ CarriedOut carryOut (own i history) (own i log) := by
  obtain ⟨history,above,reg,runs,behind,placed,stands⟩ := cluster_runs numbered path
  refine ⟨history,above,reg,runs,behind,placed,?_⟩
  intro i
  refine ⟨(stands i).carried,?_⟩
  intro value returned
  have standing := stands i
  rw [returned] at standing
  exact standing.returned

end Layers

-- The API server as a function, with a cache that is up to date.
def respond {ρ : Type} (oracle : ρ → (op : Effect) → Option (Answer op × ρ)) (s : World × ρ) :
    (op : ClusterOp) → Option (ClusterAnswer op × (World × ρ))
  | .inr (.getStatus name) => match s.1.objects name with
    | none => some (.error (.notFound "no such object"),s)
    | some r => some (.ok r.served.key,s)
  | .inr (.replaceStatus name obj) => match s.1.objects name with
    | none => some (.error (.notFound "no such object"),s)
    | some r =>
      if obj.metadata.resourceVersion = some r.version then
        some (.ok ((withStatus r.object obj.status).versioned (some (s.1.revision + 1))).key,
          (s.1.commit name (withStatus r.object obj.status),s.2))
      else some (.error (.conflict "the object has been modified"),s)
  | .inr (.patchStatus _ _) => none
  | .inl (.get name) => some ((s.1.past name).head?,s)
  | .inl .list => some ([],s)
  | .inl (.updateStatus _ _) => none
  | .inl (.recordEvent _ _) => some ((),s)
  | .inl op => if isRepository op = false then (oracle s.2 op).map fun (answer,y) => (answer,(s.1,y)) else none

theorem respond_responds {ρ : Type} {rest : Server ρ Answer} {oracle : ρ → (op : Effect) → Option (Answer op × ρ)}
    (sound : ∀ x op answer y, oracle x op = some (answer,y) → rest x op answer y) (s : World × ρ) (op : ClusterOp)
    (answer : ClusterAnswer op) (after : World × ρ) (found : respond oracle s op = some (answer,after)) :
    Responds rest s op answer after := by
  obtain ⟨w,x⟩ := s
  cases op with
  | inr call =>
    cases call with
    | getStatus name =>
      unfold respond at found
      cases there : w.objects name with
      | none =>
        simp only [there] at found
        cases found
        exact @Responds.absent _ _ _ _ w (.getStatus name) there
      | some r =>
        simp only [there] at found
        cases found
        exact .read there
    | replaceStatus name obj =>
      unfold respond at found
      cases there : w.objects name with
      | none =>
        simp only [there] at found
        cases found
        exact @Responds.absent _ _ _ _ w (.replaceStatus name obj) there
      | some r =>
        simp only [there] at found
        split at found
        · rename_i current
          cases found
          exact .replaced there current
        · rename_i outdated
          cases found
          exact .outdated there outdated
    | patchStatus name patch => cases found
  | inl op =>
    cases op with
    | get name =>
      cases found
      apply Responds.watched
      intro object first
      exact ⟨object,List.mem_of_mem_head? first,object.key.metadata.resourceVersion,object.versioned_same.symm⟩
    | list =>
      cases found
      exact .listed List.nodup_nil fun _ member => nomatch member
    | updateStatus name mutate => cases found
    | recordEvent key event =>
      cases found
      exact .noted
    | _ =>
      obtain ⟨⟨reply,y⟩,told,same⟩ := Option.map_eq_some_iff.mp found
      cases same
      exact .other rfl (sound _ _ _ _ told)

theorem respond_answers {ρ : Type} {rest : Server ρ Answer} {oracle : ρ → (op : Effect) → Option (Answer op × ρ)}
    (sound : ∀ x op answer y, oracle x op = some (answer,y) → rest x op answer y) (s : World × ρ) (op : ClusterOp)
    (answer : ClusterAnswer op) (after : World × ρ) (found : respond oracle s op = some (answer,after)) :
    Cluster rest s op answer after := ⟨s.1,.refl,respond_responds sound s op answer after found⟩

-- One object and nothing else. Two clients that read it at the same version: the second
-- one to write starts over.
def World.single (object : Named name) : World where
  objects other := if same : name = other then some ⟨same ▸ object,1⟩ else none
  past other := if same : name = other then [same ▸ object] else []
  revision := 1

theorem single_numbered (object : Named name) : Numbered (World.single object) := by
  intro other r found
  by_cases same : name = other
  · subst same
    simp only [World.single,dif_pos,Option.some.injEq] at found
    rw [← found]
    exact Nat.le_refl _
  · simp [World.single,same] at found

theorem single_all {object : Named name} {inv : ApiKeyStatus → Prop} (holds : inv object.status) :
    (registryOf (World.single object)).All inv := by
  refine ⟨?_,?_⟩
  · intro other held found
    by_cases same : name = other
    · subst same
      simp only [registryOf,World.single,dif_pos,Option.map_some,Option.some.injEq] at found
      exact found ▸ holds
    · simp [registryOf,World.single,same] at found
  · intro other held member
    by_cases same : name = other
    · subst same
      simp only [registryOf,World.single,dif_pos,List.mem_singleton] at member
      exact member ▸ holds
    · simp [registryOf,World.single,same] at member

def addRow (reference : String) (status : ApiKeyStatus) : ApiKeyStatus :=
  {status with targets := ⟨reference,none,.ok,none⟩ :: status.targets}

def racingUpdates : Bool → App (Except RepoError (Named "k"))
  | false => updateStatus "k" (addRow "first")
  | true => updateStatus "k" (addRow "second")

def crossedUpdates := schedule (respond pausedOracle) [false,true,false,true,true,true] (fun i => onCluster (racingUpdates i))
  (World.single bareKey,())

theorem crossed_repository : (∃ history above reg,
    Runs (Spec fun _ _ _ _ => False) racingUpdates (registryOf (World.single bareKey),()) history above (reg,()) ∧
    Relation.ReflTransGen Outside reg (registryOf crossedUpdates.2.2.1) ∧
    (history.map Prod.fst).Sublist [false,true,false,true,true,true] ∧
    ∀ i, ∃ object, above i = .done (.ok object)) ∧
    (crossedUpdates.2.2.1.objects "k").map (fun r => r.object.status.targets.map TargetStatus.reference) =
      some ["second","first"] := by
  have answers : ∀ s op answer after, respond pausedOracle s op = some (answer,after) → Cluster (fun _ _ _ _ => False) s op answer after :=
    respond_answers fun _ _ _ _ found => nomatch found
  have path := schedule_runs answers [false,true,false,true,true,true] (fun i => onCluster (racingUpdates i))
    (World.single bareKey,())
  obtain ⟨history,above,reg,runs,behind,placed,stands⟩ := kube_repository (single_numbered bareKey) path
  refine ⟨⟨history,above,reg,runs,behind,placed,?_⟩,rfl⟩
  intro i
  cases i with
  | false => exact ⟨_,((stands false).2 _ rfl).1⟩
  | true => exact ⟨_,((stands true).2 _ rfl).1⟩

end YouSpinMe.KubeRepository
