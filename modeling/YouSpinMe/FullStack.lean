import YouSpinMe.Delivery
import YouSpinMe.KubeRepository
import YouSpinMe.Attribution

namespace YouSpinMe.FullStack
open RequestProgram SharedRun BlindRun LayeredRun Effects Validation Rotation RotationTraces OpenBaoWriter OpenBaoStore SubmittedKey
  StoreRefinement Delivery Kube Repository KubeRepository RequestGuards RouterWalk Identity Http Auth Web Text Jiff Crd

-- The application over both of its servers: writes go to the store, status updates to
-- the API server, each as the requests that they are made of.
abbrev JointOp := ClusterOp ⊕ BaoOp
@[reducible] def JointAnswer : JointOp → Type
  | .inl op => ClusterAnswer op
  | .inr op => BaoReply op

abbrev Joint := Program JointAnswer

def toCluster : OnCluster α → Joint α := implement fun op => ask (Sum.inl op : JointOp)

def carryOn : (op : SiteOp) → Joint (SiteAnswer op)
  | .inl op => toCluster (KubeRepository.carryOut op)
  | .inr op => ask (Sum.inr op : JointOp)

def fullStack [HttpCrates] (bao : OpenBao) (program : App α) : Joint α := implement carryOn (onSite bao program)

section Servers
variable {ρ : Type}

-- Of the store's runs those in which no accepted POST takes the place of a secret with
-- another key, as it never does under a policy without update.
inductive Both (update : Bool) (rest : Server ρ Answer) : Server (OpenBaoStore.World × (KubeRepository.World × ρ)) JointAnswer where
  | bao {op : BaoOp} {answer : BaoReply op} (served : ((OpenBaoStore.Serve update).restrict (Undisturbed update)) w op answer after) :
      Both update rest (w,s) (.inr op) answer (after,s)
  | cluster {op : ClusterOp} {answer : ClusterAnswer op} (served : KubeRepository.Cluster rest s op answer after) :
      Both update rest (w,s) (.inl op) answer (w,after)

variable {update : Bool} {rest : Server ρ Answer}

-- What a client knows half way through: of a status update what the API server's layer
-- lets it know, of a request to the store that it is still to be sent.
def Awaits (rest : Server ρ Answer) (s : OpenBaoStore.World × (KubeRepository.World × ρ)) : (op : SiteOp) → Joint (SiteAnswer op) → Prop
  | .inl op,program => ∃ inner, program = toCluster inner ∧ (KubeRepository.layer rest).knows s.2 op inner
  | .inr op,program => program = ask (Sum.inr op : JointOp)

theorem awaits_waits {s : OpenBaoStore.World × (KubeRepository.World × ρ)} {op : SiteOp} {answer : SiteAnswer op} :
    ¬ Awaits rest s op (.done answer) := by
  intro awaits
  cases op with
  | inr op => cases awaits
  | inl op =>
    obtain ⟨inside,same,knows⟩ := awaits
    cases inside with
    | request other next => cases same
    | done value => exact (KubeRepository.layer rest).waits knows

theorem awaits_lasts {s after : OpenBaoStore.World × (KubeRepository.World × ρ)} {t : Registry × ρ} {op : SiteOp} {program : Joint (SiteAnswer op)}
    (related : (KubeRepository.layer rest).related s.2 t) (served : Both update rest s below reply after)
    (awaits : Awaits rest s op program) : Awaits rest after op program := by
  cases op with
  | inr op => exact awaits
  | inl op =>
    obtain ⟨inside,same,knows⟩ := awaits
    cases served with
    | bao served => exact ⟨inside,same,knows⟩
    | cluster served => exact ⟨inside,same,(KubeRepository.layer rest).lasts related served knows⟩

theorem both_moves {s after : OpenBaoStore.World × (KubeRepository.World × ρ)} {t : OpenBaoStore.World × (Registry × ρ)}
    {op : SiteOp} {next : JointAnswer below → Joint (SiteAnswer op)}
    (related : t.1 = s.1 ∧ (KubeRepository.layer rest).related s.2 t.2) (served : Both update rest s below reply after)
    (awaits : Awaits rest s op (.request below next)) :
    (∃ answer final, next reply = .done answer ∧ Stack update (Spec rest) t op answer final ∧
      final.1 = after.1 ∧ (KubeRepository.layer rest).related after.2 final.2) ∨
    ((t.1 = after.1 ∧ (KubeRepository.layer rest).related after.2 t.2) ∧ Awaits rest after op (next reply)) := by
  obtain ⟨w,reg⟩ := t
  obtain ⟨rfl,follows⟩ := related
  cases op with
  | inr op =>
    cases awaits
    cases served with
    | bao served => exact .inl ⟨reply,_,rfl,.bao served,rfl,follows⟩
  | inl op =>
    obtain ⟨inside,same,knows⟩ := awaits
    cases inside with
    | done value => cases same
    | request other more =>
      cases same
      cases served with
      | cluster served =>
        rcases (KubeRepository.layer rest).moves follows served knows with ⟨answer,final,ended,moved,still⟩ | ⟨still,knows⟩
        · refine .inl ⟨answer,_,?_,.other moved,rfl,still⟩
          show toCluster (more reply) = .done answer
          rw [ended]
          rfl
        · exact .inr ⟨⟨rfl,still⟩,more reply,rfl,knows⟩

def joint (update : Bool) (rest : Server ρ Answer) : Layer (Both update rest) (Stack update (Spec rest)) carryOn where
  permits := fun _ => True
  related := fun s t => t.1 = s.1 ∧ (KubeRepository.layer rest).related s.2 t.2
  knows := Awaits rest
  begins := by
    intro s t op related _
    cases op with
    | inl op => exact ⟨_,rfl,(KubeRepository.layer rest).begins related.2 trivial⟩
    | inr op => rfl
  waits := awaits_waits
  lasts := fun related served awaits => awaits_lasts related.2 served awaits
  moves := both_moves

variable [HttpCrates] {bao : OpenBao} {ι : Type} [DecidableEq ι] {α : ι → Type} {clients : (i : ι) → App (α i)}

theorem stack_runs {w after : OpenBaoStore.World} {c cluster : KubeRepository.World} {x y : ρ} (numbered : Numbered c)
    (asks : ∀ i, Asks (Configured bao) (clients i))
    (path : Runs (Both update rest) (fun i => fullStack bao (clients i)) (w,(c,x)) log remainder (after,(cluster,y))) :
    ∃ history above reg, Runs (Stores bao (Spec rest)) clients (w.holds,(registryOf c,x)) history above (after.holds,(reg,y)) ∧
      Relation.ReflTransGen Outside reg (registryOf cluster) ∧ (history.map Prod.fst).Sublist (log.map Prod.fst) ∧
      ∀ i value, remainder i = .done value → above i = .done value := by
  have start : (joint update rest).related (w,(c,x)) (w,(registryOf c,x)) := ⟨rfl,.refl,numbered,rfl⟩
  obtain ⟨middle,between,⟨held,reg,z⟩,first,⟨same,follows⟩,placed,stands⟩ := (joint update rest).runs path start fun _ => asks_anything _
  have behind := follows.behind
  cases same
  cases follows.same
  obtain ⟨history,above,second,within,standing⟩ := store_runs asks first
  refine ⟨history,above,reg,second,behind,within.trans placed,?_⟩
  intro i value returned
  have one := stands i
  rw [returned] at one
  have two := standing i
  rw [one.returned.1] at two
  exact two.returned.1

theorem configured_walk [CharTables] [Crates] {state : AppState} {request : Request} (hierarchical : bao.addr.hierarchical = true) :
    Walk state request (fun _ op => Configured bao op) := by
  apply Walk.acting
  · intro _ op silent
    cases op with
    | write target value => cases silent
    | _ => trivial
  · intro _ session past name dates handled _
    apply saveRecord_follows
    · intro _ op asked
      cases asked with
      | updateStatus | recordEvent => trivial
    · intro _ _
      trivial
  · intro _ session past name form manual found _
    exact (rotate_configured hierarchical).follows fun _ _ configured => configured

-- The whole service at the level of its single requests to both servers, for any number
-- of visitors at a time, is one registry and one table of secrets whose operations each
-- happen at one moment: every visitor gets a response that they could have got there.
-- The store's policy grants no update, or no POST takes the place of another key.
theorem full_stack [UrlCrate] [Format] [Crates] {state : AppState} {requests : ι → Request}
    {remainder : ι → Joint Http.Response} {w after : OpenBaoStore.World} {c cluster : KubeRepository.World} {x y : ρ}
    (hierarchical : bao.addr.hierarchical = true) (numbered : Numbered c)
    (path : Runs (Both update rest) (fun i => fullStack bao (router state (requests i))) (w,(c,x)) log remainder (after,(cluster,y))) :
    ∃ history above reg,
      Runs (Stores bao (Spec rest)) (fun i => router state (requests i)) (w.holds,(registryOf c,x)) history above (after.holds,(reg,y)) ∧
      Relation.ReflTransGen Outside reg (registryOf cluster) ∧ (history.map Prod.fst).Sublist (log.map Prod.fst) ∧
      ∀ i response, remainder i = .done response → above i = .done response :=
  stack_runs numbered (fun _ => follows_asks (router_walk (configured_walk hierarchical))) path

end Servers

def bothRespond {ρ : Type} (oracle : ρ → (op : Effect) → Option (Answer op × ρ))
    (s : OpenBaoStore.World × (KubeRepository.World × ρ)) :
    (op : JointOp) → Option (JointAnswer op × (OpenBaoStore.World × (KubeRepository.World × ρ)))
  | .inr op => (OpenBaoStore.respond false s.1 op).map fun (answer,w) => (answer,(w,s.2))
  | .inl op => (KubeRepository.respond oracle s.2 op).map fun (answer,c) => (answer,(s.1,c))

theorem both_answers {ρ : Type} {rest : Server ρ Answer} {oracle : ρ → (op : Effect) → Option (Answer op × ρ)}
    (sound : ∀ x op answer y, oracle x op = some (answer,y) → rest x op answer y)
    (s : OpenBaoStore.World × (KubeRepository.World × ρ)) (op : JointOp) (answer : JointAnswer op)
    (after : OpenBaoStore.World × (KubeRepository.World × ρ)) (found : bothRespond oracle s op = some (answer,after)) :
    Both false rest s op answer after := by
  cases op with
  | inr below =>
    obtain ⟨⟨reply,w⟩,told,same⟩ := Option.map_eq_some_iff.mp found
    cases same
    exact .bao ⟨respond_serves _ _ _ _ told,undisturbed_only _ _ _⟩
  | inl above =>
    obtain ⟨⟨reply,c⟩,told,same⟩ := Option.map_eq_some_iff.mp found
    cases same
    exact .cluster (respond_answers sound _ _ _ _ told)

-- An admin logs in and submits a key for two targets, over both servers.
def submitted :=
  let _ := Admission.visitCrates
  let _ := noUrls
  let _ := epochFormat
  let _ := plainHttp
  schedule (bothRespond (Admission.reply none)) (List.replicate 4 Admission.Visit.login ++ List.replicate 7 Admission.Visit.callback ++ List.replicate 40 Admission.Visit.submit)
    (fun i => fullStack storeBao (router Admission.visitState (Admission.visits i))) (bareWorld,(World.single RotationOutcome.pairKey,[]))

def statusOf : Joint Http.Response → Option Nat
  | .done response => some response.status
  | .request _ _ => none

theorem statusOf_some {program : Joint Http.Response} (found : statusOf program = some status) :
    ∃ response, program = .done response ∧ response.status = status := by
  cases program with
  | done response => exact ⟨response,rfl,Option.some.inj found⟩
  | request op next => cases found

theorem submitted_refines : let _ := plainHttp; ∃ history above reg response,
    Runs (Stores storeBao (Spec (Admission.Serve Admission.visitSigns)))
      (fun i => @router Admission.visitCrates noUrls epochFormat Admission.visitState (Admission.visits i))
      (bareWorld.holds,(registryOf (World.single RotationOutcome.pairKey),[])) history above
      (submitted.2.2.1.holds,(reg,submitted.2.2.2.2)) ∧
    above .submit = .done response ∧ response.status = 200 := by
  let _ := Admission.visitCrates
  let _ := noUrls
  let _ := epochFormat
  let _ := plainHttp
  have answered : statusOf (submitted.2.1 .submit) = some 200 := by decide +kernel
  have answers : ∀ s op answer after, bothRespond (Admission.reply none) s op = some (answer,after) →
      Both false (Admission.Serve Admission.visitSigns) s op answer after := both_answers (Admission.reply_serves none)
  have path := schedule_runs answers
    (List.replicate 4 Admission.Visit.login ++ List.replicate 7 Admission.Visit.callback ++ List.replicate 40 Admission.Visit.submit)
    (fun i => fullStack storeBao (router Admission.visitState (Admission.visits i))) (bareWorld,(World.single RotationOutcome.pairKey,[]))
  have same : schedule (bothRespond (Admission.reply none))
    (List.replicate 4 Admission.Visit.login ++ List.replicate 7 Admission.Visit.callback ++ List.replicate 40 Admission.Visit.submit)
    (fun i => fullStack storeBao (router Admission.visitState (Admission.visits i))) (bareWorld,(World.single RotationOutcome.pairKey,[])) =
      submitted := rfl
  rw [same] at path
  clear same
  generalize submitted = final at answered path ⊢
  obtain ⟨log,remainder,after,cluster,jar⟩ := final
  obtain ⟨response,returned,status⟩ := statusOf_some answered
  obtain ⟨history,above,reg,runs,_,_,responses⟩ := full_stack rfl (single_numbered _) path
  exact ⟨history,above,reg,response,runs,responses _ _ returned,status⟩

end YouSpinMe.FullStack
