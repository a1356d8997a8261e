import YouSpinMe.BlindRun
import YouSpinMe.OpenBaoWriter
import YouSpinMe.RejectionReports

namespace YouSpinMe.SubmittedKey
open RequestProgram BlindRun Effects Validation Rotation RotationTraces RotationOutcome RejectionReports Admission
  OpenBaoWriter Jiff Identity Http Auth Pages Text Crd

-- The application over its store: a write is the writer's own requests.
abbrev SiteOp := Effect ⊕ BaoOp
@[reducible] def SiteAnswer : SiteOp → Type
  | .inl op => Answer op
  | .inr op => BaoReply op

abbrev Site := Program SiteAnswer
abbrev SiteTrace := List (Event SiteAnswer)

def toStore : Bao α → Site α := implement fun op => ask (Sum.inr op : SiteOp)

def carryOut [HttpCrates] (bao : OpenBao) : (op : Effect) → Site (Answer op)
  | .write target value => toStore (bao.write target value)
  | op => ask (Sum.inl op : SiteOp)

def onSite [HttpCrates] (bao : OpenBao) : App α → Site α := implement (carryOut bao)

-- The submitted value is in the request to the provider and in the body of a
-- write; the rest of every request is seen.
def hideValue : SiteOp → SiteOp
  | .inl (.probe provider _) => .inl (.probe provider "")
  | .inl (.write target _) => .inl (.write target "")
  | .inr (.write method url token body) => .inr (.write method url token ⟨body.key,""⟩)
  | op => op

def valueMask : Mask SiteAnswer where
  hide := hideValue
  answers := by
    intro op
    rcases op with op | op <;> cases op <;> rfl

theorem toStore_bind (program : Bao α) (rest : α → Bao β) :
    toStore (program >>= rest) = toStore program >>= fun value => toStore (rest value) := implement_bind ..

-- Two writers' programs that differ in nothing an observer sees.
def AlikeStore (first second : Bao α) : Prop := Alike valueMask (toStore first) (toStore second)

theorem store_bind {first second : Bao α} {rest other : α → Bao β} (same : AlikeStore first second)
    (later : ∀ value, AlikeStore (rest value) (other value)) : AlikeStore (first >>= rest) (second >>= other) := by
  unfold AlikeStore
  rw [toStore_bind,toStore_bind]
  exact alike_bind same later

theorem store_refl (program : Bao α) : AlikeStore program program := alike_refl _

theorem body_hidden (method : OpenBaoWriter.Method) (url : List String) (token key first second : String) :
    AlikeStore (ask (BaoOp.write method url token ⟨key,first⟩)) (ask (BaoOp.write method url token ⟨key,second⟩)) := rfl

theorem gate_alike [UrlCrate] {actor : Actor} {manual : Option Timestamp} {skip : Bool} (allowed : PathAllowList)
    (name : String) (found : Option (Named name)) (filled : trim first ≠ "") (other : trim second ≠ "") :
    gate allowed name ⟨first,actor,manual,skip⟩ found = gate allowed name ⟨second,actor,manual,skip⟩ found := by
  cases found with
  | none => rfl
  | some found => simp [gate,filled,other]

section Programs
variable [HttpCrates] (bao : OpenBao)

theorem send_alike (method : OpenBaoWriter.Method) (url : List String) (key first second : String) :
    AlikeStore (bao.send method url ⟨key,first⟩) (bao.send method url ⟨key,second⟩) := by
  refine store_bind (store_refl _) fun token => ?_
  cases token with
  | error e => exact store_refl _
  | ok token =>
    refine store_bind (body_hidden ..) fun answer => ?_
    cases answer <;> exact store_refl _

theorem create_alike (url : List String) (key first second : String) :
    AlikeStore (bao.create url ⟨key,first⟩) (bao.create url ⟨key,second⟩) :=
  store_bind (send_alike ..) fun _ => store_refl _

theorem round_alike (url : List String) (key first second : String) {again other : Option (Bao (Except TargetError Unit))}
    (next : Option.Rel AlikeStore again other) :
    AlikeStore (bao.round url ⟨key,first⟩ again) (bao.round url ⟨key,second⟩ other) := by
  refine store_bind (send_alike ..) fun answer => ?_
  cases answer with
  | error e => exact store_refl _
  | ok res =>
    dsimp only
    split
    · exact store_refl _
    · split
      · exact create_alike ..
      · cases next with
        | none => exact store_refl _
        | some same =>
          dsimp only
          split
          · exact store_bind (store_refl _) fun _ => same
          · exact store_refl _

theorem write_alike (target : TargetSpec) (first second : String) :
    AlikeStore (bao.write target first) (bao.write target second) := by
  unfold OpenBao.write
  cases target.openbao with
  | none => exact store_refl _
  | some t =>
    dsimp only [OpenBao.writeKey]
    split
    · exact store_refl _
    · exact round_alike bao _ _ _ _ (.some (round_alike bao _ _ _ _ .none))

theorem onSite_bind (program : App α) (rest : α → App β) :
    onSite bao (program >>= rest) = onSite bao program >>= fun value => onSite bao (rest value) := implement_bind ..

def AlikeSite (first second : App α) : Prop := Alike valueMask (onSite bao first) (onSite bao second)

variable {bao}

theorem site_bind {first second : App α} {rest other : α → App β} (same : AlikeSite bao first second)
    (later : ∀ value, AlikeSite bao (rest value) (other value)) : AlikeSite bao (first >>= rest) (second >>= other) := by
  unfold AlikeSite
  rw [onSite_bind,onSite_bind]
  exact alike_bind same later

theorem site_refl (program : App α) : AlikeSite bao program program := alike_refl _

theorem probe_hidden (provider : Provider) (first second : String) :
    AlikeSite bao (probeKey provider first) (probeKey provider second) := rfl

theorem write_hidden (target : TargetSpec) (first second : String) :
    AlikeSite bao (writeTarget target first) (writeTarget target second) :=
  alike_bind (write_alike bao target first second) fun _ => alike_refl _

theorem writeTargets_alike (first second : String) (targets : List TargetSpec) :
    AlikeSite bao (writeTargets first targets) (writeTargets second targets) := by
  induction targets with
  | nil => exact site_refl _
  | cons target rest ih =>
    refine site_bind (write_hidden target first second) fun answer => ?_
    exact site_bind ih fun _ => site_refl _

section Requests
variable {actor : Actor} {manual : Option Timestamp} {skip : Bool}

theorem checkKey_alike (key : ApiKey) (first second : String) :
    AlikeSite bao (checkKey key ⟨first,actor,manual,skip⟩) (checkKey key ⟨second,actor,manual,skip⟩) := by
  unfold checkKey
  split
  · exact site_refl _
  · split
    · exact site_refl _
    · refine site_bind (probe_hidden key.spec.provider first second) fun answer => ?_
      rcases answer with e | result | result <;> exact site_refl _

theorem submit_alike (name : String) (key : ApiKey) (probe : ProbeOutcome) (first second : String) :
    AlikeSite bao (submit name key ⟨first,actor,manual,skip⟩ probe) (submit name key ⟨second,actor,manual,skip⟩ probe) :=
  site_bind (writeTargets_alike first second key.spec.targets) fun _ => site_refl _

theorem rotate_alike [UrlCrate] (allowed : PathAllowList) (name : String) (filled : trim first ≠ "")
    (other : trim second ≠ "") :
    AlikeSite bao (Rotation.rotate allowed name ⟨first,actor,manual,skip⟩)
      (Rotation.rotate allowed name ⟨second,actor,manual,skip⟩) := by
  refine site_bind ?_ fun _ => site_refl _
  refine site_bind (site_refl _) fun found => ?_
  rw [gate_alike allowed name found filled other]
  split
  · exact site_refl _
  · refine site_bind (checkKey_alike _ first second) fun answer => ?_
    cases answer with
    | error e => exact site_refl _
    | ok probe => exact submit_alike name _ probe first second

end Requests

theorem handler_alike [UrlCrate] [Format] (state : AppState) (session : Session) (headers : HeaderMap) (name : String)
    (form : RotateForm) (filled : trim first ≠ "") (other : trim second ≠ "") :
    AlikeSite bao (Pages.rotate state session headers name {form with key := first})
      (Pages.rotate state session headers name {form with key := second}) := by
  unfold Pages.rotate
  refine site_bind (site_refl _) fun matched => ?_
  cases matched with
  | error e => exact site_refl _
  | ok _ =>
    refine site_bind (site_refl _) fun found => ?_
    dsimp only
    split
    · exact site_refl _
    · exact site_bind (rotate_alike state.allowed name filled other) fun _ => site_refl _

end Programs

-- What a run leaves behind outside the provider and the store: the status
-- updates with their answers, the audit events and the metrics, in their order.
inductive Shown where
  | status (name : String) (mutate : ApiKeyStatus → ApiKeyStatus) (answer : Except RepoError (Named name))
  | audit (key : ApiKey) (event : AuditEvent)
  | rotation (result : String)
  | probe (provider result : String)

def shown : Event SiteAnswer → Option Shown
  | ⟨.inl (.updateStatus name mutate),answer⟩ => some (.status name mutate answer)
  | ⟨.inl (.recordEvent key event),_⟩ => some (.audit key event)
  | ⟨.inl (.countRotation result),_⟩ => some (.rotation result)
  | ⟨.inl (.countProbe provider result),_⟩ => some (.probe provider result)
  | _ => none

-- The statuses of all keys after a run. Which updates that were answered with
-- an error were applied all the same is not known.
def Shown.apply (lost : RepoError → Bool) (statuses : String → ApiKeyStatus) : Shown → String → ApiKeyStatus
  | .status name mutate (.ok _) => Function.update statuses name (mutate (statuses name))
  | .status name mutate (.error e) => if lost e then Function.update statuses name (mutate (statuses name)) else statuses
  | _ => statuses

def statusesAfter (lost : RepoError → Bool) (statuses : String → ApiKeyStatus) (trace : SiteTrace) :
    String → ApiKeyStatus :=
  (trace.filterMap shown).foldl (Shown.apply lost) statuses

theorem shown_hidden (trace : SiteTrace) : (trace.map valueMask.event).filterMap shown = trace.filterMap shown := by
  rw [List.filterMap_map]
  congr 1
  funext event
  obtain ⟨op,answer⟩ := event
  rcases op with op | op <;> cases op <;> rfl

theorem submitted_key_unseen [UrlCrate] [Format] [HttpCrates] (bao : OpenBao) (state : AppState) (session : Session)
    (headers : HeaderMap) (name : String) (form : RotateForm) (filled : trim first ≠ "") (other : trim second ≠ "")
    (path : Returns (onSite bao (Pages.rotate state session headers name {form with key := first})) trace result)
    (run : Returns (onSite bao (Pages.rotate state session headers name {form with key := second})) others response)
    (alike : AnsweredAlike (trace.map valueMask.event) (others.map valueMask.event)) :
    result = response ∧ trace.filterMap shown = others.filterMap shown ∧
    ∀ lost statuses, statusesAfter lost statuses trace = statusesAfter lost statuses others := by
  obtain ⟨same,equal⟩ := alike_returns (handler_alike state session headers name form filled other) path run alike
  have visible : trace.filterMap shown = others.filterMap shown := by
    rw [← shown_hidden trace,same,shown_hidden]
  refine ⟨equal,visible,fun lost statuses => ?_⟩
  rw [statusesAfter,visible]
  rfl

-- A rotation of a key with two targets, over a writer with a token file.
def storeBao : OpenBao := ⟨⟨[],true⟩,.tokenFile "/token"⟩
def rootToken : CachedToken := ⟨"root",none⟩
def patched (path value : String) : Event SiteAnswer :=
  ⟨.inr (.write .patch ["v1","secret","data",path] "root" ⟨"token",value⟩),.ok {status := 200}⟩

def siteTrace (value : String) : SiteTrace :=
  [⟨.inl (.get "pair"),some pairKey⟩,⟨.inl (.get "pair"),some pairKey⟩,
    ⟨.inr .lock,none⟩,⟨.inr (.readFile "/token"),.ok "root"⟩,⟨.inr (.unlock (some rootToken)),()⟩,patched "a" value,
    ⟨.inr .lock,some rootToken⟩,⟨.inr (.unlock (some rootToken)),()⟩,patched "b" value,⟨.inl .now,.epoch⟩,
    ⟨.inl (.updateStatus "pair" (mutationOf pairKey.key pairRequest .notSupported pairCompleted .epoch)),.ok pairKey⟩,
    ⟨.inl (.recordEvent pairKey.key (submitEvent pairRequest.actor (pairCompleted.map outcomeOf))),()⟩,
    ⟨.inl (.countRotation "ok"),()⟩]

theorem carried_ask [HttpCrates] {bao : OpenBao} {op : Effect} {answer : Answer op}
    (direct : carryOut bao op = ask (Sum.inl op : SiteOp)) (rest : CarriedOut (carryOut bao) events later) :
    CarriedOut (carryOut bao) (⟨op,answer⟩ :: events) (⟨.inl op,answer⟩ :: later) := by
  have asked : Returns (carryOut bao op) [⟨.inl op,answer⟩] answer := by
    rw [direct]
    exact .cons .nil
  exact .cons asked rest

theorem siteTrace_returns (value : String) (filled : trim value ≠ "") :
    ∃ result, Returns (@onSite _ plainHttp storeBao
      (@Pages.rotate noUrls epochFormat visitState dialogSession [] "pair" {dialogForm with key := value}))
      (siteTrace value) result := by
  let _ := noUrls
  let _ := epochFormat
  let _ := plainHttp
  have matched : dialogSession.checkCsrf [] (some "token") = .ok () := by decide
  have passed : gate visitState.allowed "pair" ⟨value,dialogSession.actor,none,false⟩ (some pairKey) = .ok pairKey.key :=
    (gate_alike visitState.allowed "pair" (some pairKey) filled (by decide)).trans pairKey_passes
  have submitted := @SubmitTrace.saved "pair" pairKey.key ⟨value,dialogSession.actor,none,false⟩ .notSupported .epoch
    pairCompleted pairKey rfl
  have rotation := rotate_returns.mpr (.submitted passed (.generic rfl rfl) submitted)
  have handled : Returns (Pages.rotate visitState dialogSession [] "pair" {dialogForm with key := value})
      (⟨.get "pair",some pairKey⟩ :: _) _ := handler_run matched rfl rotation
  have first : Returns (toStore (storeBao.write pairTargets[0] value)) [⟨.inr .lock,none⟩,
      ⟨.inr (.readFile "/token"),.ok "root"⟩,⟨.inr (.unlock (some rootToken)),()⟩,patched "a" value] (.ok ()) := .cons (.cons (.cons (.cons .nil)))
  have second : Returns (toStore (storeBao.write pairTargets[1] value)) [⟨.inr .lock,some rootToken⟩,
      ⟨.inr (.unlock (some rootToken)),()⟩,patched "b" value] (.ok ()) := .cons (.cons (.cons .nil))
  refine ⟨_,implement_returns handled ?_⟩
  show CarriedOut (carryOut storeBao) _ (⟨.inl (.get "pair"),some pairKey⟩ :: ⟨.inl (.get "pair"),some pairKey⟩ ::
    ([_,_,_,_] ++ ([_,_,_] ++ (⟨.inl .now,_⟩ :: ⟨.inl (.updateStatus _ _),_⟩ :: ⟨.inl (.recordEvent _ _),_⟩ ::
    [⟨.inl (.countRotation _),_⟩]))))
  refine carried_ask rfl (carried_ask rfl (.cons first (.cons second ?_)))
  exact carried_ask rfl (carried_ask rfl (carried_ask rfl (carried_ask rfl .nil)))

-- Two keys of which each is one of the store's, as they are submitted.
theorem siteTraces_alike : ∃ result response,
    Returns (@onSite _ plainHttp storeBao
      (@Pages.rotate noUrls epochFormat visitState dialogSession [] "pair" {dialogForm with key := "v"}))
      (siteTrace "v") result ∧
    Returns (@onSite _ plainHttp storeBao
      (@Pages.rotate noUrls epochFormat visitState dialogSession [] "pair" {dialogForm with key := "w"}))
      (siteTrace "w") response ∧
    result = response ∧ (siteTrace "v").filterMap shown = (siteTrace "w").filterMap shown ∧
    ∀ lost statuses, statusesAfter lost statuses (siteTrace "v") = statusesAfter lost statuses (siteTrace "w") := by
  obtain ⟨result,first⟩ := siteTrace_returns "v" (by decide)
  obtain ⟨response,second⟩ := siteTrace_returns "w" (by decide)
  have masked : (siteTrace "v").map valueMask.event = (siteTrace "w").map valueMask.event := rfl
  refine ⟨result,response,first,second,?_⟩
  exact @submitted_key_unseen "v" "w" _ _ _ _ noUrls epochFormat plainHttp storeBao visitState dialogSession [] "pair"
    dialogForm (by decide) (by decide) first second (masked ▸ answeredAlike_refl _)

end YouSpinMe.SubmittedKey
