import YouSpinMe.RouterWalk

namespace YouSpinMe.RouterParts
open RequestProgram Effects Validation Rotation RouterWalk Identity Http Auth Web Text Jiff Crd

section Silence
variable [Crates] {state : AppState} {session : Session} {headers : HeaderMap}

theorem index_silent {filters : Filters} : Asks Silent (Pages.index state session headers filters) := by
  refine ⟨trivial,fun now => ⟨trivial,?_⟩⟩
  intro keys
  simp only
  split
  · trivial
  · trivial

theorem detail_silent [CharTables] {name notice : String} : Asks Silent (Pages.detail state session headers name notice) := by
  unfold Pages.detail
  rw [bind_ask,asks_request]
  refine ⟨trivial,?_⟩
  intro found
  cases found with
  | none => trivial
  | some named => exact ⟨trivial,fun _ => trivial⟩

omit [Crates] in
theorem logout_silent {form : CsrfForm} : Asks Silent (logout session headers form) := by
  unfold logout
  split
  · trivial
  · trivial

end Silence

-- A property of programs that silent ones have, and that two in a row have together.
structure Compositional (property : {α : Type} → App α → Prop) : Prop where
  silent : ∀ {α : Type} {program : App α}, Asks Silent program → property program
  bind : ∀ {α β : Type} {program : App α} {next : α → App β}, property program → (∀ value, property (next value)) →
    property (program >>= next)

section Parts
variable {property : {α : Type} → App α → Prop} (parts : Compositional property)
include parts

theorem Compositional.done {α : Type} (value : α) : property (.done value : App α) := parts.silent trivial

theorem Compositional.orFail {α β : Type} {program : App (Except AppError α)} {next : α → App (Except AppError β)}
    (first : property program) (second : ∀ value, property (next value)) : property (orFail program next) := by
  apply parts.bind first
  intro result
  cases result with
  | error e => exact parts.done _
  | ok value => exact second value

theorem Compositional.respond {handler : Handler} (handled : property handler) : property (respond handler) := by
  apply parts.bind handled
  intro result
  cases result with
  | error e => exact parts.done _
  | ok response => exact parts.done _

theorem Compositional.extract {α : Type} {parsed : Except Rejection α} {next : α → App Response}
    (second : ∀ value, property (next value)) : property (extract parsed next) := by
  cases parsed with
  | error r => exact parts.done _
  | ok value => exact second value

theorem Compositional.get {request : Request} {handler : App Response} (handled : property handler) :
    property (Web.get request handler) := by
  unfold Web.get
  split
  · exact handled
  · exact parts.bind handled fun _ => parts.done _
  · exact parts.done _

theorem Compositional.post {request : Request} {handler : App Response} (handled : property handler) :
    property (post request handler) := by
  unfold Web.post
  split
  · exact handled
  · exact parts.done _

variable [Crates] {state : AppState} {request : Request}

theorem Compositional.withUser {next : Session → App Response} (second : ∀ session, property (next session)) :
    property (withUser state request next) := by
  apply parts.bind (parts.silent (passive_silent user_passive))
  intro result
  cases result with
  | error rejection => exact parts.done _
  | ok session => exact second session

theorem Compositional.withAdmin {next : Session → App Response} (second : ∀ session, property (next session)) :
    property (withAdmin state request next) := by
  apply parts.bind (parts.silent (passive_silent admin_passive))
  intro result
  cases result with
  | error rejection => exact parts.done _
  | ok session => exact second session

-- What silent programs have, and a form that is saved and a rotation, every request has.
theorem Compositional.router [UrlCrate] [Format]
    (record : ∀ (session : Session) (name : String) (rotatedAt : Timestamp) (expiresAt : Option Timestamp) (now : Timestamp),
      property (Pages.saveRecord session name rotatedAt expiresAt now))
    (rotate : ∀ (name : String) (req : RotateRequest), property (Rotation.rotate state.allowed name req)) :
    property (Web.router state request) := by
  have clock : Asks Silent timestampNow := ⟨trivial,fun _ => trivial⟩
  have looked : ∀ name, Asks Silent (getKey name) := fun _ => ⟨trivial,fun _ => trivial⟩
  have recordPage : ∀ session name form, property (Pages.record state session request.headers name form) := by
    intro session name form
    apply parts.orFail (parts.done _)
    intro _
    apply parts.bind (parts.silent clock)
    intro now
    split
    · exact parts.orFail (parts.done _) fun dates => record session name dates.1 dates.2 now
    · exact parts.done _
  have rotatePage : ∀ session name form, property (Pages.rotate state session request.headers name form) := by
    intro session name form
    apply parts.orFail (parts.done _)
    intro _
    apply parts.bind (parts.silent (looked name))
    intro found
    simp only
    cases Pages.parseDate form.expiresAt with
    | error e => exact parts.done _
    | ok manual => exact parts.bind (rotate name _) fun _ => parts.done _
  have routed : property (routes state request) := by
    unfold routes
    cases routeOf request.path with
    | index =>
      exact parts.get (parts.withUser fun _ => parts.extract fun _ => parts.respond (parts.silent index_silent))
    | detail segment =>
      exact parts.get (parts.withUser fun _ => parts.extract fun _ => parts.extract fun _ =>
        parts.respond (parts.silent detail_silent))
    | record segment =>
      exact parts.post (parts.withAdmin fun session => parts.extract fun name => parts.extract fun form =>
        parts.respond (recordPage session name form))
    | rotate segment =>
      exact parts.post (parts.withAdmin fun session => parts.extract fun name => parts.extract fun form =>
        parts.respond (rotatePage session name form))
    | login => exact parts.get (parts.extract fun q => parts.respond (parts.silent (login_silent q)))
    | callback => exact parts.get (parts.extract fun q => parts.respond (parts.silent (callback_silent q)))
    | logout =>
      exact parts.post (parts.withUser fun _ => parts.extract fun _ => parts.respond (parts.silent logout_silent))
    | asset path => exact parts.get (parts.extract fun _ => parts.done _)
    | unknown => exact parts.done _
  have checked : property (originCheck state.publicOrigin request (routes state request)) := by
    unfold originCheck
    split
    · exact routed
    · exact parts.done _
  exact parts.bind checked fun _ => parts.done _

end Parts
end YouSpinMe.RouterParts
