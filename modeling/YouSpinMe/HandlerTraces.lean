import YouSpinMe.CallbackTraces
import YouSpinMe.RotationTraces
import YouSpinMe.Pages

namespace YouSpinMe.HandlerTraces
open RequestProgram Effects Validation Rotation RotationTraces CallbackTraces Identity Http Auth Text Jiff Crd

-- What `record` does with two dates it has read.
inductive SaveTrace [CharTables] [Format] (session : Session) (name : String) (rotatedAt : Timestamp) (expiresAt : Option Timestamp)
    (now : Timestamp) : Trace → Except AppError Response → Prop where
  | refused (path : RecordTrace name session.actor rotatedAt expiresAt now events (.error e)) :
      SaveTrace session name rotatedAt expiresAt now events (.error (Pages.recordFailure e))
  | saved (path : RecordTrace name session.actor rotatedAt expiresAt now events (.ok key)) :
      SaveTrace session name rotatedAt expiresAt now (events ++ [⟨.countRotation "recorded",()⟩])
        (.ok (redirect ("/keys/" ++ urlencode name ++ "?notice=recorded")))

theorem saveRecord_returns [CharTables] [Format] : Returns (Pages.saveRecord session name rotatedAt expiresAt now) trace result ↔
    SaveTrace session name rotatedAt expiresAt now trace result := by
  simp only [Pages.saveRecord,returns_bind,record_returns]
  constructor
  · intro given
    obtain ⟨outcome,events,last,rfl,path,after⟩ := given
    cases outcome with
    | error e =>
      obtain ⟨rfl,rfl⟩ := returns_done.mp after
      rw [List.append_nil]
      exact .refused path
    | ok key =>
      obtain ⟨_,_,rfl,last⟩ := returns_request.mp after
      obtain ⟨rfl,rfl⟩ := returns_done.mp last
      exact .saved path
  · intro given
    cases given with
    | refused path => exact ⟨_,_,_,(List.append_nil _).symm,path,.nil⟩
    | saved path => exact ⟨_,_,_,rfl,path,.cons .nil⟩

-- Every completed run of the handler `record`.
inductive RecordRun [CharTables] [Format] (state : AppState) (session : Session) (headers : HeaderMap) (name : String)
    (form : Pages.RecordForm) : Trace → Except AppError Response → Prop where
  | unmatched (refused : session.checkCsrf headers form.csrf = .error e) :
      RecordRun state session headers name form [] (.error e)
  | stale (matched : session.checkCsrf headers form.csrf = .ok ())
      (stale : session.freshEnough state.stepUpMaxAge now = false) :
      RecordRun state session headers name form [⟨.now,now⟩] (.ok (redirect (Pages.reauthLocation name)))
  | undated (matched : session.checkCsrf headers form.csrf = .ok ())
      (fresh : session.freshEnough state.stepUpMaxAge now = true) (unread : Pages.recordDates form now = .error e) :
      RecordRun state session headers name form [⟨.now,now⟩] (.error e)
  | dated (matched : session.checkCsrf headers form.csrf = .ok ())
      (fresh : session.freshEnough state.stepUpMaxAge now = true) (read : Pages.recordDates form now = .ok dates)
      (path : SaveTrace session name dates.1 dates.2 now events result) :
      RecordRun state session headers name form (⟨.now,now⟩ :: events) result

section Handlers
variable {state : AppState} {session : Session} {headers : HeaderMap} {name : String}

-- What `record` does once it has read the clock.
def afterClock [CharTables] [Format] (state : AppState) (session : Session) (name : String) (form : Pages.RecordForm)
    (now : Timestamp) : Handler :=
  if session.freshEnough state.stepUpMaxAge now then
    orFail (pure (Pages.recordDates form now)) fun dates => Pages.saveRecord session name dates.1 dates.2 now
  else pure (.ok (redirect (Pages.reauthLocation name)))

theorem record_clock [CharTables] [Format] {form : Pages.RecordForm} (matched : session.checkCsrf headers form.csrf = .ok ()) :
    Pages.record state session headers name form = .request .now (afterClock state session name form) := by
  unfold Pages.record
  rw [matched]
  rfl

theorem recordHandler_returns [CharTables] [Format] {form : Pages.RecordForm} :
    Returns (Pages.record state session headers name form) trace result ↔
      RecordRun state session headers name form trace result := by
  constructor
  · intro given
    cases matched : session.checkCsrf headers form.csrf with
    | error e =>
      rw [Pages.record,matched] at given
      obtain ⟨rfl,rfl⟩ := returns_done.mp given
      exact .unmatched matched
    | ok _ =>
      rw [record_clock matched,returns_request] at given
      obtain ⟨now,events,rfl,after⟩ := given
      unfold afterClock at after
      split at after
      · rename_i fresh
        rcases orFail_pure_returns.mp after with ⟨e,unread,rfl,rfl⟩ | ⟨dates,read,path⟩
        · exact .undated matched fresh unread
        · exact .dated matched fresh read (saveRecord_returns.mp path)
      · rename_i stale
        obtain ⟨rfl,rfl⟩ := returns_done.mp after
        exact .stale matched (Bool.eq_false_iff.mpr stale)
  · intro given
    cases given with
    | unmatched refused =>
      rw [Pages.record,refused]
      exact .nil
    | stale matched stale =>
      rw [record_clock matched]
      refine returns_request.mpr ⟨_,_,rfl,?_⟩
      rw [afterClock,stale]
      exact .nil
    | undated matched fresh unread =>
      rw [record_clock matched]
      refine returns_request.mpr ⟨_,_,rfl,?_⟩
      rw [afterClock,if_pos fresh,unread]
      exact .nil
    | dated matched fresh read path =>
      rw [record_clock matched]
      refine returns_request.mpr ⟨_,_,rfl,?_⟩
      rw [afterClock,if_pos fresh,read]
      exact saveRecord_returns.mpr path

def consumersOf (found : Option (Named name)) : List String := (found.map fun named => named.key.spec.consumers).getD []

-- Every completed run of the handler `rotate`. Its errors are shown in the dialog.
inductive RotateRun [UrlCrate] [Format] (state : AppState) (session : Session) (headers : HeaderMap) (name : String)
    (form : Pages.RotateForm) : Trace → Except AppError Response → Prop where
  | unmatched (refused : session.checkCsrf headers form.csrf = .error e) :
      RotateRun state session headers name form [] (.error e)
  | undated {found : Option (Named name)} (matched : session.checkCsrf headers form.csrf = .ok ())
      (unread : Pages.parseDate form.expiresAt = .error e) :
      RotateRun state session headers name form [⟨.get name,found⟩]
        (.ok (Pages.rotatePage ⟨name,e.text,none,consumersOf found⟩))
  | dated {found : Option (Named name)} (matched : session.checkCsrf headers form.csrf = .ok ())
      (read : Pages.parseDate form.expiresAt = .ok manual)
      (path : RotateTrace state.allowed name (Pages.rotateRequest session form manual) events outcome) :
      RotateRun state session headers name form (⟨.get name,found⟩ :: events)
        (.ok (Pages.rotated name (consumersOf found) outcome))

-- What `rotate` does once it has looked at the key.
def afterLook [UrlCrate] [Format] (state : AppState) (session : Session) (form : Pages.RotateForm)
    (found : Option (Named name)) : Handler :=
  match Pages.parseDate form.expiresAt with
  | .error e => pure (.ok (Pages.rotatePage ⟨name,e.text,none,consumersOf found⟩))
  | .ok manual => do
    let result ← Rotation.rotate state.allowed name (Pages.rotateRequest session form manual)
    pure (.ok (Pages.rotated name (consumersOf found) result))

theorem rotate_looks [UrlCrate] [Format] {form : Pages.RotateForm} (matched : session.checkCsrf headers form.csrf = .ok ()) :
    Pages.rotate state session headers name form = .request (.get name) (afterLook state session form) := by
  unfold Pages.rotate
  rw [matched]
  change Program.request (Effect.get name) _ = _
  congr 1
  funext found
  cases found <;> rfl

theorem rotateHandler_returns [UrlCrate] [Format] {form : Pages.RotateForm} :
    Returns (Pages.rotate state session headers name form) trace result ↔
      RotateRun state session headers name form trace result := by
  constructor
  · intro given
    cases matched : session.checkCsrf headers form.csrf with
    | error e =>
      rw [Pages.rotate,matched] at given
      obtain ⟨rfl,rfl⟩ := returns_done.mp given
      exact .unmatched matched
    | ok _ =>
      rw [rotate_looks matched,returns_request] at given
      obtain ⟨found,events,rfl,after⟩ := given
      unfold afterLook at after
      cases read : Pages.parseDate form.expiresAt with
      | error e =>
        rw [read] at after
        obtain ⟨rfl,rfl⟩ := returns_done.mp after
        exact .undated matched read
      | ok manual =>
        rw [read] at after
        obtain ⟨outcome,events,last,rfl,rotation,shown⟩ := returns_bind.mp after
        obtain ⟨rfl,rfl⟩ := returns_done.mp shown
        rw [List.append_nil]
        exact .dated matched read (rotate_returns.mp rotation)
  · intro given
    cases given with
    | unmatched refused =>
      rw [Pages.rotate,refused]
      exact .nil
    | undated matched unread =>
      rw [rotate_looks matched]
      refine returns_request.mpr ⟨_,_,rfl,?_⟩
      rw [afterLook,unread]
      exact .nil
    | dated matched read path =>
      rw [rotate_looks matched]
      refine returns_request.mpr ⟨_,_,rfl,?_⟩
      rw [afterLook,read]
      exact returns_bind.mpr ⟨_,_,_,(List.append_nil _).symm,rotate_returns.mpr path,.nil⟩

end Handlers

end YouSpinMe.HandlerTraces
