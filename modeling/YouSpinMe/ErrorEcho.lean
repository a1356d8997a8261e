import YouSpinMe.RotationOutcome
import YouSpinMe.HandlerTraces
import YouSpinMe.Kube
import YouSpinMe.DebugText

namespace YouSpinMe.ErrorEcho
open RequestProgram Effects Validation Rotation RotationTraces RotationOutcome HandlerTraces Identity Http Auth DebugText
  Text Jiff Crd

-- The errors a submission may end in. One that was reported to the program keeps
-- what was reported.
inductive ErrorKind where
  | csrf
  | invalidDate
  | futureDate
  | expiryBeforeRotation
  | emptyKey
  | noTargets
  | invalidSpec
  | notFound
  | probe (e : ProbeError)
  | status (e : RepoError)
  deriving DecidableEq

def recordKind : RecordError → ErrorKind
  | .futureDate => .futureDate
  | .expiryBeforeRotation => .expiryBeforeRotation
  | .repo (.notFound _) => .notFound
  | .repo e => .status e

def rotateKind : RotateError → ErrorKind
  | .notFound _ => .notFound
  | .empty => .emptyKey
  | .noTargets => .noTargets
  | .invalidSpec _ => .invalidSpec
  | .probe e => .probe e
  | .status e => .status e

section Runs
variable {state : AppState} {session : Session} {headers : HeaderMap} {name : String}

-- A run of `record` that ends in an error.
inductive RecordFails [CharTables] [Format] (state : AppState) (session : Session) (headers : HeaderMap) (name : String)
    (form : Pages.RecordForm) : ErrorKind → Trace → AppError → Prop where
  | csrf (refused : session.checkCsrf headers form.csrf = .error e) :
      RecordFails state session headers name form .csrf [] e
  | date (matched : session.checkCsrf headers form.csrf = .ok ())
      (fresh : session.freshEnough state.stepUpMaxAge now = true) (unread : Pages.recordDates form now = .error e) :
      RecordFails state session headers name form .invalidDate [⟨.now,now⟩] e
  | refused (matched : session.checkCsrf headers form.csrf = .ok ())
      (fresh : session.freshEnough state.stepUpMaxAge now = true) (read : Pages.recordDates form now = .ok dates)
      (path : RecordTrace name session.actor dates.1 dates.2 now events (.error e)) :
      RecordFails state session headers name form (recordKind e) (⟨.now,now⟩ :: events) (Pages.recordFailure e)

theorem record_error [CharTables] [Format] {form : Pages.RecordForm} :
    Returns (Pages.record state session headers name form) trace (.error e) ↔
      ∃ kind, RecordFails state session headers name form kind trace e := by
  rw [recordHandler_returns]
  constructor
  · intro run
    cases run with
    | unmatched refused => exact ⟨_,.csrf refused⟩
    | undated matched fresh unread => exact ⟨_,.date matched fresh unread⟩
    | dated matched fresh read path =>
      cases path with
      | refused path => exact ⟨_,.refused matched fresh read path⟩
  · intro given
    obtain ⟨kind,fails⟩ := given
    cases fails with
    | csrf refused => exact .unmatched refused
    | date matched fresh unread => exact .undated matched fresh unread
    | refused matched fresh read path => exact .dated matched fresh read (.refused path)

-- A dialog that shows an error.
def failed [Format] (found : Option (Named name)) (error : String) : Response :=
  Pages.rotatePage ⟨name,error,none,consumersOf found⟩

inductive RotateFails [UrlCrate] [Format] (state : AppState) (session : Session) (headers : HeaderMap) (name : String)
    (form : Pages.RotateForm) : ErrorKind → Trace → Except AppError Response → Prop where
  | csrf (refused : session.checkCsrf headers form.csrf = .error e) :
      RotateFails state session headers name form .csrf [] (.error e)
  | date {found : Option (Named name)} (matched : session.checkCsrf headers form.csrf = .ok ())
      (unread : Pages.parseDate form.expiresAt = .error e) :
      RotateFails state session headers name form .invalidDate [⟨.get name,found⟩] (.ok (failed found e.text))
  | refused {found : Option (Named name)} (matched : session.checkCsrf headers form.csrf = .ok ())
      (read : Pages.parseDate form.expiresAt = .ok manual)
      (path : RotateTrace state.allowed name (Pages.rotateRequest session form manual) events (.error e)) :
      RotateFails state session headers name form (rotateKind e) (⟨.get name,found⟩ :: events)
        (.ok (failed found e.text))

-- The other runs show what became of the targets.
inductive RotateShows [UrlCrate] [Format] (state : AppState) (session : Session) (headers : HeaderMap) (name : String)
    (form : Pages.RotateForm) : Trace → Except AppError Response → Prop where
  | outcome {found : Option (Named name)} {o : RotateOutcome} (matched : session.checkCsrf headers form.csrf = .ok ())
      (read : Pages.parseDate form.expiresAt = .ok manual)
      (path : RotateTrace state.allowed name (Pages.rotateRequest session form manual) events (.ok o)) :
      RotateShows state session headers name form (⟨.get name,found⟩ :: events)
        (.ok (Pages.rotated name (consumersOf found) (.ok o)))

theorem rotate_error [UrlCrate] [Format] {form : Pages.RotateForm} :
    Returns (Pages.rotate state session headers name form) trace result ↔
      (∃ kind, RotateFails state session headers name form kind trace result) ∨
        RotateShows state session headers name form trace result := by
  rw [rotateHandler_returns]
  constructor
  · intro run
    cases run with
    | unmatched refused => exact .inl ⟨_,.csrf refused⟩
    | undated matched unread => exact .inl ⟨_,.date matched unread⟩
    | @dated _ _ outcome _ matched read path =>
      cases outcome with
      | error e => exact .inl ⟨_,.refused matched read path⟩
      | ok o => exact .inr (.outcome matched read path)
  · intro given
    rcases given with fails | shows
    · obtain ⟨kind,fails⟩ := fails
      cases fails with
      | csrf refused => exact .unmatched refused
      | date matched unread => exact .undated matched unread
      | refused matched read path => exact .dated matched read path
    · cases shows with
      | outcome matched read path => exact .dated matched read path

end Runs

section Dates
variable [Format]

-- A date field that is refused: it is filled, and no time is found for it.
def unusable (v : String) : Bool := trim v ≠ "" && ((Format.parseDate (trim v)).bind Date.midnight).isNone

-- What is said of it.
def problem [CharTables] (v : String) : String :=
  match Format.parseDate (trim v) with
  | none => "invalid date " ++ debug (trim v)
  | some date => Format.midnightError date

theorem parseDate_error [CharTables] (v : String) : Pages.parseDate v = .error e ↔ unusable v = true ∧ e = .badRequest (problem v) := by
  unfold Pages.parseDate unusable problem
  by_cases blank : trim v = ""
  · simp [blank]
  · cases parsed : Format.parseDate (trim v) with
    | none => simp [blank,eq_comm]
    | some date => cases midnight : date.midnight <;> simp [blank,midnight,eq_comm]

-- Two refusals read the same: of texts that are no dates, the texts have to agree.
def SameProblem [CharTables] (v w : String) : Prop :=
  match Format.parseDate (trim v),Format.parseDate (trim w) with
  | none,none => trim v = trim w
  | some date,some other => Format.midnightError date = Format.midnightError other
  | none,some date => "invalid date " ++ debug (trim v) = Format.midnightError date
  | some date,none => Format.midnightError date = "invalid date " ++ debug (trim w)

theorem problem_exact [CharTables] (v w : String) : problem v = problem w ↔ SameProblem v w := by
  unfold problem SameProblem
  cases Format.parseDate (trim v) with
  | none =>
    cases Format.parseDate (trim w) with
    | none => exact (String.append_right_inj _).trans debug_inj
    | some date => exact Iff.rfl
  | some date =>
    cases Format.parseDate (trim w) with
    | none => exact Iff.rfl
    | some other => exact Iff.rfl

theorem recordDates_error [CharTables] {form : Pages.RecordForm} (unread : Pages.recordDates form now = .error e) :
    ∃ v, [form.rotatedAt,form.expiresAt].find? unusable = some v ∧ e = .badRequest (problem v) := by
  unfold Pages.recordDates at unread
  cases first : Pages.parseDate form.rotatedAt with
  | error found =>
    rw [first] at unread
    obtain ⟨bad,rfl⟩ := (parseDate_error _).mp first
    cases unread
    exact ⟨_,List.find?_cons_of_pos bad,rfl⟩
  | ok rotatedAt =>
    have fine : ¬unusable form.rotatedAt = true := by
      intro bad
      rw [(parseDate_error _).mpr ⟨bad,rfl⟩] at first
      cases first
    rw [first] at unread
    cases second : Pages.parseDate form.expiresAt with
    | error found =>
      rw [second] at unread
      obtain ⟨bad,rfl⟩ := (parseDate_error _).mp second
      cases unread
      exact ⟨_,(List.find?_cons_of_neg fine).trans (List.find?_cons_of_pos bad),rfl⟩
    | ok expiresAt =>
      rw [second] at unread
      cases unread

end Dates

-- The repository names the key it was asked for.
theorem attempt_missing (path : Returns (Kube.attempt name mutate n) trace (.error (.notFound other))) : other = name := by
  induction n generalizing trace with
  | zero =>
    obtain ⟨_,equal⟩ := returns_done.mp path
    cases equal
  | succ n ih =>
    obtain ⟨answer,rest,rfl,read⟩ := returns_request.mp path
    cases answer with
    | error e =>
      cases e <;> (obtain ⟨_,equal⟩ := returns_done.mp read; cases equal)
      rfl
    | ok obj =>
      obtain ⟨answer,rest,rfl,replaced⟩ := returns_request.mp read
      cases answer with
      | ok updated =>
        obtain ⟨_,equal⟩ := returns_done.mp replaced
        cases equal
      | error e =>
        cases e with
        | conflict detail => exact ih replaced
        | notFound | other =>
          obtain ⟨_,equal⟩ := returns_done.mp replaced
          cases equal

-- The state a submission meets: what is found under each name, and a repository
-- that fails in no other way than `update_status` does.
structure Answered (site : (name : String) → Option (Named name)) (trace : Trace) : Prop where
  found : ∀ name found, ⟨.get name,found⟩ ∈ trace → found = site name
  unsaved : ∀ name mutate e, ⟨.updateStatus name mutate,.error e⟩ ∈ trace →
    ∃ calls, Returns (Kube.updateStatus name mutate) calls (.error e)

theorem Answered.tail {site : (name : String) → Option (Named name)} (answered : Answered site (event :: trace)) :
    Answered site trace where
  found := fun name found present => answered.found name found (.tail _ present)
  unsaved := fun name mutate e present => answered.unsaved name mutate e (.tail _ present)

section Kinds
variable {site : (name : String) → Option (Named name)} {name : String}

-- In one state the kind of an error determines the error.
theorem recordKind_inj {e f : RecordError} (same : recordKind e = recordKind f)
    (first : ∀ other, e = .repo (.notFound other) → other = name)
    (second : ∀ other, f = .repo (.notFound other) → other = name) : e = f := by
  rcases e with _ | _ | ⟨other⟩ | _ | detail
  · rcases f with _ | _ | _ | _ | _ <;> first | rfl | cases same
  · rcases f with _ | _ | _ | _ | _ <;> first | rfl | cases same
  · rcases f with _ | _ | ⟨again⟩ | _ | _
    · cases same
    · cases same
    · rw [first other rfl,second again rfl]
    · cases same
    · cases same
  · rcases f with _ | _ | _ | _ | _ <;> first | rfl | cases same
  · rcases f with _ | _ | _ | _ | _ <;> first | rfl | (cases same; rfl) | cases same

theorem recordTrace_names [Format] (path : RecordTrace name actor rotatedAt expiresAt now trace (.error e))
    (answered : Answered site trace) : ∀ other, e = .repo (.notFound other) → other = name := by
  intro other equal
  subst equal
  cases path with
  | unsaved dated ordered =>
    obtain ⟨calls,path⟩ := answered.unsaved _ _ _ (.head _)
    exact attempt_missing path

-- What a rotation says beyond the kind of its error is known from the key.
def Explained [UrlCrate] (allowed : PathAllowList) (found : Option (Named name)) : RotateError → Prop
  | .notFound other => other = name
  | .invalidSpec problems => ∃ named, found = some named ∧ problems = "; ".intercalate (validate named.key.spec allowed)
  | _ => True

theorem rotateKind_inj [UrlCrate] {allowed : PathAllowList} {found : Option (Named name)} {e f : RotateError}
    (same : rotateKind e = rotateKind f) (first : Explained allowed found e) (second : Explained allowed found f) : e = f := by
  cases e with
  | notFound other =>
    cases f with
    | notFound again =>
      have one : other = name := first
      have two : again = name := second
      rw [one,two]
    | _ => cases same
  | invalidSpec problems =>
    cases f with
    | invalidSpec others =>
      obtain ⟨named,there,rfl⟩ := first
      obtain ⟨again,found,rfl⟩ := second
      cases there.symm.trans found
      rfl
    | _ => cases same
  | empty => cases f <;> first | rfl | cases same
  | noTargets => cases f <;> first | rfl | cases same
  | probe e => cases f <;> first | (cases same; rfl) | cases same
  | status e => cases f <;> first | (cases same; rfl) | cases same

theorem rotateTrace_explained [UrlCrate] (path : RotateTrace allowed name req trace (.error e))
    (answered : Answered site trace) : Explained allowed (site name) e := by
  cases path with
  | gated stopped =>
    have found := answered.found _ _ (.head _)
    cases gate_error.mp stopped with
    | unknown => rfl
    | blank => trivial
    | noTargets => trivial
    | invalid filled listed problems => exact ⟨_,found.symm,rfl⟩
  | refused passed check => trivial
  | submitted passed check rest => cases rest with | unsaved all => trivial

end Kinds

-- What is sent for the result of a handler.
def sent : Except AppError Response → Response
  | .error e => AppError.intoResponse e
  | .ok response => response

theorem respond_sent {handler : Handler} : Returns (respond handler) trace response ↔
    ∃ result, Returns handler trace result ∧ response = sent result := by
  unfold respond
  rw [returns_bind]
  constructor
  · intro path
    obtain ⟨result,events,last,rfl,path,answered⟩ := path
    refine ⟨result,?_⟩
    cases result with
    | error e =>
      obtain ⟨rfl,rfl⟩ := returns_done.mp answered
      rw [List.append_nil]
      exact ⟨path,rfl⟩
    | ok found =>
      obtain ⟨rfl,rfl⟩ := returns_done.mp answered
      rw [List.append_nil]
      exact ⟨path,rfl⟩
  · intro given
    obtain ⟨result,path,rfl⟩ := given
    refine ⟨result,trace,[],(List.append_nil _).symm,path,?_⟩
    cases result with
    | error e => exact .nil
    | ok found => exact .nil

theorem badRequest_body (one other : String) :
    (AppError.intoResponse (.badRequest one)).body = (AppError.intoResponse (.badRequest other)).body ↔ one = other := by
  simp [AppError.intoResponse,html,AppError.text,AppError.status,AppError.title]

section Bodies
variable [Format]

-- The date fields of two forms give the same refusal.
def SameRefusal [CharTables] (fields others : List String) : Prop :=
  ∀ v w, fields.find? unusable = some v → others.find? unusable = some w → SameProblem v w

-- Bodies that say no more than the kind, but for the date that was refused.
inductive Bodies [CharTables] (fields others : List String) : ErrorKind → Body → Body → Prop where
  | dates (first : fields.find? unusable = some v) (second : others.find? unusable = some w)
      (shown : body = other ↔ problem v = problem w) : Bodies fields others .invalidDate body other
  | kinds (different : kind ≠ .invalidDate) (same : body = other) : Bodies fields others kind body other

theorem bodies_exact [CharTables] (bodies : Bodies fields others kind body other) :
    body = other ↔ (kind = .invalidDate → SameRefusal fields others) := by
  cases bodies with
  | @dates v w _ _ first second shown =>
    rw [shown,problem_exact]
    constructor
    · intro same _ x y one two
      cases first.symm.trans one
      cases second.symm.trans two
      exact same
    · intro same
      exact same rfl v w first second
  | kinds different same => exact iff_of_true same fun equal => absurd equal different

-- An empty error shows nothing, every other one itself.
theorem failed_body (found again : Option (Named name)) (one other : String) :
    (failed found one).body = (failed again other).body ↔ one = other := by
  change Body.rotateResult (if one ≠ "" then some _ else none) = Body.rotateResult (if other ≠ "" then some _ else none) ↔ _
  rw [Body.rotateResult.injEq]
  by_cases first : one = ""
  · rw [if_neg (not_not.mpr first)]
    by_cases second : other = ""
    · rw [if_neg (not_not.mpr second)]
      exact iff_of_true rfl (first.trans second.symm)
    · rw [if_pos second]
      exact iff_of_false (by simp) fun equal => second (equal.symm.trans first)
  · rw [if_pos first]
    by_cases second : other = ""
    · rw [if_neg (not_not.mpr second)]
      exact iff_of_false (by simp) fun equal => first (equal.trans second)
    · rw [if_pos second]
      simp

end Bodies

theorem recordKind_csrf {e : RecordError} : recordKind e ≠ .csrf := by
  rcases e with _ | _ | _ | _ | _ <;> simp [recordKind]

theorem recordKind_date {e : RecordError} : recordKind e ≠ .invalidDate := by
  rcases e with _ | _ | _ | _ | _ <;> simp [recordKind]

theorem rotateKind_csrf {e : RotateError} : rotateKind e ≠ .csrf := by
  cases e <;> simp [rotateKind]

theorem rotateKind_date {e : RotateError} : rotateKind e ≠ .invalidDate := by
  cases e <;> simp [rotateKind]

section Pairs
variable {site : (name : String) → Option (Named name)} {state : AppState} {session : Session} {headers : HeaderMap}
  {name : String} {kind again : ErrorKind}

theorem recordFails_bodies [CharTables] [Format] {form other : Pages.RecordForm}
    (first : RecordFails state session headers name form kind trace e)
    (second : RecordFails state session headers name other again later f) (same : kind = again)
    (answered : Answered site trace) (answeredLater : Answered site later) :
    Bodies [form.rotatedAt,form.expiresAt] [other.rotatedAt,other.expiresAt] kind
      (AppError.intoResponse e).body (AppError.intoResponse f).body := by
  cases first with
  | csrf refused =>
    cases second with
    | csrf refusedLater =>
      rw [checkCsrf_error refused,checkCsrf_error refusedLater]
      exact .kinds (by simp) rfl
    | date => cases same
    | refused => exact absurd same.symm recordKind_csrf
  | date matched fresh unread =>
    cases second with
    | csrf => cases same
    | date _ _ unreadLater =>
      obtain ⟨v,found,rfl⟩ := recordDates_error unread
      obtain ⟨w,foundLater,rfl⟩ := recordDates_error unreadLater
      exact .dates found foundLater (badRequest_body ..)
    | refused => exact absurd same.symm recordKind_date
  | refused matched fresh read path =>
    cases second with
    | csrf => exact absurd same recordKind_csrf
    | date => exact absurd same recordKind_date
    | refused _ _ _ pathLater =>
      have equal := recordKind_inj same (recordTrace_names path answered.tail)
        (recordTrace_names pathLater answeredLater.tail)
      rw [equal]
      exact .kinds recordKind_date rfl

theorem rotateFails_bodies [UrlCrate] [Format] {form other : Pages.RotateForm}
    (first : RotateFails state session headers name form kind trace result)
    (second : RotateFails state session headers name other again later outcome) (same : kind = again)
    (answered : Answered site trace) (answeredLater : Answered site later) :
    Bodies [form.expiresAt] [other.expiresAt] kind (sent result).body (sent outcome).body := by
  cases first with
  | csrf refused =>
    cases second with
    | csrf refusedLater =>
      rw [checkCsrf_error refused,checkCsrf_error refusedLater]
      exact .kinds (by simp) rfl
    | date => cases same
    | refused => exact absurd same.symm rotateKind_csrf
  | date matched unread =>
    cases second with
    | csrf => cases same
    | date _ unreadLater =>
      obtain ⟨bad,rfl⟩ := (parseDate_error _).mp unread
      obtain ⟨badLater,rfl⟩ := (parseDate_error _).mp unreadLater
      exact .dates (List.find?_cons_of_pos bad) (List.find?_cons_of_pos badLater) (failed_body ..)
    | refused => exact absurd same.symm rotateKind_date
  | refused matched read path =>
    cases second with
    | csrf => exact absurd same rotateKind_csrf
    | date => exact absurd same rotateKind_date
    | refused _ _ pathLater =>
      have equal := rotateKind_inj same (rotateTrace_explained path answered.tail)
        (rotateTrace_explained pathLater answeredLater.tail)
      exact .kinds rotateKind_date ((failed_body ..).mpr (congrArg RotateError.text equal))

end Pairs

-- Two errors of one kind read the same, but for a date that was refused: the
-- field is repeated in the answer.
theorem error_echo [UrlCrate] [Format] (site : (name : String) → Option (Named name)) (state : AppState)
    (session : Session) (headers : HeaderMap) (name : String) :
    (∀ (form other : Pages.RecordForm) (kind : ErrorKind) (trace later : Trace) (e f : AppError),
      RecordFails state session headers name form kind trace e → RecordFails state session headers name other kind later f →
      Answered site trace → Answered site later →
      ((sent (.error e)).body = (sent (.error f)).body ↔
        (kind = .invalidDate → SameRefusal [form.rotatedAt,form.expiresAt] [other.rotatedAt,other.expiresAt]))) ∧
    ∀ (form other : Pages.RotateForm) (kind : ErrorKind) (trace later : Trace) (result outcome : Except AppError Response),
      RotateFails state session headers name form kind trace result →
      RotateFails state session headers name other kind later outcome →
      Answered site trace → Answered site later →
      ((sent result).body = (sent outcome).body ↔
        (kind = .invalidDate → SameRefusal [form.expiresAt] [other.expiresAt])) := by
  constructor
  · intro form other kind trace later e f first second answered answeredLater
    exact bodies_exact (recordFails_bodies first second rfl answered answeredLater)
  · intro form other kind trace later result outcome first second answered answeredLater
    exact bodies_exact (rotateFails_bodies first second rfl answered answeredLater)

def echoState : AppState where
  publicOrigin := "http://k"
  secure := false
  sessionTtl := .fromSecs 3600 (by decide) (by decide)
  stepUpMaxAge := none
  allowed := .allowAll
  auth := .insecureDev "token"

def recorder : Session := ⟨"sub","ada",true,"token",none,0⟩
def dated (rotatedAt : String) : Pages.RecordForm := ⟨some "token",rotatedAt,""⟩
def keyed (key expiresAt : String) : Pages.RotateForm := ⟨some "token",key,expiresAt,none⟩

-- Both are answered with the page for a bad request, which repeats the text.
theorem dates_echoed : let _ := noUrls; let _ := epochFormat
    ∃ trace e f, RecordFails echoState recorder [] "pair" (dated "x") .invalidDate trace e ∧
      RecordFails echoState recorder [] "pair" (dated "y") .invalidDate trace f ∧
      Answered (fun _ => none) trace ∧
      Returns (respond (Pages.record echoState recorder [] "pair" (dated "x"))) trace (sent (.error e)) ∧
      Returns (respond (Pages.record echoState recorder [] "pair" (dated "y"))) trace (sent (.error f)) ∧
      (sent (.error e)).body ≠ (sent (.error f)).body := by
  intro _ _
  have first : RecordFails echoState recorder [] "pair" (dated "x") .invalidDate [⟨.now,.epoch⟩] _ := .date rfl rfl rfl
  have second : RecordFails echoState recorder [] "pair" (dated "y") .invalidDate [⟨.now,.epoch⟩] _ := .date rfl rfl rfl
  refine ⟨_,_,_,first,second,⟨by simp,by simp⟩,respond_sent.mpr ⟨_,record_error.mpr ⟨_,first⟩,rfl⟩,
    respond_sent.mpr ⟨_,record_error.mpr ⟨_,second⟩,rfl⟩,?_⟩
  intro equal
  exact absurd ((badRequest_body ..).mp equal) (by decide)

theorem blank_alike : let _ := noUrls; let _ := epochFormat
    (∃ trace e f, RecordFails echoState recorder [] "pair" (dated "x") .invalidDate trace e ∧
      RecordFails echoState recorder [] "pair" (dated " x") .invalidDate trace f ∧
      (sent (.error e)).body = (sent (.error f)).body) ∧
    ∃ trace result outcome, RotateFails echoState recorder [] "pair" (keyed "k" "x") .invalidDate trace result ∧
      RotateFails echoState recorder [] "pair" (keyed "v" " x") .invalidDate trace outcome ∧
      (sent result).body = (sent outcome).body := by
  intro _ _
  have alike : SameRefusal ["x",""] [" x",""] := by
    intro v w first second
    cases first
    cases second
    rfl
  have alikeDate : SameRefusal ["x"] [" x"] := by
    intro v w first second
    cases first
    cases second
    rfl
  constructor
  · have first : RecordFails echoState recorder [] "pair" (dated "x") .invalidDate [⟨.now,.epoch⟩] _ := .date rfl rfl rfl
    have second : RecordFails echoState recorder [] "pair" (dated " x") .invalidDate [⟨.now,.epoch⟩] _ := .date rfl rfl rfl
    have clock : Answered (fun _ => none) [⟨.now,.epoch⟩] := ⟨by simp,by simp⟩
    exact ⟨_,_,_,first,second,((error_echo (fun _ => none) echoState recorder [] "pair").1 _ _ _ _ _ _ _ first second
      clock clock).mpr fun _ => alike⟩
  · have first : RotateFails echoState recorder [] "pair" (keyed "k" "x") .invalidDate [⟨.get "pair",none⟩] _ :=
      .date rfl rfl
    have second : RotateFails echoState recorder [] "pair" (keyed "v" " x") .invalidDate [⟨.get "pair",none⟩] _ :=
      .date rfl rfl
    have look : Answered (fun _ => none) [⟨.get "pair",none⟩] := by
      refine ⟨?_,by simp⟩
      intro name found present
      cases List.mem_singleton.mp present
      rfl
    exact ⟨_,_,_,first,second,((error_echo (fun _ => none) echoState recorder [] "pair").2 _ _ _ _ _ _ _ first second
      look look).mpr fun _ => alikeDate⟩

end YouSpinMe.ErrorEcho
