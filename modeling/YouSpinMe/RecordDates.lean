import YouSpinMe.RejectionReports

namespace YouSpinMe.RecordDates
open RequestProgram Effects Validation Rotation RotationTraces HandlerTraces RejectionReports Admission Text Jiff Crd Identity Http
  Auth Pages

abbrev dayNanos : Int := 86400000000000

instance : LE Date := ⟨fun a b => a.day ≤ b.day⟩

theorem parseDate_midnight [CharTables] [Format] (parsed : parseDate value = .ok (some t)) : t.nanos = t.utcDate.day * dayNanos := by
  unfold parseDate at parsed
  split at parsed
  · cases parsed
  · split at parsed
    · cases parsed
    · rename_i date _
      cases midnight : date.midnight with
      | none => simp [midnight] at parsed
      | some ts =>
        simp only [midnight,Except.ok.injEq,Option.some.injEq] at parsed
        subst parsed
        rw [Date.midnight_date midnight]
        unfold Date.midnight at midnight
        split at midnight
        · split at midnight
          · cases midnight
            rfl
          · cases midnight
        · cases midnight

-- The rotation day that a form names: a blank one is the day of the clock.
def rotationDay (parsed : Option Timestamp) (now : Timestamp) : Date :=
  (parsed.map Timestamp.utcDate).getD now.utcDate

theorem recordedAt_exact [Format] (parsed : Option Timestamp) (now : Timestamp) :
    recordedAt parsed now = if rotationDay parsed now = now.utcDate then now else parsed.getD now := by
  cases parsed with
  | none => simp [recordedAt]
  | some t =>
    by_cases same : t.utcDate = now.utcDate
    · simp [recordedAt,rotationDay,fmtDate,same]
    · simp [recordedAt,rotationDay,fmtDate,Format.dateText_injective.eq_iff,same]

theorem recordedAt_day [Format] (parsed : Option Timestamp) (now : Timestamp) :
    (recordedAt parsed now).utcDate = rotationDay parsed now := by
  rw [recordedAt_exact]
  split
  · exact Eq.symm ‹_›
  · cases parsed <;> rfl

-- What the two dates of a form have to be to each other and to the day.
def InOrder (rotation : Date) (expiry : Option Date) (today : Date) : Prop :=
  rotation ≤ today ∧ ∀ day, expiry = some day → rotation ≤ day

-- The checks of `rotation::record`.
def Passes (rotatedAt : Timestamp) (expiresAt : Option Timestamp) (now : Timestamp) : Prop :=
  ¬ now < rotatedAt ∧ ∀ e, expiresAt = some e → ¬ e < rotatedAt

def DueToday (rotation : Date) (expiry : Option Date) (now : Timestamp) : Prop :=
  rotation = now.utcDate ∧ expiry = some now.utcDate ∧ ¬ dayNanos ∣ now.nanos

theorem utcDate_bounds (t : Timestamp) :
    t.utcDate.day * dayNanos ≤ t.nanos ∧ t.nanos < t.utcDate.day * dayNanos + dayNanos := by
  simp only [Timestamp.utcDate,dayNanos]
  omega

theorem midnight_le {t : Timestamp} (midnight : t.nanos = t.utcDate.day * dayNanos) (other : Timestamp) :
    ¬ other < t ↔ t.utcDate ≤ other.utcDate := by
  have bounds := utcDate_bounds other
  rw [Timestamp.lt_def,show (t.utcDate ≤ other.utcDate) = (t.utcDate.day ≤ other.utcDate.day) from rfl]
  simp only [dayNanos] at midnight bounds
  omega

-- An expiry at midnight is not before the clock when its day is a later one, or
-- this day and the clock shows midnight.
theorem midnight_after {t : Timestamp} (midnight : t.nanos = t.utcDate.day * dayNanos) (now : Timestamp) :
    ¬ t < now ↔ now.utcDate ≤ t.utcDate ∧ ¬ (t.utcDate = now.utcDate ∧ ¬ dayNanos ∣ now.nanos) := by
  have bounds := utcDate_bounds now
  have days : t.utcDate = now.utcDate ↔ t.utcDate.day = now.utcDate.day := by
    cases t.utcDate
    cases now.utcDate
    simp
  rw [Timestamp.lt_def,show (now.utcDate ≤ t.utcDate) = (now.utcDate.day ≤ t.utcDate.day) from rfl,days]
  have today : now.utcDate.day = now.nanos / dayNanos := rfl
  simp only [dayNanos] at midnight bounds today ⊢
  omega

theorem passes_exact [CharTables] [Format] {rotation expiry : Option Timestamp} (rotated : parseDate form = .ok rotation)
    (expires : parseDate other = .ok expiry) (now : Timestamp) :
    Passes (recordedAt rotation now) expiry now ↔
      InOrder (rotationDay rotation now) (expiry.map Timestamp.utcDate) now.utcDate ∧
      ¬ DueToday (rotationDay rotation now) (expiry.map Timestamp.utcDate) now := by
  have same : now.utcDate ≤ now.utcDate := Int.le_refl _
  have self : ¬ now < now := Int.lt_irrefl _
  rw [recordedAt_exact]
  by_cases today : rotationDay rotation now = now.utcDate
  · rw [if_pos today,Passes,InOrder,DueToday,today]
    cases expiry with
    | none => simp [same,self]
    | some e => simpa [same,self] using midnight_after (parseDate_midnight expires) now
  · rw [if_neg today]
    cases rotation with
    | none => exact absurd rfl today
    | some t =>
      have named : rotationDay (some t) now = t.utcDate := rfl
      have midnight := midnight_le (parseDate_midnight rotated)
      rw [named] at today
      rw [Passes,InOrder,DueToday,named,Option.getD_some,midnight now]
      cases expiry with
      | none => simp [today]
      | some e => simpa [today] using fun _ => midnight e

theorem record_parts [CharTables] [Format] {rotation expiry : Option Timestamp}
    (matched : session.checkCsrf headers form.csrf = .ok ())
    (fresh : session.freshEnough state.stepUpMaxAge now = true) (rotated : parseDate form.rotatedAt = .ok rotation)
    (expires : parseDate form.expiresAt = .ok expiry)
    (run : Returns (Pages.record state session headers name form) (⟨.now,now⟩ :: rest) result) :
    SaveTrace session name (recordedAt rotation now) expiry now rest result := by
  have dates : recordDates form now = .ok (recordedAt rotation now,expiry) := by
    rw [recordDates,rotated,expires]
    rfl
  rw [record_clock matched,returns_request] at run
  obtain ⟨_,_,same,after⟩ := run
  cases same
  rw [afterClock,if_pos fresh,dates] at after
  exact saveRecord_returns.mp after

-- The status is asked to change.
def Accepted (trace : Trace) : Prop := ∃ event ∈ trace, isStatusUpdate event = true

theorem record_exact [Format] (path : RecordTrace name actor rotatedAt expiresAt now trace result) :
    (Accepted trace ↔ Passes rotatedAt expiresAt now) ∧
    ∀ other mutate answer, ⟨.updateStatus other mutate,answer⟩ ∈ trace →
      mutate = recordMutation actor rotatedAt expiresAt := by
  cases path with
  | future late => exact ⟨iff_of_false (by simp [Accepted]) fun passes => passes.1 late,by simp⟩
  | early dated before =>
    refine ⟨iff_of_false (by simp [Accepted]) fun passes => ?_,by simp⟩
    obtain ⟨e,same,earlier⟩ := before
    exact passes.2 e same earlier
  | unsaved dated ordered | recorded dated ordered =>
    refine ⟨iff_of_true ⟨_,.head _,rfl⟩ ⟨dated,fun e same before => ordered ⟨e,same,before⟩⟩,?_⟩
    intro other mutate answer asked
    simp at asked
    exact asked.1.2

theorem save_exact [CharTables] [Format] (path : SaveTrace session name rotatedAt expiresAt now rest result) :
    (Accepted rest ↔ Passes rotatedAt expiresAt now) ∧
    ∀ other mutate answer, ⟨.updateStatus other mutate,answer⟩ ∈ rest →
      mutate = recordMutation session.actor rotatedAt expiresAt := by
  cases path with
  | refused path => exact record_exact path
  | saved path =>
    obtain ⟨accepted,asked⟩ := record_exact path
    constructor
    · rw [← accepted]
      simp [Accepted,isStatusUpdate]
    · intro other mutate answer member
      exact asked other mutate answer (by simpa using member)

-- The form is accepted exactly when its days are in order, and then a rotation
-- on its rotation day, not later than now, is stored.
structure JudgedByDate (rotation : Date) (expiry : Option Date) (now : Timestamp) (trace : Trace) : Prop where
  accepted : Accepted trace ↔ InOrder rotation expiry now.utcDate
  stored : ∀ name mutate answer, ⟨.updateStatus name mutate,answer⟩ ∈ trace → ∀ status,
    ∃ t, (mutate status).lastRotated = some t ∧ t.utcDate = rotation ∧ t ≤ now

theorem record_dates [CharTables] [Format] {rotation expiry : Option Timestamp}
    (matched : session.checkCsrf headers form.csrf = .ok ())
    (fresh : session.freshEnough state.stepUpMaxAge now = true) (rotated : parseDate form.rotatedAt = .ok rotation)
    (expires : parseDate form.expiresAt = .ok expiry)
    (run : Returns (Pages.record state session headers name form) (⟨.now,now⟩ :: rest) result) :
    JudgedByDate (rotationDay rotation now) (expiry.map Timestamp.utcDate) now rest ↔
      ¬ DueToday (rotationDay rotation now) (expiry.map Timestamp.utcDate) now := by
  obtain ⟨accepted,asked⟩ := save_exact (record_parts matched fresh rotated expires run)
  have checks := passes_exact rotated expires now
  have stored : ∀ name mutate answer, ⟨.updateStatus name mutate,answer⟩ ∈ rest → ∀ status,
      ∃ t, (mutate status).lastRotated = some t ∧ t.utcDate = rotationDay rotation now ∧ t ≤ now := by
    intro other mutate answer member status
    have passes := accepted.mp ⟨_,member,rfl⟩
    rw [asked other mutate answer member]
    exact ⟨recordedAt rotation now,rfl,recordedAt_day rotation now,Int.not_lt.mp passes.1⟩
  constructor
  · intro judged due
    have inOrder : InOrder (rotationDay rotation now) (expiry.map Timestamp.utcDate) now.utcDate := by
      obtain ⟨today,same,_⟩ := due
      rw [today,same]
      refine ⟨Int.le_refl _,fun day equal => ?_⟩
      cases equal
      exact Int.le_refl _
    exact (checks.mp (accepted.mp (judged.accepted.mpr inOrder))).2 due
  · intro ordinary
    exact ⟨accepted.trans (checks.trans (and_iff_left ordinary)),stored⟩

-- The same two dates one day later and one moment after midnight.
def openState : AppState := {visitState with stepUpMaxAge := none}
def epochForm : RecordForm := ⟨some "token","1970-01-01","1970-01-01"⟩
def nextDay : Timestamp := ⟨86400000000001,by decide,by decide⟩
def sameDay : Timestamp := ⟨1,by decide,by decide⟩

theorem epochForm_matched : dialogSession.checkCsrf [] epochForm.csrf = .ok () := by decide
theorem epochForm_dates : @parseDate noUrls.toCharTables epochFormat "1970-01-01" = .ok (some .epoch) := by decide

theorem nextDay_judged : ∃ rest, Accepted rest ∧ JudgedByDate ⟨0⟩ (some ⟨0⟩) nextDay rest := by
  let _ := noUrls
  let _ := epochFormat
  have run : Returns (Pages.record openState dialogSession [] "pair" epochForm)
      [⟨.now,nextDay⟩,⟨.updateStatus "pair" (recordMutation dialogSession.actor .epoch (some .epoch)),.error .conflict⟩]
      (.error (recordFailure (.repo .conflict))) := .cons (.cons .nil)
  exact ⟨_,⟨_,.head _,rfl⟩,(record_dates epochForm_matched rfl epochForm_dates epochForm_dates run).mpr (by
    rintro ⟨today,_⟩
    exact absurd today (by decide))⟩

theorem sameDay_refused : Returns (@Pages.record noUrls.toCharTables epochFormat openState dialogSession [] "pair" epochForm)
      [⟨.now,sameDay⟩] (.error (.badRequest "the expiry date is before the rotation date")) ∧
    InOrder ⟨0⟩ (some ⟨0⟩) sameDay.utcDate ∧ ¬ JudgedByDate ⟨0⟩ (some ⟨0⟩) sameDay [] := by
  have inOrder : InOrder ⟨0⟩ (some ⟨0⟩) sameDay.utcDate := by
    refine ⟨Int.le_refl _,fun day same => ?_⟩
    cases same
    exact Int.le_refl _
  refine ⟨.cons .nil,inOrder,fun judged => ?_⟩
  obtain ⟨event,member,_⟩ := judged.accepted.mpr inOrder
  cases member

end YouSpinMe.RecordDates
