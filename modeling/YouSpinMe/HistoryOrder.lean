import YouSpinMe.ManualExpiry

namespace YouSpinMe.HistoryOrder
open RequestProgram Effects Validation Rotation RotationTraces RotationOutcome RotationHistory RecordDates ManualExpiry
  Text Jiff Crd

def Descending (entries : List HistoryEntry) : Prop :=
  entries.Pairwise fun later earlier => earlier.atTime ≤ later.atTime

-- A history of some applied rotations: descending, and nothing it leaves out is
-- later than anything in it.
structure MostRecentFirst (history applied : List HistoryEntry) : Prop where
  descending : Descending history
  latest : ∃ dropped, (history ++ dropped).Perm applied ∧ history.length = min applied.length HISTORY_LIMIT ∧
    ∀ entry ∈ history, ∀ other ∈ dropped, other.atTime ≤ entry.atTime

theorem take_mostRecent (descending : Descending applied) :
    MostRecentFirst (applied.take HISTORY_LIMIT) applied := by
  have whole : applied.take HISTORY_LIMIT ++ applied.drop HISTORY_LIMIT = applied := List.take_append_drop ..
  have parts := descending
  rw [Descending,← whole] at parts
  obtain ⟨first,_,across⟩ := List.pairwise_append.mp parts
  refine ⟨first,applied.drop HISTORY_LIMIT,?_,?_,across⟩
  · rw [whole]
  · rw [List.length_take,Nat.min_comm]

theorem first_latest (descending : Descending applied)
    (shown : Descending ((entry :: applied).take HISTORY_LIMIT)) : ∀ other ∈ applied, other.atTime ≤ entry.atTime := by
  cases applied with
  | nil => simp
  | cons newest rest =>
    have behind : newest.atTime ≤ entry.atTime := (List.pairwise_cons.mp shown).1 newest (.head _)
    intro other member
    rcases List.mem_cons.mp member with rfl | earlier
    · exact behind
    · exact Int.le_trans ((List.pairwise_cons.mp descending).1 other earlier) behind

-- A ledger and the last reading of the clock.
structure Timed where
  clock : Timestamp
  ledger : Ledger

inductive Call where
  | record (rotatedAt : Timestamp)
  | rotate

-- A call after which the clock shows a time no earlier than before it. What the
-- call read of the clock lies between the two.
inductive Step [UrlCrate] [Format] (name : String) : Timed → Call → Timed → Prop where
  | record (run : Returns (record name actor rotatedAt expiresAt now) trace result)
      (asked : ⟨.updateStatus name mutate,answer⟩ ∈ trace) (later : before.clock ≤ now) (passed : now ≤ clock) :
      Step name before (.record rotatedAt) ⟨clock,before.ledger.apply mutate⟩
  | rotate (run : Returns (rotate allowed name req) trace result)
      (asked : ⟨.updateStatus name mutate,answer⟩ ∈ trace) (passed : before.clock ≤ clock)
      (clocked : ∀ now ∈ clockOf trace, before.clock ≤ now ∧ now ≤ clock) :
      Step name before .rotate ⟨clock,before.ledger.apply mutate⟩

-- A rotation is not recorded with a date before one that is applied already.
def Permitted (before : Timed) : Call → Prop
  | .record rotatedAt => ∀ entry ∈ before.ledger.applied, entry.atTime ≤ rotatedAt
  | .rotate => True

inductive Run [UrlCrate] [Format] (name : String) : Timed → Timed → Prop where
  | start : Run name timed timed
  | step (prior : Run name timed before) (next : Step name before call after) (permitted : Permitted before call) :
      Run name timed after

structure Ordered (timed : Timed) : Prop where
  past : ∀ entry ∈ timed.ledger.applied, entry.atTime ≤ timed.clock
  descending : Descending timed.ledger.applied

-- What a call applied, and when.
inductive Applied (before : Timed) : Call → Timed → Prop where
  | recorded (entry : HistoryEntry) (key : ApiKey) (dated : entry.atTime ≤ clock) :
      Applied before (.record entry.atTime) ⟨clock,⟨key,entry :: before.ledger.applied⟩⟩
  | rotated (entry : HistoryEntry) (key : ApiKey) (current : before.clock ≤ entry.atTime) (dated : entry.atTime ≤ clock) :
      Applied before .rotate ⟨clock,⟨key,entry :: before.ledger.applied⟩⟩
  | failed (key : ApiKey) : Applied before .rotate ⟨clock,⟨key,before.ledger.applied⟩⟩

section Steps
variable [UrlCrate] [Format]

theorem step_passed (next : Step name before call after) : before.clock ≤ after.clock := by
  cases next with
  | record _ _ later passed => exact Int.le_trans later passed
  | rotate _ _ passed => exact passed

theorem step_applied (next : Step name before call after) : Applied before call after := by
  cases next with
  | record run asked later passed =>
    obtain ⟨accepted,same⟩ := record_exact (record_returns.mp run)
    have passes := accepted.mp ⟨_,asked,rfl⟩
    rw [same _ _ _ asked,Ledger.apply,entered_record]
    exact .recorded ⟨_,_,.recorded,_⟩ _ (Int.le_trans (Int.not_lt.mp passes.1) passed)
  | rotate run asked passed clocked =>
    obtain ⟨key,probe,written,now,rfl,clock,_,_⟩ := rotate_shows (rotate_returns.mp run) asked
    obtain ⟨later,before⟩ := clocked now (by rw [clock]; exact .head _)
    rw [mutationOf,Ledger.apply,entered_submit]
    split
    · exact .rotated _ _ later before
    · exact .failed _

theorem step_ordered (valid : Ordered before) (next : Step name before call after) (permitted : Permitted before call) :
    Ordered after := by
  have passed := step_passed next
  have kept : ∀ entry ∈ before.ledger.applied, entry.atTime ≤ after.clock :=
    fun entry member => Int.le_trans (valid.past entry member) passed
  cases step_applied next with
  | recorded entry key dated =>
    exact ⟨List.forall_mem_cons.mpr ⟨dated,kept⟩,List.pairwise_cons.mpr ⟨permitted,valid.descending⟩⟩
  | rotated entry key current dated =>
    refine ⟨List.forall_mem_cons.mpr ⟨dated,kept⟩,List.pairwise_cons.mpr ⟨?_,valid.descending⟩⟩
    exact fun other member => Int.le_trans (valid.past other member) current
  | failed key => exact ⟨kept,valid.descending⟩

theorem step_history (next : Step name before call after) :
    RotationHistory.Step name before.ledger after.ledger := by
  cases next with
  | record run asked => exact .record run asked .applied
  | rotate run asked => exact .rotate run asked .applied

theorem run_ordered (path : Run name start after) (valid : Ordered start) : Ordered after := by
  induction path with
  | start => exact valid
  | step prior next permitted ih => exact step_ordered ih next permitted

theorem run_history (path : Run name start after) : RotationHistory.Run name start.ledger after.ledger := by
  induction path with
  | start => exact .start
  | step prior next permitted ih => exact .step ih (step_history next)

theorem step_mostRecent (valid : Ordered before) (next : Step name before call after)
    (shape : after.ledger.status.history = after.ledger.applied.take HISTORY_LIMIT) :
    MostRecentFirst after.ledger.status.history after.ledger.applied ↔ Permitted before call := by
  constructor
  · intro recent
    have shown := recent.descending
    rw [shape] at shown
    cases step_applied next with
    | recorded entry key dated => exact first_latest valid.descending shown
    | rotated | failed => trivial
  · intro permitted
    rw [shape]
    exact take_mostRecent (step_ordered valid next permitted).descending

end Steps

-- As long as no rotation is recorded with a date before one applied earlier, the
-- history lists the latest ones in their order, and the first one that is so
-- recorded puts it out of order.
theorem history_order [UrlCrate] [Format] (key : ApiKey) (fresh : key.status = none)
    (path : Run name ⟨clock,⟨key,[]⟩⟩ timed) :
    MostRecentFirst timed.ledger.status.history timed.ledger.applied ∧
    ∀ call after, Step name timed call after →
      (MostRecentFirst after.ledger.status.history after.ledger.applied ↔ Permitted timed call) := by
  have start : Ledger.Coherent ⟨key,[]⟩ := by
    unfold Ledger.Coherent Ledger.status
    rw [fresh]
    exact blank_coherent
  have empty : Ordered ⟨clock,⟨key,[]⟩⟩ := ⟨by simp,List.Pairwise.nil⟩
  have ordered := run_ordered path empty
  have shape := (run_coherent (run_history path) start).history
  constructor
  · rw [show timed.ledger.status.history = _ from shape]
    exact take_mostRecent ordered.descending
  · intro call after next
    exact step_mostRecent ordered next (run_coherent (.step (run_history path) (step_history next)) start).history

-- Two rotations recorded on one day, the second of them with an earlier date.
def recordedOn (ledger : Ledger) (rotatedAt : Timestamp) : Ledger :=
  ledger.apply (recordMutation pairRequest.actor rotatedAt none)
def unrecorded : Timed := ⟨nextDay,⟨pairKey.key,[]⟩⟩
def recorded : Timed := ⟨nextDay,recordedOn ⟨pairKey.key,[]⟩ nextDay⟩
def backdated : Timed := ⟨nextDay,recordedOn recorded.ledger .epoch⟩

theorem recorded_step (rotatedAt : Timestamp) (dated : ¬ nextDay < rotatedAt) (passed : before.clock ≤ nextDay) :
    @Step noUrls epochFormat "pair" before (.record rotatedAt) ⟨nextDay,recordedOn before.ledger rotatedAt⟩ := by
  let _ := noUrls
  let _ := epochFormat
  have run := record_returns.mpr (@RecordTrace.recorded epochFormat "pair" pairRequest.actor rotatedAt none nextDay pairKey
    dated (by simp))
  exact .record run (.head _) passed (Int.le_refl _)

theorem recorded_run : @Run noUrls epochFormat "pair" unrecorded recorded := by
  let _ := noUrls
  let _ := epochFormat
  refine .step .start (recorded_step nextDay (by decide) (Int.le_refl _)) ?_
  intro entry member
  cases member

theorem recorded_mostRecent : MostRecentFirst recorded.ledger.status.history recorded.ledger.applied ∧
    ¬ MostRecentFirst backdated.ledger.status.history backdated.ledger.applied := by
  let _ := noUrls
  let _ := epochFormat
  obtain ⟨recent,exactly⟩ := history_order pairKey.key rfl recorded_run
  refine ⟨recent,fun listed => ?_⟩
  have permitted := (exactly _ backdated (recorded_step .epoch (by decide) (Int.le_refl _))).mp listed
  exact absurd (permitted _ (.head _)) (by decide)

-- The later of the two rotations is listed last.
theorem backdated_ascends : (∃ call, @Step noUrls epochFormat "pair" unrecorded call recorded) ∧
    (∃ call, @Step noUrls epochFormat "pair" recorded call backdated) ∧
    backdated.ledger.status.history.map HistoryEntry.atTime = [.epoch,nextDay] ∧
    ¬ Descending backdated.ledger.status.history := by
  have first := recorded_step nextDay (by decide) (Int.le_refl unrecorded.clock.nanos)
  have second := recorded_step .epoch (by decide) (Int.le_refl recorded.clock.nanos)
  refine ⟨⟨_,first⟩,⟨_,second⟩,rfl,fun descending => ?_⟩
  exact absurd ((List.pairwise_cons.mp descending).1 _ (.head _)) (by decide)

end YouSpinMe.HistoryOrder
