import YouSpinMe.SharedRun

namespace YouSpinMe.MutexRun
open RequestProgram SharedRun

-- What a request is to a mutex.
inductive Kind where
  | acquire
  | release
  | other

variable {Op : Type u} {Answer : Op → Type v} {σ : Type x} {kind : Op → Kind}

def Kind.held : Kind → Bool → Bool
  | .acquire,_ => true
  | .release,_ => false
  | .other,before => before

-- Whether a client that saw these events is between taking the mutex and
-- giving it back.
def holding (kind : Op → Kind) (past : List (Event Answer)) : Bool :=
  past.foldl (fun before event => (kind event.op).held before) false

@[simp] theorem holding_snoc (kind : Op → Kind) (past : List (Event Answer)) (event : Event Answer) :
    holding kind (past ++ [event]) = (kind event.op).held (holding kind past) := by
  rw [holding,List.foldl_append]
  rfl

-- Nobody takes it twice or gives back what it does not have.
def Disciplined (kind : Op → Kind) (past : List (Event Answer)) (op : Op) : Prop :=
  match kind op with
  | .acquire => holding kind past = false
  | .release => holding kind past = true
  | .other => True

structure Guards (kind : Op → Kind) (locked : σ → Bool) (server : Server σ Answer) : Prop where
  acquire : server s op answer after → kind op = .acquire → locked s = false
  locks : server s op answer after → locked after = (kind op).held (locked s)

section Clients
variable {ι : Type y} [DecidableEq ι] {α : ι → Type w} {server : Server σ Answer}

structure Exclusive (kind : Op → Kind) (locked : Bool) (log : List (ι × Event Answer)) : Prop where
  locked : ∀ i, holding kind (own i log) = true → locked = true
  one : ∀ i j, holding kind (own i log) = true → holding kind (own j log) = true → i = j

theorem holding_step (i j : ι) (event : Event Answer) (log : List (ι × Event Answer)) :
    holding kind (own j (log ++ [(i,event)])) =
      if i = j then (kind event.op).held (holding kind (own j log)) else holding kind (own j log) := by
  by_cases same : i = j
  · subst same
    simp
  · rw [own_append,own_cons_other same,own_nil,List.append_nil,if_neg same]

theorem exclusive_step {i : ι} {op : Op} {answer : Answer op} {before after : Bool} {log : List (ι × Event Answer)}
    (exclusive : Exclusive kind before log) (disciplined : Disciplined kind (own i log) op)
    (acquire : kind op = .acquire → before = false) (locks : after = (kind op).held before) :
    Exclusive kind after (log ++ [(i,⟨op,answer⟩)]) := by
  unfold Disciplined at disciplined
  cases what : kind op with
  | acquire =>
    have free : ∀ j, holding kind (own j log) = false := by
      intro j
      rw [← Bool.not_eq_true]
      intro held
      exact absurd (exclusive.locked j held) (by simp [acquire what])
    have only : ∀ j, holding kind (own j (log ++ [(i,⟨op,answer⟩)])) = true → i = j := by
      intro j held
      by_contra different
      rw [holding_step,if_neg different,free j] at held
      cases held
    exact ⟨fun _ _ => by rw [locks,what]; rfl,fun j k first second => (only j first).symm.trans (only k second)⟩
  | release =>
    rw [what] at disciplined
    have none : ∀ j, holding kind (own j (log ++ [(i,⟨op,answer⟩)])) = false := by
      intro j
      rw [holding_step,what]
      split
      · rfl
      · rw [← Bool.not_eq_true]
        intro held
        exact absurd (exclusive.one i j disciplined held) ‹_›
    refine ⟨fun j held => ?_,fun j _ held => ?_⟩
    · cases (none j).symm.trans held
    · cases (none j).symm.trans held
  | other =>
    have kept : ∀ j, holding kind (own j (log ++ [(i,⟨op,answer⟩)])) = holding kind (own j log) := by
      intro j
      rw [holding_step,what]
      exact ite_self _
    have same : after = before := by rw [locks,what]; rfl
    rw [same]
    exact ⟨fun j held => exclusive.locked j (kept j ▸ held),
      fun j k first second => exclusive.one j k (kept j ▸ first) (kept k ▸ second)⟩

theorem exclusive_run {clients : (i : ι) → Program Answer (α i)} {locked : σ → Bool}
    (path : Runs server clients s log remainder after) (guards : Guards kind locked server)
    (disciplined : ∀ i, Follows (Disciplined kind) [] (clients i)) : Exclusive kind (locked after) log := by
  induction path with
  | start =>
    refine ⟨fun _ held => ?_,fun _ _ held => ?_⟩
    · cases held
    · cases held
  | @step log remainder middle after i op next answer prior waiting served ih =>
    have asks := (disciplined i).later (prior.steps i)
    rw [waiting] at asks
    exact exclusive_step ih asks.1 (guards.acquire served) (guards.locks served)

-- While the mutex is free no client is between taking it and giving it back.
theorem free_run {clients : (i : ι) → Program Answer (α i)} {locked : σ → Bool}
    (path : Runs server clients s log remainder after) (guards : Guards kind locked server)
    (disciplined : ∀ i, Follows (Disciplined kind) [] (clients i)) (free : locked after = false) (i : ι) :
    holding kind (own i log) = false := by
  rw [← Bool.not_eq_true]
  intro held
  exact absurd ((exclusive_run path guards disciplined).locked i held) (by simp [free])

end Clients
end YouSpinMe.MutexRun
