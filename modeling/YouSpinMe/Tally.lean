import YouSpinMe.SharedRun
import Mathlib.Algebra.BigOperators.Group.Finset.Piecewise
import Mathlib.Algebra.Order.BigOperators.Group.Finset

namespace YouSpinMe.Tally
open RequestProgram SharedRun

section Programs
variable {Op : Type u} {Answer : Op → Type v} {first second : Op → Bool}

-- How often something of a kind was asked for.
def tally (kind : Op → Bool) (trace : List (Event Answer)) : Nat := trace.countP fun event => kind event.op

@[simp] theorem tally_nil (kind : Op → Bool) : tally kind ([] : List (Event Answer)) = 0 := rfl
@[simp] theorem tally_append (kind : Op → Bool) (earlier later : List (Event Answer)) :
    tally kind (earlier ++ later) = tally kind earlier + tally kind later := List.countP_append
@[simp] theorem tally_cons (kind : Op → Bool) (event : Event Answer) (trace : List (Event Answer)) :
    tally kind (event :: trace) = (kind event.op).toNat + tally kind trace := by
  rw [tally,List.countP_cons,Nat.add_comm,tally]
  cases kind event.op with
  | false => rfl
  | true => rfl

-- Two kinds of requests that go together: each of the second settles one of the first.
def Owes (first second : Op → Bool) (owed : Nat) (trace : List (Event Answer)) : Prop :=
  tally first trace = tally second trace + owed

def AtMostOne (first second : Op → Bool) (past : List (Event Answer)) (_ : Op) : Prop :=
  ∃ owed ≤ 1, Owes first second owed past

-- A program that is entered with something owed, leaves with something owed, and never
-- owes more than one in between.
def Pairs (first second : Op → Bool) (start : Nat) (finish : α → Nat) (program : Program Answer α) : Prop :=
  ∀ past, Owes first second start past →
    Ensures (AtMostOne first second) (fun value later => Owes first second (finish value) later) past program

theorem pairs_done {finish : α → Nat} {value : α} (same : finish value = start) :
    Pairs first second start finish (.done value : Program Answer α) := by
  intro past owes
  rw [ensures_done,same]
  exact owes

theorem pairs_request {finish : α → Nat} {op : Op} {next : Answer op → Program Answer α} (few : start ≤ 1)
    (settled : start + (first op).toNat = left + (second op).toNat)
    (rest : ∀ answer, Pairs first second left finish (next answer)) :
    Pairs first second start finish (.request op next) := by
  intro past owes
  refine ⟨⟨start,few,owes⟩,?_⟩
  intro answer
  apply rest answer
  unfold Owes at owes ⊢
  simp only [tally_append,tally_cons,tally_nil]
  omega

theorem pairs_untouched {finish : α → Nat} {op : Op} {next : Answer op → Program Answer α} (few : start ≤ 1)
    (one : first op = false) (other : second op = false) (rest : ∀ answer, Pairs first second start finish (next answer)) :
    Pairs first second start finish (.request op next) :=
  pairs_request few (by rw [one,other]) rest

theorem pairs_opened {finish : α → Nat} {op : Op} {next : Answer op → Program Answer α} (one : first op = true)
    (other : second op = false) (rest : ∀ answer, Pairs first second 1 finish (next answer)) :
    Pairs first second 0 finish (.request op next) :=
  pairs_request (Nat.zero_le _) (by rw [one,other]; rfl) rest

theorem pairs_settled {finish : α → Nat} {op : Op} {next : Answer op → Program Answer α} (one : first op = false)
    (other : second op = true) (rest : ∀ answer, Pairs first second 0 finish (next answer)) :
    Pairs first second 1 finish (.request op next) :=
  pairs_request (Nat.le_refl _) (by rw [one,other]; rfl) rest

theorem pairs_bind {middle : α → Nat} {finish : β → Nat} {program : Program Answer α} {rest : α → Program Answer β}
    (before : Pairs first second start middle program) (after : ∀ value, Pairs first second (middle value) finish (rest value)) :
    Pairs first second start finish (program >>= rest) := by
  intro past owes
  apply ensures_bind (before past owes)
  intro value later owed
  exact after value later owed

-- A program that asks for neither leaves what is owed as it was.
theorem Asks.pairs {program : Program Answer α} (few : start ≤ 1)
    (asks : Asks (fun op => first op = false ∧ second op = false) program) :
    Pairs first second start (fun _ => start) program := by
  induction program with
  | done value => exact pairs_done rfl
  | request op next ih =>
    obtain ⟨⟨one,other⟩,later⟩ := asks
    exact pairs_untouched few one other fun answer => ih answer (later answer)

def ended : Program Answer α → Bool
  | .done _ => true
  | .request _ _ => false

theorem Ensures.reached {rule : List (Event Answer) → Op → Prop} {post : α → List (Event Answer) → Prop}
    {program : Program Answer α} (ensures : Ensures rule post past program) (path : Steps program events remainder) :
    Ensures rule post (past ++ events) remainder := by
  induction path generalizing past with
  | nil => simpa using ensures
  | cons path ih => simpa using ih (ensures.2 _)

-- However far it has come, at most one is owed, and none at its end.
theorem Pairs.steps {program : Program Answer α} (paired : Pairs first second 0 (fun _ => 0) program)
    (path : Steps program trace remainder) : Owes first second 0 trace ∨ Owes first second 1 trace ∧ ended remainder = false := by
  have reached := Ensures.reached (paired [] rfl) path
  rw [List.nil_append] at reached
  cases remainder with
  | done value => exact .inl reached
  | request op next =>
    obtain ⟨owed,few,owes⟩ := reached.1
    rcases Nat.le_one_iff_eq_zero_or_eq_one.mp few with rfl | rfl
    · exact .inl owes
    · exact .inr ⟨owes,rfl⟩

end Programs

section Clients
variable {Op : Type u} {Answer : Op → Type v} {σ : Type x} {server : Server σ Answer} {ι : Type y} [DecidableEq ι] {α : ι → Type w}
  {first second : Op → Bool}

abbrev events (log : List (ι × Event Answer)) : List (Event Answer) := log.map Prod.snd

def clientsOf (log : List (ι × Event Answer)) : Finset ι := (log.map Prod.fst).toFinset

-- Those who have begun and have not come to their end.
def inFlight (log : List (ι × Event Answer)) (remainder : (i : ι) → Program Answer (α i)) : Nat :=
  ((clientsOf log).filter fun i => ended (remainder i) = false).card

theorem tally_clients (kind : Op → Bool) (log : List (ι × Event Answer)) {s : Finset ι} (all : clientsOf log ⊆ s) :
    tally kind (events log) = ∑ i ∈ s, tally kind (own i log) := by
  induction log with
  | nil => simp
  | cons entry log ih =>
    obtain ⟨j,event⟩ := entry
    rw [clientsOf,List.map_cons,List.toFinset_cons,Finset.insert_subset_iff] at all
    have each : ∀ i ∈ s, tally kind (own i ((j,event) :: log)) =
        (if i = j then (kind event.op).toNat else 0) + tally kind (own i log) := by
      intro i _
      by_cases same : i = j
      · subst i
        rw [own_cons_self,tally_cons,if_pos rfl]
      · rw [own_cons_other (Ne.symm same),if_neg same,Nat.zero_add]
    have whole : tally kind (events ((j,event) :: log)) = (kind event.op).toNat + tally kind (events log) := tally_cons ..
    rw [whole,ih all.2,Finset.sum_congr rfl each,Finset.sum_add_distrib,Finset.sum_ite_eq',if_pos all.1]

-- What all of them owe together.
theorem owed_in_flight {clients : (i : ι) → Program Answer (α i)} {log : List (ι × Event Answer)}
    (path : Runs server clients s log remainder after) (paired : ∀ i, Pairs first second 0 (fun _ => 0) (clients i)) :
    ∃ owed ≤ inFlight log remainder, Owes first second owed (events log) := by
  have each : ∀ i, ∃ owed, Owes first second owed (own i log) ∧ owed ≤ if ended (remainder i) = false then 1 else 0 := by
    intro i
    rcases (paired i).steps (path.steps i) with owes | ⟨owes,waiting⟩
    · exact ⟨0,owes,Nat.zero_le _⟩
    · exact ⟨1,owes,by rw [if_pos waiting]⟩
  choose owed owes few using each
  refine ⟨∑ i ∈ clientsOf log, owed i,?_,?_⟩
  · rw [inFlight,Finset.card_filter]
    exact Finset.sum_le_sum fun i _ => few i
  · rw [Owes,tally_clients first log (Finset.Subset.refl _),tally_clients second log (Finset.Subset.refl _),← Finset.sum_add_distrib]
    exact Finset.sum_congr rfl fun i _ => owes i

end Clients
end YouSpinMe.Tally
