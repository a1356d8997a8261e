import YouSpinMe.RequestProgram
import Mathlib.Logic.Function.Basic

namespace YouSpinMe.SharedRun
open RequestProgram

-- Which answers a request may get in a state, and the state that is left.
abbrev Server {Op : Type u} (σ : Type x) (Answer : Op → Type v) :=
  σ → (op : Op) → Answer op → σ → Prop

variable {Op : Type u} {Answer : Op → Type v} {σ : Type x} {server : Server σ Answer}

-- The same server, run only through steps that meet a condition on the state
-- before the step and the request answered there.
def Server.restrict (server : Server σ Answer) (permitted : σ → (op : Op) → Answer op → Prop) :
    Server σ Answer :=
  fun s op answer after => server s op answer after ∧ permitted s op answer

inductive Serves (server : Server σ Answer) : σ → List (Event Answer) → σ → Prop where
  | nil : Serves server s [] s
  | cons (served : server s op answer middle) (rest : Serves server middle events after) :
      Serves server s (⟨op,answer⟩ :: events) after

theorem serves_append :
    Serves server s (earlier ++ later) after ↔
      ∃ middle, Serves server s earlier middle ∧ Serves server middle later after := by
  constructor
  · intro path
    induction earlier generalizing s with
    | nil => exact ⟨s,.nil,path⟩
    | cons event earlier ih =>
      cases path with
      | cons served rest =>
        obtain ⟨middle,first,second⟩ := ih rest
        exact ⟨middle,.cons served first,second⟩
  · rintro ⟨middle,first,second⟩
    induction first with
    | nil => exact second
    | cons served _ ih => exact .cons served (ih second)

theorem serves_cons {event : Event Answer} :
    Serves server s (event :: events) after ↔
      ∃ middle, server s event.op event.answer middle ∧ Serves server middle events after := by
  constructor
  · intro path
    cases path with
    | cons served rest => exact ⟨_,served,rest⟩
  · rintro ⟨middle,served,rest⟩
    exact .cons served rest

theorem Serves.at {event : Event Answer} (path : Serves server s events after) (member : event ∈ events) :
    ∃ earlier later before next, events = earlier ++ event :: later ∧ Serves server s earlier before ∧
      server before event.op event.answer next ∧ Serves server next later after := by
  obtain ⟨earlier,later,rfl⟩ := List.append_of_mem member
  obtain ⟨before,first,path⟩ := serves_append.mp path
  obtain ⟨next,served,rest⟩ := serves_cons.mp path
  exact ⟨earlier,later,before,next,rfl,first,served,rest⟩

-- Several clients of one server. Any client that is waiting may be answered
-- next; the log keeps who asked, what was asked and what was answered.
section Clients
variable {ι : Type y} [DecidableEq ι] {α : ι → Type w}

inductive Runs (server : Server σ Answer) (clients : (i : ι) → Program Answer (α i)) (s : σ) :
    List (ι × Event Answer) → ((i : ι) → Program Answer (α i)) → σ → Prop where
  | start : Runs server clients s [] clients s
  | step {i : ι} {op : Op} {next : Answer op → Program Answer (α i)} {answer : Answer op}
      (prior : Runs server clients s log remainder middle) (waiting : remainder i = .request op next)
      (served : server middle op answer after) :
      Runs server clients s (log ++ [(i,⟨op,answer⟩)]) (Function.update remainder i (next answer)) after

-- What one client saw of the log.
def own (i : ι) (log : List (ι × Event Answer)) : List (Event Answer) :=
  log.filterMap fun entry => if entry.1 = i then some entry.2 else none

@[simp] theorem own_nil (i : ι) : own i ([] : List (ι × Event Answer)) = [] := rfl
@[simp] theorem own_append (i : ι) (earlier later : List (ι × Event Answer)) :
    own i (earlier ++ later) = own i earlier ++ own i later := List.filterMap_append ..
@[simp] theorem own_cons_self (i : ι) (event : Event Answer) (log : List (ι × Event Answer)) :
    own i ((i,event) :: log) = event :: own i log := by simp [own]
theorem own_cons_other {i j : ι} (different : j ≠ i) (event : Event Answer) (log : List (ι × Event Answer)) :
    own i ((j,event) :: log) = own i log := by simp [own,different]

theorem own_eq_nil {i : ι} {log : List (ι × Event Answer)} :
    own i log = [] ↔ ∀ entry ∈ log, entry.1 ≠ i := by
  simp [own,List.filterMap_eq_nil_iff]

theorem mem_own {i : ι} {event : Event Answer} {log : List (ι × Event Answer)} :
    event ∈ own i log ↔ (i,event) ∈ log := by
  simp only [own,List.mem_filterMap,Option.ite_none_right_eq_some,Option.some.injEq]
  constructor
  · rintro ⟨⟨j,other⟩,member,rfl,rfl⟩; exact member
  · intro member; exact ⟨(i,event),member,rfl,rfl⟩

-- A client's event sits at one place of the log; what the client saw before
-- and after it lies before and after that place.
theorem own_eq_cons {i : ι} {log : List (ι × Event Answer)} (saw : own i log = event :: rest) :
    ∃ before after, log = before ++ (i,event) :: after ∧ own i before = [] ∧ own i after = rest := by
  induction log with
  | nil => simp at saw
  | cons entry log ih =>
    obtain ⟨j,first⟩ := entry
    by_cases same : j = i
    · subst j
      simp only [own_cons_self,List.cons.injEq] at saw
      obtain ⟨rfl,rfl⟩ := saw
      exact ⟨[],log,rfl,rfl,rfl⟩
    · rw [own_cons_other same] at saw
      obtain ⟨before,after,rfl,clean,later⟩ := ih saw
      exact ⟨(j,first) :: before,after,rfl,by rw [own_cons_other same,clean],later⟩

theorem own_eq_append {i : ι} {log : List (ι × Event Answer)} (saw : own i log = earlier ++ event :: later) :
    ∃ before after, log = before ++ (i,event) :: after ∧ own i before = earlier ∧ own i after = later := by
  induction earlier generalizing log with
  | nil => exact own_eq_cons saw
  | cons first earlier ih =>
    obtain ⟨before,after,rfl,clean,rest⟩ := own_eq_cons saw
    obtain ⟨front,back,rfl,seen,tail⟩ := ih rest
    exact ⟨before ++ (i,first) :: front,back,by simp,by simp [clean,seen],tail⟩

-- Each client runs its own program, whatever the others do.
theorem Runs.steps {clients : (i : ι) → Program Answer (α i)}
    (path : Runs server clients s log remainder after) (i : ι) : Steps (clients i) (own i log) (remainder i) := by
  induction path with
  | start => exact .nil
  | @step log remainder middle after j op next answer prior waiting served ih =>
    by_cases same : j = i
    · subst j
      rw [waiting] at ih
      have last : Steps (.request op next) [⟨op,answer⟩] (next answer) := .cons .nil
      simpa using ih.append last
    · rw [own_append,own_cons_other same,own_nil,List.append_nil,Function.update_of_ne (Ne.symm same)]
      exact ih

theorem Runs.serves {clients : (i : ι) → Program Answer (α i)}
    (path : Runs server clients s log remainder after) : Serves server s (log.map Prod.snd) after := by
  induction path with
  | start => exact .nil
  | step prior waiting served ih =>
    rw [List.map_append]
    exact serves_append.mpr ⟨_,ih,.cons served .nil⟩

theorem Runs.mono {larger : Server σ Answer} {clients : (i : ι) → Program Answer (α i)}
    (path : Runs server clients s log remainder after)
    (implies : ∀ s op answer after, server s op answer after → larger s op answer after) :
    Runs larger clients s log remainder after := by
  induction path with
  | start => exact .start
  | step prior waiting served ih => exact .step ih waiting (implies _ _ _ _ served)

theorem Runs.append {clients : (i : ι) → Program Answer (α i)}
    (first : Runs server clients s earlier middle m) (second : Runs server middle m later remainder after) :
    Runs server clients s (earlier ++ later) remainder after := by
  induction second with
  | start => simpa using first
  | step prior waiting served ih =>
    rw [← List.append_assoc]
    exact .step ih waiting served

theorem Runs.split {clients : (i : ι) → Program Answer (α i)}
    (path : Runs server clients s log remainder after) (parts : log = earlier ++ later) :
    ∃ middle m, Runs server clients s earlier middle m ∧ Runs server middle m later remainder after := by
  induction path generalizing later with
  | start =>
    obtain ⟨rfl,rfl⟩ := List.append_eq_nil_iff.mp parts.symm
    exact ⟨_,_,.start,.start⟩
  | @step log remainder middle after j op next answer prior waiting served ih =>
    rcases List.eq_nil_or_concat later with rfl | ⟨front,last,rfl⟩
    · rw [List.append_nil] at parts
      subst parts
      exact ⟨_,_,.step prior waiting served,.start⟩
    · rw [List.concat_eq_append,← List.append_assoc] at parts
      obtain ⟨rfl,equal⟩ := List.append_inj' parts rfl
      obtain ⟨mid,m,one,two⟩ := ih rfl
      cases List.singleton_inj.mp equal
      rw [List.concat_eq_append]
      exact ⟨mid,m,one,.step two waiting served⟩

theorem Runs.asked {clients : (i : ι) → Program Answer (α i)} {allowed : ι → Op → Prop}
    (path : Runs server clients s log remainder after) (asks : ∀ i, Asks (allowed i) (clients i)) :
    ∀ entry ∈ log, allowed entry.1 entry.2.op := by
  intro entry member
  obtain ⟨i,event⟩ := entry
  exact (asks i).steps (path.steps i) event (mem_own.mpr member)

-- What a client asks for follows its rule, judged on what the client saw before.
theorem Runs.follows {clients : (i : ι) → Program Answer (α i)} {rule : List (Event Answer) → Op → Prop}
    (path : Runs server clients s (before ++ (i,event) :: later) remainder after)
    (follows : Follows rule [] (clients i)) : rule (own i before) event.op := by
  have steps := path.steps i
  rw [own_append,own_cons_self] at steps
  simpa using follows.steps steps

-- The last event of a log from which something is picked, and who caused it.
def latest (pick : Event Answer → Option β) (log : List (ι × Event Answer)) : Option (ι × β) :=
  (log.filterMap fun entry => (pick entry.2).map fun b => (entry.1,b)).getLast?

omit [DecidableEq ι] in
theorem latest_cons (pick : Event Answer → Option β) (i : ι) (event : Event Answer) (log : List (ι × Event Answer)) :
    latest pick ((i,event) :: log) = (latest pick log).or ((pick event).map fun b => (i,b)) := by
  unfold latest
  cases found : pick event with
  | none => simp [found]
  | some b =>
    cases rest : (log.filterMap fun entry => (pick entry.2).map fun b => (entry.1,b)).getLast? with
    | none => simp [found,List.getLast?_cons,rest]
    | some last => simp [found,List.getLast?_cons,rest]

omit [DecidableEq ι] in
theorem latest_append (pick : Event Answer → Option β) (earlier later : List (ι × Event Answer)) :
    latest pick (earlier ++ later) = (latest pick later).or (latest pick earlier) := by
  simp [latest,List.getLast?_append]

omit [DecidableEq ι] in
theorem latest_eq_some {pick : Event Answer → Option β} {log : List (ι × Event Answer)}
    (found : latest pick log = some (i,b)) : ∃ before event after, log = before ++ (i,event) :: after ∧
      pick event = some b ∧ latest pick after = none := by
  induction log with
  | nil => cases found
  | cons entry log ih =>
    obtain ⟨j,event⟩ := entry
    rw [latest_cons] at found
    cases later : latest pick log with
    | some last =>
      rw [later] at found
      obtain ⟨before,event',after,rfl,picked,quiet⟩ := ih (later.trans found)
      exact ⟨(j,event) :: before,event',after,rfl,picked,quiet⟩
    | none =>
      rw [later] at found
      cases picked : pick event with
      | none => simp [picked] at found
      | some value =>
        simp only [picked,Option.map_some,Option.none_or,Option.some.injEq,Prod.mk.injEq] at found
        obtain ⟨rfl,rfl⟩ := found
        exact ⟨[],event,log,rfl,picked,later⟩

omit [DecidableEq ι] in
theorem latest_eq_none {pick : Event Answer → Option β} {log : List (ι × Event Answer)} :
    latest pick log = none ↔ ∀ entry ∈ log, pick entry.2 = none := by
  simp [latest]

-- A list of client names is a schedule when the server answers by a function. A
-- client whose request cannot be answered now loses its turn.
def schedule (oracle : σ → (op : Op) → Option (Answer op × σ)) :
    List ι → ((i : ι) → Program Answer (α i)) → σ →
      List (ι × Event Answer) × ((i : ι) → Program Answer (α i)) × σ
  | [],clients,s => ([],clients,s)
  | i :: turns,clients,s =>
    match clients i with
    | .done _ => schedule oracle turns clients s
    | .request op next => match oracle s op with
      | none => schedule oracle turns clients s
      | some (answer,after) =>
        let (log,final) := schedule oracle turns (Function.update clients i (next answer)) after
        ((i,⟨op,answer⟩) :: log,final)

theorem schedule_runs {oracle : σ → (op : Op) → Option (Answer op × σ)}
    (sound : ∀ s op answer after, oracle s op = some (answer,after) → server s op answer after) (turns : List ι)
    (clients : (i : ι) → Program Answer (α i)) (s : σ) :
    Runs server clients s (schedule oracle turns clients s).1 (schedule oracle turns clients s).2.1
      (schedule oracle turns clients s).2.2 := by
  induction turns generalizing clients s with
  | nil => exact .start
  | cons i turns ih =>
    unfold schedule
    cases waiting : clients i with
    | done value => exact ih clients s
    | request op next =>
      cases served : oracle s op with
      | none =>
        simp only [served]
        exact ih clients s
      | some reply =>
        simp only [served]
        have first : Runs server clients s ([] ++ [(i,⟨op,reply.1⟩)]) _ _ :=
          .step .start waiting (sound s op _ _ served)
        exact first.append (ih _ _)

-- A run of one client that has the server to itself.
theorem Steps.alone {program : Program Answer β} (path : Steps program events remainder)
    (served : Serves server s events after) :
    Runs server (fun _ : Unit => program) s (events.map fun event => ((),event)) (fun _ => remainder) after := by
  induction path generalizing s with
  | nil =>
    cases served
    exact .start
  | @cons _ _ op next answer path ih =>
    obtain ⟨middle,first,rest⟩ := serves_cons.mp served
    have step : Runs server (fun _ : Unit => Program.request op next) s ([] ++ [((),⟨op,answer⟩)])
        (Function.update (fun _ : Unit => Program.request op next) () (next answer)) middle := .step .start rfl first
    have same : Function.update (fun _ : Unit => Program.request op next) () (next answer) = fun _ => next answer := by
      funext i
      exact Function.update_self ..
    rw [same] at step
    exact step.append (ih rest)

end Clients
end YouSpinMe.SharedRun
