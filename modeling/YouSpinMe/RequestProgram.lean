import Mathlib.Data.List.Basic

namespace YouSpinMe.RequestProgram

-- A client that touches the world only through requests. What a request may be
-- answered is not fixed here: a program is proved about under every answer, or
-- under the answers of one server. The continuation sees the answer alone.
inductive Program {Op : Type u} (Answer : Op → Type v) (α : Type w) where
  | done (value : α)
  | request (op : Op) (next : Answer op → Program Answer α)

structure Event {Op : Type u} (Answer : Op → Type v) where
  op : Op
  answer : Answer op

variable {Op : Type u} {Answer : Op → Type v}

namespace Program

def bind : Program Answer α → (α → Program Answer β) → Program Answer β
  | .done value,rest => rest value
  | .request op next,rest => .request op (fun answer => (next answer).bind rest)

instance : Monad (Program Answer) where
  pure := .done
  bind := .bind

end Program

def ask (op : Op) : Program Answer (Answer op) := .request op .done

@[simp] theorem pure_done (value : α) : (pure value : Program Answer α) = .done value := rfl
@[simp] theorem bind_done (value : α) (rest : α → Program Answer β) :
    (Program.done value >>= rest) = rest value := rfl
@[simp] theorem bind_request (op : Op) (next : Answer op → Program Answer α) (rest : α → Program Answer β) :
    (Program.request op next >>= rest) = .request op (fun answer => next answer >>= rest) := rfl
@[simp] theorem bind_ask (op : Op) (rest : Answer op → Program Answer β) :
    (ask op >>= rest) = .request op rest := rfl

theorem bind_assoc (program : Program Answer α) (first : α → Program Answer β) (second : β → Program Answer γ) :
    (program >>= first) >>= second = program >>= fun value => first value >>= second := by
  induction program with
  | done value => rfl
  | request op next ih =>
    simp only [bind_request]
    congr 1
    funext answer
    exact ih answer

-- What is left of a program after a list of answered requests. A run that is still
-- waiting for an answer is a run too, so that what holds at a crash can be said.
inductive Steps : Program Answer α → List (Event Answer) → Program Answer α → Prop where
  | nil : Steps program [] program
  | cons {op : Op} {next : Answer op → Program Answer α} {answer : Answer op} :
      Steps (next answer) events remainder → Steps (.request op next) (⟨op,answer⟩ :: events) remainder

def Returns (program : Program Answer α) (events : List (Event Answer)) (value : α) : Prop :=
  Steps program events (.done value)

theorem Steps.append (first : Steps program earlier middle) (second : Steps middle later remainder) :
    Steps program (earlier ++ later) remainder := by
  induction first with
  | nil => exact second
  | cons _ ih => exact .cons (ih second)

@[simp] theorem steps_done {value : α} {remainder : Program Answer α} :
    Steps (.done value) events remainder ↔ events = [] ∧ remainder = .done value := by
  constructor
  · intro path; cases path; exact ⟨rfl,rfl⟩
  · rintro ⟨rfl,rfl⟩; exact .nil

theorem steps_request {op : Op} {next : Answer op → Program Answer α} :
    Steps (.request op next) events remainder ↔
      (events = [] ∧ remainder = .request op next) ∨
      ∃ answer rest, events = ⟨op,answer⟩ :: rest ∧ Steps (next answer) rest remainder := by
  constructor
  · intro path
    cases path with
    | nil => exact .inl ⟨rfl,rfl⟩
    | cons path => exact .inr ⟨_,_,rfl,path⟩
  · rintro (⟨rfl,rfl⟩ | ⟨answer,rest,rfl,path⟩)
    · exact .nil
    · exact .cons path

@[simp] theorem returns_done {result value : α} :
    Returns (.done result : Program Answer α) events value ↔ events = [] ∧ value = result := by
  simp only [Returns,steps_done,Program.done.injEq]

@[simp] theorem returns_request {op : Op} {next : Answer op → Program Answer α} {value : α} :
    Returns (.request op next) events value ↔
      ∃ answer rest, events = ⟨op,answer⟩ :: rest ∧ Returns (next answer) rest value := by
  simp [Returns,steps_request]

-- Sequencing splits a completed run at the point where the first part returned.
theorem returns_bind {program : Program Answer α} {rest : α → Program Answer β} {value : β} :
    Returns (program >>= rest) events value ↔
      ∃ middle earlier later, events = earlier ++ later ∧
        Returns program earlier middle ∧ Returns (rest middle) later value := by
  induction program generalizing events with
  | done result =>
    simp only [bind_done,returns_done]
    constructor
    · intro path; exact ⟨result,[],events,rfl,⟨rfl,rfl⟩,path⟩
    · rintro ⟨middle,earlier,later,rfl,⟨rfl,rfl⟩,path⟩; exact path
  | request op next ih =>
    simp only [bind_request,returns_request]
    constructor
    · rintro ⟨answer,tail,rfl,path⟩
      obtain ⟨middle,earlier,later,rfl,first,second⟩ := (ih answer).mp path
      exact ⟨middle,⟨op,answer⟩ :: earlier,later,rfl,⟨answer,earlier,rfl,first⟩,second⟩
    · rintro ⟨middle,earlier,later,rfl,⟨answer,tail,rfl,first⟩,second⟩
      exact ⟨answer,tail ++ later,rfl,(ih answer).mpr ⟨middle,tail,later,rfl,first,second⟩⟩

-- Which requests a program can make, whatever it is answered.
def Asks (allowed : Op → Prop) : Program Answer α → Prop
  | .done _ => True
  | .request op next => allowed op ∧ ∀ answer, Asks allowed (next answer)

@[simp] theorem asks_done {allowed : Op → Prop} (value : α) :
    Asks allowed (.done value : Program Answer α) ↔ True := Iff.rfl
@[simp] theorem asks_request {allowed : Op → Prop} {op : Op} {next : Answer op → Program Answer α} :
    Asks allowed (.request op next) ↔ allowed op ∧ ∀ answer, Asks allowed (next answer) := Iff.rfl

theorem asks_bind {allowed : Op → Prop} {program : Program Answer α} {rest : α → Program Answer β}
    (first : Asks allowed program) (second : ∀ value, Asks allowed (rest value)) :
    Asks allowed (program >>= rest) := by
  induction program with
  | done value => exact second value
  | request op next ih => exact ⟨first.1,fun answer => ih answer (first.2 answer)⟩

theorem Asks.steps {allowed : Op → Prop} {program : Program Answer α} (asks : Asks allowed program)
    (path : Steps program events remainder) : ∀ event ∈ events, allowed event.op := by
  induction path with
  | nil => intro event member; cases member
  | cons path ih =>
    intro event member
    rcases List.mem_cons.mp member with rfl | later
    · exact asks.1
    · exact ih (asks.2 _) event later

theorem Asks.mono {allowed larger : Op → Prop} {program : Program Answer α} (asks : Asks allowed program)
    (implied : ∀ op, allowed op → larger op) : Asks larger program := by
  induction program with
  | done value => trivial
  | request op next ih => exact ⟨implied op asks.1,fun answer => ih answer (asks.2 answer)⟩

theorem asks_anything (program : Program Answer α) : Asks (fun _ => True) program := by
  induction program with
  | done value => trivial
  | request op next ih => exact ⟨trivial,ih⟩

-- No run makes more than a number of requests.
def Within : Nat → Program Answer α → Prop
  | _,.done _ => True
  | 0,.request _ _ => False
  | n+1,.request _ next => ∀ answer, Within n (next answer)

@[simp] theorem within_done (n : Nat) (value : α) : Within n (.done value : Program Answer α) := by
  cases n <;> trivial
@[simp] theorem within_request {n : Nat} {op : Op} {next : Answer op → Program Answer α} :
    Within (n + 1) (.request op next) ↔ ∀ answer, Within n (next answer) := Iff.rfl

theorem Within.mono {n m : Nat} {program : Program Answer α} (bounded : Within n program) (larger : n ≤ m) :
    Within m program := by
  induction program generalizing n m with
  | done value => exact within_done m value
  | request op next ih =>
    cases n with
    | zero => cases bounded
    | succ n =>
      obtain ⟨m,rfl⟩ := Nat.exists_eq_add_of_lt larger
      exact fun answer => ih answer (bounded answer) (Nat.le_add_right n m)

theorem within_bind {n m bound : Nat} {program : Program Answer α} {rest : α → Program Answer β}
    (first : Within n program) (second : ∀ value, Within m (rest value)) (fits : n + m ≤ bound) :
    Within bound (program >>= rest) := by
  induction program generalizing n bound with
  | done value => exact (second value).mono (Nat.le_of_add_left_le fits)
  | request op next ih =>
    cases n with
    | zero => cases first
    | succ n =>
      obtain ⟨bound,rfl⟩ : ∃ k, bound = k + 1 := ⟨bound - 1,by omega⟩
      exact fun answer => ih answer (first answer) (by omega)

theorem Within.steps {n : Nat} {program : Program Answer α} (bounded : Within n program)
    (path : Steps program events remainder) : events.length ≤ n := by
  induction path generalizing n with
  | nil => exact Nat.zero_le n
  | cons path ih =>
    cases n with
    | zero => cases bounded
    | succ n => exact Nat.succ_le_succ (ih (bounded _))

-- A run that is waiting can go on to the end, whatever the next answers are.
theorem returns_exists [answers : ∀ op, Nonempty (Answer op)] (program : Program Answer α) :
    ∃ events value, Returns program events value := by
  induction program with
  | done value => exact ⟨[],value,.nil⟩
  | request op next ih =>
    obtain ⟨answer⟩ := answers op
    obtain ⟨events,value,path⟩ := ih answer
    exact ⟨⟨op,answer⟩ :: events,value,.cons path⟩

-- A rule on what may be asked after what: the events of the run so far are part
-- of the judgement, so that a request can be tied to the answers it rests on.
def Follows (rule : List (Event Answer) → Op → Prop) : List (Event Answer) → Program Answer α → Prop
  | _,.done _ => True
  | past,.request op next => rule past op ∧ ∀ answer, Follows rule (past ++ [⟨op,answer⟩]) (next answer)

section Rules
variable {rule : List (Event Answer) → Op → Prop} {past : List (Event Answer)}

@[simp] theorem follows_done (value : α) : Follows rule past (.done value : Program Answer α) ↔ True := Iff.rfl
@[simp] theorem follows_request {op : Op} {next : Answer op → Program Answer α} :
    Follows rule past (.request op next) ↔
      rule past op ∧ ∀ answer, Follows rule (past ++ [⟨op,answer⟩]) (next answer) := Iff.rfl

theorem follows_bind {program : Program Answer α} {rest : α → Program Answer β} (first : Follows rule past program)
    (second : ∀ value events, Returns program events value → Follows rule (past ++ events) (rest value)) :
    Follows rule past (program >>= rest) := by
  induction program generalizing past with
  | done value => simpa using second value [] .nil
  | request op next ih =>
    refine ⟨first.1,?_⟩
    intro answer
    apply ih answer (first.2 answer)
    intro value events path
    rw [List.append_assoc]
    exact second value (⟨op,answer⟩ :: events) (.cons path)

-- What a program can ask for is enough when it stays allowed however the run goes on.
theorem Asks.follows {allowed : Op → Prop} {program : Program Answer α} (asks : Asks allowed program)
    (implied : ∀ later op, allowed op → rule (past ++ later) op) : Follows rule past program := by
  induction program generalizing past with
  | done value => trivial
  | request op next ih =>
    refine ⟨by simpa using implied [] op asks.1,?_⟩
    intro answer
    apply ih answer (asks.2 answer)
    intro later other permitted
    rw [List.append_assoc]
    exact implied (⟨op,answer⟩ :: later) other permitted

theorem Follows.steps {program : Program Answer α} (follows : Follows rule past program)
    (path : Steps program (before ++ event :: after) remainder) : rule (past ++ before) event.op := by
  induction before generalizing past program with
  | nil =>
    cases path with
    | cons path => simpa using follows.1
  | cons first before ih =>
    cases path with
    | cons path =>
      have kept := ih (follows.2 _) path
      rwa [List.append_assoc] at kept

theorem Follows.mono {weaker : List (Event Answer) → Op → Prop} {program : Program Answer α}
    (follows : Follows rule past program) (implied : ∀ past op, rule past op → weaker past op) :
    Follows weaker past program := by
  induction program generalizing past with
  | done value => trivial
  | request op next ih => exact ⟨implied _ _ follows.1,fun answer => ih answer (follows.2 answer)⟩

-- A rule that does not look at the past says what a program can ask for.
theorem follows_asks {allowed : Op → Prop} {program : Program Answer α}
    (follows : Follows (fun _ op => allowed op) past program) : Asks allowed program := by
  induction program generalizing past with
  | done value => trivial
  | request op next ih => exact ⟨follows.1,fun answer => ih answer (follows.2 answer)⟩

-- A client in the middle of its program still follows its rule.
theorem Follows.later {program : Program Answer α} (follows : Follows rule past program)
    (path : Steps program events remainder) : Follows rule (past ++ events) remainder := by
  induction path generalizing past with
  | nil => simpa using follows
  | cons path ih => simpa using ih (follows.2 _)

-- A rule kept to the end, and what holds of the result and the events then.
def Ensures (rule : List (Event Answer) → Op → Prop) (post : α → List (Event Answer) → Prop) :
    List (Event Answer) → Program Answer α → Prop
  | past,.done value => post value past
  | past,.request op next => rule past op ∧ ∀ answer, Ensures rule post (past ++ [⟨op,answer⟩]) (next answer)

@[simp] theorem ensures_done {post : α → List (Event Answer) → Prop} (value : α) :
    Ensures rule post past (.done value) ↔ post value past := Iff.rfl
@[simp] theorem ensures_request {post : α → List (Event Answer) → Prop} {op : Op}
    {next : Answer op → Program Answer α} : Ensures rule post past (.request op next) ↔
      rule past op ∧ ∀ answer, Ensures rule post (past ++ [⟨op,answer⟩]) (next answer) := Iff.rfl

theorem ensures_bind {middle : α → List (Event Answer) → Prop} {post : β → List (Event Answer) → Prop}
    {program : Program Answer α} {rest : α → Program Answer β} (first : Ensures rule middle past program)
    (second : ∀ value later, middle value later → Ensures rule post later (rest value)) :
    Ensures rule post past (program >>= rest) := by
  induction program generalizing past with
  | done value => exact second value past first
  | request op next ih => exact ⟨first.1,fun answer => ih answer (first.2 answer)⟩

-- What is kept by every request that a program can make is kept to its end.
theorem Asks.ensures {allowed : Op → Prop} {program : Program Answer α} (asks : Asks allowed program)
    {inv : List (Event Answer) → Prop} (start : inv past)
    (step : ∀ past op, inv past → allowed op → rule past op ∧ ∀ answer : Answer op, inv (past ++ [⟨op,answer⟩])) :
    Ensures rule (fun _ later => inv later) past program := by
  induction program generalizing past with
  | done value => exact start
  | request op next ih =>
    obtain ⟨kept,still⟩ := step past op start asks.1
    exact ⟨kept,fun answer => ih answer (asks.2 answer) (still answer)⟩

theorem Ensures.mono {weaker : List (Event Answer) → Op → Prop} {post final : α → List (Event Answer) → Prop}
    {program : Program Answer α} (ensures : Ensures rule post past program) (rules : ∀ past op, rule past op → weaker past op)
    (posts : ∀ value past, post value past → final value past) : Ensures weaker final past program := by
  induction program generalizing past with
  | done value => exact posts _ _ ensures
  | request op next ih => exact ⟨rules _ _ ensures.1,fun answer => ih answer (ensures.2 answer)⟩

theorem Ensures.follows {post : α → List (Event Answer) → Prop} {program : Program Answer α}
    (ensures : Ensures rule post past program) : Follows rule past program := by
  induction program generalizing past with
  | done value => trivial
  | request op next ih => exact ⟨ensures.1,fun answer => ih answer (ensures.2 answer)⟩

end Rules

end YouSpinMe.RequestProgram
