import YouSpinMe.RequestProgram

namespace YouSpinMe.BlindRun
open RequestProgram

variable {Op : Type u} {Answer : Op → Type v} {Below : Type u'} {Reply : Below → Type v}

-- A program whose requests are carried out by programs of the layer below.
def implement (carryOut : (op : Op) → Program Reply (Answer op)) : Program Answer α → Program Reply α
  | .done value => .done value
  | .request op next => carryOut op >>= fun answer => implement carryOut (next answer)

theorem implement_bind (carryOut : (op : Op) → Program Reply (Answer op)) (program : Program Answer α)
    (rest : α → Program Answer β) :
    implement carryOut (program >>= rest) = implement carryOut program >>= fun value => implement carryOut (rest value) := by
  induction program with
  | done value => rfl
  | request op next ih =>
    rw [bind_request,implement,implement,bind_assoc]
    congr 1
    funext answer
    exact ih answer

-- The runs of the layer below that carry out the requests of a run.
inductive CarriedOut (carryOut : (op : Op) → Program Reply (Answer op)) :
    List (Event Answer) → List (Event Reply) → Prop where
  | nil : CarriedOut carryOut [] []
  | cons {op : Op} {answer : Answer op} (first : Returns (carryOut op) below answer)
      (rest : CarriedOut carryOut events later) : CarriedOut carryOut (⟨op,answer⟩ :: events) (below ++ later)

theorem implement_returns {carryOut : (op : Op) → Program Reply (Answer op)} {program : Program Answer α}
    (path : Returns program events value) (carried : CarriedOut carryOut events below) :
    Returns (implement carryOut program) below value := by
  induction program generalizing events below with
  | done given =>
    obtain ⟨rfl,rfl⟩ := returns_done.mp path
    cases carried
    exact .nil
  | request op next ih =>
    obtain ⟨answer,rest,rfl,going⟩ := returns_request.mp path
    cases carried with
    | cons first later => exact returns_bind.mpr ⟨answer,_,_,rfl,first,ih answer going later⟩

-- What of a request an observer does not see. Answers are seen.
structure Mask (Answer : Op → Type v) where
  hide : Op → Op
  answers : ∀ op, Answer (hide op) = Answer op

variable {mask : Mask Answer}

def Mask.program (mask : Mask Answer) : Program Answer α → Program Answer α
  | .done value => .done value
  | .request op next => .request (mask.hide op) fun answer => mask.program (next (cast (mask.answers op) answer))

def Mask.event (mask : Mask Answer) (event : Event Answer) : Event Answer :=
  ⟨mask.hide event.op,cast (mask.answers event.op).symm event.answer⟩

-- Two programs that an observer cannot tell apart, whatever is answered.
def Alike (mask : Mask Answer) (first second : Program Answer α) : Prop := mask.program first = mask.program second

theorem mask_bind (program : Program Answer α) (rest : α → Program Answer β) :
    mask.program (program >>= rest) = mask.program program >>= fun value => mask.program (rest value) := by
  induction program with
  | done value => rfl
  | request op next ih =>
    rw [bind_request,Mask.program,Mask.program,bind_request]
    congr 1
    funext answer
    exact ih _

theorem alike_bind {first second : Program Answer α} {rest other : α → Program Answer β}
    (same : Alike mask first second) (later : ∀ value, Alike mask (rest value) (other value)) :
    Alike mask (first >>= rest) (second >>= other) := by
  unfold Alike at same later ⊢
  rw [mask_bind,mask_bind,same]
  congr 1
  funext value
  exact later value

theorem alike_refl (program : Program Answer α) : Alike mask program program := rfl

theorem mask_returns {program : Program Answer α} (path : Returns program events value) :
    Returns (mask.program program) (events.map mask.event) value := by
  induction program generalizing events with
  | done result =>
    obtain ⟨rfl,rfl⟩ := returns_done.mp path
    exact .nil
  | request op next ih =>
    obtain ⟨answer,rest,rfl,later⟩ := returns_request.mp path
    have masked := ih answer later
    rw [List.map_cons]
    refine .cons ?_
    show Steps (mask.program (next (cast (mask.answers op) (cast (mask.answers op).symm answer)))) _ _
    rwa [cast_cast,cast_eq]

-- As long as two runs made the same requests they got the same answers.
def AnsweredAlike : List (Event Answer) → List (Event Answer) → Prop
  | first :: rest,second :: others => first.op = second.op → first = second ∧ AnsweredAlike rest others
  | _,_ => True

theorem answeredAlike_refl (events : List (Event Answer)) : AnsweredAlike events events := by
  induction events with
  | nil => trivial
  | cons event rest ih => exact fun _ => ⟨rfl,ih⟩

theorem returns_alike {program : Program Answer α} (first : Returns program events value)
    (second : Returns program others result) (alike : AnsweredAlike events others) : events = others ∧ value = result := by
  induction program generalizing events others with
  | done given =>
    obtain ⟨rfl,rfl⟩ := returns_done.mp first
    obtain ⟨rfl,rfl⟩ := returns_done.mp second
    exact ⟨rfl,rfl⟩
  | request op next ih =>
    obtain ⟨answer,rest,rfl,going⟩ := returns_request.mp first
    obtain ⟨reply,more,rfl,other⟩ := returns_request.mp second
    obtain ⟨same,later⟩ := alike rfl
    cases same
    obtain ⟨rfl,equal⟩ := ih answer going other later
    exact ⟨rfl,equal⟩

-- Two programs that look alike and are answered alike do alike and return the
-- same.
theorem alike_returns {first second : Program Answer α} (same : Alike mask first second)
    (path : Returns first events value) (other : Returns second others result)
    (alike : AnsweredAlike (events.map mask.event) (others.map mask.event)) :
    events.map mask.event = others.map mask.event ∧ value = result := by
  have masked : Returns (mask.program second) (others.map mask.event) result := mask_returns other
  rw [← show mask.program first = mask.program second from same] at masked
  exact returns_alike (mask_returns path) masked alike

end YouSpinMe.BlindRun
