import Mathlib.Logic.Relation

namespace YouSpinMe.WorkQueue

-- What a loop knows of one item: the copy that was delivered last, whether the item waits
-- for its turn, and the copy that is being worked on.
structure Work (R : Type u) where
  cache : Option R := none
  queued : Bool := false
  running : Option R := none

variable {R : Type u} {fine : R → Prop}

-- The item itself is changed by anybody at any time, and is never again what it was. The
-- loop works on copies, which may be out of date.
inductive Step (fine : R → Prop) : Option R × Work R → Option R × Work R → Prop where
  | changed (fresh : ∀ r, next = some r → work.cache ≠ some r) : Step fine (current,work) (next,work)
  | delivered (copy : R) : Step fine (current,work) (current,{work with cache := some copy,queued := true})
  | forgotten : Step fine (current,work) (current,{work with cache := none})
  | started (waits : work.queued = true) (idle : work.running = none) :
      Step fine (current,work) (current,{work with queued := false,running := work.cache})
  | finished (busy : work.running = some seen) (good : fine seen) :
      Step fine (current,work) (current,{work with running := none})
  | written (busy : work.running = some seen) (fresh : ∀ r, next = some r → work.cache ≠ some r) :
      Step fine (current,work) (next,{work with running := none})
  | failed : Step fine (current,work) (current,{work with queued := true,running := none})
  | reset : Step fine (current,work) (current,{})

def Idle (work : Work R) : Prop := work.queued = false ∧ work.running = none

-- Unless the item waits for its turn, the copy that is worked on is the last one, and one
-- that nothing is done about is good or out of date.
structure Kept (fine : R → Prop) (current : Option R) (work : Work R) : Prop where
  latest : work.queued = false → ∀ seen, work.running = some seen → ∀ copy, work.cache = some copy → copy = seen
  judged : Idle work → ∀ copy, work.cache = some copy → fine copy ∨ current ≠ some copy

theorem kept_reset (current : Option R) : Kept fine current ({} : Work R) := by
  refine ⟨?_,?_⟩
  · intro _ seen busy
    cases busy
  · intro _ copy found
    cases found

theorem kept_queued {current : Option R} {work : Work R} (waits : work.queued = true) : Kept fine current work := by
  refine ⟨?_,?_⟩
  · intro none
    rw [waits] at none
    cases none
  · intro idle
    rw [idle.1] at waits
    cases waits

theorem Kept.changed {current next : Option R} {work : Work R} (kept : Kept fine current work)
    (fresh : ∀ r, next = some r → work.cache ≠ some r) : Kept fine next work := by
  refine ⟨kept.latest,?_⟩
  intro _ copy found
  exact .inr fun same => fresh copy same found

theorem step_kept {s t : Option R × Work R} (step : Step fine s t) (kept : Kept fine s.1 s.2) : Kept fine t.1 t.2 := by
  cases step with
  | changed fresh => exact kept.changed fresh
  | delivered copy => exact kept_queued rfl
  | forgotten =>
    refine ⟨?_,?_⟩
    · intro _ _ _ _ found
      cases found
    · intro _ _ found
      cases found
  | started waits idle =>
    refine ⟨?_,?_⟩
    · intro _ seen busy copy found
      exact Option.some.inj (found.symm.trans busy)
    · intro still copy found
      cases still.2.symm.trans found
  | @finished seen _ _ busy good =>
    refine ⟨fun _ _ none => (by cases none),?_⟩
    intro still copy found
    exact .inl (kept.latest still.1 seen busy copy found ▸ good)
  | written busy fresh =>
    refine ⟨fun _ _ none => (by cases none),?_⟩
    intro _ copy found
    exact .inr fun same => fresh copy same found
  | failed => exact kept_queued rfl
  | reset => exact kept_reset _

-- Once there is nothing left to do and the copy is the item as it is, the item is good.
theorem Kept.settled {current : Option R} {work : Work R} (kept : Kept fine current work) (idle : Idle work)
    (caught : work.cache = current) (there : current = some r) : fine r := by
  rcases kept.judged idle r (caught.trans there) with good | outdated
  · exact good
  · exact absurd there outdated

end YouSpinMe.WorkQueue
