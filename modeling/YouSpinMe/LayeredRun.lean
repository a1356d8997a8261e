import YouSpinMe.SharedRun
import YouSpinMe.BlindRun

namespace YouSpinMe.LayeredRun
open RequestProgram SharedRun BlindRun

variable {Op : Type u} {Answer : Op → Type v} {Below : Type u'} {Reply : Below → Type v} {σ : Type x} {τ : Type x'}

-- Requests of one layer carried out by programs of the layer below, on two servers.
-- What a client knows half way through a request must survive every step of the
-- others. The request counts as served at the last request below and at no other.
structure Layer (low : Server σ Reply) (high : Server τ Answer) (carryOut : (op : Op) → Program Reply (Answer op)) where
  permits : Op → Prop
  related : σ → τ → Prop
  knows : σ → (op : Op) → Program Reply (Answer op) → Prop
  begins : ∀ {s t op}, related s t → permits op → knows s op (carryOut op)
  waits : ∀ {s op answer}, ¬ knows s op (.done answer)
  lasts : ∀ {s t below reply after op remainder}, related s t → low s below reply after →
    knows s op remainder → knows after op remainder
  moves : ∀ {s t below reply after op next}, related s t → low s below reply after →
    knows s op (.request below next) →
    (∃ answer final, next reply = .done answer ∧ high t op answer final ∧ related after final) ∨
    (related after t ∧ knows after op (next reply))

theorem carriedOut_snoc {carryOut : (op : Op) → Program Reply (Answer op)} (carried : CarriedOut carryOut events below)
    (last : Returns (carryOut op) later answer) : CarriedOut carryOut (events ++ [⟨op,answer⟩]) (below ++ later) := by
  induction carried with
  | nil => simpa using CarriedOut.cons last .nil
  | cons first _ ih =>
    rw [List.cons_append,List.append_assoc]
    exact .cons first ih

theorem carriedOut_member {carryOut : (op : Op) → Program Reply (Answer op)} {event : Event Answer}
    (carried : CarriedOut carryOut events below) (member : event ∈ events) :
    ∃ part, part.Sublist below ∧ Returns (carryOut event.op) part event.answer := by
  induction carried with
  | nil => cases member
  | cons first _ ih =>
    rcases List.mem_cons.mp member with rfl | later
    · exact ⟨_,List.sublist_append_left ..,first⟩
    · obtain ⟨part,within,path⟩ := ih later
      exact ⟨part,within.trans (List.sublist_append_right ..),path⟩

section Layers
variable {low : Server σ Reply} {high : Server τ Answer} {carryOut : (op : Op) → Program Reply (Answer op)}
  {layer : Layer low high carryOut}

-- Where a client stands in both layers: what it saw below carries out what it was
-- told above, and the rest of what it saw belongs to the request it waits for.
inductive Stands (layer : Layer low high carryOut) (s : σ) :
    List (Event Reply) → List (Event Answer) → Program Answer α → Program Reply α → Prop where
  | idle (carried : CarriedOut carryOut told seen) : Stands layer s seen told (.done value) (.done value)
  | busy {op : Op} {next : Answer op → Program Answer α} {remainder : Program Reply (Answer op)} (carried : CarriedOut carryOut told seen)
      (going : Steps (carryOut op) begun remainder) (knows : layer.knows s op remainder)
      (later : ∀ answer, Asks layer.permits (next answer)) :
      Stands layer s (seen ++ begun) told (.request op next) (remainder >>= fun answer => implement carryOut (next answer))

theorem Stands.begin {program : Program Answer α} (related : layer.related s t) (carried : CarriedOut carryOut told seen)
    (asks : Asks layer.permits program) : Stands layer s seen told program (implement carryOut program) := by
  cases program with
  | done value => exact .idle carried
  | request op next =>
    have standing : Stands layer s (seen ++ []) told (.request op next)
        (carryOut op >>= fun answer => implement carryOut (next answer)) :=
      .busy carried .nil (layer.begins related asks.1) asks.2
    rwa [List.append_nil] at standing

theorem Stands.lasts {program : Program Answer α} {remainder : Program Reply α}
    (stands : Stands layer s seen told program remainder) (related : layer.related s t)
    (served : low s below reply after) : Stands layer after seen told program remainder := by
  cases stands with
  | idle carried => exact .idle carried
  | busy carried going knows later => exact .busy carried going (layer.lasts related served knows) later

-- The step of the client that was served: the layer above has moved by one event
-- of that client or has not moved.
theorem Stands.moves {program : Program Answer α} {next : Reply below → Program Reply α}
    (stands : Stands layer s seen told program (.request below next)) (related : layer.related s t)
    (served : low s below reply after) :
    (∃ op rest answer final, program = .request op rest ∧ high t op answer final ∧ layer.related after final ∧
      Stands layer after (seen ++ [⟨below,reply⟩]) (told ++ [⟨op,answer⟩]) (rest answer) (next reply)) ∨
    (layer.related after t ∧ Stands layer after (seen ++ [⟨below,reply⟩]) told program (next reply)) := by
  generalize waiting : Program.request below next = remainder at stands
  cases stands with
  | idle carried => cases waiting
  | @busy _ _ seen begun op rest remainder carried going knows later =>
    cases remainder with
    | done answer => exact absurd knows layer.waits
    | request other more =>
      cases waiting
      have further : Steps (carryOut op) (begun ++ [⟨below,reply⟩]) (more reply) := going.append (.cons .nil)
      rcases layer.moves related served knows with ⟨answer,final,ended,moved,still⟩ | ⟨still,knows⟩
      · refine .inl ⟨op,rest,answer,final,rfl,moved,still,?_⟩
        have joined : (more reply >>= fun answer => implement carryOut (rest answer)) = implement carryOut (rest answer) := by
          rw [ended]
          rfl
        show Stands layer after _ _ _ (more reply >>= fun answer => implement carryOut (rest answer))
        rw [ended] at further
        rw [joined,List.append_assoc]
        exact .begin still (carriedOut_snoc carried further) (later answer)
      · refine .inr ⟨still,?_⟩
        rw [List.append_assoc]
        exact .busy carried further knows later

theorem Stands.carried {program : Program Answer α} {remainder : Program Reply α}
    (stands : Stands layer s seen told program remainder) : ∃ begun, begun <+: seen ∧ CarriedOut carryOut told begun := by
  cases stands with
  | idle carried => exact ⟨seen,List.prefix_rfl,carried⟩
  | busy carried going knows later => exact ⟨_,List.prefix_append ..,carried⟩

theorem Stands.returned {program : Program Answer α} (stands : Stands layer s seen told program (.done value)) :
    program = .done value ∧ CarriedOut carryOut told seen := by
  generalize ended : Program.done value = remainder at stands
  cases stands with
  | idle carried =>
    cases ended
    exact ⟨rfl,carried⟩
  | @busy _ _ seen begun op rest remainder carried going knows later =>
    cases remainder with
    | done answer => exact absurd knows layer.waits
    | request other more => cases ended

variable {ι : Type y} [DecidableEq ι] {α : ι → Type v} {clients : (i : ι) → Program Answer (α i)}

-- Every interleaving below is a run above of the same clients, each in its own
-- order, in which a request takes its place where its last request below was served.
theorem Layer.runs (layer : Layer low high carryOut)
    (path : Runs low (fun i => implement carryOut (clients i)) s log remainder after) (start : layer.related s t)
    (asks : ∀ i, Asks layer.permits (clients i)) : ∃ history above final,
      Runs high clients t history above final ∧ layer.related after final ∧
      (history.map Prod.fst).Sublist (log.map Prod.fst) ∧
      ∀ i, Stands layer after (own i log) (own i history) (above i) (remainder i) := by
  induction path with
  | start => exact ⟨[],clients,t,.start,start,.slnil,fun i => .begin start .nil (asks i)⟩
  | @step log remainder middle after i below next reply prior waiting served ih =>
    obtain ⟨history,above,final,runs,related,placed,stands⟩ := ih
    have standing := stands i
    rw [waiting] at standing
    have others : ∀ j, Stands layer after (own j log) (own j history) (above j) (remainder j) :=
      fun j => (stands j).lasts related served
    rcases standing.moves related served with ⟨op,rest,answer,last,asked,moved,still,stood⟩ | ⟨still,stood⟩
    · refine ⟨history ++ [(i,⟨op,answer⟩)],Function.update above i (rest answer),last,.step runs asked moved,still,?_,?_⟩
      · rw [List.map_append,List.map_append]
        exact placed.append (.refl _)
      · intro j
        by_cases same : j = i
        · subst same
          simpa using stood
        · simpa only [own_append,own_cons_other (Ne.symm same),own_nil,List.append_nil,Function.update_of_ne same]
            using others j
    · refine ⟨history,above,final,runs,still,?_,?_⟩
      · rw [List.map_append]
        exact placed.trans (List.sublist_append_left ..)
      · intro j
        by_cases same : j = i
        · subst same
          simpa using stood
        · simpa only [own_append,own_cons_other (Ne.symm same),own_nil,List.append_nil,Function.update_of_ne same]
            using others j

end Layers

section Last
variable {low : Server σ Reply} {high : Server τ Answer} {carryOut : (op : Op) → Program Reply (Answer op)}

-- A layer in which at most one request below counts for a request above, and then as
-- the last. The others change nothing that is seen above.
def Quiet (counts : Event Reply → Prop) (past : List (Event Reply)) : Prop := ∀ event ∈ past, ¬ counts event

def Sole (counts : Event Reply → Prop) (may : Below → Prop) (past : List (Event Reply)) (below : Below) : Prop :=
  Quiet counts past ∧ may below

-- A result together with the one event that counted, if any did.
def Told (counts : Event Reply → Prop) (tells : α → Option (Event Reply) → Prop) (result : α) (past : List (Event Reply)) : Prop :=
  (Quiet counts past ∧ tells result none) ∨
  ∃ earlier event, past = earlier ++ [event] ∧ Quiet counts earlier ∧ counts event ∧ tells result (some event)

structure LastCounts (low : Server σ Reply) (high : Server τ Answer) (carryOut : (op : Op) → Program Reply (Answer op)) where
  permits : Op → Prop
  related : σ → τ → Prop
  counts : Event Reply → Prop
  may : Op → Below → Prop
  tells : (op : Op) → Answer op → Option (Event Reply) → Prop
  ensures : ∀ {op}, permits op → Ensures (Sole counts (may op)) (Told counts (tells op)) [] (carryOut op)
  asks : ∀ {op answer}, permits op → carryOut op ≠ .done answer
  silent : ∀ {s t below reply after}, related s t → low s below reply after → ¬ counts ⟨below,reply⟩ → related after t
  failed : ∀ {t op answer}, tells op answer none → high t op answer t
  counted : ∀ {s t op answer below reply after}, related s t → low s below reply after → may op below →
    counts ⟨below,reply⟩ → tells op answer (some ⟨below,reply⟩) → ∃ final, high t op answer final ∧ related after final

theorem quiet_snoc {counts : Event Reply → Prop} {event : Event Reply} (quiet : Quiet counts past) (still : ¬ counts event) :
    Quiet counts (past ++ [event]) := by
  intro other member
  rcases List.mem_append.mp member with early | last
  · exact quiet other early
  · exact List.mem_singleton.mp last ▸ still

theorem told_snoc {counts : Event Reply → Prop} {tells : α → Option (Event Reply) → Prop} {event : Event Reply}
    (told : Told counts tells result (past ++ [event])) (counted : counts event) : tells result (some event) := by
  rcases told with ⟨quiet,_⟩ | ⟨earlier,other,parts,_,_,said⟩
  · exact absurd counted (quiet event (by simp))
  · obtain ⟨_,same⟩ := List.append_inj' parts rfl
    rwa [List.singleton_inj.mp same]

theorem told_quiet {counts : Event Reply → Prop} {tells : α → Option (Event Reply) → Prop}
    (told : Told counts tells result past) (quiet : Quiet counts past) : tells result none := by
  rcases told with ⟨_,said⟩ | ⟨earlier,other,rfl,_,counted,_⟩
  · exact said
  · exact absurd counted (quiet other (by simp))

theorem told_mono {counts : Event Reply → Prop} {tells : α → Option (Event Reply) → Prop}
    {other : β → Option (Event Reply) → Prop} (told : Told counts tells value past)
    (implies : ∀ event, tells value event → other result event) : Told counts other result past := by
  rcases told with ⟨quiet,said⟩ | ⟨earlier,event,parts,quiet,counted,said⟩
  · exact .inl ⟨quiet,implies _ said⟩
  · exact .inr ⟨earlier,event,parts,quiet,counted,implies _ said⟩

def LastCounts.toLayer (last : LastCounts low high carryOut) : Layer low high carryOut where
  permits := last.permits
  related := last.related
  knows := fun _ op program => (∀ answer, program ≠ .done answer) ∧
    ∃ past, Ensures (Sole last.counts (last.may op)) (Told last.counts (last.tells op)) past program
  begins := fun _ permitted => ⟨fun _ => last.asks permitted,[],last.ensures permitted⟩
  waits := fun knows => knows.1 _ rfl
  lasts := fun _ _ knows => knows
  moves := by
    intro s t below reply after op next related served knows
    obtain ⟨_,past,⟨⟨quiet,may⟩,later⟩⟩ := knows
    have ensured := later reply
    by_cases counted : last.counts ⟨below,reply⟩
    · cases ended : next reply with
      | done answer =>
        rw [ended] at ensured
        obtain ⟨final,moved,still⟩ := last.counted related served may counted (told_snoc ensured counted)
        exact .inl ⟨answer,final,rfl,moved,still⟩
      | request other more =>
        rw [ended] at ensured
        exact absurd counted (ensured.1.1 _ (by simp))
    · have still := last.silent related served counted
      cases ended : next reply with
      | done answer =>
        rw [ended] at ensured
        exact .inl ⟨answer,t,rfl,last.failed (told_quiet ensured (quiet_snoc quiet counted)),still⟩
      | request other more =>
        rw [ended] at ensured
        have waiting : ∀ answer, Program.request other more ≠ .done answer := by
          intro answer same
          cases same
        exact .inr ⟨still,waiting,_,ensured⟩

end Last

section Clients
variable {ι : Type y} [DecidableEq ι] {α : ι → Type w} {clients : (i : ι) → Program Answer (α i)}

-- A run is a run of another server when each of its steps is one, in the states
-- that belong together.
theorem simulate_runs {server : Server σ Answer} {other : Server τ Answer} (related : σ → τ → Prop)
    (step : ∀ s t op answer after, related s t → server s op answer after →
      ∃ final, other t op answer final ∧ related after final)
    (path : Runs server clients s log remainder after) (start : related s t) :
    ∃ final, Runs other clients t log remainder final ∧ related after final := by
  induction path with
  | start => exact ⟨t,.start,start⟩
  | step prior waiting served ih =>
    obtain ⟨middle,runs,still⟩ := ih
    obtain ⟨final,moved,related⟩ := step _ _ _ _ _ still served
    exact ⟨final,.step runs waiting moved,related⟩

-- The same where the clients keep to a rule, which a step may then count on.
theorem simulate_following {server : Server σ Answer} {other : Server τ Answer} {rule : Op → Prop} (related : σ → τ → Prop)
    (follows : ∀ i, Follows (fun _ op => rule op) [] (clients i))
    (step : ∀ s t op answer after, rule op → related s t → server s op answer after →
      ∃ final, other t op answer final ∧ related after final)
    (path : Runs server clients s log remainder after) (start : related s t) :
    ∃ final, Runs other clients t log remainder final ∧ related after final := by
  induction path with
  | start => exact ⟨t,.start,start⟩
  | @step log remainder middle after i op next answer prior waiting served ih =>
    obtain ⟨between,runs,still⟩ := ih
    have asked : rule op := (Runs.step prior waiting served).follows (follows i)
    obtain ⟨final,moved,related⟩ := step _ _ _ _ _ asked still served
    exact ⟨final,.step runs waiting moved,related⟩

end Clients

end YouSpinMe.LayeredRun
