import YouSpinMe.Crd
import YouSpinMe.Duration
import Mathlib.Data.List.Forall2

namespace YouSpinMe.Validation
open Text Jiff Crd

structure Url where
  scheme : String
  path : String
  text : String
  deriving DecidableEq

class UrlCrate extends CharTables where
  parse : String → Option Url

@[reducible] def noUrls : UrlCrate := {escaped := fun _ => false,parse := fun _ => none}

structure PathAllowList where
  patterns : List String
  trimmed : ∀ pattern ∈ patterns, trim pattern = pattern ∧ pattern ≠ ""

def PathAllowList.new (patterns : List String) : PathAllowList where
  patterns := (patterns.map trim).filter fun pattern => pattern ≠ ""
  trimmed := by
    intro pattern member
    simp only [ne_eq,decide_not,List.mem_filter,List.mem_map,Bool.not_eq_true',decide_eq_false_iff_not] at member
    obtain ⟨⟨raw,_,rfl⟩,filled⟩ := member
    exact ⟨trim_idem raw,filled⟩

def PathAllowList.allowAll : PathAllowList := .new ["*"]

-- `rest.find('/')`, with the text before the slash and what follows it.
def cut (rest : List Char) : List Char × Option (List Char) :=
  match rest.dropWhile (· != '/') with
  | [] => (rest,none)
  | _ :: remaining => (rest.takeWhile (· != '/'),some remaining)

def matchesSegment (seg current : List Char) : Bool :=
  if seg = ['+'] then !current.isEmpty else current == seg

-- The loop of `glob_match`; `wild` is its flag for a pattern that ended in `*`.
def globLoop (wild : Bool) : List (List Char) → List Char → Bool
  | [],_ => false
  | seg :: segments,rest =>
    if segments.isEmpty && wild then
      if seg = ['+'] then
        match cut rest with
        | (before,some _) => !before.isEmpty
        | (_,none) => !rest.isEmpty
      else seg.isPrefixOf rest
    else if !matchesSegment seg (cut rest).1 then false
    else match (cut rest).2 with
      | some remaining => globLoop wild segments remaining
      | none => segments.isEmpty && !wild

def globMatch (pattern path : String) : Bool :=
  if pattern.toList.getLast? = some '*' then globLoop true (pattern.toList.dropLast.splitOn '/') path.toList
  else globLoop false (pattern.toList.splitOn '/') path.toList

def PathAllowList.allows (allowed : PathAllowList) (path : String) : Bool :=
  allowed.patterns.any fun pattern => globMatch pattern path

def parsed (value : Option String) : Option SignedDuration :=
  value.bind fun d => (Duration.parse d).toOption

def durationProblem [CharTables] (field : String) (value : Option String) : List String :=
  match value with
  | none => []
  | some v => match Duration.parse v with
    | .ok _ => []
    | .error e => [field ++ ": " ++ e.text]

def orderProblem (rotation : RotationPolicy) : List String :=
  match parsed rotation.warnBefore,parsed rotation.criticalBefore with
  | some w,some c => if w < c then ["rotation.criticalBefore is longer than rotation.warnBefore"] else []
  | _,_ => []

def renewUrlProblem [UrlCrate] (renewUrl : Option String) : List String :=
  match renewUrl with
  | none => []
  | some url => match UrlCrate.parse url with
    | some u => if u.scheme = "https" ∨ u.scheme = "http" then []
        else ["renewUrl: " ++ debug url ++ " is not an http(s) URL"]
    | none => ["renewUrl: " ++ debug url ++ " is not an http(s) URL"]

def blankProblem (i : Nat) (field value : String) : List String :=
  if trim value = "" then ["targets[" ++ toString i ++ "].openbao." ++ field ++ " is empty"] else []

def openBaoProblems (allowed : PathAllowList) (i : Nat) (seen : List String) (t : OpenBaoTarget) : List String :=
  blankProblem i "mount" t.mount ++ blankProblem i "path" t.path ++ blankProblem i "key" t.key ++
  (if ".." ∈ split '/' t.path ∨ '/' ∈ t.mount.toList then
    ["targets[" ++ toString i ++ "].openbao: invalid mount or path"] else []) ++
  (if allowed.allows t.policyPath then [] else
    ["targets[" ++ toString i ++ "]: " ++ t.policyPath ++ " is not in allowedPaths (" ++
      ", ".intercalate allowed.patterns ++ ")"]) ++
  (if t.reference ∈ seen then ["targets[" ++ toString i ++ "]: duplicate target " ++ t.reference] else [])

def targetProblems (allowed : PathAllowList) : Nat → List String → List TargetSpec → List String
  | _,_,[] => []
  | i,seen,target :: rest =>
    match target.openbao with
    | none => ("targets[" ++ toString i ++ "]: no target type set (expected openbao)") ::
        targetProblems allowed (i + 1) seen rest
    | some t => openBaoProblems allowed i seen t ++ targetProblems allowed (i + 1) (t.reference :: seen) rest

def validate [UrlCrate] (spec : ApiKeySpec) (allowed : PathAllowList) : List String :=
  durationProblem "rotation.maxAge" spec.rotation.maxAge ++
  durationProblem "rotation.warnBefore" spec.rotation.warnBefore ++
  durationProblem "rotation.criticalBefore" spec.rotation.criticalBefore ++
  orderProblem spec.rotation ++ renewUrlProblem spec.renewUrl ++ targetProblems allowed 0 [] spec.targets

-- What passing the checks of one OpenBao target means.
structure Accepted (allowed : PathAllowList) (t : OpenBaoTarget) : Prop where
  mount : trim t.mount ≠ ""
  path : trim t.path ≠ ""
  key : trim t.key ≠ ""
  dotless : ".." ∉ split '/' t.path
  slashless : '/' ∉ t.mount.toList
  allowed : allowed.allows t.policyPath = true

theorem blankProblem_nil : blankProblem i field value = [] ↔ trim value ≠ "" := by
  unfold blankProblem; split <;> simp_all

theorem openBaoProblems_nil :
    openBaoProblems allowed i seen t = [] ↔ Accepted allowed t ∧ t.reference ∉ seen := by
  unfold openBaoProblems
  simp only [List.append_eq_nil_iff,blankProblem_nil,ite_eq_right_iff,ite_eq_left_iff,List.cons_ne_nil,
    imp_false,not_or,Bool.not_eq_true,Bool.not_eq_false]
  refine ⟨?_,?_⟩
  · intro passed
    obtain ⟨⟨⟨⟨⟨mount,path⟩,key⟩,dotless,slashless⟩,allows⟩,fresh⟩ := passed
    exact ⟨⟨mount,path,key,dotless,slashless,allows⟩,fresh⟩
  · intro passed
    obtain ⟨accepted,fresh⟩ := passed
    exact ⟨⟨⟨⟨⟨accepted.mount,accepted.path⟩,accepted.key⟩,accepted.dotless,accepted.slashless⟩,
      accepted.allowed⟩,fresh⟩

theorem targetProblems_nil :
    targetProblems allowed i seen targets = [] ↔
      (∀ target ∈ targets, ∃ t, target.openbao = some t ∧ Accepted allowed t) ∧
      (targets.map TargetSpec.reference).Nodup ∧ ∀ target ∈ targets, target.reference ∉ seen := by
  induction targets generalizing i seen with
  | nil => simp [targetProblems]
  | cons target rest ih =>
    unfold targetProblems
    cases store : target.openbao with
    | none => simp [store]
    | some t =>
      have named : target.reference = t.reference := by simp [TargetSpec.reference,store]
      simp only [List.append_eq_nil_iff,openBaoProblems_nil,ih,List.mem_cons,List.map_cons,List.nodup_cons,
        List.mem_map,forall_eq_or_imp,store,Option.some.injEq,exists_eq_left',named,not_or,not_exists,not_and]
      grind

theorem validate_targets [UrlCrate] (valid : validate spec allowed = []) (member : target ∈ spec.targets) :
    ∃ t, target.openbao = some t ∧ Accepted allowed t := by
  simp only [validate,List.append_eq_nil_iff] at valid
  exact (targetProblems_nil.mp valid.2).1 target member

theorem validate_distinct [UrlCrate] (valid : validate spec allowed = []) :
    (spec.targets.map TargetSpec.reference).Nodup := by
  simp only [validate,List.append_eq_nil_iff] at valid
  exact (targetProblems_nil.mp valid.2).2.1

-- A spec that sets nothing but its targets is judged by its targets alone.
theorem validate_plain [UrlCrate] (targets : List TargetSpec) (allowed : PathAllowList) :
    validate {targets := targets} allowed = targetProblems allowed 0 [] targets := by
  simp [validate,durationProblem,orderProblem,parsed,renewUrlProblem]

example : globMatch "secret/data/+/api-keys/*" "secret/data/home/api-keys/openai" = true := by decide
example : globMatch "secret/data/+" "secret/data/home/x" = false := by decide

end YouSpinMe.Validation
