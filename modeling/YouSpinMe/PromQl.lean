import Mathlib.Data.List.Nodup
import Mathlib.Algebra.Order.Field.Rat

namespace YouSpinMe.PromQl

-- One scraped value: the metric it belongs to and its other labels.
structure Series (L : Type u) where
  metric : String
  labels : L
  value : ℚ
  deriving DecidableEq

inductive Comparison where
  | lt
  | le
  | gt
  | ge
  | eq
  deriving DecidableEq

def Comparison.holds : Comparison → ℚ → ℚ → Bool
  | .lt,x,y => x < y
  | .le,x,y => x ≤ y
  | .gt,x,y => y < x
  | .ge,x,y => y ≤ x
  | .eq,x,y => x = y

inductive Scalar where
  | time
  | literal (value : ℚ)

def Scalar.value (time : ℚ) : Scalar → ℚ
  | .time => time
  | .literal value => value

inductive Expr where
  | metric (name : String)
  | sub (v : Expr) (s : Scalar)
  | compareScalar (c : Comparison) (v : Expr) (s : Scalar)
  | compare (c : Comparison) (v w : Expr)
  | and (v w : Expr)

-- The metric's name takes no part in matching, so that a vector does without it.
abbrev Samples (L : Type u) := List (L × ℚ)

variable {L : Type u} [DecidableEq L]

def select (series : List (Series L)) (name : String) : Samples L :=
  (series.filter fun s => s.metric = name).map fun s => (s.labels,s.value)

def Samples.read (v : Samples L) (labels : L) : Option ℚ := v.lookup labels

def Samples.has (v : Samples L) (labels : L) : Bool := v.any fun s => s.1 = labels

-- A comparison of two vectors is one to one: label sets that come twice on
-- either side are an error.
def Expr.eval (series : List (Series L)) (time : ℚ) : Expr → Option (Samples L)
  | .metric name => some (select series name)
  | .sub v s => (v.eval series time).map fun samples => samples.map fun x => (x.1,x.2 - s.value time)
  | .compareScalar c v s => (v.eval series time).map fun samples => samples.filter fun x => c.holds x.2 (s.value time)
  | .compare c v w => do
    let left ← v.eval series time
    let right ← w.eval series time
    if (left.map Prod.fst).Nodup ∧ (right.map Prod.fst).Nodup then
      some (left.filter fun x => right.any fun y => y.1 = x.1 && c.holds x.2 y.2)
    else none
  | .and v w => do
    let left ← v.eval series time
    let right ← w.eval series time
    some (left.filter fun x => Samples.has right x.1)

-- What an expression means at one label set, when a metric reads at most one
-- value there.
def Expr.at (reading : String → Option ℚ) (time : ℚ) : Expr → Option ℚ
  | .metric name => reading name
  | .sub v s => (v.at reading time).map fun x => x - s.value time
  | .compareScalar c v s => (v.at reading time).filter fun x => c.holds x (s.value time)
  | .compare c v w => (v.at reading time).filter fun x => (w.at reading time).any fun y => c.holds x y
  | .and v w => (v.at reading time).filter fun _ => (w.at reading time).isSome

section Presence
variable {readings : String → Option ℚ} {time : ℚ}

@[simp] theorem at_compareScalar : ((Expr.compareScalar c v s).at readings time).isSome =
    (v.at readings time).any fun x => c.holds x (s.value time) := Option.isSome_filter ..

@[simp] theorem at_compare : ((Expr.compare c v w).at readings time).isSome =
    (v.at readings time).any fun x => (w.at readings time).any fun y => c.holds x y := Option.isSome_filter ..

@[simp] theorem at_and : ((Expr.and v w).at readings time).isSome =
    ((v.at readings time).isSome && (w.at readings time).isSome) := by
  rw [Expr.at,Option.isSome_filter]
  cases v.at readings time with
  | none => rfl
  | some x => simp

end Presence

def Expr.metrics : Expr → List String
  | .metric name => [name]
  | .sub v _ | .compareScalar _ v _ => v.metrics
  | .compare _ v w | .and v w => v.metrics ++ w.metrics

def Distinct (series : List (Series L)) (names : List String) : Prop :=
  ∀ name ∈ names, ((select series name).map Prod.fst).Nodup

omit [DecidableEq L] in
theorem distinct_append {series : List (Series L)} :
    Distinct series (names ++ others) ↔ Distinct series names ∧ Distinct series others :=
  List.forall_mem_append

def reading (series : List (Series L)) (labels : L) (name : String) : Option ℚ :=
  Samples.read (select series name) labels

theorem mem_read {v : Samples L} (distinct : (v.map Prod.fst).Nodup) {labels : L} {x : ℚ} :
    (labels,x) ∈ v ↔ Samples.read v labels = some x := by
  unfold Samples.read
  induction v with
  | nil => simp
  | cons sample v ih =>
    obtain ⟨other,y⟩ := sample
    rw [List.map_cons,List.nodup_cons] at distinct
    rw [List.mem_cons,List.lookup_cons]
    by_cases same : labels = other
    · subst same
      have fresh : (labels,x) ∉ v := fun member => distinct.1 (List.mem_map.mpr ⟨_,member,rfl⟩)
      simp [fresh,eq_comm]
    · have different : (labels == other) = false := beq_eq_false_iff_ne.mpr same
      simp [same,different,ih distinct.2]

-- The meaning of a vector at each label set it may have a sample at.
structure Means (v : Samples L) (values : L → Option ℚ) : Prop where
  distinct : (v.map Prod.fst).Nodup
  exact : ∀ labels x, (labels,x) ∈ v ↔ values labels = some x

theorem Means.has {v : Samples L} {values : L → Option ℚ} (means : Means v values) (labels : L) :
    Samples.has v labels = (values labels).isSome := by
  rw [Bool.eq_iff_iff,Option.isSome_iff_exists]
  simp only [Samples.has,List.any_eq_true,decide_eq_true_eq,← means.exact]
  constructor
  · intro given
    obtain ⟨sample,member,rfl⟩ := given
    exact ⟨sample.2,member⟩
  · intro given
    obtain ⟨x,member⟩ := given
    exact ⟨_,member,rfl⟩

omit [DecidableEq L] in
theorem Means.filter {v : Samples L} {values : L → Option ℚ} (means : Means v values) (keep : L → ℚ → Bool) :
    Means (v.filter fun x => keep x.1 x.2) fun labels => (values labels).filter (keep labels) := by
  refine ⟨means.distinct.sublist (List.filter_sublist.map _),?_⟩
  intro labels x
  rw [List.mem_filter,means.exact,Option.filter_eq_some_iff]

omit [DecidableEq L] in
theorem Means.map {v : Samples L} {values : L → Option ℚ} (means : Means v values) (f : ℚ → ℚ) :
    Means (v.map fun x => (x.1,f x.2)) fun labels => (values labels).map f := by
  refine ⟨by rw [List.map_map]; exact means.distinct,?_⟩
  intro labels x
  simp only [List.mem_map,Prod.mk.injEq,Option.map_eq_some_iff,← means.exact]
  constructor
  · intro given
    obtain ⟨sample,member,rfl,rfl⟩ := given
    exact ⟨sample.2,member,rfl⟩
  · intro given
    obtain ⟨y,member,rfl⟩ := given
    exact ⟨_,member,rfl,rfl⟩

-- Over metrics that name no label set twice every expression has a value, and
-- that value is what the expression means label set by label set.
theorem eval_means {series : List (Series L)} (time : ℚ) (e : Expr) (distinct : Distinct series e.metrics) :
    ∃ v, e.eval series time = some v ∧ Means v fun labels => e.at (reading series labels) time := by
  induction e with
  | metric name =>
    have once := distinct name (List.mem_singleton.mpr rfl)
    exact ⟨_,rfl,once,fun labels x => mem_read once⟩
  | sub v s ih =>
    obtain ⟨samples,value,means⟩ := ih distinct
    exact ⟨_,by rw [Expr.eval,value]; rfl,means.map _⟩
  | compareScalar c v s ih =>
    obtain ⟨samples,value,means⟩ := ih distinct
    exact ⟨_,by rw [Expr.eval,value]; rfl,means.filter fun _ x => c.holds x (s.value time)⟩
  | compare c v w ihv ihw =>
    obtain ⟨left,leftValue,leftMeans⟩ := ihv (distinct_append.mp distinct).1
    obtain ⟨right,rightValue,rightMeans⟩ := ihw (distinct_append.mp distinct).2
    have kept := leftMeans.filter fun labels x => (w.at (reading series labels) time).any fun y => c.holds x y
    have same : (fun x : L × ℚ => right.any fun y => y.1 = x.1 && c.holds x.2 y.2) =
        fun x => (w.at (reading series x.1) time).any fun y => c.holds x.2 y := by
      funext x
      rw [Bool.eq_iff_iff,Option.any_eq_true]
      simp only [List.any_eq_true,Bool.and_eq_true,decide_eq_true_eq,← rightMeans.exact]
      constructor
      · intro given
        obtain ⟨sample,member,same,holds⟩ := given
        exact ⟨sample.2,same ▸ member,holds⟩
      · intro given
        obtain ⟨y,member,holds⟩ := given
        exact ⟨_,member,rfl,holds⟩
    refine ⟨_,?_,kept⟩
    simp only [Expr.eval,leftValue,rightValue,Option.bind_eq_bind,Option.bind_some,leftMeans.distinct,
      rightMeans.distinct,and_self,if_true,same]
  | and v w ihv ihw =>
    obtain ⟨left,leftValue,leftMeans⟩ := ihv (distinct_append.mp distinct).1
    obtain ⟨right,rightValue,rightMeans⟩ := ihw (distinct_append.mp distinct).2
    have kept := leftMeans.filter fun labels _ => (w.at (reading series labels) time).isSome
    refine ⟨_,?_,kept⟩
    simp only [Expr.eval,leftValue,rightValue,Option.bind_eq_bind,Option.bind_some,rightMeans.has]

structure Rule where
  alert : String
  expr : Expr

-- A rule fires at a label set when its expression has a sample there.
def Rule.fires (rule : Rule) (series : List (Series L)) (time : ℚ) (labels : L) : Bool :=
  (rule.expr.eval series time).any fun v => Samples.has v labels

theorem fires_exact {series : List (Series L)} (rule : Rule) (distinct : Distinct series rule.expr.metrics) (time : ℚ)
    (labels : L) : rule.fires series time labels = (rule.expr.at (reading series labels) time).isSome := by
  obtain ⟨v,value,means⟩ := eval_means time rule.expr distinct
  rw [Rule.fires,value,← means.has labels]
  rfl

end YouSpinMe.PromQl
