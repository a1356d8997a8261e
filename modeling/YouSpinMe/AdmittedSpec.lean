import YouSpinMe.CrdSchema
import YouSpinMe.DurationGrammar
import YouSpinMe.Scheduling

namespace YouSpinMe.AdmittedSpec
open FieldCodec ResourceJson StructuralSchema CrdSchema Identity Text Jiff Crd Duration DurationGrammar Validation Scheduling

-- The seconds that a text of the pattern stands for.
def seconds (s : String) : Nat := number s.toList.dropLast * ((s.toList.getLast?.bind secondsPerUnit).getD 0)

theorem unit_listed (unit : Char) : unit ∈ ['s','m','h','d','w'] ↔ ∃ perUnit, secondsPerUnit unit = some perUnit := by
  unfold secondsPerUnit
  split_ifs with second minute hour day week
  · simp [second]
  · simp [minute]
  · simp [hour]
  · simp [day]
  · simp [week]
  · simp [second,minute,hour,day,week]

theorem pattern_shape (s : String) : durationPattern s = true ↔
    ∃ digits unit perUnit, s.toList = digits ++ [unit] ∧ digits ≠ [] ∧ (∀ c ∈ digits, '0' ≤ c ∧ c ≤ '9') ∧
      secondsPerUnit unit = some perUnit := by
  unfold durationPattern
  constructor
  · intro matched
    cases shape : s.toList.reverse with
    | nil =>
      rw [shape] at matched
      cases matched
    | cons unit digits =>
      rw [shape] at matched
      simp only [Bool.and_eq_true,Bool.not_eq_true',decide_eq_true_eq,List.all_eq_true,List.isEmpty_eq_false_iff] at matched
      obtain ⟨⟨listed,filled⟩,ascii⟩ := matched
      obtain ⟨perUnit,known⟩ := (unit_listed unit).mp listed
      refine ⟨digits.reverse,unit,perUnit,?_,?_,?_,known⟩
      · rw [← List.reverse_cons,← shape,List.reverse_reverse]
      · rwa [Ne,List.reverse_eq_nil_iff]
      · exact fun c member => ascii c (List.mem_reverse.mp member)
  · intro given
    obtain ⟨digits,unit,perUnit,shape,filled,ascii,known⟩ := given
    rw [shape,List.reverse_append,List.reverse_singleton,List.singleton_append]
    simp only [Bool.and_eq_true,Bool.not_eq_true',decide_eq_true_eq,List.all_eq_true,List.isEmpty_eq_false_iff]
    refine ⟨⟨(unit_listed unit).mpr ⟨perUnit,known⟩,?_⟩,?_⟩
    · rwa [Ne,List.reverse_eq_nil_iff]
    · exact fun c member => ascii c (List.mem_reverse.mp member)

theorem digit_kept (range : '0' ≤ c ∧ c ≤ '9') : isWhitespace c = false := by
  have lower : 48 ≤ c.toNat := range.1
  have upper : c.toNat ≤ 57 := range.2
  simp only [isWhitespace,Bool.or_eq_false_iff,Bool.and_eq_false_iff,decide_eq_false_iff_not,beq_eq_false_iff_ne]
  omega

theorem unit_kept (known : secondsPerUnit unit = some perUnit) : isWhitespace unit = false := by
  have listed := (unit_listed unit).mpr ⟨perUnit,known⟩
  simp only [List.mem_cons,List.not_mem_nil,or_false] at listed
  rcases listed with rfl | rfl | rfl | rfl | rfl <;> decide

theorem pattern_trim (matched : durationPattern s = true) : trim s = s := by
  obtain ⟨digits,unit,perUnit,shape,filled,ascii,known⟩ := (pattern_shape s).mp matched
  have kept : trimChars isWhitespace s.toList = s.toList := by
    apply trimChars_fixed
    · intro nonempty
      obtain ⟨c,rest,rfl⟩ := List.exists_cons_of_ne_nil filled
      have first := digit_kept (ascii c List.mem_cons_self)
      simpa [shape] using first
    · intro nonempty
      have last := unit_kept known
      simpa [shape] using last
  rw [trim,trimMatches,kept,String.ofList_toList]

-- What is read as a duration is a text of the pattern, spaces around it aside, that is not
-- out of range.
theorem parse_pattern (input : String) : parse input = .ok d ↔ durationPattern (trim input) = true ∧
    seconds (trim input) ≤ 9223372036854775807 ∧ d.nanos = (seconds (trim input) : Nat) * 1000000000 := by
  have amount : ∀ {digits unit perUnit}, (trim input).toList = digits ++ [unit] → secondsPerUnit unit = some perUnit →
      seconds (trim input) = number digits * perUnit := by
    intro digits unit perUnit shape known
    simp [seconds,shape,known]
  rw [parse_ok,pattern_shape]
  constructor
  · intro given
    obtain ⟨digits,unit,perUnit,reads,value⟩ := given
    rw [amount reads.shape reads.known]
    exact ⟨⟨digits,unit,perUnit,reads.shape,reads.filled,reads.ascii,reads.known⟩,reads.fits,value⟩
  · intro given
    obtain ⟨⟨digits,unit,perUnit,shape,filled,ascii,known⟩,fits,value⟩ := given
    rw [amount shape known] at fits value
    exact ⟨digits,unit,perUnit,⟨shape,filled,ascii,known,fits⟩,value⟩

theorem parsed_exact (matched : durationPattern s = true) : parsed (some s) = some d ↔
    seconds s ≤ 9223372036854775807 ∧ d.nanos = (seconds s : Nat) * 1000000000 := by
  have same : parsed (some s) = some d ↔ parse s = .ok d := by
    change (parse s).toOption = some d ↔ _
    cases parse s with
    | error e => simp [Except.toOption]
    | ok value => simp [Except.toOption]
  rw [same,parse_pattern,pattern_trim matched]
  simp [matched]

theorem parsed_some (matched : durationPattern s = true) : (parsed (some s)).isSome = true ↔
    seconds s ≤ 9223372036854775807 := by
  rw [Option.isSome_iff_exists]
  constructor
  · intro found
    obtain ⟨d,read⟩ := found
    exact ((parsed_exact matched).mp read).1
  · intro fits
    have lower : i64Min ≤ ((seconds s : Nat) : Int) := nat_low _
    have upper : ((seconds s : Nat) : Int) ≤ i64Max := by
      simp only [i64Max]
      omega
    exact ⟨.fromSecs (seconds s) lower upper,(parsed_exact matched).mpr ⟨fits,rfl⟩⟩

theorem durationProblem_pattern [CharTables] (matched : ∀ d ∈ value, durationPattern d = true) :
    durationProblem field value = [] ↔ ∀ d ∈ value, seconds d ≤ 9223372036854775807 := by
  rw [durationProblem_nil]
  cases value with
  | none => simp
  | some d => simp [parsed_some (matched d rfl)]

-- A policy whose durations have the pattern's form.
structure Patterned (policy : RotationPolicy) : Prop where
  maxAge : ∀ d ∈ policy.maxAge, durationPattern d = true
  warnBefore : ∀ d ∈ policy.warnBefore, durationPattern d = true
  criticalBefore : ∀ d ∈ policy.criticalBefore, durationPattern d = true

theorem unset_patterned : Patterned {} := by
  refine ⟨?_,?_,?_⟩ <;> (intro d none; cases none)

section Admitted
variable [DateTimes]

theorem text_ensures (nullable : Bool) (rule : TextRule) : Ensures text (.text nullable rule) fun s => rule.allows s = true := by
  intro j s conform filled read
  obtain ⟨t,rfl,allowed⟩ := conforms_text conform filled
  cases Option.some.inj read
  exact allowed

theorem rotation_ensures : Ensures rotation rotationSchema Patterned := by
  have parts : Ensures rotation rotationSchema _ := FieldsEnsure.record (.as (.and (.optional (text_ensures true .duration) "maxAge") <|
    .and (.optional (text_ensures true .duration) "warnBefore") (.optional (text_ensures true .duration) "criticalBefore"))
    rotationParts) false []
  intro j policy conform filled read
  obtain ⟨maxAge,warnBefore,criticalBefore⟩ := parts j policy conform filled read
  exact ⟨maxAge,warnBefore,criticalBefore⟩

theorem spec_ensures : Ensures spec specSchema fun s => Patterned s.rotation := by
  have parts : Ensures spec specSchema _ := FieldsEnsure.record (.as (.and (.optional (.any text (.text true .any)) "displayName") <|
    .and (.default (fun _ => rfl) (.any provider _) rfl trivial) <|
    .and (.optional (.any text (.text true .any)) "owner") <| .and (.optional (.any text (.text true .any)) "renewUrl") <|
    .and (.default (fun _ => rfl) (.any setup setupSchema) rfl trivial) <|
    .and (.default (fun _ => rfl) rotation_ensures rfl unset_patterned) <|
    .and (.default (fun _ => rfl) (.any targetSpec.list (.array targetSchema)) rfl trivial)
    (.default (fun _ => rfl) (.any text.list (.array (.text false .any))) rfl trivial)) specParts) false []
  intro j s conform filled read
  obtain ⟨_,_,_,_,_,policy,_⟩ := parts j s conform filled read
  exact policy

end Admitted

-- What is left to check of an admitted spec.
structure Sensible [UrlCrate] (allowed : PathAllowList) (s : ApiKeySpec) : Prop where
  maxAge : ∀ d ∈ s.rotation.maxAge, seconds d ≤ 9223372036854775807
  warnBefore : ∀ d ∈ s.rotation.warnBefore, seconds d ≤ 9223372036854775807
  criticalBefore : ∀ d ∈ s.rotation.criticalBefore, seconds d ≤ 9223372036854775807
  ordered : ∀ w ∈ s.rotation.warnBefore, ∀ c ∈ s.rotation.criticalBefore, seconds c ≤ seconds w
  renewUrl : ∀ url ∈ s.renewUrl, ∃ u, UrlCrate.parse url = some u ∧ (u.scheme = "https" ∨ u.scheme = "http")
  targets : ∀ target ∈ s.targets, ∃ t, target.openbao = some t ∧ Accepted allowed t
  distinct : (s.targets.map TargetSpec.reference).Nodup

theorem renewUrlProblem_nil [UrlCrate] : renewUrlProblem renewUrl = [] ↔
    ∀ url ∈ renewUrl, ∃ u, UrlCrate.parse url = some u ∧ (u.scheme = "https" ∨ u.scheme = "http") := by
  unfold renewUrlProblem
  cases renewUrl with
  | none => simp
  | some url =>
    cases found : UrlCrate.parse url with
    | none => simp [found]
    | some u => simp [found,or_iff_not_imp_left]

-- The order of the durations is that of their amounts, as long as both are in range.
theorem orderProblem_pattern (policy : RotationPolicy) (patterned : Patterned policy)
    (warnBefore : ∀ d ∈ policy.warnBefore, seconds d ≤ 9223372036854775807)
    (criticalBefore : ∀ d ∈ policy.criticalBefore, seconds d ≤ 9223372036854775807) :
    orderProblem policy = [] ↔ ∀ w ∈ policy.warnBefore, ∀ c ∈ policy.criticalBefore, seconds c ≤ seconds w := by
  rw [orderProblem_nil]
  constructor
  · intro ordered w given c set
    have warnForm := patterned.warnBefore w given
    have criticalForm := patterned.criticalBefore c set
    obtain ⟨warn,warnRead⟩ := Option.isSome_iff_exists.mp ((parsed_some warnForm).mpr (warnBefore w given))
    obtain ⟨critical,criticalRead⟩ := Option.isSome_iff_exists.mp ((parsed_some criticalForm).mpr (criticalBefore c set))
    have below := ordered warn critical (given ▸ warnRead) (set ▸ criticalRead)
    rw [SignedDuration.le_def,((parsed_exact warnForm).mp warnRead).2,((parsed_exact criticalForm).mp criticalRead).2] at below
    omega
  · intro ordered warn critical warnRead criticalRead
    obtain ⟨w,given,_⟩ := Option.bind_eq_some_iff.mp warnRead
    obtain ⟨c,set,_⟩ := Option.bind_eq_some_iff.mp criticalRead
    have below := ordered w given c set
    rw [given] at warnRead
    rw [set] at criticalRead
    rw [SignedDuration.le_def,((parsed_exact (patterned.warnBefore w given)).mp warnRead).2,
      ((parsed_exact (patterned.criticalBefore c set)).mp criticalRead).2]
    omega

theorem validate_patterned [UrlCrate] (allowed : PathAllowList) (s : ApiKeySpec) (patterned : Patterned s.rotation) :
    validate s allowed = [] ↔ Sensible allowed s := by
  simp only [validate,List.append_eq_nil_iff,durationProblem_pattern patterned.maxAge,
    durationProblem_pattern patterned.warnBefore,durationProblem_pattern patterned.criticalBefore,renewUrlProblem_nil,
    targetProblems_nil]
  constructor
  · intro passed
    obtain ⟨⟨⟨⟨⟨maxAge,warnBefore⟩,criticalBefore⟩,ordered⟩,renewUrl⟩,targets,distinct,_⟩ := passed
    exact ⟨maxAge,warnBefore,criticalBefore,(orderProblem_pattern s.rotation patterned warnBefore criticalBefore).mp ordered,
      renewUrl,targets,distinct⟩
  · intro sensible
    have ordered := (orderProblem_pattern s.rotation patterned sensible.warnBefore sensible.criticalBefore).mpr sensible.ordered
    exact ⟨⟨⟨⟨⟨sensible.maxAge,sensible.warnBefore⟩,sensible.criticalBefore⟩,ordered⟩,sensible.renewUrl⟩,
      sensible.targets,sensible.distinct,fun _ _ => List.not_mem_nil⟩

-- The amount that a setting stands for: an amount out of range counts as unset.
def amount (fallback : Int) (value : Option String) : Int :=
  ((value.filter fun d => seconds d ≤ 9223372036854775807).map fun d => ((seconds d : Nat) : Int) * 1000000000).getD fallback

theorem parsed_amount (matched : ∀ d ∈ value, durationPattern d = true) :
    (parsed value).map SignedDuration.nanos =
      (value.filter fun d => seconds d ≤ 9223372036854775807).map fun d => ((seconds d : Nat) : Int) * 1000000000 := by
  cases value with
  | none => rfl
  | some s =>
    have form := matched s rfl
    by_cases fits : seconds s ≤ 9223372036854775807
    · obtain ⟨d,read⟩ := Option.isSome_iff_exists.mp ((parsed_some form).mpr fits)
      have value := ((parsed_exact form).mp read).2
      simp [read,Option.filter_some,fits,value]
    · have unread : parsed (some s) = none := by
        rw [← Option.not_isSome_iff_eq_none,parsed_some form]
        exact fits
      simp [unread,Option.filter_some,fits]

theorem parseOr_amount (matched : ∀ d ∈ value, durationPattern d = true) (fallback : SignedDuration) :
    (parseOr value fallback).nanos = amount fallback.nanos value := by
  rw [amount,← parsed_amount matched,parseOr]
  cases parsed value with
  | none => rfl
  | some d => rfl

-- What the schedule makes of the policy.
structure Followed (key : ApiKey) (defaults : Thresholds) (schedule : Schedule) : Prop where
  warnBefore : schedule.thresholds.warnBefore.nanos = amount defaults.warnBefore.nanos key.spec.rotation.warnBefore
  criticalBefore : schedule.thresholds.criticalBefore.nanos = amount defaults.criticalBefore.nanos key.spec.rotation.criticalBefore
  rotateBy : ∀ r, schedule.rotateBy = some r ↔ ∃ t d, key.status.bind ApiKeyStatus.lastRotated = some t ∧
    key.spec.rotation.maxAge = some d ∧ seconds d ≤ 9223372036854775807 ∧ r.nanos = t.nanos + (seconds d : Nat) * 1000000000

theorem schedule_followed (key : ApiKey) (defaults : Thresholds) (patterned : Patterned key.spec.rotation) :
    Followed key defaults (Schedule.compute key defaults) := by
  refine ⟨parseOr_amount patterned.warnBefore _,parseOr_amount patterned.criticalBefore _,?_⟩
  intro r
  change rotateByOf (key.status.bind ApiKeyStatus.lastRotated) (parsed key.spec.rotation.maxAge) = some r ↔ _
  rw [rotateByOf_exact]
  constructor
  · intro given
    obtain ⟨t,age,rotated,read,sum⟩ := given
    obtain ⟨d,set,_⟩ := Option.bind_eq_some_iff.mp read
    rw [set] at read
    obtain ⟨fits,value⟩ := (parsed_exact (patterned.maxAge d set)).mp read
    exact ⟨t,d,rotated,set,fits,value ▸ sum⟩
  · intro given
    obtain ⟨t,d,rotated,set,fits,sum⟩ := given
    have form := patterned.maxAge d set
    obtain ⟨age,read⟩ := Option.isSome_iff_exists.mp ((parsed_some form).mpr fits)
    exact ⟨t,age,rotated,set ▸ read,by rw [sum,((parsed_exact form).mp read).2]⟩

-- A resource that the schema of the definition lets through is read, its durations stand for
-- the amounts that are written there, and all that can still be wrong with it is what the
-- schema cannot say.
theorem specs_admitted [DateTimes] [UrlCrate] (allowed : PathAllowList) (defaults : Thresholds) (j : Json)
    (conform : conforms specSchema j = true) : ∃ s, spec.read j = some s ∧ (validate s allowed = [] ↔ Sensible allowed s) ∧
      ∀ key : ApiKey, key.spec = s → Followed key defaults (Schedule.compute key defaults) := by
  have filled := conforms_filled rfl conform
  obtain ⟨s,read⟩ := spec_meets.admits conform filled
  have patterned := spec_ensures j s conform filled read
  refine ⟨s,read,validate_patterned allowed s patterned,?_⟩
  intro key same
  exact schedule_followed key defaults (same ▸ patterned)

@[reducible] def settingsUrl : UrlCrate where
  escaped _ := false
  parse url := if url = "https://github.com/settings/personal-access-tokens" then
    some ⟨"https","/settings/personal-access-tokens",url⟩ else none

theorem example_sensible : ∃ s : ApiKeySpec, spec.read exampleSpec = some s ∧
    @Sensible settingsUrl .allowAll s ∧ s.rotation.maxAge = some "90d" ∧ seconds "90d" = 7776000 := by
  let _ := secondDates
  let _ := settingsUrl
  obtain ⟨s,read,sensible,_⟩ := specs_admitted .allowAll .default exampleSpec (by decide +kernel)
  have checked : (spec.read exampleSpec).map (fun s => (validate s .allowAll,s.rotation.maxAge)) = some ([],some "90d") := by
    decide +kernel
  rw [read] at checked
  obtain ⟨passed,maxAge⟩ := Prod.mk.inj (Option.some.inj checked)
  exact ⟨s,read,sensible.mp passed,maxAge,by decide⟩

end YouSpinMe.AdmittedSpec
