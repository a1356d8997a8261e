import YouSpinMe.Scheduling
import YouSpinMe.PromQl

namespace YouSpinMe.Metrics
open Scheduling PromQl Jiff Crd

abbrev Labels := List (String × String)

-- What the repository lists: one namespace and name belong to one object.
structure Listing where
  keys : List ApiKey
  distinct : (keys.map fun key => (key.namespace_,key.name)).Nodup

def Listing.single (key : ApiKey) : Listing := ⟨[key],List.nodup_singleton _⟩

def keyLabels (key : ApiKey) : Labels :=
  [("namespace",key.namespace_),("name",key.name),("provider",key.spec.provider.asStr),("owner",key.spec.owner.getD "")]

-- Values are floats in the source; here they are exact.
def seconds (t : Timestamp) : ℚ := t.asMillisecond / 1000
def asSecsF64 (d : SignedDuration) : ℚ := d.nanos / 1000000000
def flag (b : Bool) : ℚ := if b then 1 else 0

structure Row where
  key : ApiKey
  labels : Labels
  schedule : Schedule

def rowOf (thresholds : Thresholds) (key : ApiKey) : Row := ⟨key,keyLabels key,Schedule.compute key thresholds⟩

structure Family where
  name : String
  help : String
  samples : Samples Labels

def gauge (rows : List Row) (name help : String) (value : Row → Option ℚ) : Family :=
  ⟨name,help,rows.filterMap fun row => (value row).map fun v => (row.labels,v)⟩

-- The encoder adds `_info` to the name of an info metric, whose value is 1.
def infoFamily (rows : List Row) : Family :=
  ⟨"youspinme_apikey_info","ApiKey metadata, for joins in alert annotations",rows.map fun row =>
    (row.labels ++ [("display_name",row.key.displayName),("renew_url",row.key.spec.renewUrl.getD "")],1)⟩

def targetSamples (row : Row) : Samples Labels :=
  ((row.key.status.map ApiKeyStatus.targets).getD []).map fun target =>
    (row.labels ++ [("target",target.reference)],flag (target.result = .ok))

def targetFamily (rows : List Row) : Family :=
  ⟨"youspinme_apikey_target_healthy","1 if the last write to the target succeeded",rows.flatMap targetSamples⟩

def deadlineGauge (rows : List Row) : Family :=
  gauge rows "youspinme_apikey_deadline_timestamp_seconds" "Earlier of expiry and rotate-by; the one to alert on"
    fun r => r.schedule.deadline.map fun d => seconds d.1

def warnGauge (rows : List Row) : Family :=
  gauge rows "youspinme_apikey_warn_before_seconds" "Warning threshold before the deadline"
    fun r => some (asSecsF64 r.schedule.thresholds.warnBefore)

def criticalGauge (rows : List Row) : Family :=
  gauge rows "youspinme_apikey_critical_before_seconds" "Critical threshold before the deadline"
    fun r => some (asSecsF64 r.schedule.thresholds.criticalBefore)

def knownGauge (rows : List Row) : Family :=
  gauge rows "youspinme_apikey_state_known" "1 if the key has a deadline, 0 if its state is unknown"
    fun r => some (flag r.schedule.deadline.isSome)

structure KeyCollector where
  repo : Listing
  thresholds : Thresholds

def KeyCollector.rows (collector : KeyCollector) : List Row := collector.repo.keys.map (rowOf collector.thresholds)

def KeyCollector.encode (collector : KeyCollector) : List Family :=
  let rows := collector.rows
  [infoFamily rows,
    gauge rows "youspinme_apikey_expiry_timestamp_seconds" "Effective expiry of the key (probed or entered by hand)"
      fun r => r.schedule.expiresAt.map seconds,
    gauge rows "youspinme_apikey_rotate_by_timestamp_seconds" "lastRotated + maxAge"
      fun r => r.schedule.rotateBy.map seconds,
    deadlineGauge rows,
    gauge rows "youspinme_apikey_last_rotated_timestamp_seconds" "When the key was last rotated or recorded"
      fun r => r.schedule.lastRotated.map seconds,
    warnGauge rows,criticalGauge rows,knownGauge rows,targetFamily rows]

def exported (families : List Family) : List (Series Labels) :=
  families.flatMap fun family => family.samples.map fun sample => ⟨family.name,sample.1,sample.2⟩

theorem select_exported (families : List Family) (name : String) :
    select (exported families) name =
      families.flatMap fun family => if family.name = name then family.samples else [] := by
  induction families with
  | nil => rfl
  | cons family families ih =>
    have whole : select (exported (family :: families)) name =
        select (family.samples.map fun sample => ⟨family.name,sample.1,sample.2⟩) name ++
          select (exported families) name := by
      simp [select,exported]
    rw [whole,ih,List.flatMap_cons]
    congr 1
    split
    · rename_i same
      simp [select,List.filter_map,Function.comp_def,same]
    · rename_i different
      simp [select,List.filter_map,Function.comp_def,different]

theorem select_family {families : List Family} (distinct : (families.map Family.name).Nodup)
    (member : family ∈ families) : select (exported families) family.name = family.samples := by
  rw [select_exported]
  obtain ⟨earlier,later,rfl⟩ := List.append_of_mem member
  have different : ∀ other ∈ earlier ++ later, other.name ≠ family.name := by
    intro other listed same
    rw [List.map_append,List.map_cons,List.nodup_middle,List.nodup_cons,← List.map_append] at distinct
    exact distinct.1 (same ▸ List.mem_map_of_mem listed)
  have none : ∀ families : List Family, (∀ other ∈ families, other.name ≠ family.name) →
      (families.flatMap fun other => if other.name = family.name then other.samples else []) = [] := by
    intro families apart
    rw [List.flatMap_eq_nil_iff]
    intro other listed
    rw [if_neg (apart other listed)]
  rw [List.flatMap_append,List.flatMap_cons,if_pos rfl,
    none earlier fun other listed => different other (List.mem_append_left _ listed),
    none later fun other listed => different other (List.mem_append_right _ listed)]
  simp

theorem encode_names (collector : KeyCollector) : (collector.encode.map Family.name).Nodup := by
  have names : collector.encode.map Family.name =
      ["youspinme_apikey_info","youspinme_apikey_expiry_timestamp_seconds",
        "youspinme_apikey_rotate_by_timestamp_seconds","youspinme_apikey_deadline_timestamp_seconds",
        "youspinme_apikey_last_rotated_timestamp_seconds","youspinme_apikey_warn_before_seconds",
        "youspinme_apikey_critical_before_seconds","youspinme_apikey_state_known",
        "youspinme_apikey_target_healthy"] := rfl
  rw [names]
  decide

theorem keyLabels_inj {key other : ApiKey} (same : keyLabels key = keyLabels other) :
    (key.namespace_,key.name) = (other.namespace_,other.name) := by
  simp only [keyLabels,List.cons.injEq,Prod.mk.injEq,true_and] at same
  rw [same.1,same.2.1]

theorem listed_once (repo : Listing) : (repo.keys.map keyLabels).Nodup := by
  rw [List.nodup_map_iff_inj_on (.of_map _ repo.distinct)]
  intro key member other listed same
  exact List.inj_on_of_nodup_map repo.distinct member listed (keyLabels_inj same)

theorem Listing.same {repo : Listing} {key other : ApiKey} (member : key ∈ repo.keys) (listed : other ∈ repo.keys)
    (same : keyLabels key = keyLabels other) : key = other :=
  List.inj_on_of_nodup_map (listed_once repo) member listed same

theorem gauge_labels (rows : List Row) (name help : String) (value : Row → Option ℚ) :
    ((gauge rows name help value).samples.map Prod.fst).Sublist (rows.map Row.labels) := by
  induction rows with
  | nil => exact .slnil
  | cons row rows ih =>
    cases found : value row with
    | none =>
      rw [gauge,List.filterMap_cons_none (by rw [found]; rfl),List.map_cons]
      exact ih.cons _
    | some v =>
      rw [gauge,List.filterMap_cons_some (by rw [found]; rfl),List.map_cons,List.map_cons]
      exact ih.cons_cons _

section Gauges
variable {collector : KeyCollector} {value : Row → Option ℚ}

theorem gauge_distinct : ((gauge collector.rows name help value).samples.map Prod.fst).Nodup := by
  apply List.Nodup.sublist (gauge_labels ..)
  rw [KeyCollector.rows,List.map_map]
  exact listed_once collector.repo

-- A gauge reads for each listed key what it computes for that key's row.
theorem gauge_reading (listed : gauge collector.rows name help value ∈ collector.encode)
    (member : key ∈ collector.repo.keys) :
    reading (exported collector.encode) (keyLabels key) name = value (rowOf collector.thresholds key) := by
  have family : select (exported collector.encode) name = (gauge collector.rows name help value).samples :=
    select_family (encode_names collector) listed
  rw [reading,family]
  ext x
  rw [← mem_read gauge_distinct]
  simp only [gauge,KeyCollector.rows,List.filterMap_map,List.mem_filterMap,Function.comp_apply,
    Option.map_eq_some_iff,Prod.mk.injEq]
  constructor
  · rintro ⟨other,listed,y,found,same,rfl⟩
    rwa [Listing.same member listed same.symm]
  · intro found
    exact ⟨key,member,x,found,rfl,rfl⟩

theorem gauge_once (listed : gauge collector.rows name help value ∈ collector.encode) :
    ((select (exported collector.encode) name).map Prod.fst).Nodup := by
  have family : select (exported collector.encode) name = (gauge collector.rows name help value).samples :=
    select_family (encode_names collector) listed
  rw [family]
  exact gauge_distinct

-- The four gauges that the alerts on a deadline read.
def Judged (name : String) : Prop :=
  name ∈ ["youspinme_apikey_deadline_timestamp_seconds","youspinme_apikey_warn_before_seconds",
    "youspinme_apikey_critical_before_seconds","youspinme_apikey_state_known"]

theorem deadlineGauge_listed : deadlineGauge collector.rows ∈ collector.encode :=
  .tail _ (.tail _ (.tail _ (.head _)))
theorem warnGauge_listed : warnGauge collector.rows ∈ collector.encode :=
  .tail _ (.tail _ (.tail _ (.tail _ (.tail _ (.head _)))))
theorem criticalGauge_listed : criticalGauge collector.rows ∈ collector.encode :=
  .tail _ (.tail _ (.tail _ (.tail _ (.tail _ (.tail _ (.head _))))))
theorem knownGauge_listed : knownGauge collector.rows ∈ collector.encode :=
  .tail _ (.tail _ (.tail _ (.tail _ (.tail _ (.tail _ (.tail _ (.head _)))))))

theorem judged_once (judged : Judged name) : ((select (exported collector.encode) name).map Prod.fst).Nodup := by
  simp only [Judged,List.mem_cons,List.not_mem_nil,or_false] at judged
  rcases judged with rfl | rfl | rfl | rfl
  · exact gauge_once deadlineGauge_listed
  · exact gauge_once warnGauge_listed
  · exact gauge_once criticalGauge_listed
  · exact gauge_once knownGauge_listed

end Gauges

end YouSpinMe.Metrics
