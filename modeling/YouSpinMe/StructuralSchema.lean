import YouSpinMe.ResourceJson

namespace YouSpinMe.StructuralSchema
open FieldCodec ResourceJson Identity

-- The `date-time` of the API server.
class DateTimes where
  isDateTime : String → Bool

-- `^[0-9]+(s|m|h|d|w)$`.
def durationPattern (s : String) : Bool :=
  match s.toList.reverse with
  | unit :: digits => unit ∈ ['s','m','h','d','w'] && !digits.isEmpty && digits.all fun c => '0' ≤ c && c ≤ '9'
  | [] => false

inductive TextRule where
  | any
  | minLength (n : Nat)
  | oneOf (values : List String)
  | duration
  | dateTime

def TextRule.allows [DateTimes] : TextRule → String → Bool
  | .any,_ => true
  | .minLength n,s => n ≤ s.length
  | .oneOf values,s => values.contains s
  | .duration,s => durationPattern s
  | .dateTime,s => DateTimes.isDateTime s

-- A structural schema, as far as the definition uses them. A property has a name and may
-- have a default.
inductive Schema where
  | text (nullable : Bool) (rule : TextRule)
  | integer (nullable : Bool)
  | array (items : Schema)
  | object (nullable : Bool) (required : List String) (properties : List (String × Option Json × Schema))

abbrev Properties := List (String × Option Json × Schema)

def Schema.nullable : Schema → Bool
  | .text nullable _ | .integer nullable | .object nullable _ _ => nullable
  | .array _ => false

section Validation
variable [DateTimes]

-- An object is what a decoder made of a text, where no name stands twice.
mutual
def conforms : Schema → Json → Bool
  | .text nullable rule,j => match j with
    | .null => nullable
    | .string s => rule.allows s
    | _ => false
  | .integer nullable,j => isNull j && nullable || (readInt64 j).isSome
  | .array items,j => match j with
    | .array js => js.all fun item => conforms items item
    | _ => false
  | .object nullable required properties,j => match j with
    | .null => nullable
    | .object entries => required.all (fun name => (entries.lookup name).isSome) && conformsAll properties entries
    | _ => false
def conformsAll : List (String × Option Json × Schema) → List (String × Json) → Bool
  | [],_ => true
  | (name,_,schema) :: rest,entries => (match entries.lookup name with
    | none => true
    | some j => conforms schema j) && conformsAll rest entries
end

end Validation

-- What is stored of an object: no unknown fields, no null where none may be, and every
-- default that was not given.
def given (default : Option Json) (schema : Schema) (found : Option Json) : Option Json :=
  (found.filter fun j => schema.nullable || !isNull j).or default

mutual
def store : Schema → Json → Json
  | .text _ _,j | .integer _,j => j
  | .array items,j => match j with
    | .array js => .array (js.map fun item => store items item)
    | j => j
  | .object _ _ properties,j => match j with
    | .object entries => .object (storeAll properties entries)
    | j => j
def storeAll : List (String × Option Json × Schema) → List (String × Json) → List (String × Json)
  | [],_ => []
  | (name,default,schema) :: rest,entries =>
    ((given default schema (entries.lookup name)).map fun j => (name,store schema j)).toList ++ storeAll rest entries
end

theorem store_isNull (schema : Schema) (j : Json) : isNull (store schema j) = isNull j := by
  cases schema with
  | text | integer => simp [store]
  | array | object =>
    cases j with
    | null | bool | number | string | array | object => simp [store,isNull]

theorem storeAll_absent {properties : Properties} (entries : List (String × Json)) (outside : name ∉ properties.map Prod.fst) :
    (storeAll properties entries).lookup name = none := by
  induction properties with
  | nil => rfl
  | cons head rest ih =>
    obtain ⟨other,default,schema⟩ := head
    rw [List.map_cons,List.mem_cons,not_or] at outside
    rw [storeAll]
    cases given default schema (entries.lookup other) with
    | none => exact ih outside.2
    | some j => exact (lookup_other outside.1).trans (ih outside.2)

theorem lookup_storeAll {properties : Properties} (distinct : (properties.map Prod.fst).Nodup) (entries : List (String × Json))
    (member : p ∈ properties) :
    (storeAll properties entries).lookup p.1 = (given p.2.1 p.2.2 (entries.lookup p.1)).map (store p.2.2) := by
  induction properties with
  | nil => cases member
  | cons head rest ih =>
    obtain ⟨name,default,schema⟩ := head
    obtain ⟨fresh,others⟩ := List.nodup_cons.mp distinct
    rw [storeAll]
    rcases List.mem_cons.mp member with rfl | later
    · cases given default schema (entries.lookup name) with
      | none => exact storeAll_absent entries fresh
      | some j => exact List.lookup_cons_self
    · have different : p.1 ≠ name := by
        intro same
        have there := List.mem_map_of_mem (f := Prod.fst) later
        exact fresh (same ▸ there)
      rw [← ih others later]
      cases given default schema (entries.lookup name) with
      | none => rfl
      | some j => exact lookup_other different

section Agreement
variable [DateTimes] {names others : List String} {α β : Type}

def Conforming (properties : Properties) (entries : List (String × Json)) : Prop :=
  ∀ p ∈ properties, ∀ j, entries.lookup p.1 = some j → conforms p.2.2 j = true

theorem conformsAll_exact (properties : Properties) (entries : List (String × Json)) :
    conformsAll properties entries = true ↔ Conforming properties entries := by
  induction properties with
  | nil => simp [conformsAll,Conforming]
  | cons head rest ih =>
    obtain ⟨name,default,schema⟩ := head
    unfold Conforming at ih ⊢
    rw [conformsAll,Bool.and_eq_true,ih,List.forall_mem_cons]
    refine and_congr ?_ Iff.rfl
    cases entries.lookup name with
    | none => simp
    | some j => simp

theorem conforms_nullable {schema : Schema} {j : Json} (conform : conforms schema j = true) (null : isNull j = true) :
    schema.nullable = true := by
  cases j with
  | null =>
    cases schema with
    | text | object => simpa [conforms,Schema.nullable] using conform
    | integer nullable => simpa [conforms,isNull,readInt64,Schema.nullable] using conform
    | array => simp [conforms] at conform
  | bool | number | string | array | object => cases null

theorem conforms_filled {schema : Schema} {j : Json} (never : schema.nullable = false) (conform : conforms schema j = true) :
    isNull j = false := by
  rw [Bool.eq_false_iff]
  intro null
  rw [conforms_nullable conform null] at never
  cases never

theorem given_conforming {schema : Schema} {default : Option Json} {j : Json} (conform : conforms schema j = true) :
    given default schema (some j) = some j := by
  have kept : (schema.nullable || !isNull j) = true := by
    cases null : isNull j with
    | false => exact Bool.or_true _
    | true => rw [conforms_nullable conform null,Bool.true_or]
  rw [given,Option.filter_some,if_pos kept,Option.some_or]

-- What the schema lets through is read, and read the same from what is stored of it.
structure Meets (c : Codec Json α) (schema : Schema) : Prop where
  admits : ∀ {j}, conforms schema j = true → isNull j = false → ∃ x, c.read j = some x
  stores : ∀ {j}, conforms schema j = true → isNull j = false → c.read (store schema j) = c.read j

structure FieldsMeet (f : Fields Json names α) (properties : Properties) (required : List String) : Prop where
  admits : ∀ {entries : List (String × Json)}, Conforming properties entries →
    (∀ name ∈ required, (entries.lookup name).isSome = true) → ∃ x, f.read entries = some x
  stores : ∀ {entries after : List (String × Json)}, Conforming properties entries →
    (∀ p ∈ properties, after.lookup p.1 = (given p.2.1 p.2.2 (entries.lookup p.1)).map (store p.2.2)) → f.read after = f.read entries

theorem FieldsMeet.required {c : Codec Json α} {schema : Schema} (meets : Meets c schema) (never : schema.nullable = false)
    (name : String) : FieldsMeet (.required name c) [(name,none,schema)] [name] := by
  refine ⟨?_,?_⟩
  · intro entries conforming present
    obtain ⟨j,found⟩ := Option.isSome_iff_exists.mp (present name List.mem_cons_self)
    have conform := conforming _ List.mem_cons_self j found
    obtain ⟨x,read⟩ := meets.admits conform (conforms_filled never conform)
    exact ⟨x,by simp [Fields.required,Fields.single,found,read]⟩
  · intro entries after conforming stored
    have there := stored _ List.mem_cons_self
    change (after.lookup name).bind c.read = (entries.lookup name).bind c.read
    rw [there]
    cases found : entries.lookup name with
    | none => rfl
    | some j =>
      have conform := conforming _ List.mem_cons_self j found
      rw [given_conforming conform]
      exact meets.stores conform (conforms_filled never conform)

theorem FieldsMeet.optional {c : Codec Json α} {schema : Schema} (meets : Meets c schema) (name : String) :
    FieldsMeet (.optional name c) [(name,none,schema)] [] := by
  refine ⟨?_,?_⟩
  · intro entries conforming _
    change ∃ x, getOption c (entries.lookup name) = some x
    cases found : entries.lookup name with
    | none => exact ⟨none,rfl⟩
    | some j =>
      cases null : isNull j with
      | true => exact ⟨none,if_pos null⟩
      | false =>
        obtain ⟨x,read⟩ := meets.admits (conforming _ List.mem_cons_self j found) null
        refine ⟨some x,?_⟩
        rw [getOption,if_neg (by rw [show Values.isNull j = isNull j from rfl,null]; decide),read,Option.map_some]
  · intro entries after conforming stored
    have there := stored _ List.mem_cons_self
    change getOption c (after.lookup name) = getOption c (entries.lookup name)
    rw [there]
    cases found : entries.lookup name with
    | none => rfl
    | some j =>
      have conform := conforming _ List.mem_cons_self j found
      rw [given_conforming conform,Option.map_some,getOption,getOption,show Values.isNull (store schema j) = isNull j from store_isNull ..,
        show Values.isNull j = isNull j from rfl]
      cases null : isNull j with
      | true => rfl
      | false => rw [meets.stores conform null]

-- A field with a default of its own: the schema's, where it has one, has to be read as that.
theorem FieldsMeet.default {f : Fields Json [name] α} {c : Codec Json α} {value : α} {default : Option Json} {schema : Schema}
    (reads : ∀ entries, f.read entries = getDefault c value (entries.lookup name)) (meets : Meets c schema)
    (never : schema.nullable = false) (same : ∀ j, default = some j → c.read (store schema j) = some value) :
    FieldsMeet f [(name,default,schema)] [] := by
  refine ⟨?_,?_⟩
  · intro entries conforming _
    rw [reads]
    cases found : entries.lookup name with
    | none => exact ⟨value,rfl⟩
    | some j =>
      have conform := conforming _ List.mem_cons_self j found
      exact meets.admits conform (conforms_filled never conform)
  · intro entries after conforming stored
    have there := stored _ List.mem_cons_self
    rw [reads,reads,there]
    cases found : entries.lookup name with
    | none =>
      cases default with
      | none => rfl
      | some j => exact same j rfl
    | some j =>
      have conform := conforming _ List.mem_cons_self j found
      rw [given_conforming conform]
      exact meets.stores conform (conforms_filled never conform)

theorem FieldsMeet.and {f : Fields Json names α} {g : Fields Json others β} {left right : Properties} {needed more : List String}
    {apart : ∀ name ∈ names, name ∉ others} (first : FieldsMeet f left needed) (second : FieldsMeet g right more) :
    FieldsMeet (f.and g apart) (left ++ right) (needed ++ more) := by
  refine ⟨?_,?_⟩
  · intro entries conforming present
    obtain ⟨before,behind⟩ := List.forall_mem_append.mp conforming
    obtain ⟨here,there⟩ := List.forall_mem_append.mp present
    obtain ⟨x,one⟩ := first.admits before here
    obtain ⟨y,other⟩ := second.admits behind there
    exact ⟨(x,y),Fields.and_read.mpr ⟨one,other⟩⟩
  · intro entries after conforming stored
    obtain ⟨before,behind⟩ := List.forall_mem_append.mp conforming
    obtain ⟨here,there⟩ := List.forall_mem_append.mp stored
    simp only [Fields.and,first.stores before here,second.stores behind there]

theorem FieldsMeet.as {f : Fields Json names α} (meets : FieldsMeet f properties needed) (e : β ≃ α) :
    FieldsMeet (f.as e) properties needed := by
  refine ⟨?_,?_⟩
  · intro entries conforming present
    obtain ⟨x,read⟩ := meets.admits conforming present
    exact ⟨e.symm x,Fields.as_read.mpr (by rw [read,Equiv.apply_symm_apply])⟩
  · intro entries after conforming stored
    simp only [Fields.as,meets.stores conforming stored]

theorem FieldsMeet.record {f : Fields Json names α} {properties : Properties} {needed : List String}
    (meets : FieldsMeet f properties needed) (distinct : (properties.map Prod.fst).Nodup) (nullable : Bool) :
    Meets f.record (.object nullable needed properties) := by
  refine ⟨?_,?_⟩
  · intro j conform filled
    cases j with
    | object entries =>
      rw [conforms,Bool.and_eq_true,List.all_eq_true] at conform
      exact meets.admits ((conformsAll_exact ..).mp conform.2) conform.1
    | null => cases filled
    | bool | number | string | array => simp [conforms] at conform
  · intro j conform filled
    cases j with
    | object entries =>
      rw [conforms,Bool.and_eq_true] at conform
      rw [store]
      exact meets.stores ((conformsAll_exact ..).mp conform.2) fun p member => lookup_storeAll distinct entries member
    | null => cases filled
    | bool | number | string | array => simp [conforms] at conform

theorem Meets.list {c : Codec Json α} {schema : Schema} (meets : Meets c schema) (never : schema.nullable = false) :
    Meets c.list (.array schema) := by
  have each : ∀ js : List Json, js.all (fun item => conforms schema item) = true →
      (∃ xs, js.mapM c.read = some xs) ∧ (js.map fun item => store schema item).mapM c.read = js.mapM c.read := by
    intro js
    induction js with
    | nil => exact fun _ => ⟨⟨[],rfl⟩,rfl⟩
    | cons j js ih =>
      intro all
      rw [List.all_cons,Bool.and_eq_true] at all
      obtain ⟨⟨xs,rest⟩,same⟩ := ih all.2
      have filled := conforms_filled never all.1
      obtain ⟨x,first⟩ := meets.admits all.1 filled
      refine ⟨⟨x :: xs,?_⟩,?_⟩
      · rw [List.mapM_cons,first,rest]
        rfl
      · rw [List.map_cons,List.mapM_cons,List.mapM_cons,meets.stores all.1 filled,same]
  refine ⟨?_,?_⟩
  · intro j conform _
    cases j with
    | array js => exact (each js (by simpa [conforms] using conform)).1
    | null | bool | number | string | object => simp [conforms] at conform
  · intro j conform _
    cases j with
    | array js =>
      have same := (each js (by simpa [conforms] using conform)).2
      rw [store]
      exact same
    | null | bool | number | string | object => simp [conforms] at conform

-- What is written conforms, of the values that P holds of.
def Writes (c : Codec Json α) (schema : Schema) (P : α → Prop) : Prop :=
  ∀ x, c.fits x → P x → conforms schema (c.write x) = true

structure FieldsWrite (f : Fields Json names α) (properties : Properties) (required : List String) (P : α → Prop) : Prop where
  listed : ∀ p ∈ properties, p.1 ∈ names
  demanded : ∀ name ∈ required, name ∈ names
  writes : ∀ {x}, f.fits x → P x →
    Conforming properties (f.write x) ∧ ∀ name ∈ required, ((f.write x).lookup name).isSome = true

theorem Writes.mono {c : Codec Json α} {schema : Schema} {P Q : α → Prop} (writes : Writes c schema P) (weaker : ∀ x, Q x → P x) :
    Writes c schema Q := fun x fits given => writes x fits (weaker x given)

theorem FieldsWrite.single {f : Fields Json [name] α} {default : Option Json} {schema : Schema} {P : α → Prop}
    (writes : ∀ x, f.fits x → P x → ∀ j, (f.write x).lookup name = some j → conforms schema j = true) :
    FieldsWrite f [(name,default,schema)] [] P := by
  refine ⟨?_,?_,?_⟩
  · intro p member
    cases List.mem_singleton.mp member
    exact List.mem_cons_self
  · intro other none
    cases none
  · intro x fits given
    refine ⟨?_,List.forall_mem_nil _⟩
    intro p member
    cases List.mem_singleton.mp member
    exact writes x fits given

theorem FieldsWrite.mandatory {c : Codec Json α} {schema : Schema} {P : α → Prop} (writes : Writes c schema P) (name : String) :
    FieldsWrite (.required name c) [(name,none,schema)] [name] P := by
  have there : ∀ x, ((Fields.required name c).write x).lookup name = some (c.write x) := by
    intro x
    exact List.lookup_cons_self
  refine ⟨?_,List.forall_mem_singleton.mpr List.mem_cons_self,?_⟩
  · intro p member
    cases List.mem_singleton.mp member
    exact List.mem_cons_self
  · intro x fits given
    refine ⟨?_,?_⟩
    · intro p member j found
      cases List.mem_singleton.mp member
      cases (there x).symm.trans found
      exact writes x fits given
    · intro other member
      cases List.mem_singleton.mp member
      rw [there]
      rfl

theorem FieldsWrite.optional {c : Codec Json α} {schema : Schema} {P : α → Prop} (writes : Writes c schema P) (name : String) :
    FieldsWrite (.optional name c) [(name,none,schema)] [] fun x => ∀ y ∈ x, P y := by
  apply FieldsWrite.single
  intro x fits given j found
  cases x with
  | none => cases found
  | some y =>
    have there : ((Fields.optional name c).write (some y)).lookup name = some (c.write y) := List.lookup_cons_self
    cases there.symm.trans found
    exact writes y (fits y rfl) (given y rfl)

theorem Writes.list {c : Codec Json α} {schema : Schema} {P : α → Prop} (writes : Writes c schema P) :
    Writes c.list (.array schema) fun xs => ∀ x ∈ xs, P x := by
  intro xs fits given
  change conforms (.array schema) (.array (xs.map c.write)) = true
  simp only [conforms,List.all_map,List.all_eq_true]
  exact fun x member => writes x (fits x member) (given x member)

theorem FieldsWrite.skipped {c : Codec Json α} {schema : Schema} {default : α} {ok : c.fits default} {isEmpty : α → Bool}
    {empty : ∀ x, isEmpty x = true ↔ x = default} {kept : ∀ x, c.kept x = default ↔ x = default} {P : α → Prop}
    (writes : Writes c schema P) (name : String) :
    FieldsWrite (.skipped name c default ok isEmpty empty kept) [(name,none,schema)] [] P := by
  apply FieldsWrite.single
  intro x fits given j found
  change (((if isEmpty x then none else some (c.write x)).toList.map fun j => (name,j)).lookup name) = some j at found
  split at found
  · cases found
  · cases List.lookup_cons_self.symm.trans found
    exact writes x fits given

theorem FieldsWrite.and {f : Fields Json names α} {g : Fields Json others β} {left right : Properties} {needed more : List String}
    {P : α → Prop} {Q : β → Prop} {apart : ∀ name ∈ names, name ∉ others} (first : FieldsWrite f left needed P)
    (second : FieldsWrite g right more Q) :
    FieldsWrite (f.and g apart) (left ++ right) (needed ++ more) fun x => P x.1 ∧ Q x.2 := by
  have before : ∀ x name, name ∈ names → ((f.and g apart).write x).lookup name = (f.write x.1).lookup name := by
    intro x name member
    change (f.write x.1 ++ g.write x.2).lookup name = _
    rw [List.lookup_append,g.absent (apart name member),Option.or_none]
  have behind : ∀ x name, name ∈ others → ((f.and g apart).write x).lookup name = (g.write x.2).lookup name := by
    intro x name member
    change (f.write x.1 ++ g.write x.2).lookup name = _
    rw [List.lookup_append,f.absent fun other => apart name other member,Option.none_or]
  refine ⟨?_,?_,?_⟩
  · exact List.forall_mem_append.mpr ⟨fun p member => List.mem_append_left _ (first.listed p member),
      fun p member => List.mem_append_right _ (second.listed p member)⟩
  · exact List.forall_mem_append.mpr ⟨fun name member => List.mem_append_left _ (first.demanded name member),
      fun name member => List.mem_append_right _ (second.demanded name member)⟩
  · intro x fits given
    obtain ⟨one,present⟩ := first.writes fits.1 given.1
    obtain ⟨other,there⟩ := second.writes fits.2 given.2
    refine ⟨List.forall_mem_append.mpr ⟨?_,?_⟩,List.forall_mem_append.mpr ⟨?_,?_⟩⟩
    · intro p member j
      rw [before x p.1 (first.listed p member)]
      exact one p member j
    · intro p member j
      rw [behind x p.1 (second.listed p member)]
      exact other p member j
    · intro name member
      rw [before x name (first.demanded name member)]
      exact present name member
    · intro name member
      rw [behind x name (second.demanded name member)]
      exact there name member

theorem FieldsWrite.as {f : Fields Json names α} {P : α → Prop} (writes : FieldsWrite f properties needed P) (e : β ≃ α) :
    FieldsWrite (f.as e) properties needed fun x => P (e x) :=
  ⟨writes.listed,writes.demanded,fun fits given => writes.writes fits given⟩

theorem FieldsWrite.record {f : Fields Json names α} {P : α → Prop} (writes : FieldsWrite f properties needed P)
    (nullable : Bool) : Writes f.record (.object nullable needed properties) P := by
  intro x fits given
  obtain ⟨conforming,present⟩ := writes.writes fits given
  change conforms (.object nullable needed properties) (.object (f.write x)) = true
  rw [conforms,Bool.and_eq_true,List.all_eq_true]
  exact ⟨present,(conformsAll_exact ..).mpr conforming⟩

-- What the schema says of what is read.
def Ensures (c : Codec Json α) (schema : Schema) (P : α → Prop) : Prop :=
  ∀ j x, conforms schema j = true → isNull j = false → c.read j = some x → P x

def FieldsEnsure (f : Fields Json names α) (properties : Properties) (P : α → Prop) : Prop :=
  ∀ entries x, Conforming properties entries → f.read entries = some x → P x

theorem Ensures.any (c : Codec Json α) (schema : Schema) : Ensures c schema fun _ => True := fun _ _ _ _ _ => trivial

theorem FieldsEnsure.required {c : Codec Json α} {schema : Schema} {P : α → Prop} (ensures : Ensures c schema P)
    (never : schema.nullable = false) (name : String) : FieldsEnsure (.required name c) [(name,none,schema)] P := by
  intro entries x conforming read
  obtain ⟨j,found,value⟩ := Option.bind_eq_some_iff.mp read
  have conform := conforming _ List.mem_cons_self j found
  exact ensures j x conform (conforms_filled never conform) value

theorem FieldsEnsure.optional {c : Codec Json α} {schema : Schema} {P : α → Prop} (ensures : Ensures c schema P)
    (name : String) : FieldsEnsure (.optional name c) [(name,none,schema)] fun x => ∀ y ∈ x, P y := by
  intro entries x conforming read y member
  cases member
  change getOption c (entries.lookup name) = some (some y) at read
  cases found : entries.lookup name with
  | none =>
    rw [found] at read
    cases read
  | some j =>
    rw [found,getOption] at read
    cases null : isNull j with
    | true =>
      rw [if_pos (show Values.isNull j = true from null)] at read
      cases read
    | false =>
      rw [if_neg (by rw [show Values.isNull j = isNull j from rfl,null]; decide)] at read
      obtain ⟨z,value,same⟩ := Option.map_eq_some_iff.mp read
      cases same
      exact ensures j y (conforming _ List.mem_cons_self j found) null value

theorem FieldsEnsure.default {f : Fields Json [name] α} {c : Codec Json α} {value : α} {default : Option Json} {schema : Schema}
    {P : α → Prop} (reads : ∀ entries, f.read entries = getDefault c value (entries.lookup name)) (ensures : Ensures c schema P)
    (never : schema.nullable = false) (holds : P value) : FieldsEnsure f [(name,default,schema)] P := by
  intro entries x conforming read
  rw [reads] at read
  cases found : entries.lookup name with
  | none =>
    rw [found] at read
    cases Option.some.inj read
    exact holds
  | some j =>
    rw [found] at read
    have conform := conforming _ List.mem_cons_self j found
    exact ensures j x conform (conforms_filled never conform) read

theorem FieldsEnsure.and {f : Fields Json names α} {g : Fields Json others β} {left right : Properties} {P : α → Prop}
    {Q : β → Prop} {apart : ∀ name ∈ names, name ∉ others} (first : FieldsEnsure f left P) (second : FieldsEnsure g right Q) :
    FieldsEnsure (f.and g apart) (left ++ right) fun x => P x.1 ∧ Q x.2 := by
  intro entries x conforming read
  obtain ⟨before,behind⟩ := List.forall_mem_append.mp conforming
  obtain ⟨one,other⟩ := Fields.and_read.mp read
  exact ⟨first entries x.1 before one,second entries x.2 behind other⟩

theorem FieldsEnsure.as {f : Fields Json names α} {properties : Properties} {P : α → Prop} (ensures : FieldsEnsure f properties P)
    (e : β ≃ α) : FieldsEnsure (f.as e) properties fun x => P (e x) := by
  intro entries x conforming read
  exact ensures entries (e x) conforming (Fields.as_read.mp read)

theorem FieldsEnsure.record {f : Fields Json names α} {properties : Properties} {P : α → Prop}
    (ensures : FieldsEnsure f properties P) (nullable : Bool) (needed : List String) :
    Ensures f.record (.object nullable needed properties) P := by
  intro j x conform filled read
  cases j with
  | object entries =>
    rw [conforms,Bool.and_eq_true] at conform
    exact ensures entries x ((conformsAll_exact ..).mp conform.2) read
  | null => cases filled
  | bool | number | string | array => simp [conforms] at conform

end Agreement

end YouSpinMe.StructuralSchema
