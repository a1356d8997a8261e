import Mathlib.Logic.Equiv.Defs
import Mathlib.Data.List.Lookmap
import Mathlib.Data.List.Nodup

namespace YouSpinMe.FieldCodec

-- The values of a format in which an object is a list of named values.
class Values (J : Type) where
  null : J
  string : String → J
  array : List J → J
  object : List (String × J) → J
  isNull : J → Bool
  text : J → Option String
  items : J → Option (List J)
  fields : J → Option (List (String × J))
  isNull_null : isNull null = true
  isNull_string : ∀ s, isNull (string s) = false
  isNull_array : ∀ xs, isNull (array xs) = false
  isNull_object : ∀ entries, isNull (object entries) = false
  text_string : ∀ s, text (string s) = some s
  items_array : ∀ xs, items (array xs) = some xs
  fields_object : ∀ entries, fields (object entries) = some entries

-- A type in the format: which of its values can be written, and what of a value is kept
-- by a text. Writing what was kept gives the same text, and what is read can be written.
structure Codec (J : Type) [Values J] (α : Type) where
  fits : α → Prop
  kept : α → α
  write : α → J
  read : J → Option α
  reads : ∀ {x}, fits x → read (write x) = some (kept x)
  sound : ∀ {j x}, read j = some x → fits x
  rewrites : ∀ x, write (kept x) = write x
  filled : ∀ x, Values.isNull (write x) = false

-- The same for the fields of these names in an object. No others are looked at.
structure Fields (J : Type) [Values J] (names : List String) (α : Type) where
  fits : α → Prop
  kept : α → α
  write : α → List (String × J)
  read : List (String × J) → Option α
  distinct : names.Nodup
  within : ∀ x, ((write x).map Prod.fst).Sublist names
  looks : ∀ {a b : List (String × J)}, (∀ name ∈ names, a.lookup name = b.lookup name) → read a = read b
  reads : ∀ {x}, fits x → read (write x) = some (kept x)
  sound : ∀ {entries x}, read entries = some x → fits x
  rewrites : ∀ x, write (kept x) = write x

section Laws
variable {J : Type} [Values J] {names others : List String} {α β : Type}

theorem Codec.kept_fits (c : Codec J α) (fits : c.fits x) : c.fits (c.kept x) := c.sound (c.reads fits)

theorem Codec.kept_kept (c : Codec J α) (fits : c.fits x) : c.kept (c.kept x) = c.kept x := by
  have again := c.reads (c.kept_fits fits)
  rw [c.rewrites,c.reads fits] at again
  exact (Option.some.inj again).symm

omit [Values J] in
theorem lookup_outside {entries : List (String × J)} (outside : name ∉ entries.map Prod.fst) : entries.lookup name = none := by
  rw [List.lookup_eq_none_iff]
  intro entry member
  rw [bne_iff_ne]
  rintro rfl
  exact outside (List.mem_map_of_mem member)

omit [Values J] in
theorem lookup_other {rest : List (String × J)} {j : J} (different : other ≠ name) :
    ((name,j) :: rest).lookup other = rest.lookup other := by
  rw [List.lookup_cons,beq_eq_false_iff_ne.mpr different]

def Codec.string : Codec J String where
  fits _ := True
  kept s := s
  write := Values.string
  read := Values.text
  reads _ := Values.text_string _
  sound _ := trivial
  rewrites _ := rfl
  filled := Values.isNull_string

-- The constructors of an enumeration, each under its text.
def Codec.enumeration [DecidableEq α] (text : α → String) (all : List α) (complete : ∀ x, x ∈ all)
    (distinct : ∀ x y, text x = text y → x = y) : Codec J α where
  fits _ := True
  kept x := x
  write x := Values.string (text x)
  read j := (Values.text j).bind fun s => all.find? fun x => text x = s
  reads {x} _ := by
    rw [Values.text_string,Option.bind_some]
    cases found : all.find? fun y => text y = text x with
    | none =>
      have missed := List.find?_eq_none.mp found x (complete x)
      simp at missed
    | some y =>
      have same := List.find?_some found
      rw [decide_eq_true_eq] at same
      rw [distinct y x same]
  sound _ := trivial
  rewrites _ := rfl
  filled x := Values.isNull_string _

theorem mapM_read {c : Codec J α} {xs : List α} (fits : ∀ x ∈ xs, c.fits x) :
    (xs.map c.write).mapM c.read = some (xs.map c.kept) := by
  induction xs with
  | nil => rfl
  | cons x xs ih =>
    obtain ⟨first,others⟩ := List.forall_mem_cons.mp fits
    rw [List.map_cons,List.mapM_cons,c.reads first,ih others]
    rfl

theorem mapM_sound {c : Codec J α} {js : List J} (read : js.mapM c.read = some xs) : ∀ x ∈ xs, c.fits x := by
  induction js generalizing xs with
  | nil =>
    cases Option.some.inj read
    exact List.forall_mem_nil _
  | cons j js ih =>
    rw [List.mapM_cons] at read
    obtain ⟨x,first,rest⟩ := Option.bind_eq_some_iff.mp read
    obtain ⟨others,found,all⟩ := Option.bind_eq_some_iff.mp rest
    cases Option.some.inj all
    exact List.forall_mem_cons.mpr ⟨c.sound first,ih found⟩

def Codec.list (c : Codec J α) : Codec J (List α) where
  fits xs := ∀ x ∈ xs, c.fits x
  kept xs := xs.map c.kept
  write xs := Values.array (xs.map c.write)
  read j := (Values.items j).bind fun js => js.mapM c.read
  reads fits := by rw [Values.items_array,Option.bind_some,mapM_read fits]
  sound found := by
    obtain ⟨js,_,read⟩ := Option.bind_eq_some_iff.mp found
    exact mapM_sound read
  rewrites xs := by
    have same : c.write ∘ c.kept = c.write := funext c.rewrites
    rw [List.map_map,same]
  filled _ := Values.isNull_array _

-- One field, by what stands under its name if anything does.
def Fields.single (name : String) (fits : α → Prop) (kept : α → α) (put : α → Option J) (get : Option J → Option α)
    (reads : ∀ {x}, fits x → get (put x) = some (kept x)) (sound : ∀ {found x}, get found = some x → fits x)
    (rewrites : ∀ x, put (kept x) = put x) : Fields J [name] α where
  fits := fits
  kept := kept
  write x := (put x).toList.map fun j => (name,j)
  read entries := get (entries.lookup name)
  distinct := List.nodup_singleton name
  within x := by cases put x <;> simp
  looks same := by rw [same name List.mem_cons_self]
  reads {x} ok := by
    have there : ((put x).toList.map fun j => (name,j)).lookup name = put x := by cases put x <;> simp
    rw [there]
    exact reads ok
  sound := sound
  rewrites x := by rw [rewrites]

-- A field with no attribute: it has to be there.
def Fields.required (name : String) (c : Codec J α) : Fields J [name] α :=
  .single name c.fits c.kept (fun x => some (c.write x)) (fun found => found.bind c.read)
    (fun ok => c.reads ok)
    (fun read => by obtain ⟨j,_,value⟩ := Option.bind_eq_some_iff.mp read; exact c.sound value)
    (fun x => by rw [c.rewrites])

-- What serde reads of an `Option`: nothing and null are both none.
def getOption (c : Codec J α) : Option J → Option (Option α)
  | none => some none
  | some j => if Values.isNull j then some none else (c.read j).map some

theorem getOption_write {c : Codec J α} {x : Option α} (ok : ∀ y ∈ x, c.fits y) : getOption c (x.map c.write) = some (x.map c.kept) := by
  cases x with
  | none => rfl
  | some y => simp [getOption,c.filled,c.reads (ok y rfl)]

theorem getOption_sound {c : Codec J α} {found : Option J} {x : Option α} (read : getOption c found = some x) : ∀ y ∈ x, c.fits y := by
  intro y member
  cases member
  cases found with
  | none => cases read
  | some j =>
    simp only [getOption] at read
    split at read
    · cases read
    · obtain ⟨z,value,same⟩ := Option.map_eq_some_iff.mp read
      cases same
      exact c.sound value

-- `default, skip_serializing_if = "Option::is_none"`.
def Fields.optional (name : String) (c : Codec J α) : Fields J [name] (Option α) :=
  .single name (fun x => ∀ y ∈ x, c.fits y) (Option.map c.kept) (Option.map c.write) (getOption c)
    getOption_write getOption_sound
    (fun x => by cases x <;> simp [c.rewrites])

-- An `Option` with no attribute is written as null.
def Fields.nullable (name : String) (c : Codec J α) : Fields J [name] (Option α) :=
  .single name (fun x => ∀ y ∈ x, c.fits y) (Option.map c.kept) (fun x => some ((x.map c.write).getD Values.null)) (getOption c)
    (fun {x} ok => by
      cases x with
      | none => simp [getOption,Values.isNull_null]
      | some y => exact getOption_write ok)
    getOption_sound
    (fun x => by cases x <;> simp [c.rewrites])

def getDefault (c : Codec J α) (default : α) : Option J → Option α
  | none => some default
  | some j => c.read j

theorem getDefault_sound {c : Codec J α} {default : α} {found : Option J} {x : α} (ok : c.fits default) (read : getDefault c default found = some x) :
    c.fits x := by
  cases found with
  | none =>
    cases Option.some.inj read
    exact ok
  | some j => exact c.sound read

-- `default`, and written whatever it is.
def Fields.defaulted (name : String) (c : Codec J α) (default : α) (ok : c.fits default) : Fields J [name] α :=
  .single name c.fits c.kept (fun x => some (c.write x)) (getDefault c default)
    (fun ok => c.reads ok) (getDefault_sound ok)
    (fun x => by rw [c.rewrites])

-- `default, skip_serializing_if = "..::is_empty"`.
def Fields.skipped (name : String) (c : Codec J α) (default : α) (ok : c.fits default) (isEmpty : α → Bool)
    (empty : ∀ x, isEmpty x = true ↔ x = default) (kept : ∀ x, c.kept x = default ↔ x = default) : Fields J [name] α :=
  .single name c.fits c.kept (fun x => if isEmpty x then none else some (c.write x)) (getDefault c default)
    (fun {x} fits => by
      by_cases none : x = default
      · rw [if_pos ((empty x).mpr none),(kept x).mpr none,getDefault]
      · rw [if_neg (mt (empty x).mp none)]
        exact c.reads fits)
    (getDefault_sound ok)
    (fun x => by
      have same : isEmpty (c.kept x) = isEmpty x := Bool.eq_iff_iff.mpr (by rw [empty,empty,kept])
      rw [same,c.rewrites])

theorem Fields.absent (f : Fields J names α) (other : name ∉ names) : (f.write x).lookup name = none :=
  lookup_outside fun member => other ((f.within x).subset member)

theorem Fields.written_distinct (f : Fields J names α) (x : α) : ((f.write x).map Prod.fst).Nodup :=
  f.distinct.sublist (f.within x)

-- Two groups of fields side by side.
def Fields.and (f : Fields J names α) (g : Fields J others β) (apart : ∀ name ∈ names, name ∉ others := by decide) :
    Fields J (names ++ others) (α × β) where
  fits x := f.fits x.1 ∧ g.fits x.2
  kept x := (f.kept x.1,g.kept x.2)
  write x := f.write x.1 ++ g.write x.2
  read entries := (f.read entries).bind fun x => (g.read entries).map fun y => (x,y)
  distinct := List.nodup_append.mpr ⟨f.distinct,g.distinct,fun a first b second same => apart a first (same ▸ second)⟩
  within x := by
    rw [List.map_append]
    exact (f.within x.1).append (g.within x.2)
  looks same := by
    rw [f.looks fun name member => same name (List.mem_append_left _ member),
      g.looks fun name member => same name (List.mem_append_right _ member)]
  reads {x} fits := by
    have first : f.read (f.write x.1 ++ g.write x.2) = f.read (f.write x.1) := by
      apply f.looks
      intro name member
      rw [List.lookup_append,g.absent (apart name member),Option.or_none]
    have second : g.read (f.write x.1 ++ g.write x.2) = g.read (g.write x.2) := by
      apply g.looks
      intro name member
      rw [List.lookup_append,f.absent fun other => apart name other member,Option.none_or]
    rw [first,second,f.reads fits.1,g.reads fits.2]
    rfl
  sound read := by
    obtain ⟨a,first,rest⟩ := Option.bind_eq_some_iff.mp read
    obtain ⟨b,second,rfl⟩ := Option.map_eq_some_iff.mp rest
    exact ⟨f.sound first,g.sound second⟩
  rewrites x := by rw [f.rewrites,g.rewrites]

-- The fields of a structure.
def Fields.as (f : Fields J names α) (e : β ≃ α) : Fields J names β where
  fits x := f.fits (e x)
  kept x := e.symm (f.kept (e x))
  write x := f.write (e x)
  read entries := (f.read entries).map e.symm
  distinct := f.distinct
  within x := f.within (e x)
  looks same := by rw [f.looks same]
  reads fits := by rw [f.reads fits,Option.map_some]
  sound read := by
    obtain ⟨x,found,rfl⟩ := Option.map_eq_some_iff.mp read
    rw [Equiv.apply_symm_apply]
    exact f.sound found
  rewrites x := by rw [Equiv.apply_symm_apply,f.rewrites]

def Fields.record (f : Fields J names α) : Codec J α where
  fits := f.fits
  kept := f.kept
  write x := Values.object (f.write x)
  read j := (Values.fields j).bind f.read
  reads fits := by rw [Values.fields_object,Option.bind_some,f.reads fits]
  sound read := by
    obtain ⟨entries,_,found⟩ := Option.bind_eq_some_iff.mp read
    exact f.sound found
  rewrites x := by rw [f.rewrites]
  filled _ := Values.isNull_object _

theorem Fields.and_read {f : Fields J names α} {g : Fields J others β} {apart : ∀ name ∈ names, name ∉ others}
    {entries : List (String × J)} {x : α × β} :
    (f.and g apart).read entries = some x ↔ f.read entries = some x.1 ∧ g.read entries = some x.2 := by
  constructor
  · intro read
    obtain ⟨a,first,rest⟩ := Option.bind_eq_some_iff.mp read
    obtain ⟨b,second,rfl⟩ := Option.map_eq_some_iff.mp rest
    exact ⟨first,second⟩
  · rintro ⟨first,second⟩
    simp [Fields.and,first,second]

theorem Fields.as_read {f : Fields J names α} {e : β ≃ α} {entries : List (String × J)} {x : β} :
    (f.as e).read entries = some x ↔ f.read entries = some (e x) := by
  constructor
  · intro read
    obtain ⟨y,found,rfl⟩ := Option.map_eq_some_iff.mp read
    rw [found,Equiv.apply_symm_apply]
  · intro read
    simp [Fields.as,read]

theorem Fields.looks_single (f : Fields J [name] α) {a b : List (String × J)} (same : a.lookup name = b.lookup name) :
    f.read a = f.read b := by
  apply f.looks
  intro other member
  rw [List.mem_singleton.mp member,same]

-- A text that keeps everything.
def Codec.Exact (c : Codec J α) : Prop := ∀ x, c.kept x = x
def Fields.Exact (f : Fields J names α) : Prop := ∀ x, f.kept x = x

theorem Codec.Exact.list {c : Codec J α} (exact : c.Exact) : c.list.Exact := fun xs =>
  (List.map_congr_left fun x _ => exact x).trans (List.map_id' xs)

theorem Codec.Exact.option {c : Codec J α} (exact : c.Exact) (x : Option α) : x.map c.kept = x := by
  rw [funext exact]
  exact Option.map_id'

theorem Codec.Exact.required {c : Codec J α} (exact : c.Exact) (name : String) : (Fields.required name c).Exact := exact
theorem Codec.Exact.defaulted {c : Codec J α} (exact : c.Exact) (name : String) {default : α} {ok : c.fits default} :
    (Fields.defaulted name c default ok).Exact := exact
theorem Codec.Exact.optional {c : Codec J α} (exact : c.Exact) (name : String) : (Fields.optional name c).Exact := exact.option
theorem Codec.Exact.nullable {c : Codec J α} (exact : c.Exact) (name : String) : (Fields.nullable name c).Exact := exact.option

theorem Fields.Exact.and {f : Fields J names α} {g : Fields J others β} (first : f.Exact) (second : g.Exact)
    {apart : ∀ name ∈ names, name ∉ others} : (f.and g apart).Exact := fun x => Prod.ext (first x.1) (second x.2)

theorem Fields.Exact.as {f : Fields J names α} (exact : f.Exact) (e : β ≃ α) : (f.as e).Exact := fun x =>
  (congrArg e.symm (exact (e x))).trans (e.symm_apply_apply x)

theorem Codec.Exact.reads {c : Codec J α} (exact : c.Exact) (fits : c.fits x) : c.read (c.write x) = some x := by
  rw [c.reads fits,exact x]

-- Neither the order of the fields matters nor what else is there.
theorem Fields.reads_among (f : Fields J names α) (fits : f.fits x) {entries : List (String × J)}
    (there : ∀ name ∈ names, entries.lookup name = (f.write x).lookup name) : f.read entries = some (f.kept x) :=
  (f.looks there).trans (f.reads fits)

end Laws

end YouSpinMe.FieldCodec
