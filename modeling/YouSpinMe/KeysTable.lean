import YouSpinMe.Views
import YouSpinMe.Comparators
import YouSpinMe.Admission

namespace YouSpinMe.KeysTable
open Std (TransCmp OrientedCmp ReflCmp LawfulEqCmp TransOrd)
open RequestProgram Effects Validation Scheduling Views Comparators Admission Identity Http Auth Text Jiff Crd

-- What the Unicode Character Database says of characters beyond ASCII.
class CaseTables where
  lower : Char → List Char
  cased : Char → Bool
  caseIgnorable : Char → Bool

section Texts
variable [CaseTables]

def caseIgnorableThenCased (chars : List Char) : Bool :=
  match chars.dropWhile CaseTables.caseIgnorable with
  | c :: _ => CaseTables.cased c
  | [] => false

-- Σ is ς at the end of a word and σ elsewhere. What stands before it is reversed.
def mapUppercaseSigma (before after : List Char) : Char :=
  if caseIgnorableThenCased before && !caseIgnorableThenCased after then 'ς' else 'σ'

def lowerChars : List Char → List Char → List Char
  | _,[] => []
  | before,c :: after =>
    (if c.toNat < 128 then [c.toLower]
      else if c = 'Σ' then [mapUppercaseSigma before after]
      else CaseTables.lower c) ++ lowerChars (c :: before) after

def toLowercase (s : String) : String := String.ofList (lowerChars [] s.toList)

end Texts

def contains (needle : List Char) : List Char → Bool
  | [] => needle.isEmpty
  | c :: rest => needle.isPrefixOf (c :: rest) || contains needle rest

theorem contains_exact (needle text : List Char) : contains needle text = true ↔ needle <:+: text := by
  induction text with
  | nil => simp [contains]
  | cons c rest ih => rw [contains,Bool.or_eq_true,ih,List.isPrefixOf_iff_prefix,List.infix_cons_iff]

-- Texts compare byte by byte.
def compareBytes (a b : UInt8) : Ordering := compareOfLessAndEq a b
def compareTexts : String → String → Ordering := byKey asBytes (List.compareLex compareBytes)
def compareTimes (a b : Timestamp) : Ordering := compareOfLessAndEq a b

instance compareBytes_trans : TransCmp compareBytes :=
  TransOrd.compareOfLessAndEq_of_antisymm_of_trans_of_total_of_not_le UInt8.le_antisymm UInt8.le_trans UInt8.le_total
    UInt8.not_le

instance compareBytes_exact : LawfulEqCmp compareBytes where
  compare_self := by
    intro a
    simp [compareBytes,compareOfLessAndEq]
  eq_of_compare := by
    intro a b equal
    simp only [compareBytes,compareOfLessAndEq] at equal
    split_ifs at equal with less same
    exact same

instance compareTexts_trans : TransCmp compareTexts := byKey_trans

instance compareTexts_exact : LawfulEqCmp compareTexts where
  compare_self := ReflCmp.compare_self
  eq_of_compare := by
    intro a b equal
    have bytes : List.compareLex compareBytes (asBytes a) (asBytes b) = .eq := equal
    exact asBytes_inj.mp (LawfulEqCmp.eq_of_compare bytes)

theorem compareTimes_isLE (a b : Timestamp) : (compareTimes a b).isLE = true ↔ a ≤ b := by
  simp only [compareTimes,compareOfLessAndEq,Timestamp.lt_def,Timestamp.le_def,← Timestamp.nanos_inj]
  split_ifs <;> simp <;> omega

instance compareTimes_trans : TransCmp compareTimes where
  eq_swap := by
    intro a b
    simp only [compareTimes,compareOfLessAndEq,Timestamp.lt_def,← Timestamp.nanos_inj]
    split_ifs <;> first | rfl | omega
  isLE_trans := by
    intro a b c one two
    rw [compareTimes_isLE] at *
    exact Int.le_trans one two

structure StateCount where
  state : String
  label : String
  count : Nat
  active : Bool
  deriving DecidableEq

-- What the templates are given: the whole page shows the providers as well.
structure Table where
  rows : List KeyRow
  total : Nat
  matching : Nat
  counts : List StateCount
  providers : List String
  deriving DecidableEq

def countsOf (searched : List KeyRow) (wanted : Option State) : List StateCount :=
  State.ALL.map fun s => ⟨s.asStr,stateLabel s,(searched.filter fun r => r.state = s).length,wanted = some s⟩

-- An absent time is the least one.
def byRotated (a b : KeyRow) : Ordering :=
  match a.lastRotated,b.lastRotated with
  | none,none => .eq
  | none,some _ => .lt
  | some _,none => .gt
  | some x,some y => compareTimes x y

-- Most urgent first, unknown deadlines after known ones.
def byDeadline (a b : KeyRow) : Ordering :=
  match a.deadline,b.deadline with
  | some x,some y => compareTimes x y
  | some _,none => .lt
  | none,some _ => .gt
  | none,none => compareTexts a.name b.name

-- Each order compares rows by a key whose values are totally ordered.
def urgency (row : KeyRow) : Timestamp ⊕ String :=
  match row.deadline with
  | some t => .inl t
  | none => .inr row.name

def lastTurn (row : KeyRow) : Unit ⊕ Timestamp :=
  match row.lastRotated with
  | none => .inl ()
  | some t => .inr t

theorem byDeadline_turns : byDeadline = byKey urgency (inTurn compareTimes compareTexts) := by
  funext a b
  unfold byDeadline byKey urgency
  cases a.deadline <;> cases b.deadline <;> rfl

theorem byRotated_turns : byRotated = byKey lastTurn (inTurn (fun _ _ => .eq) compareTimes) := by
  funext a b
  unfold byRotated byKey lastTurn
  cases a.lastRotated <;> cases b.lastRotated <;> rfl

instance always_trans : TransCmp fun _ _ : Unit => Ordering.eq where
  eq_swap := rfl
  isLE_trans := fun _ _ => rfl

def chipSum : List StateCount → Nat
  | [] => 0
  | chip :: rest => chip.count + chipSum rest

-- Every row is in exactly one of the five states.
theorem countsOf_sum (searched : List KeyRow) (wanted : Option State) :
    chipSum (countsOf searched wanted) = searched.length := by
  simp only [countsOf,State.ALL,List.map_cons,List.map_nil,chipSum]
  induction searched with
  | nil => rfl
  | cons row searched ih =>
    cases state : row.state <;> (simp [state] at *; omega)

theorem countsOf_mem (chip : StateCount) (searched : List KeyRow) (wanted : Option State) :
    chip ∈ countsOf searched wanted ↔
      ∃ s, chip = ⟨s.asStr,stateLabel s,(searched.filter fun r => r.state = s).length,wanted = some s⟩ := by
  rw [countsOf,List.mem_map]
  constructor
  · intro present
    obtain ⟨s,_,rfl⟩ := present
    exact ⟨s,rfl⟩
  · intro given
    obtain ⟨s,rfl⟩ := given
    refine ⟨s,?_,rfl⟩
    cases s <;> decide

-- Known deadlines, ascending, then the unknown ones, by name.
structure MostUrgentFirst (rows known unknown : List KeyRow) : Prop where
  split : rows = known ++ unknown
  first : ∀ row ∈ known, row.deadline ≠ none
  last : ∀ row ∈ unknown, row.deadline = none
  ascending : known.Pairwise fun a b => ∀ x y, a.deadline = some x → b.deadline = some y → x ≤ y
  byName : unknown.Pairwise fun a b => (compareTexts a.name b.name).isLE = true

theorem byDeadline_known {a b : KeyRow} (first : a.deadline = some x) (second : b.deadline = some y) :
    (byDeadline a b).isLE = true ↔ x ≤ y := by
  rw [← compareTimes_isLE,byDeadline,first,second]

theorem byDeadline_unknown {a b : KeyRow} (first : a.deadline = none) (second : b.deadline = none) :
    byDeadline a b = compareTexts a.name b.name := by
  rw [byDeadline,first,second]

theorem byDeadline_parts {rows : List KeyRow} (sorted : rows.Pairwise fun a b => (byDeadline a b).isLE = true) :
    ∃ known unknown, MostUrgentFirst rows known unknown := by
  have first : ∀ a b : KeyRow, ¬a.deadline ≠ none → b.deadline ≠ none → ¬(byDeadline a b).isLE = true := by
    intro a b unknown known
    rw [not_not] at unknown
    obtain ⟨y,deadline⟩ := Option.ne_none_iff_exists'.mp known
    simp [byDeadline,unknown,deadline]
  obtain ⟨known,unknown,rfl,before,after⟩ := sorted_parts sorted first
  obtain ⟨early,late,_⟩ := List.pairwise_append.mp sorted
  have absent : ∀ row ∈ unknown, row.deadline = none := fun row present => not_not.mp (after row present)
  refine ⟨known,unknown,rfl,before,absent,?_,?_⟩
  · refine early.imp ?_
    intro a b le x y
    exact fun first second => (byDeadline_known first second).mp le
  · refine late.imp_of_mem ?_
    intro a b inA inB le
    rwa [byDeadline_unknown (absent a inA) (absent b inB)] at le

-- Keys that were never rotated, then the others, the one rotated longest ago first.
structure LeastRecentFirst (rows never dated : List KeyRow) : Prop where
  split : rows = never ++ dated
  first : ∀ row ∈ never, row.lastRotated = none
  last : ∀ row ∈ dated, row.lastRotated ≠ none
  ascending : dated.Pairwise fun a b => ∀ x y, a.lastRotated = some x → b.lastRotated = some y → x ≤ y

theorem byRotated_dated {a b : KeyRow} (first : a.lastRotated = some x) (second : b.lastRotated = some y) :
    (byRotated a b).isLE = true ↔ x ≤ y := by
  rw [← compareTimes_isLE,byRotated,first,second]

theorem byRotated_parts {rows : List KeyRow} (sorted : rows.Pairwise fun a b => (byRotated a b).isLE = true) :
    ∃ never dated, LeastRecentFirst rows never dated := by
  have first : ∀ a b : KeyRow, ¬a.lastRotated = none → b.lastRotated = none → ¬(byRotated a b).isLE = true := by
    intro a b dated never
    obtain ⟨x,rotated⟩ := Option.ne_none_iff_exists'.mp dated
    simp [byRotated,never,rotated]
  obtain ⟨never,dated,rfl,before,after⟩ := sorted_parts sorted first
  obtain ⟨_,late,_⟩ := List.pairwise_append.mp sorted
  refine ⟨never,dated,rfl,before,after,?_⟩
  refine late.imp ?_
  intro a b le x y
  exact fun first second => (byRotated_dated first second).mp le

section Rows
variable [CaseTables]

def byName (a b : KeyRow) : Ordering := compareTexts (toLowercase a.displayName) (toLowercase b.displayName)

def rowOrder (sort : String) : KeyRow → KeyRow → Ordering :=
  if sort = "name" then byName else if sort = "rotated" then byRotated else byDeadline

def sortRows (rows : List KeyRow) (sort : String) : List KeyRow := sortBy (rowOrder sort) rows

def matchesRow (row : KeyRow) (q : String) : Bool :=
  [row.name,row.displayName,row.owner,row.provider].any fun f =>
    contains (toLowercase q).toList (toLowercase f).toList

def searchRows (filters : Filters) (all : List KeyRow) : List KeyRow :=
  (all.filter fun r => filters.q.isEmpty || matchesRow r filters.q).filter fun r =>
    filters.provider.isEmpty || r.provider == filters.provider

def tableOf (all : List KeyRow) (filters : Filters) : Table :=
  let wanted := State.parse filters.state
  let searched := searchRows filters all
  { rows := sortRows (searched.filter fun r => wanted.all fun s => r.state = s) filters.sort
    total := all.length
    matching := searched.length
    counts := countsOf searched wanted
    providers := dedup (sortBy compareTexts (all.map KeyRow.provider)) }

-- What `index` makes of the listed keys.
def keysTable [UrlCrate] [Format] (thresholds : Thresholds) (keys : List ApiKey) (filters : Filters) (now : Timestamp) :
    Table :=
  tableOf (keys.map fun key => KeyRow.new key thresholds now) filters

instance rowOrder_trans (sort : String) : TransCmp (rowOrder sort) := by
  unfold rowOrder
  split_ifs
  · change TransCmp (byKey (fun row : KeyRow => toLowercase row.displayName) compareTexts)
    exact byKey_trans
  · rw [byRotated_turns]
    exact byKey_trans
  · rw [byDeadline_turns]
    exact byKey_trans

def wantsState (filters : Filters) (row : KeyRow) : Bool := (State.parse filters.state).all fun s => row.state = s

def searchesRow (filters : Filters) (row : KeyRow) : Bool :=
  (filters.q.isEmpty || matchesRow row filters.q) && (filters.provider.isEmpty || row.provider == filters.provider)

theorem searchRows_filter (filters : Filters) (all : List KeyRow) :
    searchRows filters all = all.filter (searchesRow filters) := by
  rw [searchRows,List.filter_filter]
  exact List.filter_congr fun row _ => Bool.and_comm ..

theorem rows_perm (all : List KeyRow) (filters : Filters) :
    (tableOf all filters).rows.Perm (all.filter fun row => wantsState filters row && searchesRow filters row) := by
  have kept : (searchRows filters all).filter (wantsState filters) =
      all.filter fun row => wantsState filters row && searchesRow filters row := by
    rw [searchRows_filter,List.filter_filter]
  exact (sortBy_perm ..).trans (.of_eq kept)

-- What it is for a key to be asked for.
structure Fits (thresholds : Thresholds) (filters : Filters) (now : Timestamp) (key : ApiKey) : Prop where
  search : filters.q = "" ∨ ∃ text ∈ [key.name,key.displayName,key.spec.owner.getD "",key.spec.provider.asStr],
    (toLowercase filters.q).toList <:+: (toLowercase text).toList
  provider : filters.provider = "" ∨ key.spec.provider.asStr = filters.provider
  state : ∀ s : State, s.asStr = filters.state → (Schedule.compute key thresholds).state now = s

theorem fits_exact [UrlCrate] [Format] (thresholds : Thresholds) (filters : Filters) (now : Timestamp) (key : ApiKey) :
    (wantsState filters (KeyRow.new key thresholds now) && searchesRow filters (KeyRow.new key thresholds now)) = true ↔
      Fits thresholds filters now key := by
  have wanted : wantsState filters (KeyRow.new key thresholds now) = true ↔
      ∀ s : State, s.asStr = filters.state → (Schedule.compute key thresholds).state now = s := by
    simp only [wantsState,Option.all_eq_true,State.parse_exact,decide_eq_true_eq]
    rfl
  have searched : matchesRow (KeyRow.new key thresholds now) filters.q = true ↔
      ∃ text ∈ [key.name,key.displayName,key.spec.owner.getD "",key.spec.provider.asStr],
        (toLowercase filters.q).toList <:+: (toLowercase text).toList := by
    simp only [matchesRow,List.any_eq_true,contains_exact]
    rfl
  rw [Bool.and_eq_true,wanted,searchesRow,Bool.and_eq_true,Bool.or_eq_true,Bool.or_eq_true,searched,
    String.isEmpty_iff,String.isEmpty_iff,beq_iff_eq]
  constructor
  · intro given
    exact ⟨given.2.1,given.2.2,given.1⟩
  · intro fits
    exact ⟨fits.state,fits.search,fits.provider⟩

-- A chip is counted before the rows of one state are chosen, so it is their number.
theorem rows_counted (all : List KeyRow) {filters : Filters} {s : State} (named : s.asStr = filters.state) :
    ∃ chip ∈ (tableOf all filters).counts, chip.state = filters.state ∧ chip.active = true ∧
      (tableOf all filters).rows.length = chip.count ∧
      ∀ other ∈ (tableOf all filters).counts, other.state = filters.state → other = chip := by
  have wanted : State.parse filters.state = some s := (State.parse_exact _ _).mpr named
  refine ⟨_,(countsOf_mem _ _ _).mpr ⟨s,rfl⟩,named,by simp [wanted],?_,?_⟩
  · refine (sortBy_perm ..).length_eq.trans ?_
    rw [wanted]
    rfl
  · intro other present same
    obtain ⟨t,rfl⟩ := (countsOf_mem _ _ _).mp present
    rw [State.asStr_inj (same.trans named.symm)]

theorem rows_unfiltered (all : List KeyRow) {filters : Filters} (unnamed : ∀ s : State, s.asStr ≠ filters.state) :
    (tableOf all filters).rows.length = (tableOf all filters).matching := by
  have wanted : State.parse filters.state = none := by
    rw [Option.eq_none_iff_forall_ne_some]
    intro s parsed
    exact unnamed s ((State.parse_exact _ _).mp parsed)
  refine (sortBy_perm ..).length_eq.trans ?_
  rw [wanted]
  simp [tableOf]

theorem providers_shown (all : List KeyRow) (filters : Filters) :
    (∀ provider, provider ∈ (tableOf all filters).providers ↔ ∃ row ∈ all, row.provider = provider) ∧
      (tableOf all filters).providers.Pairwise fun a b => compareTexts a b = .lt := by
  refine ⟨?_,dedup_strict _ (sortBy_sorted _ _)⟩
  intro provider
  simp only [tableOf,mem_dedup]
  rw [(sortBy_perm ..).mem_iff,List.mem_map]

-- What each value of `sort` comes to.
structure InOrder (sort : String) (rows : List KeyRow) : Prop where
  name : sort = "name" → rows.Pairwise fun a b =>
    (compareTexts (toLowercase a.displayName) (toLowercase b.displayName)).isLE = true
  rotated : sort = "rotated" → ∃ never dated, LeastRecentFirst rows never dated
  urgent : sort ≠ "name" → sort ≠ "rotated" → ∃ known unknown, MostUrgentFirst rows known unknown

theorem sorted_order {rows : List KeyRow} (sorted : rows.Pairwise fun a b => (rowOrder sort a b).isLE = true) :
    InOrder sort rows := by
  refine ⟨?_,?_,?_⟩
  · rintro rfl
    exact sorted
  · rintro rfl
    exact byRotated_parts sorted
  · intro unnamed unrotated
    rw [rowOrder,if_neg unnamed,if_neg unrotated] at sorted
    exact byDeadline_parts sorted

section Pages
variable [UrlCrate] [Format] {thresholds : Thresholds} {keys : List ApiKey} {filters : Filters} {now : Timestamp}

instance : DecidablePred (Fits thresholds filters now) := fun key =>
  decidable_of_iff _ (fits_exact thresholds filters now key)

-- What a table says of the keys it was made from.
structure Shows (thresholds : Thresholds) (keys : List ApiKey) (filters : Filters) (now : Timestamp) (table : Table) :
    Prop where
  total : table.total = keys.length
  bounded : table.matching ≤ table.total
  chips : chipSum table.counts = table.matching
  rows : table.rows.Perm
    ((keys.filter fun key => Fits thresholds filters now key).map fun key => .new key thresholds now)
  inState : ∀ s : State, s.asStr = filters.state → ∃ chip ∈ table.counts, chip.state = filters.state ∧
    chip.active = true ∧ table.rows.length = chip.count ∧ ∀ other ∈ table.counts, other.state = filters.state → other = chip
  anyState : (∀ s : State, s.asStr ≠ filters.state) → table.rows.length = table.matching
  sorted : table.rows.Pairwise fun a b => (rowOrder filters.sort a b).isLE = true
  providers : (∀ provider, provider ∈ table.providers ↔ ∃ key ∈ keys, key.spec.provider.asStr = provider) ∧
    table.providers.Pairwise fun a b => compareTexts a b = .lt

theorem keysTable_shows : Shows thresholds keys filters now (keysTable thresholds keys filters now) where
  total := List.length_map ..
  bounded := by
    change (searchRows _ _).length ≤ _
    rw [searchRows_filter]
    exact List.length_filter_le ..
  chips := countsOf_sum ..
  rows := by
    refine (rows_perm _ _).trans (.of_eq ?_)
    rw [List.filter_map]
    refine congrArg _ (List.filter_congr ?_)
    intro key _
    simp only [Function.comp,← fits_exact,Bool.decide_eq_true]
  inState := fun _ named => rows_counted _ named
  anyState := rows_unfiltered _
  sorted := sortBy_sorted ..
  providers := by
    obtain ⟨listed,strict⟩ := providers_shown (keys.map fun key => KeyRow.new key thresholds now) filters
    refine ⟨?_,strict⟩
    intro provider
    rw [keysTable,listed]
    simp only [List.mem_map,exists_exists_and_eq_and]
    rfl

-- A table is known once its rows are known in some strict order.
theorem Shows.rows_eq (shows : Shows thresholds keys filters now table)
    (same : ((keys.filter fun key => Fits thresholds filters now key).map fun key => .new key thresholds now).Perm expected)
    (sorted : expected.Pairwise fun a b => (rowOrder filters.sort a b).isLE = true)
    (strict : ∀ a ∈ expected, ∀ b ∈ expected, (rowOrder filters.sort a b).isLE = true →
      (rowOrder filters.sort b a).isLE = true → a = b) : table.rows = expected := by
  have perm := shows.rows.trans same
  refine perm.eq_of_pairwise ?_ shows.sorted sorted
  intro a b inRows listed
  exact strict a (perm.mem_iff.mp inRows) b listed

-- The table of a page, whole or alone.
def shownTable (thresholds : Thresholds) : Body → Option Table
  | .index _ keys filters now | .keysTable keys filters now => some (keysTable thresholds keys filters now)
  | _ => none

theorem index_shows [Crates] {state : AppState} {session : Session} {headers : HeaderMap}
    (path : Returns (Pages.index state session headers filters) events result) :
    ∃ now keys response, events = [⟨.now,now⟩,⟨.list,keys⟩] ∧ result = .ok response ∧
      shownTable thresholds response.body = some (keysTable thresholds keys filters now) := by
  simp only [Pages.index,bind_ask,returns_request] at path
  obtain ⟨now,_,rfl,keys,_,rfl,path⟩ := path
  split at path
  · obtain ⟨rfl,rfl⟩ := returns_done.mp path
    exact ⟨now,keys,_,rfl,rfl,rfl⟩
  · obtain ⟨rfl,rfl⟩ := returns_done.mp path
    exact ⟨now,keys,_,rfl,rfl,rfl⟩

theorem keys_table [Crates] (thresholds : Thresholds) (keys : List ApiKey) (filters : Filters) (now : Timestamp) :
    (∀ state session headers events result, Returns (Pages.index state session headers filters) events result →
      ∃ now keys response, events = [⟨.now,now⟩,⟨.list,keys⟩] ∧ result = .ok response ∧
        shownTable thresholds response.body = some (keysTable thresholds keys filters now)) ∧
    Shows thresholds keys filters now (keysTable thresholds keys filters now) ∧
    TransCmp (rowOrder filters.sort) ∧ InOrder filters.sort (keysTable thresholds keys filters now).rows ∧
    ∀ other : Filters, other.q = filters.q → other.provider = filters.provider →
      (keysTable thresholds keys other now).matching = (keysTable thresholds keys filters now).matching ∧
      (keysTable thresholds keys other now).counts.map (fun chip => (chip.state,chip.count)) =
        (keysTable thresholds keys filters now).counts.map fun chip => (chip.state,chip.count) := by
  have shows : Shows thresholds keys filters now (keysTable thresholds keys filters now) := keysTable_shows
  refine ⟨fun _ _ _ _ _ path => index_shows path,shows,rowOrder_trans _,sorted_order shows.sorted,?_⟩
  intro other search provider
  have searched : searchRows other = searchRows filters := by
    funext all
    simp only [searchRows,search,provider]
  simp only [keysTable,tableOf,searched,countsOf,List.map_map]
  exact ⟨trivial,rfl⟩

end Pages

end Rows

-- A database that knows no letters beyond ASCII, and a listing of three keys, one of them
-- without a deadline.
@[reducible] def asciiOnly : CaseTables := ⟨fun c => [c],fun _ => false,fun _ => false⟩

def freshKey : ApiKey where
  metadata := {name := some "fresh"}
  spec := {displayName := some "b"}

def expiring (name displayName : String) (rotated expiry : Timestamp) : ApiKey where
  metadata := {name := some name}
  spec := {displayName := some displayName}
  status := some {lastRotated := some rotated,expiresAt := some expiry}

def firstDay : Timestamp := ⟨86400000000000,by decide,by decide⟩
def tenthDay : Timestamp := ⟨864000000000000,by decide,by decide⟩
def lastDay : Timestamp := ⟨1728000000000000,by decide,by decide⟩

def threeKeys : List ApiKey := [freshKey,expiring "late" "C" .epoch lastDay,expiring "soon" "A" firstDay tenthDay]
def sortedBy (sort : String) : Filters := ⟨"","","",sort⟩
def rowNamed (key : ApiKey) : KeyRow := @KeyRow.new noUrls epochFormat key .default .epoch
def rowsOf (sort : String) : List KeyRow := (@keysTable asciiOnly noUrls epochFormat .default threeKeys (sortedBy sort) .epoch).rows

theorem threeKeys_shown :
    rowsOf "" = [threeKeys[2],threeKeys[1],threeKeys[0]].map rowNamed ∧
    rowsOf "rotated" = [threeKeys[0],threeKeys[1],threeKeys[2]].map rowNamed ∧
    rowsOf "name" = [threeKeys[2],threeKeys[0],threeKeys[1]].map rowNamed := by
  let _ := asciiOnly
  let _ := noUrls
  let _ := epochFormat
  have shows := fun sort => (@keys_table asciiOnly noUrls epochFormat visitCrates .default threeKeys (sortedBy sort) .epoch).2.1
  refine ⟨(shows "").rows_eq ?_ ?_ ?_,(shows "rotated").rows_eq ?_ ?_ ?_,(shows "name").rows_eq ?_ ?_ ?_⟩
  all_goals decide +kernel

end YouSpinMe.KeysTable
