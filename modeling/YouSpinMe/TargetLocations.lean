import YouSpinMe.AllowedPath

namespace YouSpinMe.TargetLocations
open Text Jiff Crd Validation Glob OpenBaoWriter AllowedPath

-- Two targets that are written to one address under one key.
def SameLocation [HttpCrates] (t u : OpenBaoTarget) : Prop :=
  (∀ bao : OpenBao, bao.url [t.mount,"data",t.path] = bao.url [u.mount,"data",u.path]) ∧ t.key = u.key

def duplicateProblem (i : Nat) (t : OpenBaoTarget) : String :=
  "targets[" ++ toString i ++ "]: duplicate target " ++ t.reference

def Reported [UrlCrate] (spec : ApiKeySpec) (allowed : PathAllowList) (targets : List OpenBaoTarget) : Prop :=
  ∃ i t, targets[i]? = some t ∧ duplicateProblem i t ∈ validate spec allowed

def Shared [HttpCrates] (targets : List OpenBaoTarget) : Prop :=
  ∃ (i j : Nat) (t u : OpenBaoTarget), i < j ∧ targets[i]? = some t ∧ targets[j]? = some u ∧ SameLocation t u

-- The targets that the check is made for.
structure Addressed (t : OpenBaoTarget) : Prop where
  mount : trim t.mount ≠ ""
  slashless : '/' ∉ t.mount.toList
  dotless : ".." ∉ split '/' t.path

def trimmedPath (t : OpenBaoTarget) : String := trimMatches isSlash t.path

-- The segments of mount and path that are neither empty nor dots.
def namedSegments (t : OpenBaoTarget) : List String := (t.mount :: "data" :: split '/' t.path).filter kept

-- Either one key stands under two spellings of one path, which differ in an empty segment
-- inside or in a dot; or a `#` in a path or key lets one text be cut in two ways.
def Confused (t u : OpenBaoTarget) : Prop :=
  (t.key = u.key ∧ namedSegments t = namedSegments u ∧ (t.mount ≠ u.mount ∨ trimmedPath t ≠ trimmedPath u)) ∨
  (t.mount = u.mount ∧ t.key ≠ u.key ∧ trimmedPath t ++ "#" ++ t.key = trimmedPath u ++ "#" ++ u.key)

theorem namedSegments_checked (t : OpenBaoTarget) : namedSegments t = (checkedSegments t).filter kept := by
  have dropped : ∀ path : List String, path.filter kept = (path.filter fun p => p ≠ "").filter kept := by
    intro path
    rw [List.filter_filter]
    apply List.filter_congr
    intro segment _
    grind [kept]
  have same : (split '/' t.path).filter kept = (split '/' (trimMatches isSlash t.path)).filter kept := by
    rw [dropped,dropped (split '/' (trimMatches isSlash t.path)),← parts_trimmed,parts]
  rw [namedSegments,checkedSegments]
  simp only [List.filter_cons,same]

theorem Addressed.filled (addressed : Addressed t) : t.mount ≠ "" := by
  intro empty
  exact addressed.mount (by rw [empty]; rfl)

theorem sameLocation_exact [HttpCrates] [PlainPush] (first : Addressed t) (second : Addressed u) :
    SameLocation t u ↔ namedSegments t = namedSegments u ∧ t.key = u.key := by
  rw [SameLocation,namedSegments_checked,namedSegments_checked,and_congr_left_iff]
  intro _
  constructor
  · intro same
    have built := same rootBao
    rw [url_segments first.slashless first.filled rfl,url_segments second.slashless second.filled rfl] at built
    exact List.append_cancel_left (Except.ok.inj built)
  · intro same bao
    cases hierarchical : bao.addr.hierarchical with
    | false => simp [OpenBao.url,hierarchical]
    | true =>
      rw [url_segments first.slashless first.filled hierarchical,
        url_segments second.slashless second.filled hierarchical,same]

theorem reference_exact (first : '/' ∉ t.mount.toList) (second : '/' ∉ u.mount.toList) :
    t.reference = u.reference ↔
      t.mount = u.mount ∧ trimmedPath t ++ "#" ++ t.key = trimmedPath u ++ "#" ++ u.key := by
  have shape : ∀ v : OpenBaoTarget, v.reference.toList =
      "openbao/".toList ++ (v.mount.toList ++ '/' :: (trimmedPath v ++ "#" ++ v.key).toList) := by
    intro v
    simp [OpenBaoTarget.reference,trimmedPath]
  rw [← String.toList_inj,shape,shape,List.append_cancel_left_eq,append_cons_cut first second,
    String.toList_inj,String.toList_inj]

theorem path_key_exact (t u : OpenBaoTarget) (key : t.key = u.key) :
    trimmedPath t ++ "#" ++ t.key = trimmedPath u ++ "#" ++ u.key ↔ trimmedPath t = trimmedPath u := by
  rw [key,String.append_left_inj,String.append_left_inj]

-- The reference decides the location of two targets exactly when they are not confused.
theorem reference_locates [HttpCrates] [PlainPush] (first : Addressed t) (second : Addressed u) :
    (t.reference = u.reference ↔ SameLocation t u) ↔ ¬Confused t u := by
  rw [reference_exact first.slashless second.slashless,sameLocation_exact first second,Confused]
  by_cases key : t.key = u.key
  · rw [path_key_exact t u key]
    have same : t.mount = u.mount ∧ trimmedPath t = trimmedPath u → namedSegments t = namedSegments u := by
      intro given
      obtain ⟨mount,path⟩ := given
      rw [trimmedPath,trimmedPath] at path
      rw [namedSegments_checked,namedSegments_checked,checkedSegments,checkedSegments,mount,path]
    grind
  · grind

theorem toString_closed (n : Nat) : ']' ∉ (toString n).toList := by
  intro member
  rw [Nat.toString_eq_repr,Nat.toList_repr] at member
  have digit := Nat.isDigit_of_mem_toDigits (by decide) (by decide) member
  exact absurd digit (by decide)

theorem toString_inj {i j : Nat} : (toString i).toList = (toString j).toList ↔ i = j := by
  constructor
  · intro same
    rw [Nat.toString_eq_repr,Nat.toString_eq_repr,Nat.toList_repr,Nat.toList_repr] at same
    have read := congrArg (fun digits => Nat.ofDigitChars 10 digits 0) same
    simpa using read
  · rintro rfl
    rfl

def entryText (i : Nat) (text : String) : String := "targets[" ++ toString i ++ "]" ++ text

-- The index of an entry is closed by a bracket, so a text tells its entry.
theorem entryText_inj {i j : Nat} {x y : String} : entryText i x = entryText j y ↔ i = j ∧ x = y := by
  have closed : "]".toList = [']'] := rfl
  rw [← String.toList_inj]
  simp only [entryText,String.toList_append,List.append_assoc,List.append_cancel_left_eq,closed,List.singleton_append]
  rw [append_cons_cut (toString_closed i) (toString_closed j),toString_inj,String.toList_inj]

theorem entryText_cut (i : Nat) {opening mark : String} (cut : opening = "]" ++ mark) (rest : String) :
    "targets[" ++ toString i ++ opening ++ rest = entryText i (mark ++ rest) := by
  rw [cut,entryText]
  simp only [String.append_assoc]

theorem duplicate_text (i : Nat) (t : OpenBaoTarget) :
    duplicateProblem i t = entryText i (": duplicate target " ++ t.reference) := by
  have cut : "]: duplicate target " = "]" ++ ": duplicate target " := rfl
  rw [duplicateProblem,entryText_cut i cut]

theorem blank_text (i : Nat) (field : String) :
    "targets[" ++ toString i ++ "].openbao." ++ field ++ " is empty" = entryText i (".openbao." ++ (field ++ " is empty")) := by
  have cut : "].openbao." = "]" ++ ".openbao." := rfl
  rw [String.append_assoc,entryText_cut i cut]

theorem invalid_text (i : Nat) :
    "targets[" ++ toString i ++ "].openbao: invalid mount or path" = entryText i ".openbao: invalid mount or path" := by
  have cut : "].openbao: invalid mount or path" = "]" ++ ".openbao: invalid mount or path" := rfl
  rw [entryText,cut]
  simp only [String.append_assoc]

theorem refused_text (i : Nat) (path patterns : String) :
    "targets[" ++ toString i ++ "]: " ++ path ++ " is not in allowedPaths (" ++ patterns ++ ")" =
      entryText i (": " ++ (path ++ (" is not in allowedPaths (" ++ (patterns ++ ")")))) := by
  have cut : "]: " = "]" ++ ": " := rfl
  rw [← entryText_cut i cut]
  simp only [String.append_assoc]

-- What the other checks of an entry say does not start like a duplicate does.
theorem duplicate_not_dotted (i j : Nat) (t : OpenBaoTarget) (dotted : text.toList.head? = some '.') :
    duplicateProblem i t ≠ entryText j text := by
  rw [duplicate_text]
  intro same
  rw [← (entryText_inj.mp same).2] at dotted
  simp at dotted

-- A policy path that starts like a duplicate of `openbao` has that mount, and
-- its reference then names the mount where the policy path has `data`.
theorem duplicate_not_refused (j : Nat) {t : OpenBaoTarget} (free : '/' ∉ t.mount.toList) (rest : String) :
    duplicateProblem j t ≠ entryText j (": " ++ (t.policyPath ++ rest)) := by
  intro same
  rw [duplicate_text,entryText_inj] at same
  have chars := congrArg String.toList same.2
  have left : (": duplicate target " ++ t.reference).toList = ": ".toList ++
      ("duplicate target openbao".toList ++ '/' :: (t.mount.toList ++ '/' :: (trimmedPath t ++ "#" ++ t.key).toList)) := by
    simp [OpenBaoTarget.reference,trimmedPath]
  have right : (": " ++ (t.policyPath ++ rest)).toList = ": ".toList ++
      (t.mount.toList ++ '/' :: ("data".toList ++ '/' :: (trimmedPath t ++ rest).toList)) := by
    simp [OpenBaoTarget.policyPath,trimmedPath,trimMatches_free free]
  have outer : '/' ∉ "duplicate target openbao".toList := by decide
  have inner : '/' ∉ "data".toList := by decide
  rw [left,right,List.append_cancel_left_eq,append_cons_cut outer free,append_cons_cut free inner] at chars
  have clash := chars.1.trans chars.2.1
  exact absurd clash (by decide)

theorem problems_indexed (member : problem ∈ openBaoProblems allowed i seen t) : ∃ text, problem = entryText i text := by
  have blank : ∀ field value, problem ∈ blankProblem i field value → ∃ text, problem = entryText i text := by
    intro field value member
    unfold blankProblem at member
    split at member
    · exact ⟨_,(List.mem_singleton.mp member).trans (blank_text i field)⟩
    · cases member
  simp only [openBaoProblems,List.mem_append] at member
  rcases member with ((((mount | path) | key) | invalid) | refused) | repeated
  · exact blank _ _ mount
  · exact blank _ _ path
  · exact blank _ _ key
  · split at invalid
    · exact ⟨_,(List.mem_singleton.mp invalid).trans (invalid_text i)⟩
    · cases invalid
  · split at refused
    · cases refused
    · exact ⟨_,(List.mem_singleton.mp refused).trans (refused_text i ..)⟩
  · split at repeated
    · exact ⟨_,(List.mem_singleton.mp repeated).trans (duplicate_text i t)⟩
    · cases repeated

theorem duplicate_entry {t : OpenBaoTarget} (free : '/' ∉ t.mount.toList) :
    duplicateProblem i t ∈ openBaoProblems allowed i seen t ↔ t.reference ∈ seen := by
  have blank : ∀ field value, duplicateProblem i t ∉ blankProblem i field value := by
    intro field value member
    unfold blankProblem at member
    split at member
    · exact duplicate_not_dotted i i t (by simp) ((List.mem_singleton.mp member).trans (blank_text i field))
    · cases member
  simp only [openBaoProblems,List.mem_append,blank,false_or]
  constructor
  · intro given
    rcases given with (invalid | refused) | repeated
    · split at invalid
      · exact absurd ((List.mem_singleton.mp invalid).trans (invalid_text i)) (duplicate_not_dotted i i t rfl)
      · cases invalid
    · split at refused
      · cases refused
      · exact absurd ((List.mem_singleton.mp refused).trans (refused_text i ..)) (duplicate_not_refused i free _)
    · split at repeated
      · assumption
      · cases repeated
  · intro member
    rw [if_pos member]
    exact .inr (List.mem_singleton.mpr rfl)

theorem targetProblems_member (targets : List OpenBaoTarget) :
    problem ∈ targetProblems allowed start seen (targets.map fun t => {openbao := some t}) ↔
      ∃ n t, targets[n]? = some t ∧ problem ∈ openBaoProblems allowed (start + n)
        (((targets.take n).map OpenBaoTarget.reference).reverse ++ seen) t := by
  induction targets generalizing start seen with
  | nil => simp [targetProblems]
  | cons u targets ih =>
    rw [List.map_cons,targetProblems,List.mem_append,ih]
    constructor
    · intro given
      rcases given with here | ⟨n,t,found,later⟩
      · exact ⟨0,u,rfl,by simpa using here⟩
      · refine ⟨n + 1,t,found,?_⟩
        simpa [Nat.add_assoc,Nat.add_comm 1] using later
    · intro given
      obtain ⟨n,t,found,member⟩ := given
      cases n with
      | zero =>
        cases found
        exact .inl (by simpa using member)
      | succ n =>
        refine .inr ⟨n,t,found,?_⟩
        simpa [Nat.add_assoc,Nat.add_comm 1] using member

-- The checks that come before those of the targets speak of `rotation` or `renewUrl`.
theorem other_problems [UrlCrate] (spec : ApiKeySpec) (member : problem ∈ validate spec allowed) :
    problem ∈ targetProblems allowed 0 [] spec.targets ∨ problem.toList.head? = some 'r' := by
  have duration : ∀ (field : String) value, field.toList.head? = some 'r' → problem ∈ durationProblem field value →
      problem.toList.head? = some 'r' := by
    intro field value start listed
    unfold durationProblem at listed
    split at listed
    · cases listed
    · split at listed
      · cases listed
      · rw [List.mem_singleton.mp listed]
        simp [start]
  have order : ∀ rotation, problem ∈ orderProblem rotation → problem.toList.head? = some 'r' := by
    intro rotation listed
    unfold orderProblem at listed
    split at listed
    · split at listed
      · rw [List.mem_singleton.mp listed]
        rfl
      · cases listed
    · cases listed
  have renew : ∀ url, problem ∈ renewUrlProblem url → problem.toList.head? = some 'r' := by
    intro url listed
    have one : ∀ text, problem ∈ ["renewUrl: " ++ text ++ " is not an http(s) URL"] → problem.toList.head? = some 'r' := by
      intro text single
      rw [List.mem_singleton.mp single]
      simp
    unfold renewUrlProblem at listed
    split at listed
    · cases listed
    · split at listed
      · split at listed
        · cases listed
        · exact one _ listed
      · exact one _ listed
  simp only [validate,List.mem_append] at member
  rcases member with ((((maxAge | warnBefore) | criticalBefore) | ordered) | renewed) | targets
  · exact .inr (duration _ _ rfl maxAge)
  · exact .inr (duration _ _ rfl warnBefore)
  · exact .inr (duration _ _ rfl criticalBefore)
  · exact .inr (order _ ordered)
  · exact .inr (renew _ renewed)
  · exact .inl targets

theorem duplicate_listed [UrlCrate] {targets : List OpenBaoTarget} (slashless : ∀ t ∈ targets, '/' ∉ t.mount.toList)
    (allowed : PathAllowList) (listed : spec.targets = targets.map fun t => {openbao := some t})
    (found : targets[i]? = some t) :
    duplicateProblem i t ∈ validate spec allowed ↔ t.reference ∈ (targets.take i).map OpenBaoTarget.reference := by
  have free := slashless t (List.mem_of_getElem? found)
  have starts : (duplicateProblem i t).toList.head? ≠ some 'r' := by
    rw [duplicate_text]
    simp [entryText]
  have among : duplicateProblem i t ∈ validate spec allowed ↔
      duplicateProblem i t ∈ targetProblems allowed 0 [] spec.targets := by
    constructor
    · intro member
      exact (other_problems spec member).resolve_right starts
    · intro member
      exact List.mem_append_right _ member
  rw [among,listed,targetProblems_member]
  simp only [Nat.zero_add,List.append_nil]
  constructor
  · intro given
    obtain ⟨n,u,entry,member⟩ := given
    obtain ⟨text,same⟩ := problems_indexed member
    rw [duplicate_text,entryText_inj] at same
    obtain ⟨rfl,_⟩ := same
    cases found.symm.trans entry
    rw [duplicate_entry free] at member
    exact List.mem_reverse.mp member
  · intro member
    exact ⟨i,t,found,(duplicate_entry free).mpr (List.mem_reverse.mpr member)⟩

instance (t u : OpenBaoTarget) : Decidable (Confused t u) := inferInstanceAs (Decidable (_ ∨ _))

theorem reported_exact [UrlCrate] {targets : List OpenBaoTarget} (slashless : ∀ t ∈ targets, '/' ∉ t.mount.toList)
    (allowed : PathAllowList) (listed : spec.targets = targets.map fun t => {openbao := some t}) :
    Reported spec allowed targets ↔ ∃ (i j : Nat) (t u : OpenBaoTarget),
      i < j ∧ targets[i]? = some t ∧ targets[j]? = some u ∧ t.reference = u.reference := by
  constructor
  · intro given
    obtain ⟨j,u,found,member⟩ := given
    rw [duplicate_listed slashless allowed listed found] at member
    obtain ⟨t,earlier,same⟩ := List.mem_map.mp member
    obtain ⟨i,entry⟩ := List.mem_iff_getElem?.mp earlier
    rw [List.getElem?_take] at entry
    split at entry
    · exact ⟨i,j,t,u,‹_›,entry,found,same⟩
    · cases entry
  · intro given
    obtain ⟨i,j,t,u,before,first,second,same⟩ := given
    refine ⟨j,u,second,(duplicate_listed slashless allowed listed second).mpr ?_⟩
    refine List.mem_map.mpr ⟨t,List.mem_iff_getElem?.mpr ⟨i,?_⟩,same⟩
    rw [List.getElem?_take,if_pos before,first]

theorem duplicates_exact [UrlCrate] [HttpCrates] [PlainPush] (spec : ApiKeySpec) (allowed : PathAllowList)
    (targets : List OpenBaoTarget) (listed : spec.targets = targets.map fun t => {openbao := some t})
    (addressed : ∀ t ∈ targets, Addressed t) :
    ((Reported spec allowed targets ↔ Shared targets) ∧
      ∀ t ∈ targets, ∀ u ∈ targets, t.reference = u.reference ↔ SameLocation t u) ↔
    ∀ t ∈ targets, ∀ u ∈ targets, ¬Confused t u := by
  have pairs : (∀ t ∈ targets, ∀ u ∈ targets, t.reference = u.reference ↔ SameLocation t u) ↔
      ∀ t ∈ targets, ∀ u ∈ targets, ¬Confused t u :=
    forall₂_congr fun t first => forall₂_congr fun u second =>
      reference_locates (addressed t first) (addressed u second)
  rw [← pairs,and_iff_right_iff_imp]
  intro decided
  rw [reported_exact (fun t member => (addressed t member).slashless) allowed listed]
  have located : ∀ {i : Nat} {t : OpenBaoTarget}, targets[i]? = some t → t ∈ targets := List.mem_of_getElem?
  constructor
  · intro given
    obtain ⟨i,j,t,u,before,first,second,same⟩ := given
    exact ⟨i,j,t,u,before,first,second,(decided t (located first) u (located second)).mp same⟩
  · intro given
    obtain ⟨i,j,t,u,before,first,second,same⟩ := given
    exact ⟨i,j,t,u,before,first,second,(decided t (located first) u (located second)).mpr same⟩

def specOf (targets : List OpenBaoTarget) : ApiKeySpec := {targets := targets.map fun t => {openbao := some t}}

-- The second target overwrites the first unnoticed; the `#` makes two targets look alike.
def spaced : List OpenBaoTarget := [⟨"secret","a//b","k"⟩,⟨"secret","a/b","k"⟩]
def hashed : List OpenBaoTarget := [⟨"secret","a#b","c"⟩,⟨"secret","a","b#c"⟩]
def separate : List OpenBaoTarget := [⟨"secret","a/b","k"⟩,⟨"secret","/a","b"⟩]

theorem addressed_all {targets : List OpenBaoTarget}
    (all : ∀ t ∈ targets, trim t.mount ≠ "" ∧ '/' ∉ t.mount.toList ∧ ".." ∉ split '/' t.path) :
    ∀ t ∈ targets, Addressed t := by
  intro t member
  obtain ⟨mount,slashless,dotless⟩ := all t member
  exact ⟨mount,slashless,dotless⟩

theorem duplicates_missed : let _ := noUrls; let _ := plainHttp
    (Shared spaced ∧ validate (specOf spaced) .allowAll = []) ∧
    ¬Shared hashed ∧ Reported (specOf hashed) .allowAll hashed := by
  let _ := noUrls
  let _ := plainHttp
  let _ := plainHttp_push
  refine ⟨⟨⟨0,1,_,_,by decide,rfl,rfl,?_⟩,?_⟩,?_,?_⟩
  · have addressed : ∀ t ∈ spaced, Addressed t := addressed_all (by decide)
    exact (sameLocation_exact (addressed _ (by decide)) (addressed _ (by decide))).mpr (by decide)
  · exact (validate_plain _ _).trans (by decide)
  · intro given
    obtain ⟨i,j,t,u,before,first,second,_,key⟩ := given
    match i,j with
    | 0,1 =>
      cases first
      cases second
      exact absurd key (by decide)
    | _,_ + 2 => cases second
    | _ + 1,1 => exact absurd before (by omega)
  · exact ⟨1,_,rfl,(duplicate_listed (by decide) .allowAll rfl rfl).mpr (by decide)⟩

theorem separate_detected : let _ := noUrls; let _ := plainHttp
    (Reported (specOf separate) .allowAll separate ↔ Shared separate) ∧
      ∀ t ∈ separate, ∀ u ∈ separate, t.reference = u.reference ↔ SameLocation t u := by
  let _ := noUrls
  let _ := plainHttp
  let _ := plainHttp_push
  exact (duplicates_exact (specOf separate) .allowAll separate rfl (addressed_all (by decide))).mpr (by decide)

end YouSpinMe.TargetLocations
