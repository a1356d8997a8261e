import YouSpinMe.Glob
import YouSpinMe.OpenBaoWriter

namespace YouSpinMe.AllowedPath
open Text Effects Crd Validation Glob OpenBaoWriter

-- The path that a request for a target names below `/v1/`, percent-decoded.
def apiPath [HttpCrates] (bao : OpenBao) (url : List String) : String :=
  join (url.drop (HttpCrates.push bao.addr.base "v1").length)

def kept (segment : String) : Bool := segment ≠ "" ∧ segment ≠ "." ∧ segment ≠ ".."

-- The segments of the path that is checked.
def checkedSegments (t : OpenBaoTarget) : List String :=
  t.mount :: "data" :: split '/' (trimMatches isSlash t.path)

-- No segment of the checked path is one that the address drops.
structure Plain (t : OpenBaoTarget) : Prop where
  mount : t.mount ≠ "." ∧ t.mount ≠ ".."
  path : ∀ segment ∈ split '/' (trimMatches isSlash t.path), segment ≠ "" ∧ segment ≠ "."

theorem push_foldl [HttpCrates] [PlainPush] (base segments : List String) :
    segments.foldl HttpCrates.push base = base ++ segments.filter fun s => s ≠ "." ∧ s ≠ ".." := by
  induction segments generalizing base with
  | nil => simp
  | cons segment segments ih =>
    rw [List.foldl_cons,ih,PlainPush.push_exact]
    by_cases dot : segment = "."
    · simp [dot]
    · by_cases dots : segment = ".."
      · simp [dots]
      · simp [dot,dots]

theorem trimMatches_free {s : String} (free : '/' ∉ s.toList) : trimMatches isSlash s = s := by
  have other : ∀ c ∈ s.toList, isSlash c = false := by
    intro c member
    simp only [isSlash,beq_eq_false_iff_ne]
    exact fun same => free (same ▸ member)
  rw [trimMatches,trimChars_fixed,String.ofList_toList]
  · intro nonempty
    exact other _ (List.head_mem nonempty)
  · intro nonempty
    exact other _ (List.getLast_mem nonempty)

-- Outer slashes only add empty segments.
theorem filled_dropWhile (chars : List Char) :
    ((chars.dropWhile isSlash).splitOn '/').filter (· ≠ []) = (chars.splitOn '/').filter (· ≠ []) := by
  induction chars with
  | nil => rfl
  | cons c chars ih =>
    by_cases slash : c = '/'
    · subst slash
      rw [List.dropWhile_cons_of_pos (by simp [isSlash]),ih,List.splitOn_cons_eq_if_modifyHead]
      simp
    · rw [List.dropWhile_cons_of_neg (by simp [isSlash,slash])]

theorem filled_rdropWhile (chars : List Char) :
    ((chars.rdropWhile isSlash).splitOn '/').filter (· ≠ []) = (chars.splitOn '/').filter (· ≠ []) := by
  induction chars using List.reverseRecOn with
  | nil => rfl
  | append_singleton chars c ih =>
    by_cases slash : c = '/'
    · subst slash
      rw [List.rdropWhile_concat_pos isSlash _ _ (by simp [isSlash]),ih,List.splitOn_append_cons_self]
      simp
    · rw [List.rdropWhile_concat_neg isSlash _ _ (by simp [isSlash,slash])]

theorem parts_trimmed (path : String) :
    parts path = (split '/' (trimMatches isSlash path)).filter fun p => p ≠ "" := by
  have ofList_filter : ∀ chars : List Char, (split '/' (String.ofList chars)).filter (fun p => p ≠ "") =
      ((chars.splitOn '/').filter (· ≠ [])).map String.ofList := by
    intro chars
    rw [split,String.toList_ofList,List.filter_map]
    congr 1
    apply List.filter_congr
    intro segment _
    simp
  have same := ofList_filter path.toList
  rw [String.ofList_toList] at same
  rw [parts,same,trimMatches,ofList_filter,trimChars,filled_rdropWhile,filled_dropWhile]

theorem parts_single {s : String} (free : '/' ∉ s.toList) (filled : s ≠ "") : parts s = [s] := by
  simp [parts,split,List.splitOn_eq_singleton free,filled]

-- The address drops exactly the segments that are not kept.
theorem url_segments [HttpCrates] [PlainPush] {bao : OpenBao} (free : '/' ∉ t.mount.toList) (filled : t.mount ≠ "")
    (hierarchical : bao.addr.hierarchical = true) :
    bao.url [t.mount,"data",t.path] = .ok (HttpCrates.push bao.addr.base "v1" ++ (checkedSegments t).filter kept) := by
  have data : parts "data" = ["data"] := parts_single (by decide) (by decide)
  have tail : ∀ segments : List String,
      (segments.filter fun p => p ≠ "").filter (fun s => s ≠ "." ∧ s ≠ "..") = segments.filter kept := by
    intro segments
    rw [List.filter_filter]
    apply List.filter_congr
    intro segment _
    simp [kept,Bool.and_comm]
  have first : kept t.mount = decide (t.mount ≠ "." ∧ t.mount ≠ "..") := by simp [kept,filled]
  have second : kept "data" = true := by decide
  rw [OpenBao.url,if_pos hierarchical,push_foldl]
  simp only [List.flatMap_cons,List.flatMap_nil,List.append_nil,parts_single free filled,data,
    parts_trimmed t.path,checkedSegments,List.filter_cons,List.singleton_append,tail,first,second]
  rfl

theorem url_kept [HttpCrates] [PlainPush] {bao : OpenBao} (free : '/' ∉ t.mount.toList) (filled : t.mount ≠ "")
    (found : bao.url [t.mount,"data",t.path] = .ok url) :
    apiPath bao url = join ((checkedSegments t).filter kept) := by
  cases hierarchical : bao.addr.hierarchical with
  | false => simp [OpenBao.url,hierarchical] at found
  | true =>
    rw [url_segments free filled hierarchical] at found
    cases found
    rw [apiPath,List.drop_left]

theorem policyPath_join (free : '/' ∉ t.mount.toList) : t.policyPath = join (checkedSegments t) := by
  cases shape : split '/' (trimMatches isSlash t.path) with
  | nil => exact absurd shape (split_ne_nil _ _)
  | cons first rest =>
    have back := join_split (trimMatches isSlash t.path)
    rw [shape] at back
    have slashes : "/data/" = "/" ++ "data" ++ "/" := by decide
    rw [OpenBaoTarget.policyPath,trimMatches_free free,checkedSegments,shape,← back,slashes]
    simp only [join,String.intercalate_cons_cons,String.append_assoc]

theorem checkedSegments_free (free : '/' ∉ t.mount.toList) :
    ∀ segment ∈ checkedSegments t, '/' ∉ segment.toList := by
  intro segment member
  simp only [checkedSegments,List.mem_cons] at member
  rcases member with rfl | rfl | path
  · exact free
  · decide
  · exact split_free path

theorem dotless_trimmed {path : String} (dotless : ".." ∉ split '/' path) :
    ".." ∉ split '/' (trimMatches isSlash path) := by
  intro member
  have listed : ".." ∈ parts path := by
    rw [parts_trimmed,List.mem_filter]
    exact ⟨member,by decide⟩
  exact dotless (List.mem_filter.mp listed).1

theorem plain_kept (accepted : Accepted allowed t) : Plain t ↔ ∀ segment ∈ checkedSegments t, kept segment = true := by
  have filled : t.mount ≠ "" := by
    intro empty
    exact accepted.mount (by rw [empty]; rfl)
  have dotless := dotless_trimmed accepted.dotless
  simp only [checkedSegments,List.forall_mem_cons,kept,decide_eq_true_eq]
  refine ⟨?_,?_⟩
  · intro plain
    refine ⟨⟨filled,plain.mount⟩,by decide,?_⟩
    intro segment member
    obtain ⟨nonempty,dot⟩ := plain.path segment member
    exact ⟨nonempty,dot,fun same => dotless (same ▸ member)⟩
  · intro all
    obtain ⟨mount,_,path⟩ := all
    exact ⟨mount.2,fun segment member => ⟨(path segment member).1,(path segment member).2.1⟩⟩

-- A pattern that takes the checked path of a target and no shorter one.
def shapeSegment (segment : String) : String := if segment = "" then "" else "+"
def shapePattern (t : OpenBaoTarget) : String := join ((checkedSegments t).map shapeSegment)

theorem shapeSegment_chars {segment : String} {c : Char} (member : c ∈ (shapeSegment segment).toList) : c = '+' := by
  unfold shapeSegment at member
  split at member
  · simp at member
  · simpa using member

theorem shapePattern_chars {c : Char} (member : c ∈ (shapePattern t).toList) : c = '/' ∨ c = '+' := by
  rcases mem_join member with slash | ⟨segment,listed,inside⟩
  · exact .inl slash
  · obtain ⟨original,_,rfl⟩ := List.mem_map.mp listed
    exact .inr (shapeSegment_chars inside)

theorem shapePattern_split (t : OpenBaoTarget) :
    split '/' (shapePattern t) = (checkedSegments t).map shapeSegment := by
  apply split_join
  · intro segment listed
    obtain ⟨original,_,rfl⟩ := List.mem_map.mp listed
    intro slash
    cases shapeSegment_chars slash
  · simp [checkedSegments]

theorem shapePattern_trimmed (filled : t.mount ≠ "") : trim (shapePattern t) = shapePattern t ∧ shapePattern t ≠ "" := by
  refine ⟨?_,?_⟩
  · have visible : ∀ c ∈ (shapePattern t).toList, isWhitespace c = false := by
      intro c member
      rcases shapePattern_chars member with rfl | rfl
      · decide
      · decide
    rw [trim,trimMatches,trimChars_fixed,String.ofList_toList]
    · intro nonempty
      exact visible _ (List.head_mem nonempty)
    · intro nonempty
      exact visible _ (List.getLast_mem nonempty)
  · intro empty
    have shape := shapePattern_split t
    have bare : split '/' "" = [""] := by decide
    rw [empty,bare,checkedSegments,List.map_cons,shapeSegment,if_neg filled] at shape
    simp at shape

def shapeList (t : OpenBaoTarget) (filled : t.mount ≠ "") : PathAllowList where
  patterns := [shapePattern t]
  trimmed := by
    intro pattern member
    rw [List.mem_singleton.mp member]
    exact shapePattern_trimmed filled

theorem shapeList_allows (t : OpenBaoTarget) (filled : t.mount ≠ "") (path : String) :
    (shapeList t filled).allows path = true ↔ List.Forall₂
      (fun segment current : String => matchesSegment (shapeSegment segment).toList current.toList = true)
      (checkedSegments t) (split '/' path) := by
  have literal : (shapePattern t).toList.getLast? ≠ some '*' := by
    intro last
    rcases shapePattern_chars (List.mem_of_getLast? last) with slash | plus
    · cases slash
    · cases plus
  rw [PathAllowList.allows,shapeList,List.any_cons,List.any_nil,Bool.or_false,globMatch_exact literal,
    shapePattern_split,List.forall₂_map_left_iff]

theorem matches_shape (segment : String) : matchesSegment (shapeSegment segment).toList segment.toList = true := by
  unfold shapeSegment
  split
  · rename_i empty
    subst empty
    rfl
  · rename_i filled
    simp [matchesSegment,filled]

-- The pattern accepts the target, and only a target that nothing is dropped from
-- is then allowed to write where it writes.
theorem shapeList_accepts (accepted : Accepted allowed t) (filled : t.mount ≠ "") :
    Accepted (shapeList t filled) t := by
  refine ⟨accepted.mount,accepted.path,accepted.key,accepted.dotless,accepted.slashless,?_⟩
  rw [policyPath_join accepted.slashless,shapeList_allows,split_join (checkedSegments_free accepted.slashless)]
  · exact List.forall₂_same.mpr fun segment _ => matches_shape segment
  · simp [checkedSegments]

theorem shapeList_exact (accepted : Accepted allowed t) (filled : t.mount ≠ "")
    (allows : (shapeList t filled).allows (join ((checkedSegments t).filter kept)) = true) : Plain t := by
  rw [shapeList_allows,split_join] at allows
  · have lengths := allows.length_eq
    rw [plain_kept accepted,← List.filter_eq_self]
    exact List.filter_sublist.eq_of_length lengths.symm
  · intro segment member
    exact checkedSegments_free accepted.slashless segment (List.mem_filter.mp member).1
  · intro empty
    have data : "data" ∈ (checkedSegments t).filter kept := by
      rw [List.mem_filter]
      exact ⟨by simp [checkedSegments],by decide⟩
    simp [empty] at data

theorem mount_filled (accepted : Accepted allowed t) : t.mount ≠ "" := by
  intro empty
  exact accepted.mount (by rw [empty]; rfl)

theorem accepted_target [UrlCrate] (valid : validate spec allowed = [])
    (member : {openbao := some t} ∈ spec.targets) : Accepted allowed t := by
  obtain ⟨other,same,accepted⟩ := validate_targets valid member
  cases same
  exact accepted

theorem validate_single [UrlCrate] (accepted : Accepted allowed t) :
    validate {targets := [{openbao := some t}]} allowed = [] := by
  rw [validate_plain,targetProblems_nil]
  simp [accepted]

theorem allow_list_exact [UrlCrate] [HttpCrates] [PlainPush] (t : OpenBaoTarget)
    (possible : ∃ allowed spec, validate spec allowed = [] ∧ {openbao := some t} ∈ spec.targets) :
    (∀ (bao : OpenBao) url allowed spec, bao.url [t.mount,"data",t.path] = .ok url → validate spec allowed = [] →
      {openbao := some t} ∈ spec.targets → allowed.allows (apiPath bao url) = true) ↔ Plain t := by
  obtain ⟨allowed,spec,valid,member⟩ := possible
  have accepted := accepted_target valid member
  have filled := mount_filled accepted
  refine ⟨?_,?_⟩
  · intro holds
    have url : OpenBao.url ⟨⟨[],true⟩,.tokenFile ""⟩ [t.mount,"data",t.path] = .ok _ := rfl
    have allows := holds _ _ _ _ url (validate_single (shapeList_accepts accepted filled)) (by simp)
    rw [url_kept accepted.slashless filled url] at allows
    exact shapeList_exact accepted filled allows
  · intro plain bao url other spec found valid member
    have checked := (accepted_target valid member).allowed
    rw [policyPath_join accepted.slashless] at checked
    rw [url_kept accepted.slashless filled found,List.filter_eq_self.mpr ((plain_kept accepted).mp plain)]
    exact checked

-- A dot segment is matched by `+` and then left out of the address.
def dotted : OpenBaoTarget := ⟨"secret","./x","k"⟩
def oneLevel : PathAllowList := .new ["secret/data/+/x"]
def rootBao : OpenBao := ⟨⟨[],true⟩,.tokenFile "/token"⟩

theorem dotted_escapes : let _ := noUrls; let _ := plainHttp
    validate {targets := [{openbao := some dotted}]} oneLevel = [] ∧
    rootBao.url [dotted.mount,"data",dotted.path] = .ok ["v1","secret","data","x"] ∧
    oneLevel.allows (apiPath rootBao ["v1","secret","data","x"]) = false := by
  let _ := noUrls
  let _ := plainHttp
  exact ⟨(validate_plain [{openbao := some dotted}] oneLevel).trans (by decide),by decide,by decide⟩

theorem plain_allowed : let _ := plainHttp
    oneLevel.allows (apiPath rootBao ["v1","secret","data","ci","x"]) = true := by
  let _ := noUrls
  let _ := plainHttp
  let _ := plainHttp_push
  let plain : OpenBaoTarget := ⟨"secret","ci/x","k"⟩
  have valid : validate {targets := [{openbao := some plain}]} oneLevel = [] :=
    (validate_plain [{openbao := some plain}] oneLevel).trans (by decide)
  have segments : Plain plain := ⟨by decide,by decide⟩
  exact (allow_list_exact plain ⟨_,_,valid,by simp⟩).mpr segments rootBao _ _ _ (by decide) valid (by simp)

end YouSpinMe.AllowedPath
