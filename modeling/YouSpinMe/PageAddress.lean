import YouSpinMe.FormPairs
import YouSpinMe.Web

namespace YouSpinMe.PageAddress
open RequestProgram Effects FormPairs Validation Identity Http Web Text Jiff Crd

-- The routes that answer a GET with a page, a redirect or a file.
def servesGet : Route → Bool
  | .index | .detail _ | .login | .callback | .asset _ => true
  | .record _ | .rotate _ | .logout | .unknown => false

def pagePath (reference : String) : String := String.ofList (reference.toList.takeWhile (· ≠ '?'))

def Served (reference : String) : Prop := servesGet (routeOf (pagePath reference)) = true

-- The request that a reference of path and query is followed by.
structure Gets (reference : String) (request : Request) : Prop where
  method : request.method = .get
  target : request.pathAndQuery = reference
  cut : '?' ∉ request.path.toList

-- A path ends at the first `?`, and a request target is text for a header.
structure OnTheWire (request : Request) : Prop where
  cut : '?' ∉ request.path.toList
  visible : (asBytes request.pathAndQuery).all headerByte = true

-- What follows the path in a request target.
def afterPath (query : Option String) : List Char := query.elim [] fun text => '?' :: text.toList

theorem pathAndQuery_list (request : Request) :
    request.pathAndQuery.toList = request.path.toList ++ afterPath request.query := by
  unfold Request.pathAndQuery afterPath
  cases request.query with
  | none => simp
  | some query => simp

theorem takeWhile_cut {front : List Char} (free : '?' ∉ front) (query : Option String) :
    (front ++ afterPath query).takeWhile (· ≠ '?') = front := by
  have passed : ∀ c ∈ front, decide (c ≠ '?') = true := by
    intro c member
    exact decide_eq_true (ne_of_mem_of_not_mem member free)
  rw [List.takeWhile_append_of_pos passed]
  cases query with
  | none => exact List.append_nil _
  | some text => simp [afterPath]

theorem pagePath_request {request : Request} (cut : '?' ∉ request.path.toList) :
    pagePath request.pathAndQuery = request.path := by
  rw [pagePath,pathAndQuery_list,takeWhile_cut cut,String.ofList_toList]

-- A reference is followed by one path and one query.
theorem gets_parts (first : Gets reference a) (second : Gets reference b) : a.path = b.path ∧ a.query = b.query := by
  have path : a.path = b.path := by
    rw [← pagePath_request first.cut,← pagePath_request second.cut,first.target,second.target]
  have whole := congrArg String.toList (first.target.trans second.target.symm)
  rw [pathAndQuery_list,pathAndQuery_list,path,List.append_cancel_left_eq] at whole
  refine ⟨path,?_⟩
  cases own : a.query with
  | none =>
    cases other : b.query with
    | none => rfl
    | some text => simp [own,other,afterPath] at whole
  | some query =>
    cases other : b.query with
    | none => simp [own,other,afterPath] at whole
    | some text =>
      simp only [own,other,afterPath,Option.elim_some,List.cons.injEq,true_and,String.toList_inj] at whole
      rw [whole]

-- A path that has a route starts with one slash.
theorem routed_split (routed : routeOf path ≠ .unknown) :
    ∃ second rest, split '/' path = "" :: second :: rest ∧ (second = "" → rest = []) := by
  unfold routeOf at routed
  split at routed
  · rename_i parts
    exact ⟨"",[],parts,fun _ => rfl⟩
  · rename_i name parts
    exact ⟨"keys",[name],parts,by simp⟩
  · rename_i name parts
    exact ⟨"keys",[name,"record"],parts,by simp⟩
  · rename_i name parts
    exact ⟨"keys",[name,"rotate"],parts,by simp⟩
  · rename_i parts
    exact ⟨"auth",["login"],parts,by simp⟩
  · rename_i parts
    exact ⟨"auth",["callback"],parts,by simp⟩
  · rename_i parts
    exact ⟨"auth",["logout"],parts,by simp⟩
  · rename_i rest parts
    exact ⟨"assets",rest,parts,by simp⟩
  · exact absurd rfl routed

theorem routed_slash (routed : routeOf path ≠ .unknown) :
    path.toList.head? = some '/' ∧ ¬['/','/'] <+: path.toList := by
  obtain ⟨second,rest,parts,single⟩ := routed_split routed
  rw [split] at parts
  cases chars : path.toList with
  | nil => simp [chars] at parts
  | cons c tail =>
    rw [chars,List.splitOn_cons_eq_if_modifyHead] at parts
    by_cases first : c = '/'
    · subst first
      refine ⟨rfl,?_⟩
      intro double
      obtain ⟨more,rfl⟩ := (List.cons_prefix_cons.mp double).2
      simp only [beq_self_eq_true,if_true,List.map_cons,List.cons.injEq,List.singleton_append,
        List.splitOn_cons_eq_if_modifyHead] at parts
      obtain ⟨_,empty,others⟩ := parts
      have none := others.trans (single empty.symm)
      exact List.splitOn_ne_nil '/' more (List.map_eq_nil_iff.mp none)
    · cases pieces : tail.splitOn '/' with
      | nil => exact absurd pieces (List.splitOn_ne_nil '/' tail)
      | cons piece pieces => simp [first,pieces] at parts

theorem routed_next (routed : routeOf (pagePath reference) ≠ .unknown) :
    safeNext (some reference) = if '\\' ∈ reference.toList then "/" else reference := by
  obtain ⟨first,single⟩ := routed_slash routed
  rw [pagePath,String.toList_ofList] at first single
  obtain ⟨tail,path⟩ := List.head?_eq_some_iff.mp first
  obtain ⟨back,whole⟩ := List.takeWhile_prefix (l := reference.toList) (· ≠ '?')
  have starts : reference.toList.head? = some '/' := by
    rw [← whole,path]
    rfl
  have alone : ¬['/','/'] <+: reference.toList := by
    intro double
    obtain ⟨more,shape⟩ := double
    refine single ⟨more.takeWhile (· ≠ '?'),?_⟩
    rw [← shape]
    rfl
  unfold safeNext
  by_cases back : '\\' ∈ reference.toList
  · simp [back]
  · simp [back,starts,alone]

theorem served_index : Served "/" := by
  have path : pagePath "/" = "/" := by decide
  rw [Served,path]
  decide

theorem safeNext_kept (reference : String) : safeNext (some reference) = reference ∨ safeNext (some reference) = "/" := by
  simp only [safeNext]
  split
  · exact .inl rfl
  · exact .inr rfl

theorem served_kept (served : Served reference) : Served (safeNext (some reference)) := by
  rcases safeNext_kept reference with same | home
  · rw [same]
    exact served
  · rw [home]
    exact served_index

-- Any other GET is answered at once, as one for nothing or for a form.
theorem unserved_answer [Crates] [UrlCrate] [Format] {request : Request} (method : request.method = .get)
    (unserved : servesGet (routeOf request.path) = false) : routes state request =
      pure (if routeOf request.path = .unknown then AppError.intoResponse (.notFound "page not found")
        else methodNotAllowed "POST") := by
  unfold routes
  cases route : routeOf request.path with
  | index | detail | login | callback | asset =>
    rw [route] at unserved
    cases unserved
  | record | rotate | logout => simp [post,method]
  | unknown => rfl

-- The address of a login that comes back to a page.
def loginAddress (next : String) : String := "/auth/login?next=" ++ urlencode next

def loginVisit (next : String) : Request :=
  {method := .get, path := "/auth/login", query := some ("next=" ++ urlencode next)}

theorem login_gets (next : String) : Gets (loginAddress next) (loginVisit next) := by
  have front : "/auth/login?next=" = "/auth/login" ++ "?" ++ "next=" := rfl
  have target : loginAddress next = "/auth/login" ++ "?" ++ ("next=" ++ urlencode next) :=
    (congrArg (· ++ urlencode next) front).trans String.append_assoc
  exact ⟨rfl,target.symm,(by decide : '?' ∉ "/auth/login".toList)⟩

theorem login_parts (gets : Gets (loginAddress next) request) :
    request.path = "/auth/login" ∧ request.query = some ("next=" ++ urlencode next) :=
  gets_parts gets (login_gets next)

theorem urlencode_visible (s : String) : (asBytes (urlencode s)).all headerByte = true := by
  have encoded : ∀ n < 256, (encodedByte (UInt8.ofNat n)).all headerByte = true := by decide +kernel
  rw [urlencode_bytes,List.all_flatMap,List.all_eq_true]
  intro b _
  have fits := encoded b.toNat b.toNat_lt
  rwa [UInt8.ofNat_toNat] at fits

theorem append_visible {front back : Bytes} (first : front.all headerByte = true) (second : back.all headerByte = true) :
    (front ++ back).all headerByte = true := by
  rw [List.all_append,first,second]
  rfl

theorem loginAddress_visible (next : String) : (asBytes (loginAddress next)).all headerByte = true := by
  have front : (asBytes "/auth/login?next=").all headerByte = true := by decide
  have whole : asBytes (loginAddress next) = asBytes "/auth/login?next=" ++ asBytes (urlencode next) := asBytes_append ..
  exact whole ▸ append_visible front (urlencode_visible next)

end YouSpinMe.PageAddress
