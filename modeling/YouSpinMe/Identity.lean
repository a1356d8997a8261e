import YouSpinMe.Crd

namespace YouSpinMe.Identity
open Text Jiff Crd

inductive AppError where
  | notFound (message : String)
  | badRequest (message : String)
  | unauthorized (message : String)
  | forbidden (message : String)
  | upstream (message : String)
  | internal (message : String)
  deriving DecidableEq

def AppError.text : AppError → String
  | .notFound message | .badRequest message | .unauthorized message | .forbidden message | .upstream message
  | .internal message => message

-- Names in lower case, values as bytes. `get` finds the first value of a name,
-- and `to_str` reads a value of tabs and visible ASCII only.
abbrev HeaderMap := List (String × Bytes)

def HeaderMap.get (headers : HeaderMap) (name : String) : Option Bytes := headers.lookup name
def HeaderMap.contains (headers : HeaderMap) (name : String) : Bool := (headers.get name).isSome

def visibleAscii (b : UInt8) : Bool := b == 9 || (32 ≤ b && b < 127)

def toStr (value : Bytes) : Option String :=
  if value.all visibleAscii then some (String.ofList (value.map fun b => Char.ofNat b.toNat)) else none

def HeaderMap.text (headers : HeaderMap) (name : String) : Option String := (headers.get name).bind toStr

def CLOCK_SKEW_SECS : Int := 60
def CSRF_HEADER : String := "x-csrf-token"

def constantTimeEq (a b : Bytes) : Bool :=
  if a.length ≠ b.length then false
  else (a.zip b).foldl (fun acc pair => acc ||| (pair.1 ^^^ pair.2)) 0 == 0

-- Nothing that was found different is forgotten by the rest of the loop.
theorem differences_zero (pairs : List (UInt8 × UInt8)) (acc : UInt8) :
    pairs.foldl (fun acc pair => acc ||| (pair.1 ^^^ pair.2)) acc = 0 ↔
      acc = 0 ∧ ∀ pair ∈ pairs, pair.1 = pair.2 := by
  induction pairs generalizing acc with
  | nil => simp
  | cons pair pairs ih =>
    rw [List.foldl_cons,ih,UInt8.or_eq_zero_iff,UInt8.xor_eq_zero_iff,List.forall_mem_cons,and_assoc]

theorem zip_equal {a b : Bytes} (same : a.length = b.length) : (∀ pair ∈ a.zip b, pair.1 = pair.2) ↔ a = b := by
  induction a generalizing b with
  | nil => simp [List.eq_nil_of_length_eq_zero same.symm]
  | cons x a ih =>
    cases b with
    | nil => simp at same
    | cons y b =>
      rw [List.zip_cons_cons,List.forall_mem_cons,ih (Nat.succ.inj same)]
      simp

theorem constantTimeEq_exact {a b : Bytes} : constantTimeEq a b = true ↔ a = b := by
  unfold constantTimeEq
  split
  · rename_i different
    refine iff_of_false (by simp) ?_
    intro equal
    exact different (congrArg List.length equal)
  · rename_i same
    rw [beq_iff_eq,differences_zero,zip_equal (by simpa using same)]
    simp

theorem constantTimeEq_text (a b : String) : constantTimeEq (asBytes a) (asBytes b) = true ↔ a = b := by
  rw [constantTimeEq_exact,asBytes_inj]

structure Session where
  sub : String
  name : String
  admin : Bool
  csrf : String
  authTime : Option Int
  exp : Int
  deriving DecidableEq

namespace Session

def isExpired (s : Session) (now : Timestamp) : Bool := s.exp ≤ now.asSecond

def actor (s : Session) : Actor := ⟨s.sub,s.name⟩

def freshEnough (s : Session) (maxAge : Option SignedDuration) (now : Timestamp) : Bool :=
  match maxAge with
  | none => true
  | some age => s.authTime.any fun t =>
    t ≤ wrap (now.asSecond + CLOCK_SKEW_SECS) && wrap (now.asSecond - t) ≤ wrap (age.asSecs + CLOCK_SKEW_SECS)

end Session

-- The token a request presents: the header when it can be read, else the form.
def providedToken (headers : HeaderMap) (formToken : Option String) : Option String :=
  (headers.text CSRF_HEADER).or formToken

def Session.checkCsrf (s : Session) (headers : HeaderMap) (formToken : Option String) : Except AppError Unit :=
  if constantTimeEq (asBytes ((providedToken headers formToken).getD "")) (asBytes s.csrf) then .ok ()
  else .error (.forbidden "invalid or missing CSRF token")

theorem checkCsrf_provided (s : Session) (headers : HeaderMap) (formToken : Option String) :
    s.checkCsrf headers formToken = .ok () ↔ (providedToken headers formToken).getD "" = s.csrf := by
  unfold Session.checkCsrf
  rw [← constantTimeEq_text]
  split
  · rename_i equal
    exact iff_of_true rfl equal
  · rename_i different
    exact iff_of_false (by simp) different

theorem checkCsrf_error {s : Session} {headers : HeaderMap} {formToken : Option String}
    (refused : s.checkCsrf headers formToken = .error e) : e = .forbidden "invalid or missing CSRF token" := by
  unfold Session.checkCsrf at refused
  split at refused
  · cases refused
  · cases refused
    rfl

theorem checkCsrf_exact {s : Session} (filled : s.csrf ≠ "") :
    s.checkCsrf headers formToken = .ok () ↔ providedToken headers formToken = some s.csrf := by
  rw [checkCsrf_provided]
  cases providedToken headers formToken with
  | none => exact iff_of_false (fun empty => filled empty.symm) (by simp)
  | some token => exact (Option.some.injEq ..).symm.to_iff

structure LoginState where
  state : String
  nonce : String
  pkceVerifier : String
  next : String
  started : Int
  exp : Int
  reauth : Bool
  deriving DecidableEq

def loginAuthTime (claim : Option Int) (login : LoginState) (now : Timestamp) : Except AppError (Option Int) :=
  if login.reauth then
    match claim with
    | none => .error (.unauthorized
        "the identity provider did not report auth_time, so the re-login cannot be verified")
    | some t =>
      if t < wrap (login.started - CLOCK_SKEW_SECS) ∨ wrap (now.asSecond + CLOCK_SKEW_SECS) < t then
        .error (.unauthorized "the identity provider did not ask you to log in again")
      else .ok claim
  else .ok claim

theorem loginAuthTime_kept (kept : loginAuthTime claim login now = .ok authTime) : authTime = claim := by
  unfold loginAuthTime at kept
  split at kept
  · split at kept
    · cases kept
    · split at kept
      · cases kept
      · cases kept
        rfl
  · cases kept
    rfl

def safeNext : Option String → String
  | some n =>
    if n.toList.head? = some '/' ∧ ¬ ['/','/'] <+: n.toList ∧ '\\' ∉ n.toList then n else "/"
  | none => "/"

-- `serde_json::Value`; the names of an object are distinct.
inductive Json where
  | null
  | bool (b : Bool)
  | number (text : String)
  | string (s : String)
  | array (items : List Json)
  | object (fields : List (String × Json))

def Json.get : Json → String → Option Json
  | .object fields,name => fields.lookup name
  | _,_ => none

def Json.isString (value : String) : Json → Bool
  | .string s => s == value
  | _ => false

def claimAt : Json → List String → Option Json
  | current,[] => some current
  | current,part :: rest => (current.get part).bind (claimAt · rest)

def claimContains (claims : Json) (path value : String) : Bool :=
  match claimAt claims (split '.' path) with
  | some (.string s) => s == value
  | some (.array items) => items.any (Json.isString value)
  | _ => false

-- An ID token after it was verified. `auth_time` is read as a chrono instant,
-- which has these bounds.
structure DateTime where
  timestamp : Int
  lower : -8334601228800 ≤ timestamp
  upper : timestamp ≤ 8210266876799
  deriving DecidableEq

structure IdClaims where
  subject : String
  preferredUsername : Option String
  email : Option String
  name : Option String
  authTime : Option DateTime
  deriving DecidableEq

def IdClaims.displayName (claims : IdClaims) : String :=
  ((claims.preferredUsername.or claims.email).or claims.name).getD claims.subject

-- The text of a private cookie is the JSON of one of these two; it is kept as
-- the value it is the JSON of. Neither reads as the other: fields are missing.
inductive CookieValue where
  | session (s : Session)
  | login (l : LoginState)
  deriving DecidableEq

def CookieValue.asSession : CookieValue → Option Session
  | .session s => some s
  | .login _ => none

def CookieValue.asLogin : CookieValue → Option LoginState
  | .session _ => none
  | .login l => some l

end YouSpinMe.Identity
