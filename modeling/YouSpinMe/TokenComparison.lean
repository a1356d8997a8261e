import YouSpinMe.Auth

namespace YouSpinMe.TokenComparison
open Text Jiff Identity Http Auth

-- The header that can be read is asked first, then the form; else the token is empty.
def selectedToken (headers : HeaderMap) (formToken : Option String) : String :=
  match headers.text CSRF_HEADER with
  | some token => token
  | none => formToken.getD ""

theorem selected_provided (headers : HeaderMap) (formToken : Option String) :
    (providedToken headers formToken).getD "" = selectedToken headers formToken := by
  unfold providedToken selectedToken
  cases headers.text CSRF_HEADER with
  | none => rfl
  | some token => rfl

theorem checkCsrf_selected (s : Session) (headers : HeaderMap) (formToken : Option String) :
    s.checkCsrf headers formToken = .ok () ↔ selectedToken headers formToken = s.csrf := by
  rw [checkCsrf_provided,selected_provided]

theorem checkCsrf_refused {s : Session} {headers : HeaderMap} {formToken : Option String}
    (different : selectedToken headers formToken ≠ s.csrf) :
    s.checkCsrf headers formToken = .error (.forbidden "invalid or missing CSRF token") := by
  cases result : s.checkCsrf headers formToken with
  | error e => rw [checkCsrf_error result]
  | ok _ => exact absurd ((checkCsrf_selected s headers formToken).mp result) different

theorem returnedCode_accepts {pending : LoginState} : returnedCode q pending now = .ok code ↔
    now.asSecond ≤ pending.exp ∧ q.state.getD "" = pending.state ∧ q.code = some code := by
  unfold returnedCode
  rw [← constantTimeEq_text]
  split
  · rename_i expired
    refine iff_of_false (by simp) ?_
    intro accepted
    exact absurd accepted.1 (Int.not_le.mpr expired)
  · rename_i open_
    rw [Int.not_lt] at open_
    split
    · rename_i different
      refine iff_of_false (by simp) ?_
      intro accepted
      rw [accepted.2.1] at different
      cases different
    · rename_i same
      rw [Bool.not_eq_true,Bool.not_eq_false'] at same
      cases q.code with
      | none => exact iff_of_false (by simp) (by simp)
      | some found => simp [open_,same]

theorem token_comparison :
    (∀ a b : Bytes, constantTimeEq a b = true ↔ a = b) ∧
    ∀ (s : Session) (headers : HeaderMap) (formToken : Option String), s.csrf ≠ "" →
      (s.checkCsrf headers formToken = .ok () ↔ selectedToken headers formToken = s.csrf) ∧
      (headers.text CSRF_HEADER = none → formToken = none →
        s.checkCsrf headers formToken = .error (.forbidden "invalid or missing CSRF token")) := by
  refine ⟨fun a b => constantTimeEq_exact,?_⟩
  intro s headers formToken filled
  refine ⟨checkCsrf_selected s headers formToken,?_⟩
  intro unreadable absent
  apply checkCsrf_refused
  rw [selectedToken,unreadable,absent]
  exact filled.symm

def holder : Session := ⟨"sub","Ada",true,"token",none,0⟩

theorem holder_refused : (holder.checkCsrf [] (some "token") = .ok () ↔ selectedToken [] (some "token") = "token") ∧
    holder.checkCsrf [] none = .error (.forbidden "invalid or missing CSRF token") :=
  ⟨(token_comparison.2 holder [] (some "token") (by decide)).1,
    (token_comparison.2 holder [] none (by decide)).2 rfl rfl⟩

end YouSpinMe.TokenComparison
