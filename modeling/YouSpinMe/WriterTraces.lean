import YouSpinMe.OpenBaoWriter

namespace YouSpinMe.WriterTraces
open RequestProgram Effects Crd OpenBaoWriter

abbrev BaoTrace := List (Event BaoReply)

variable [HttpCrates] {bao : OpenBao}

-- What sending one request comes to: no token, or the write as the last event.
inductive SendTrace (bao : OpenBao) (method : Method) (url : List String) (body : WriteBody) :
    BaoTrace → Except TargetError Response → Prop where
  | unlogged (token : Returns bao.token trace (.error e)) : SendTrace bao method url body trace (.error e)
  | lost (token : Returns bao.token earlier (.ok t)) : SendTrace bao method url body
      (earlier ++ [⟨.write method url t body,.error lost⟩])
      (.error (.store ("OpenBao request failed: " ++ lost.detail)))
  | answered (token : Returns bao.token earlier (.ok t)) : SendTrace bao method url body
      (earlier ++ [⟨.write method url t body,.ok res⟩]) (.ok res)

theorem send_trace {bao : OpenBao} (path : Returns (bao.send method url body) trace result) :
    SendTrace bao method url body trace result := by
  rw [OpenBao.send,returns_bind] at path
  obtain ⟨answer,earlier,later,rfl,token,path⟩ := path
  cases answer with
  | error e =>
    obtain ⟨rfl,rfl⟩ := returns_done.mp path
    rw [List.append_nil]
    exact .unlogged token
  | ok t =>
    simp only [bind_ask,returns_request] at path
    obtain ⟨reply,rest,rfl,path⟩ := path
    cases reply with
    | error lost =>
      obtain ⟨rfl,rfl⟩ := returns_done.mp path
      exact .lost token
    | ok res =>
      obtain ⟨rfl,rfl⟩ := returns_done.mp path
      exact .answered token

-- One pass of the loop: the PATCH, and what its answer leads to.
inductive RoundTrace (bao : OpenBao) (url : List String) (body : WriteBody)
    (again : Option (Bao (Except TargetError Unit))) : BaoTrace → Except TargetError Unit → Prop where
  | unsent (patch : SendTrace bao .patch url body trace (.error e)) : RoundTrace bao url body again trace (.error e)
  | accepted (patch : SendTrace bao .patch url body trace (.ok res)) (success : res.isSuccess = true) :
      RoundTrace bao url body again trace (.ok ())
  | uncreated (patch : SendTrace bao .patch url body earlier (.ok res)) (missing : res.status = 404)
      (post : SendTrace bao .post url body later (.error e)) :
      RoundTrace bao url body again (earlier ++ later) (.error e)
  | created (patch : SendTrace bao .patch url body earlier (.ok res)) (missing : res.status = 404)
      (post : SendTrace bao .post url body later (.ok reply)) (success : reply.isSuccess = true) :
      RoundTrace bao url body again (earlier ++ later) (.ok ())
  | unpermitted (patch : SendTrace bao .patch url body earlier (.ok res)) (missing : res.status = 404)
      (post : SendTrace bao .post url body later (.ok reply)) (failed : reply.isSuccess = false) :
      RoundTrace bao url body again (earlier ++ later) (.error (errorFrom reply "OpenBao create"))
  | refused (patch : SendTrace bao .patch url body trace (.ok res)) (failed : res.isSuccess = false)
      (final : again ≠ none → ¬ (res.status = 403 ∧ bao.auth.isKubernetes = true)) :
      RoundTrace bao url body again trace (.error (errorFrom res "OpenBao write"))
  | renewed (patch : SendTrace bao .patch url body earlier (.ok res)) (forbidden : res.status = 403)
      (kubernetes : bao.auth.isKubernetes = true) (next : again = some program) (rest : Returns program later result) :
      RoundTrace bao url body again (earlier ++ [⟨.lock,cached⟩,⟨.unlock none,()⟩] ++ later) result

theorem round_trace {bao : OpenBao} (path : Returns (bao.round url body again) trace result) :
    RoundTrace bao url body again trace result := by
  rw [OpenBao.round,returns_bind] at path
  obtain ⟨answer,earlier,later,rfl,first,path⟩ := path
  have patch := send_trace first
  cases answer with
  | error e =>
    obtain ⟨rfl,rfl⟩ := returns_done.mp path
    rw [List.append_nil]
    exact .unsent patch
  | ok res =>
    cases success : res.isSuccess with
    | true =>
      simp only [success,if_true] at path
      obtain ⟨rfl,rfl⟩ := returns_done.mp path
      rw [List.append_nil]
      exact .accepted patch success
    | false =>
      simp only [success,Bool.false_eq_true,if_false] at path
      by_cases missing : res.status = 404
      · rw [if_pos missing,OpenBao.create,returns_bind] at path
        obtain ⟨answer,sending,nothing,rfl,second,path⟩ := path
        have post := send_trace second
        cases answer with
        | error e =>
          obtain ⟨rfl,rfl⟩ := returns_done.mp path
          rw [List.append_nil]
          exact .uncreated patch missing post
        | ok reply =>
          cases outcome : reply.isSuccess with
          | true =>
            simp only [outcome,if_true] at path
            obtain ⟨rfl,rfl⟩ := returns_done.mp path
            rw [List.append_nil]
            exact .created patch missing post outcome
          | false =>
            simp only [outcome,Bool.false_eq_true,if_false] at path
            obtain ⟨rfl,rfl⟩ := returns_done.mp path
            rw [List.append_nil]
            exact .unpermitted patch missing post outcome
      · rw [if_neg missing] at path
        cases left : again with
        | none =>
          rw [left] at path
          obtain ⟨rfl,rfl⟩ := returns_done.mp path
          rw [List.append_nil]
          exact .refused patch success fun some => absurd rfl some
        | some program =>
          simp only [left] at path
          by_cases retry : res.status = 403 ∧ bao.auth.isKubernetes = true
          · rw [if_pos retry] at path
            obtain ⟨_,renewing,_,rfl,renewal,rest⟩ := returns_bind.mp path
            obtain ⟨cached,_,rfl,unlock⟩ := returns_request.mp renewal
            obtain ⟨_,_,rfl,nothing⟩ := returns_request.mp unlock
            obtain ⟨rfl,_⟩ := returns_done.mp nothing
            rw [← List.append_assoc]
            exact .renewed patch retry.1 retry.2 rfl rest
          · rw [if_neg retry] at path
            obtain ⟨rfl,rfl⟩ := returns_done.mp path
            rw [List.append_nil]
            exact .refused patch success fun _ => retry

theorem writeKey_trace (path : Returns (bao.writeKey target value) trace result) :
    (trace = [] ∧ ∃ e, result = .error e) ∨
    ∃ url, bao.url [target.mount,"data",target.path] = .ok url ∧ RoundTrace bao url ⟨target.key,value⟩
      (some (bao.round url ⟨target.key,value⟩ none)) trace result := by
  unfold OpenBao.writeKey at path
  cases found : bao.url [target.mount,"data",target.path] with
  | error e =>
    rw [found] at path
    obtain ⟨rfl,rfl⟩ := returns_done.mp path
    exact .inl ⟨rfl,e,rfl⟩
  | ok url =>
    rw [found] at path
    exact .inr ⟨url,rfl,round_trace path⟩

end YouSpinMe.WriterTraces
