import PocketCalculator.Session.Notification

set_option autoImplicit false

namespace PocketCalculator.Action

variable {α β : Type} (session : Session)

-- What becomes of an outcome when something follows an action.
def next (rest : α → Action β) : Except Failure α × Session → Except Failure β × Session
  | (.ok value, after) => rest value after
  | (.error failure, after) => (.error failure, after)

@[simp] theorem next_ok (rest : α → Action β) (value : α) : next rest (.ok value, session) = rest value session := rfl

@[simp] theorem next_error (rest : α → Action β) (failure : Failure) :
    next rest (.error failure, session) = (.error failure, session) := rfl

@[simp] theorem next_next {γ : Type} (first : α → Action β) (second : β → Action γ)
    (outcome : Except Failure α × Session) :
    next second (next first outcome) = next (fun value after => next second (first value after)) outcome := by
  obtain ⟨result, after⟩ := outcome
  cases result <;> rfl

theorem next_pure_after (result : α → β) (outcome : Except Failure α × Session) :
    (next (fun value => pure (result value)) outcome).2 = outcome.2 := by
  obtain ⟨found, after⟩ := outcome
  cases found <;> rfl

@[simp] theorem bind_run (action : Action α) (rest : α → Action β) :
    (action >>= rest) session = next rest (action session) := by
  change (match action session with
    | (outcome, after) => (ExceptT.bindCont rest outcome : StateM Session (Except Failure β)) after) = _
  rcases action session with ⟨outcome, after⟩
  cases outcome <;> rfl

@[simp] theorem map_run (action : Action α) (f : α → β) :
    (f <$> action) session = next (fun value => pure (f value)) (action session) := by
  rw [map_eq_pure_bind, bind_run]

@[simp] theorem pure_run (value : α) : (pure value : Action α) = fun after => (.ok value, after) := rfl

@[simp] theorem throw_run (failure : Failure) : (throw failure : Action α) = fun after => (.error failure, after) := rfl

@[simp] theorem current_run : current session = (.ok session.engine, session) := rfl

@[simp] theorem change_engine_run (change : Engine → Engine) :
    changeEngine change session = (.ok (), { session with engine := change session.engine }) := rfl

@[simp] theorem report_run (event : Event) :
    report event session = (.ok (), { session with events := session.events ++ [event] }) := rfl

@[simp] theorem observe_run (observer : Option Observer) :
    observe observer session = (.ok (), { session with observer := observer }) := rfl

@[simp] theorem or_fault_ok (value : α) : orFault (.ok value) session = (.ok value, session) := rfl

@[simp] theorem or_fault_error (fault : Fault) :
    (orFault (.error fault) : Action α) session = (.error (.fault fault), session) := rfl

end PocketCalculator.Action
