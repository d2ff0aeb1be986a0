import PocketCalculator.Proofs.Session.Course
import PocketCalculator.Session.Queue

/- A script that is performed from inside its notifications comes to the same as one that is performed afterwards,
   one command at a time. Nothing is done after a notification, so that nested commands find the engine as they
   would find it between calls, and what one of them raises leaves every call around it. -/
set_option autoImplicit false

namespace PocketCalculator

namespace Engine

theorem told_answered (engine : Engine) (command : Command) (told : (engine.react command).told = true) :
    ∃ answer, (engine.react command).answer = .ok answer := by
  rcases engine.react_cases command with
    ⟨text, _, _, input⟩ | ⟨o, operator⟩ | ⟨_, reduction⟩ | reset | ⟨answer, nothing⟩
  · rw [input, takeInput]
    split <;> exact ⟨_, rfl⟩
  · exact ⟨_, by rw [operator]; rfl⟩
  · rw [reduction] at told ⊢
    rcases engine.reduction_cases with ⟨result, _, done⟩ | ⟨fault, _, faulty⟩ | ⟨failure, _, escaped⟩
    · exact ⟨_, by rw [done]; rfl⟩
    · exact ⟨_, by rw [faulty]; exact (Session.take_fault_told engine fault).2⟩
    · rw [escaped] at told
      cases told
  · exact ⟨_, by rw [reset]; rfl⟩
  · rw [nothing] at told
    cases told

theorem raised_unstored (engine : Engine) (command : Command) (failure : Failure)
    (raised : (engine.react command).answer = .error failure) :
    (engine.react command).engine.lastFault = engine.lastFault ∧ (engine.react command).engine.text = engine.text := by
  rcases engine.react_cases command with
    ⟨text, _, _, input⟩ | ⟨o, operator⟩ | ⟨_, reduction⟩ | reset | ⟨answer, nothing⟩
  · rw [input, takeInput] at raised
    split at raised <;> cases raised
  · rw [operator] at raised
    cases raised
  · rw [reduction] at raised ⊢
    rcases engine.reduction_cases with ⟨result, _, done⟩ | ⟨fault, _, faulty⟩ | ⟨other, _, escaped⟩
    · rw [done] at raised
      cases raised
    · rw [faulty, (Session.take_fault_told engine fault).2] at raised
      cases raised
    · rw [escaped]
      exact ⟨rfl, rfl⟩
  · rw [reset] at raised
    cases raised
  · rw [nothing]
    exact ⟨rfl, rfl⟩

end Engine

namespace Session

open PocketCalculator.Action

theorem quiet_told (command : Command) (session : Session) (tells : (session.engine.react command).told = true) :
    performQuietly command session = ((session.engine.react command).answer, (session.reacted command).exposed) ∧
      told session (performQuietly command session).2 = true := by
  have performed : performQuietly command session =
      ((session.engine.react command).answer, (session.reacted command).exposed) := by
    rw [performQuietly, perform_reacts, conclude, if_pos tells]
    rfl
  refine ⟨performed, ?_⟩
  rw [performed]
  simp [told, exposed, reacted]

theorem quiet_untold (command : Command) (session : Session) (silent : ¬ (session.engine.react command).told = true) :
    performQuietly command session = ((session.engine.react command).answer, session.reacted command) ∧
      told session (performQuietly command session).2 = false := by
  have performed : performQuietly command session =
      ((session.engine.react command).answer, session.reacted command) := by
    rw [performQuietly, perform_reacts, conclude_untold _ _ _ silent]
  refine ⟨performed, ?_⟩
  rw [performed]
  simp [told, reacted]

variable (script rest : List Command) (command following : Command) (session : Session)

theorem queued_silent (silent : ¬ (session.engine.react command).told = true) :
    queued script command session =
      ⟨failure? (session.engine.react command).answer, session.reacted command, script⟩ := by
  obtain ⟨performed, untold⟩ := quiet_untold command session silent
  cases script with
  | nil => rw [queued, performed]
  | cons following rest =>
      rw [queued]
      rw [performed] at untold ⊢
      simp only [untold, Bool.false_eq_true, if_false]

theorem queued_out (tells : (session.engine.react command).told = true) :
    queued [] command session =
      ⟨failure? (session.engine.react command).answer, (session.reacted command).exposed, []⟩ := by
  rw [queued, (quiet_told command session tells).1]

theorem queued_on (tells : (session.engine.react command).told = true) :
    queued (following :: rest) command session = queued rest following (session.reacted command).exposed := by
  obtain ⟨performed, notified⟩ := quiet_told command session tells
  rw [queued]
  rw [performed] at notified ⊢
  simp only [notified, if_true]

theorem notify_out (budget : Nat) (scripted : session.observer = some (.scripted [])) :
    notify budget session = (.ok (), session.exposed) := by
  obtain ⟨engine, observer, seen, events⟩ := session
  change observer = _ at scripted
  subst scripted
  cases budget <;> rfl

structure ActsAs (outcome : Outcome) (performed : Except Failure Answer × Session) : Prop where
  engine : performed.2.engine = outcome.session.engine
  seen : performed.2.seen = outcome.session.seen
  observer : performed.2.observer = some (.scripted outcome.script)
  failure : failure? performed.1 = outcome.failure

-- What encloses a call adds nothing to it but its own answer, which it gives unless something was raised.
theorem acts_as_around (outcome : Outcome) (performed : Except Failure Answer × Session) (answer : Answer)
    (acts : ActsAs outcome performed) :
    ActsAs outcome (Action.next (fun _ last => (.ok answer, last)) (Action.next (fun _ => pure ()) performed)) := by
  obtain ⟨result, after⟩ := performed
  cases result with
  | ok inner => exact ⟨acts.engine, acts.seen, acts.observer, acts.failure⟩
  | error failure => exact ⟨acts.engine, acts.seen, acts.observer, acts.failure⟩

theorem reacted_alike (quiet : Session) (engine : quiet.engine = session.engine) (seen : quiet.seen = session.seen) :
    (quiet.reacted command).engine = (session.reacted command).engine ∧
      (quiet.reacted command).exposed.seen = (session.reacted command).exposed.seen := by
  rw [exposed, exposed, reacted, reacted, engine, seen]
  exact ⟨rfl, rfl⟩

theorem nested_queued (budget : Nat) (enough : script.length ≤ budget)
    (operations : ∀ each ∈ command :: script, each.IsOperation) (quiet : Session)
    (scripted : session.observer = some (.scripted script)) (engine : quiet.engine = session.engine)
    (seen : quiet.seen = session.seen) :
    ActsAs (queued script command quiet) (perform (notify budget) command session) := by
  induction script generalizing budget command session quiet with
  | nil =>
      obtain ⟨same, shown⟩ := reacted_alike command session quiet engine seen
      have answer : failure? (session.engine.react command).answer = failure? (quiet.engine.react command).answer := by
        rw [engine]
      have observer : (session.reacted command).observer = some (.scripted []) :=
        (command.operation_unwatched (operations command (List.mem_cons_self ..)) _).trans scripted
      rw [perform_reacts, conclude]
      by_cases tells : (session.engine.react command).told = true
      · rw [if_pos tells, notify_out _ budget observer, queued_out command quiet (engine ▸ tells)]
        exact ⟨same.symm, shown.symm, observer, answer⟩
      · rw [if_neg tells, queued_silent [] command quiet (engine ▸ tells)]
        exact ⟨same.symm, seen.symm, observer, answer⟩
  | cons following rest ih =>
      obtain ⟨same, shown⟩ := reacted_alike command session quiet engine seen
      have observer : (session.reacted command).observer = some (.scripted (following :: rest)) :=
        (command.operation_unwatched (operations command (List.mem_cons_self ..)) _).trans scripted
      rw [perform_reacts, conclude]
      by_cases tells : (session.engine.react command).told = true
      · cases budget with
        | zero => cases enough
        | succ budget =>
            obtain ⟨answer, answered⟩ := session.engine.told_answered command tells
            rw [if_pos tells, notify_on budget _ following rest observer, answered,
              queued_on rest command following quiet (engine ▸ tells)]
            apply acts_as_around
            exact ih following _ budget (Nat.le_of_succ_le_succ enough)
              (fun each member => operations each (List.mem_cons_of_mem _ member)) _ rfl same shown
      · rw [if_neg tells, queued_silent _ command quiet (engine ▸ tells)]
        refine ⟨same.symm, seen.symm, observer, ?_⟩
        rw [engine]

theorem queued_last : ∃ done last, command :: script = done ++ last :: (queued script command session).script ∧
    (queued script command session).failure = failure? ((session.engine.after done).react last).answer ∧
      (queued script command session).session.engine = ((session.engine.after done).react last).engine := by
  induction script generalizing command session with
  | nil =>
      refine ⟨[], command, ?_⟩
      by_cases tells : (session.engine.react command).told = true
      · rw [queued_out command session tells]
        exact ⟨rfl, rfl, rfl⟩
      · rw [queued_silent [] command session tells]
        exact ⟨rfl, rfl, rfl⟩
  | cons following rest ih =>
      by_cases tells : (session.engine.react command).told = true
      · obtain ⟨done, last, split, failure, engine⟩ := ih following (session.reacted command).exposed
        rw [queued_on rest command following session tells]
        exact ⟨command :: done, last, congrArg (command :: ·) split, failure, engine⟩
      · rw [queued_silent _ command session tells]
        exact ⟨[], command, rfl, rfl, rfl⟩

theorem scripts_act_as_queued (engine : Engine) (script : List Command) (command : Command)
    (operations : ∀ each ∈ command :: script, each.IsOperation) :
    let outcome := queued script command (start engine none)
    let nested := (start engine (some (.scripted script))).step command
    ActsAs outcome nested ∧ ∃ done last, command :: script = done ++ last :: outcome.script ∧
      let before := (start engine none).after done
      failure? nested.1 = failure? (before.step last).1 ∧ nested.2.engine = (before.step last).2.engine ∧
        (failure? nested.1 ≠ none →
          nested.2.engine.lastFault = before.engine.lastFault ∧ nested.2.engine.text = before.engine.text) := by
  intro outcome nested
  have acts : ActsAs outcome nested := nested_queued script command (start engine (some (.scripted script)))
    script.length (Nat.le_refl _) operations (start engine none) rfl rfl rfl
  obtain ⟨done, last, split, failure, final⟩ := queued_last script command (start engine none)
  refine ⟨acts, done, last, split, ?_⟩
  intro before
  have unwatched : ∀ each ∈ done, each.observerAfter none = none := by
    intro each member
    apply each.operation_unwatched (operations each _)
    rw [split]
    exact List.mem_append_left _ member
  obtain ⟨reached, alone⟩ := after_alone done (start engine none) rfl unwatched
  obtain ⟨answer, step, _⟩ := step_alone last before alone
  have raises : failure? nested.1 = failure? (before.engine.react last).answer := by
    rw [acts.failure, reached]
    exact failure
  have ends : nested.2.engine = (before.engine.react last).engine := by
    rw [acts.engine, reached]
    exact final
  refine ⟨by rw [raises, answer], by rw [ends, step], fun raised => ?_⟩
  rw [raises] at raised
  rw [ends]
  cases outcome : (before.engine.react last).answer with
  | ok value =>
      rw [outcome] at raised
      exact absurd rfl raised
  | error failure => exact before.engine.raised_unstored last failure outcome

-- A reduction of a number alone, of which the observer hears and then types a letter.
theorem raising_script_acts_as_queued :
    let engine := Engine.ofText ⟨0, 5, by decide⟩ ['4']
    let script : List Command := [.numeral (.text ['x']), .reset]
    let nested := (start engine (some (.scripted script))).step .reduce
    (∀ each ∈ .reduce :: script, each.IsOperation) ∧ ActsAs (queued script .reduce (start engine none)) nested ∧
      (failure? nested.1).isSome = true ∧
      nested.2.engine.text = "Missing element, enter a complete expression".toList ∧
      nested.2.seen = [nested.2.engine.text] := by
  intro engine script nested
  have operations : ∀ each ∈ .reduce :: script, each.IsOperation := by
    intro each member
    simp only [script, List.mem_cons, List.not_mem_nil, or_false] at member
    rcases member with rfl | rfl | rfl <;> trivial
  have raised : (failure? nested.1).isSome = true := by decide +kernel
  have text : nested.2.engine.text = "Missing element, enter a complete expression".toList := by decide +kernel
  have seen : nested.2.seen = [nested.2.engine.text] := by decide +kernel
  exact ⟨operations, (scripts_act_as_queued engine script .reduce operations).1, raised, text, seen⟩

end Session

end PocketCalculator
