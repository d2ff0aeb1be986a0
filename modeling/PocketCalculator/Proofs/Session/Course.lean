import PocketCalculator.Proofs.Session.Nesting

set_option autoImplicit false

namespace PocketCalculator

def Command.IsOperation : Command → Prop
  | .numeral _ | .operator _ | .reduce | .reset => True
  | _ => False

instance : DecidablePred Command.IsOperation
  | .numeral _ | .operator _ | .reduce | .reset => isTrue trivial
  | .observe _ | .release | .settings | .describe | .idle => isFalse id

theorem Command.operation_unwatched (command : Command) (operation : command.IsOperation)
    (observer : Option Observer) : command.observerAfter observer = observer := by
  cases command with
  | observe _ => cases operation
  | release => cases operation
  | numeral _ => rfl
  | operator _ => rfl
  | reduce => rfl
  | reset => rfl
  | settings => rfl
  | describe => rfl
  | idle => rfl

namespace Engine

def after (engine : Engine) (commands : List Command) : Engine :=
  commands.foldl (fun engine command => (engine.react command).engine) engine

def trace : Engine → List Command → List Reaction
  | _, [] => []
  | engine, command :: rest => engine.react command :: (engine.react command).engine.trace rest

-- The commands of one call. A script goes on for as long as there is something to tell of.
def performed : Engine → Command → List Command → List Command
  | _, command, [] => [command]
  | engine, command, next :: rest =>
      command :: if (engine.react command).told then (engine.react command).engine.performed next rest else []

theorem after_append (engine : Engine) (first second : List Command) :
    engine.after (first ++ second) = (engine.after first).after second := List.foldl_append ..

theorem after_snoc (engine : Engine) (done : List Command) (command : Command) :
    engine.after (done ++ [command]) = ((engine.after done).react command).engine := after_append ..

theorem reactions_trace (engine : Engine) (command : Command) (script : List Command) :
    engine.reactions command script = engine.trace (engine.performed command script) := by
  induction script generalizing engine command with
  | nil => rfl
  | cons next rest ih =>
      rw [reactions, performed, trace]
      by_cases told : (engine.react command).told = true
      · rw [if_pos told, if_pos told, ih]
      · rw [if_neg told, if_neg told, trace]

theorem trace_last (engine : Engine) (commands : List Command) :
    ((engine.trace commands).getLast?.map Reaction.engine).getD engine = engine.after commands := by
  induction commands generalizing engine with
  | nil => rfl
  | cons command rest ih =>
      have later := ih (engine.react command).engine
      rw [trace, List.getLast?_cons]
      refine Eq.trans ?_ later
      cases ((engine.react command).engine.trace rest).getLast? <;> rfl

theorem mem_trace (engine : Engine) (commands : List Command) (reaction : Reaction)
    (member : reaction ∈ engine.trace commands) :
    ∃ done command, done ++ [command] <+: commands ∧ reaction = (engine.after done).react command := by
  induction commands generalizing engine with
  | nil => cases member
  | cons command rest ih =>
      rcases List.mem_cons.mp member with rfl | later
      · exact ⟨[], command, ⟨rest, rfl⟩, rfl⟩
      · obtain ⟨done, next, ⟨behind, split⟩, same⟩ := ih _ later
        exact ⟨command :: done, next, ⟨behind, by rw [List.cons_append, List.cons_append, split]⟩, same⟩

-- What holds at the start, and after each command if it did before, holds after all of them.
theorem after_holds {holds : List Command → Engine → Prop}
    (keep : ∀ done engine command, holds done engine → holds (done ++ [command]) (engine.react command).engine)
    (engine : Engine) (done commands : List Command) (start : holds done engine) :
    holds (done ++ commands) (engine.after commands) := by
  induction commands generalizing done engine with
  | nil =>
      rw [List.append_nil]
      exact start
  | cons command rest ih =>
      have later := ih _ (done ++ [command]) (keep done engine command start)
      rwa [List.append_assoc] at later

end Engine

namespace Session

-- All commands of a session, those of scripts in their places.
def course : List Command → Session → List Command
  | [], _ => []
  | command :: rest, session =>
      session.engine.performed command (Observer.script session.observer) ++ course rest (session.step command).2

def outcomes : List Command → Session → List (Except Failure Answer × Session)
  | [], _ => []
  | command :: rest, session => session.step command :: outcomes rest (session.step command).2

theorem step_performs (command : Command) (session : Session) :
    (session.step command).2.engine =
      session.engine.after (session.engine.performed command (Observer.script session.observer)) := by
  have last := (step_undergoes command session).engine
  rw [reactions, Engine.reactions_trace] at last
  rw [← Engine.trace_last, last, Option.getD_some]

theorem after_course (commands : List Command) (session : Session) :
    (session.after commands).engine = session.engine.after (session.course commands) := by
  induction commands generalizing session with
  | nil => rfl
  | cons command rest ih =>
      rw [course, Engine.after_append, ← step_performs]
      exact ih (session.step command).2

theorem after_snoc (session : Session) (commands : List Command) (command : Command) :
    session.after (commands ++ [command]) = ((session.after commands).step command).2 := List.foldl_append ..

theorem course_append (session : Session) (first second : List Command) :
    session.course (first ++ second) = session.course first ++ (session.after first).course second := by
  induction first generalizing session with
  | nil => rfl
  | cons command rest ih =>
      rw [List.cons_append, course, course, ih, List.append_assoc]
      rfl

theorem reaction_in_course (session : Session) (commands : List Command) (command : Command) (reaction : Reaction)
    (member : reaction ∈ (session.after commands).reactions command) :
    ∃ done next, done ++ [next] <+: session.course (commands ++ [command]) ∧
      reaction = (session.engine.after done).react next := by
  rw [reactions, Engine.reactions_trace] at member
  obtain ⟨done, next, before, same⟩ := Engine.mem_trace _ _ _ member
  refine ⟨session.course commands ++ done, next, ?_, ?_⟩
  · rw [course_append, course, course, List.append_nil, List.append_assoc]
    exact (List.prefix_append_right_inj _).mpr before
  · rw [Engine.after_append, ← after_course]
    exact same

theorem event_in_course (session : Session) (commands : List Command) (command : Command) (event : Event)
    (member : event ∈ ((session.after commands).step command).2.events) :
    ∃ done next, done ++ [next] <+: session.course (commands ++ [command]) ∧
      event ∈ ((session.engine.after done).react next).events := by
  rw [(step_undergoes command (session.after commands)).events, List.nil_append, List.mem_flatMap] at member
  obtain ⟨reaction, reacted, reported⟩ := member
  obtain ⟨done, next, before, rfl⟩ := reaction_in_course session commands command reaction reacted
  exact ⟨done, next, before, reported⟩

theorem notify_alone (session : Session) (alone : session.observer = none) :
    Action.notify 0 session = (.ok (), session) := by
  obtain ⟨engine, observer, seen, events⟩ := session
  change observer = none at alone
  subst alone
  rfl

theorem step_alone (command : Command) (session : Session) (alone : session.observer = none) :
    (session.step command).1 = (session.engine.react command).answer ∧
      (session.step command).2.engine = (session.engine.react command).engine ∧
      (session.step command).2.observer = command.observerAfter none := by
  have budget : (session.observer.map Observer.scriptLength).getD 0 = 0 := by rw [alone]; rfl
  rw [step, budget, perform_reacts, conclude]
  by_cases told : (session.engine.react command).told = true
  · have still : command.observerAfter session.observer = none :=
      (observer_told session.engine command session.observer told).trans alone
    rw [if_pos told, notify_alone _ still]
    exact ⟨rfl, rfl, congrArg command.observerAfter alone⟩
  · rw [if_neg told]
    exact ⟨rfl, rfl, congrArg command.observerAfter alone⟩

theorem after_alone (commands : List Command) (session : Session) (alone : session.observer = none)
    (unwatched : ∀ command ∈ commands, command.observerAfter none = none) :
    (session.after commands).engine = session.engine.after commands ∧ (session.after commands).observer = none := by
  induction commands generalizing session with
  | nil => exact ⟨rfl, alone⟩
  | cons command rest ih =>
      obtain ⟨_, engine, observer⟩ := step_alone command session alone
      have still : (session.step command).2.observer = none := observer.trans (unwatched command (by simp))
      have later := ih (session.step command).2 still fun next member => unwatched next (List.mem_cons_of_mem _ member)
      rw [engine] at later
      exact later

theorem outcomes_alone (commands : List Command) (session : Session) (alone : session.observer = none)
    (unwatched : ∀ command ∈ commands, command.observerAfter none = none) :
    (session.outcomes commands).map Prod.fst = (session.engine.trace commands).map Reaction.answer := by
  induction commands generalizing session with
  | nil => rfl
  | cons command rest ih =>
      obtain ⟨answer, engine, observer⟩ := step_alone command session alone
      have still : (session.step command).2.observer = none := observer.trans (unwatched command (by simp))
      have later := ih (session.step command).2 still fun next member => unwatched next (List.mem_cons_of_mem _ member)
      rw [outcomes, Engine.trace, List.map_cons, List.map_cons, later, answer, engine]

end Session

end PocketCalculator
