import PocketCalculator.Proofs.Session.Reaction

set_option autoImplicit false

namespace PocketCalculator

def Observer.script : Option Observer → List Command
  | some (.scripted script) => script
  | _ => []

theorem Observer.scripted_by (observer : Option Observer) (next : Command) (rest : List Command)
    (scripted : script observer = next :: rest) : observer = some (.scripted (next :: rest)) := by
  rcases observer with _ | (_ | _ | script)
  · cases scripted
  · cases scripted
  · cases scripted
  · exact congrArg (fun commands => some (Observer.scripted commands)) scripted

def Engine.reactions : Engine → Command → List Command → List Reaction
  | engine, command, [] => [engine.react command]
  | engine, command, next :: rest =>
      engine.react command ::
        if (engine.react command).told then (engine.react command).engine.reactions next rest else []

theorem Engine.reactions_nonempty (engine : Engine) (command : Command) (script : List Command) :
    engine.reactions command script ≠ [] := by
  cases script <;> exact List.cons_ne_nil _ _

theorem Engine.reactions_keep {kept : Engine → Prop}
    (keep : ∀ engine command, kept engine → kept (engine.react command).engine) (engine : Engine)
    (command : Command) (script : List Command) (start : kept engine) :
    ∀ reaction ∈ engine.reactions command script, kept reaction.engine := by
  induction script generalizing engine command with
  | nil =>
      intro reaction member
      rw [List.mem_singleton.mp member]
      exact keep engine command start
  | cons following rest ih =>
      intro reaction member
      rcases List.mem_cons.mp member with rfl | later
      · exact keep engine command start
      · by_cases told : (engine.react command).told = true
        · rw [if_pos told] at later
          exact ih _ following (keep engine command start) reaction later
        · rw [if_neg told] at later
          cases later

namespace Session

def reactions (command : Command) (session : Session) : List Reaction :=
  session.engine.reactions command (Observer.script session.observer)

def exposed (session : Session) : Session := { session with seen := session.seen ++ [session.engine.text] }

def heard (session : Session) : Session := if session.observer.isSome then session.exposed else session

-- What reactions leave of a session. Those that are told of show their texts, if there is anyone to see them.
structure Undergoes (session : Session) (reactions : List Reaction) (after : Session) : Prop where
  engine : reactions.getLast?.map Reaction.engine = some after.engine
  seen : after.seen =
    session.seen ++ if session.observer.isSome then (reactions.filter Reaction.told).map (·.engine.text) else []
  events : after.events = session.events ++ reactions.flatMap Reaction.events

open PocketCalculator.Action

theorem notify_unscripted (budget : Nat) (session : Session) (unscripted : Observer.script session.observer = []) :
    (notify budget session).2 = session.heard := by
  obtain ⟨engine, observer, seen, events⟩ := session
  cases observer with
  | none => cases budget <;> rfl
  | some observer =>
      cases observer with
      | recorder => cases budget <;> rfl
      | refuser => cases budget <;> rfl
      | scripted script =>
          change script = [] at unscripted
          subst unscripted
          cases budget <;> rfl

theorem notify_on (budget : Nat) (session : Session) (following : Command) (rest : List Command)
    (scripted : session.observer = some (.scripted (following :: rest))) :
    notify (budget + 1) session = Action.next (fun _ => pure ())
      (perform (notify budget) following { session.exposed with observer := some (.scripted rest) }) := by
  obtain ⟨engine, observer, seen, events⟩ := session
  change observer = _ at scripted
  subst scripted
  exact bind_run _ (perform (notify budget) following) _

theorem notify_scripted (budget : Nat) (session : Session) (following : Command) (rest : List Command)
    (scripted : session.observer = some (.scripted (following :: rest))) :
    (notify (budget + 1) session).2 =
      (perform (notify budget) following { session.exposed with observer := some (.scripted rest) }).2 := by
  rw [notify_on budget session following rest scripted]
  exact next_pure_after _ _

-- Only commands that leave the observer alone are told of.
theorem observer_told (engine : Engine) (command : Command) (observer : Option Observer)
    (told : (engine.react command).told = true) : command.observerAfter observer = observer := by
  cases command with
  | observe _ | release => cases told
  | numeral _ | operator _ | reduce | reset | settings | describe | idle => rfl

theorem conclude_untold (notify : Action Unit) (reaction : Reaction) (session : Session) (untold : ¬ reaction.told) :
    conclude notify reaction session = (reaction.answer, session) := by
  rw [conclude, if_neg untold]

theorem conclude_told (notify : Action Unit) (reaction : Reaction) (session : Session) (told : reaction.told) :
    (conclude notify reaction session).2 = (notify session).2 := by
  rw [conclude, if_pos told]
  rcases notify session with ⟨outcome, after⟩
  cases outcome <;> rfl

theorem nothing_told (session : Session) (command : Command) (untold : ¬ (session.engine.react command).told) :
    Undergoes session [session.engine.react command] (session.reacted command) where
  engine := rfl
  seen := by simp [untold, reacted]
  events := by simp [reacted]

theorem told_and_heard (session : Session) (command : Command) (told : (session.engine.react command).told) :
    Undergoes session [session.engine.react command] (session.reacted command).heard := by
  have observer : (session.reacted command).observer = session.observer :=
    observer_told session.engine command session.observer told
  rw [heard, observer]
  cases watched : session.observer.isSome with
  | false => exact ⟨rfl, by simp [watched, reacted], by simp [reacted]⟩
  | true => exact ⟨rfl, by simp [watched, told, exposed, reacted], by simp [exposed, reacted]⟩

theorem undergoes_cons (session between after : Session) (reaction : Reaction) (later : List Reaction)
    (some_later : later ≠ []) (observed : between.observer.isSome = session.observer.isSome)
    (first : Undergoes session [reaction] between) (rest : Undergoes between later after) :
    Undergoes session (reaction :: later) after where
  engine := by
    rw [List.getLast?_cons_of_ne_nil some_later]
    exact rest.engine
  seen := by
    rw [rest.seen, first.seen, observed]
    cases session.observer.isSome with
    | false => simp
    | true => cases told : reaction.told <;> simp [told]
  events := by
    rw [rest.events, first.events]
    simp

theorem perform_undergoes (script : List Command) (budget : Nat) (enough : script.length ≤ budget)
    (command : Command) (session : Session) (scripted : Observer.script session.observer = script) :
    Undergoes session (session.engine.reactions command script) (perform (notify budget) command session).2 := by
  rw [perform_reacts]
  induction script generalizing budget command session with
  | nil =>
      rw [Engine.reactions]
      by_cases told : (session.engine.react command).told = true
      · have observer := observer_told session.engine command session.observer told
        have unscripted : Observer.script (session.reacted command).observer = [] := by rw [reacted, observer, scripted]
        rw [conclude_told _ _ _ told, notify_unscripted budget _ unscripted]
        exact told_and_heard session command told
      · rw [conclude_untold _ _ _ told]
        exact nothing_told session command told
  | cons following rest ih =>
      rw [Engine.reactions]
      by_cases told : (session.engine.react command).told = true
      · have watched := Observer.scripted_by session.observer following rest scripted
        have observer : (session.reacted command).observer = some (.scripted (following :: rest)) :=
          (observer_told session.engine command session.observer told).trans watched
        have first := told_and_heard session command told
        rw [heard, observer] at first
        cases budget with
        | zero => cases enough
        | succ budget =>
            rw [conclude_told _ _ _ told, notify_scripted budget _ following rest observer, perform_reacts, if_pos told]
            refine undergoes_cons session { (session.reacted command).exposed with observer := some (.scripted rest) } _ _ _
              (Engine.reactions_nonempty _ _ _) (by rw [watched]; rfl) ⟨first.engine, first.seen, first.events⟩ ?_
            exact ih budget (Nat.le_of_succ_le_succ enough) following _ rfl
      · rw [conclude_untold _ _ _ told, if_neg told]
        exact nothing_told session command told

theorem step_undergoes (command : Command) (session : Session) :
    Undergoes { session with seen := [], events := [] } (session.reactions command) (session.step command).2 := by
  have budget : (Observer.script session.observer).length = (session.observer.map Observer.scriptLength).getD 0 := by
    rcases session.observer with _ | (_ | _ | script) <;> rfl
  exact perform_undergoes _ _ (Nat.le_of_eq budget) command { session with seen := [], events := [] } rfl

def after (session : Session) (commands : List Command) : Session :=
  commands.foldl (fun session command => (session.step command).2) session

theorem step_keeps {kept : Engine → Prop}
    (keep : ∀ engine command, kept engine → kept (engine.react command).engine) (command : Command)
    (session : Session) (start : kept session.engine) : kept (session.step command).2.engine := by
  have last := (step_undergoes command session).engine
  rw [Option.map_eq_some_iff] at last
  obtain ⟨reaction, found, same⟩ := last
  rw [← same]
  exact Engine.reactions_keep keep session.engine command _ start reaction (List.mem_of_getLast? found)

theorem after_keeps {kept : Engine → Prop}
    (keep : ∀ engine command, kept engine → kept (engine.react command).engine) (commands : List Command)
    (session : Session) (start : kept session.engine) : kept (session.after commands).engine := by
  induction commands generalizing session with
  | nil => exact start
  | cons command rest ih => exact ih _ (step_keeps keep command session start)

end Session

end PocketCalculator
