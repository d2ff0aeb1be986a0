import PocketCalculator.Proofs.Session.Course
import PocketCalculator.Proofs.Session.Modes

set_option autoImplicit false

namespace PocketCalculator

-- Nobody, or someone without a script or with one that is through.
def Observer.Spectates (observer : Option Observer) : Prop := script observer = []

def Command.BringsSpectator : Command → Prop
  | .observe observer => Observer.Spectates observer
  | _ => True

theorem Command.operation_brings (command : Command) (operation : command.IsOperation) : command.BringsSpectator := by
  cases command with
  | observe _ => cases operation
  | _ => trivial

theorem Command.spectator_after (command : Command) (brings : command.BringsSpectator) (observer : Option Observer)
    (spectates : Observer.Spectates observer) : Observer.Spectates (command.observerAfter observer) := by
  cases command with
  | observe next => exact brings
  | release => rfl
  | numeral _ => exact spectates
  | operator _ => exact spectates
  | reduce => exact spectates
  | reset => exact spectates
  | settings => exact spectates
  | describe => exact spectates
  | idle => exact spectates

theorem Engine.other_commands (engine : Engine) (command : Command) (other : ¬ command.IsOperation) :
    (engine.react command).engine = engine := by
  cases command with
  | numeral _ => exact absurd trivial other
  | operator _ => exact absurd trivial other
  | reduce => exact absurd trivial other
  | reset => exact absurd trivial other
  | observe _ => rfl
  | release => rfl
  | settings => rfl
  | describe => rfl
  | idle => rfl

namespace Session

def states : List Command → Session → List Engine
  | [], _ => []
  | command :: rest, session =>
      let later := states rest (session.step command).2
      if command.IsOperation then (session.step command).2.engine :: later else later

theorem step_spectated (command : Command) (session : Session) (spectates : Observer.Spectates session.observer) :
    (session.step command).2.observer = command.observerAfter session.observer ∧
      (session.step command).2.engine = (session.engine.react command).engine ∧
      (session.step command).2.seen =
        if session.observer.isSome && (session.engine.react command).told then [(session.engine.react command).engine.text]
        else [] := by
  rw [step, perform_reacts]
  by_cases told : (session.engine.react command).told = true
  · have observer := observer_told session.engine command session.observer told
    rw [conclude_told _ _ _ told, notify_unscripted _ _ (by rw [reacted, observer]; exact spectates), heard, told, Bool.and_true]
    simp only [reacted, observer]
    cases session.observer.isSome with
    | true => exact ⟨rfl, rfl, rfl⟩
    | false => exact ⟨rfl, rfl, rfl⟩
  · have silent : (session.engine.react command).told = false := by simpa using told
    rw [conclude_untold _ _ _ told, silent, Bool.and_false]
    exact ⟨rfl, rfl, rfl⟩

theorem still_spectated (command : Command) (session : Session) (spectates : Observer.Spectates session.observer)
    (brings : command.BringsSpectator) : Observer.Spectates (session.step command).2.observer := by
  rw [(step_spectated command session spectates).1]
  exact command.spectator_after brings session.observer spectates

theorem after_spectated (commands : List Command) (session : Session) (spectates : Observer.Spectates session.observer)
    (spectators : ∀ command ∈ commands, command.BringsSpectator) :
    (session.after commands).engine = session.engine.after commands ∧
      Observer.Spectates (session.after commands).observer := by
  induction commands generalizing session with
  | nil => exact ⟨rfl, spectates⟩
  | cons command rest ih =>
      obtain ⟨brings, others⟩ := List.forall_mem_cons.mp spectators
      obtain ⟨_, engine, _⟩ := step_spectated command session spectates
      have later := ih (session.step command).2 (still_spectated command session spectates brings) others
      rw [engine] at later
      exact later

theorem states_spectated (commands : List Command) (session : Session) (spectates : Observer.Spectates session.observer)
    (spectators : ∀ command ∈ commands, command.BringsSpectator) :
    session.states commands = (session.engine.trace (commands.filter Command.IsOperation)).map Reaction.engine := by
  induction commands generalizing session with
  | nil => rfl
  | cons command rest ih =>
      obtain ⟨brings, others⟩ := List.forall_mem_cons.mp spectators
      obtain ⟨_, engine, _⟩ := step_spectated command session spectates
      have later := ih (session.step command).2 (still_spectated command session spectates brings) others
      rw [engine] at later
      rw [states]
      by_cases operation : command.IsOperation
      · rw [if_pos operation, List.filter_cons_of_pos (by simpa using operation), Engine.trace, List.map_cons, later, engine]
      · rw [if_neg operation, List.filter_cons_of_neg (by simpa using operation), later,
          session.engine.other_commands command operation]

end Session

-- What an engine takes, with nobody watching: input that is accepted, a valid operator, every reset, and a reduction
-- that answers.
def Engine.Takes (engine : Engine) : Command → Prop
  | .numeral typed => ((Session.start engine none).step (.numeral typed)).1 = .ok (.accepted true)
  | .operator chosen => ∃ o, Input.operator chosen = .ok o
  | .reduce => ∃ fault, ((Session.start engine none).step .reduce).1 = .ok (.reduced fault)
  | .reset => True
  | _ => False

theorem Engine.numeral_told (engine : Engine) (typed : Value) :
    (engine.react (.numeral typed)).told = true ↔ (engine.react (.numeral typed)).answer = .ok (.accepted true) := by
  rw [react]
  cases Input.keystroke typed with
  | error fault => exact ⟨fun told => (by cases told), fun answer => (by cases answer)⟩
  | ok text =>
      dsimp only [takeInput]
      cases engine.opened.tokens.typed text with
      | error held => exact ⟨fun told => (by cases told), fun answer => (by cases answer)⟩
      | ok tokens => exact ⟨fun _ => rfl, fun _ => rfl⟩

theorem Engine.operator_told (engine : Engine) (chosen : Value) :
    (engine.react (.operator chosen)).told = true ↔ ∃ o, Input.operator chosen = .ok o := by
  rw [react]
  cases Input.operator chosen with
  | error fault =>
      constructor
      · rintro ⟨⟩
      · rintro ⟨o, ⟨⟩⟩
  | ok o => exact ⟨fun _ => ⟨o, rfl⟩, fun _ => rfl⟩

theorem Engine.reduction_told (engine : Engine) :
    engine.takeReduction.told = true ↔ ∃ fault, engine.takeReduction.answer = .ok (.reduced fault) := by
  rcases engine.reduction_cases with ⟨result, _, reaction⟩ | ⟨fault, _, reaction⟩ | ⟨failure, _, reaction⟩
  · rw [reaction]
    exact ⟨fun _ => ⟨none, rfl⟩, fun _ => rfl⟩
  · obtain ⟨told, answer⟩ := Session.take_fault_told engine fault
    rw [reaction, told, answer]
    exact ⟨fun _ => ⟨some fault, rfl⟩, fun _ => rfl⟩
  · rw [reaction]
    constructor
    · rintro ⟨⟩
    · rintro ⟨fault, ⟨⟩⟩

theorem Engine.told_iff_takes (engine : Engine) (command : Command) :
    (engine.react command).told = true ↔ engine.Takes command := by
  cases command with
  | numeral typed =>
      rw [Takes, (Session.step_alone _ (Session.start engine none) rfl).1]
      exact engine.numeral_told typed
  | operator chosen => exact engine.operator_told chosen
  | reduce =>
      rw [Takes, (Session.step_alone _ (Session.start engine none) rfl).1]
      exact engine.reduction_told
  | reset => exact ⟨fun _ => trivial, fun _ => rfl⟩
  | observe _ => exact ⟨fun told => (by cases told), False.elim⟩
  | release => exact ⟨fun told => (by cases told), False.elim⟩
  | settings => exact ⟨fun told => (by cases told), False.elim⟩
  | describe => exact ⟨fun told => (by cases told), False.elim⟩
  | idle => exact ⟨fun told => (by cases told), False.elim⟩

theorem Engine.reduction_untold (engine : Engine) : engine.takeReduction.told = false ↔ Reduction.Escapes engine.evaluate := by
  rcases engine.reduction_cases with ⟨result, done, reaction⟩ | ⟨fault, failed, reaction⟩ | ⟨failure, escapes, reaction⟩
  · rw [reaction, done]
    constructor
    · rintro ⟨⟩
    · rintro ⟨failure, ⟨⟩, _⟩
  · rw [reaction, (Session.take_fault_told engine fault).1, failed]
    constructor
    · rintro ⟨⟩
    · rintro ⟨failure, found, noFault⟩
      cases found
      exact absurd rfl (noFault fault)
  · rw [reaction]
    exact ⟨fun _ => ⟨failure, escapes⟩, fun _ => rfl⟩

namespace Session

theorem observers_only_watch (settings : Settings) (seed : Option Text) (one other : Option Observer)
    (here there : List Command) (first : Observer.Spectates one) (second : Observer.Spectates other)
    (watched : ∀ command ∈ here, command.BringsSpectator) (otherwise : ∀ command ∈ there, command.BringsSpectator)
    (same : here.filter Command.IsOperation = there.filter Command.IsOperation) :
    (start (.seeded settings seed) one).states here = (start (.seeded settings seed) other).states there ∧
      ∀ done command rest, here = done ++ command :: rest →
        let session := (start (.seeded settings seed) one).after done
        let called := (session.step command).2
        (session.engine.Takes command → called.seen = if session.observer.isSome then [called.engine.text] else []) ∧
          (¬ session.engine.Takes command → called.seen = []) ∧
          (¬ session.engine.Takes .reduce → FixedPoint.mostPrecision < FixedPoint.precision settings) := by
  refine ⟨?_, ?_⟩
  · rw [states_spectated here _ first watched, states_spectated there _ second otherwise, same]
    rfl
  · intro done command rest split session called
    have before : ∀ each ∈ done, each.BringsSpectator := by
      intro each member
      apply watched each
      rw [split]
      exact List.mem_append_left _ member
    obtain ⟨_, spectates⟩ := after_spectated done (start (.seeded settings seed) one) first before
    obtain ⟨_, engine, seen⟩ := step_spectated command session spectates
    have keep : ∀ (engine : Engine) (command : Command),
        engine.settings = settings → (engine.react command).engine.settings = settings :=
      fun engine command kept => (engine.react_settings command).trans kept
    have configured : session.engine.settings = settings :=
      after_keeps keep done (start (.seeded settings seed) one) (Engine.seeded_settings settings seed)
    refine ⟨fun takes => ?_, fun refused => ?_, fun refused => ?_⟩
    · rw [seen, engine, (session.engine.told_iff_takes command).mpr takes, Bool.and_true]
    · rw [← Engine.told_iff_takes] at refused
      rw [seen, Bool.eq_false_iff.mpr refused, Bool.and_false]
      rfl
    · rw [← Engine.told_iff_takes, Bool.not_eq_true] at refused
      rw [← configured]
      exact Reduction.escapes_beyond _ _ (session.engine.reduction_untold.mp refused)

theorem point_refused_and_seen :
    let settings : Settings := ⟨0, 5, by decide⟩
    let here : List Command := [.numeral (.text ['4']), .observe (some .refuser), .numeral (.text ['.']),
      .numeral (.text ['.']), .release, .operator (.text ['+'])]
    let there : List Command := [.numeral (.text ['4']), .numeral (.text ['.']), .numeral (.text ['.']),
      .operator (.text ['+'])]
    let watched := start (.seeded settings none) (some .recorder)
    Observer.Spectates (some .recorder) ∧ Observer.Spectates none ∧ (∀ command ∈ here, command.BringsSpectator) ∧
      (∀ command ∈ there, command.BringsSpectator) ∧
      here.filter Command.IsOperation = there.filter Command.IsOperation ∧
      watched.states here = (start (.seeded settings none) none).states there ∧
      ((watched.after (here.take 2)).step (.numeral (.text ['.']))).2.seen = ["4.".toList] ∧
      ((watched.after (here.take 3)).step (.numeral (.text ['.']))).2.seen = [] := by
  intro settings here there watched
  have brought : ∀ command ∈ here, command.BringsSpectator := by
    simp [here, Command.BringsSpectator, Observer.Spectates, Observer.script]
  have none_brought : ∀ command ∈ there, command.BringsSpectator := by
    simp [there, Command.BringsSpectator]
  have same : here.filter Command.IsOperation = there.filter Command.IsOperation := rfl
  obtain ⟨states, calls⟩ := observers_only_watch settings none (some .recorder) none here there rfl rfl brought none_brought same
  have accepted := (calls (here.take 2) (.numeral (.text ['.'])) (here.drop 3) rfl).1 rfl
  have rejected := (calls (here.take 3) (.numeral (.text ['.'])) (here.drop 4) rfl).2.1 (fun same => by cases same)
  exact ⟨rfl, rfl, brought, none_brought, same, states, accepted, rejected⟩

theorem refused_sum_goes_unheard :
    let session := start (.seeded ⟨0, 10 ^ 18, by decide⟩ (some "4 + 2".toList)) (some .recorder)
    session.observer.isSome = true ∧ (session.step .reduce).2.seen ≠ [(session.step .reduce).2.engine.text] := by
  let sum : Chain := ⟨⟨['4']⟩, [(.addition, ⟨['2']⟩)]⟩
  intro session
  have escapes : Reduction.Escapes session.engine.evaluate := by
    change Reduction.Escapes (Reduction.evaluate session.engine.settings sum.tokens)
    rw [Reduction.evaluate_chain _ sum (List.cons_ne_nil _ _)]
    decide +kernel
  have untold : (session.engine.react .reduce).told = false := session.engine.reduction_untold.mpr escapes
  refine ⟨rfl, ?_⟩
  rw [(step_spectated .reduce session rfl).2.2, untold]
  exact (List.cons_ne_nil _ _).symm

end Session

end PocketCalculator
