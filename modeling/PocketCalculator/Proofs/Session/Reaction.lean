import PocketCalculator.Proofs.Session.Action

set_option autoImplicit false

namespace PocketCalculator

theorem Input.keystroke_text (typed : Value) (text : Text) (taken : keystroke typed = .ok text) :
    text ≠ [] ∧ isNumeralInput text = true := by
  have keyed : ∀ (t : Text) (value : Value), keyedText t value = .ok text → text ≠ [] ∧ isNumeralInput text = true := by
    intro t value accepted
    rw [keyedText] at accepted
    split at accepted
    · cases accepted
    · rename_i some_char
      split at accepted
      · rename_i input
        cases accepted
        exact ⟨by simpa using some_char, input⟩
      · cases accepted
  cases typed with
  | text t => exact keyed t _ taken
  | operator o => exact keyed o.text _ taken
  | absent | number _ | list _ | tuple _ | other _ _ _ => cases taken

structure Reaction where
  answer : Except Failure Answer
  engine : Engine
  events : List Event
  told : Bool

namespace Engine

-- Input begins a new expression after a result and after a message.
def opened (engine : Engine) : Engine := if engine.resultShown then engine.cleared else engine

def withTokens (engine : Engine) (tokens : Expression) : Engine := { engine with tokens := tokens }

def shown (engine : Engine) : Engine := { engine with resultShown := true }

def quiet (engine : Engine) (answer : Except Failure Answer) (events : List Event) : Reaction :=
  ⟨answer, engine, events, false⟩

def told (engine : Engine) (answer : Answer) (events : List Event) : Reaction := ⟨.ok answer, engine, events, true⟩

def takeInput (engine : Engine) (text : Text) : Reaction :=
  match engine.opened.tokens.typed text with
  | .error held => engine.opened.quiet (.ok (.accepted false)) [.pointRejected text held.text]
  | .ok tokens =>
      let next := engine.opened.withTokens tokens
      next.told (.accepted true) [.expressionChanged next.text]

def takeOperator (engine : Engine) (o : Operator) : Reaction :=
  let next := engine.continued.withTokens (engine.continued.tokens.withOperator o)
  next.told .nothing [.expressionChanged next.text]

-- A displayed result that is reduced again stays, and nothing is reported.
def keeps (engine : Engine) : Fault → Bool
  | .missingElement _ => engine.showsLoneResult
  | _ => false

def faultEvents (engine : Engine) : Fault → List Event
  | .unknownOperator found =>
      [.expressionInconsistent engine.tokens.rendered (.unknownOperator found), .reductionFailed (.unknownOperator found)]
  | fault => [.reductionFailed fault]

def takeFault (engine : Engine) (fault : Fault) : Reaction :=
  if engine.keeps fault then ({ engine.shown with lastFault := some fault } : Engine).told (.reduced (some fault)) []
  else (engine.shown.withFault fault).told (.reduced (some fault)) (engine.faultEvents fault)

def takeReduction (engine : Engine) : Reaction :=
  match engine.evaluate with
  | .ok result => (engine.shown.withResult result).told (.reduced none) [.reduced result.text]
  | .error (.fault fault) => engine.takeFault fault
  | .error failure => engine.shown.quiet (.error failure) []

def react (engine : Engine) : Command → Reaction
  | .numeral typed =>
      match Input.keystroke typed with
      | .error fault => engine.quiet (.error (.fault fault)) []
      | .ok text => engine.takeInput text
  | .operator chosen =>
      match Input.operator chosen with
      | .error fault => engine.quiet (.error (.fault fault)) []
      | .ok o => engine.takeOperator o
  | .reduce => engine.takeReduction
  | .reset => (initial engine.settings).told .nothing []
  | .settings => engine.quiet (.ok (.limits engine.settings)) []
  | .describe => engine.quiet (.ok (.description engine.description)) []
  | .observe _ | .release | .idle => engine.quiet (.ok .nothing) []

theorem keeps_missing (engine : Engine) (fault : Fault) (keeps : engine.keeps fault = true) :
    ∃ value, fault = .missingElement value ∧ engine.showsLoneResult = true := by
  cases fault with
  | missingElement value => exact ⟨value, rfl, keeps⟩
  | general _ _ | operandInvalid _ _ _ | divisionByZero _ | unknownOperator _ | resultOverflow _ _ | invalidInput _ _ =>
      cases keeps

theorem reduction_cases (engine : Engine) :
    (∃ result, engine.evaluate = .ok result ∧
      engine.takeReduction = (engine.shown.withResult result).told (.reduced none) [.reduced result.text]) ∨
    (∃ fault, engine.evaluate = .error (.fault fault) ∧ engine.takeReduction = engine.takeFault fault) ∨
    ∃ failure, (engine.evaluate = .error failure ∧ ∀ fault, failure ≠ .fault fault) ∧
      engine.takeReduction = engine.shown.quiet (.error failure) [] := by
  rw [takeReduction]
  cases engine.evaluate with
  | ok result => exact .inl ⟨result, rfl, rfl⟩
  | error failure =>
      cases failure with
      | fault fault => exact .inr (.inl ⟨fault, rfl, rfl⟩)
      | wholeTooLarge | tooManyDigits | precisionRefused | precisionTooLarge | observerRefused =>
          exact .inr (.inr ⟨_, ⟨rfl, fun _ => Failure.noConfusion⟩, rfl⟩)

theorem react_cases (engine : Engine) (command : Command) :
    (∃ text, text ≠ [] ∧ Input.isNumeralInput text = true ∧ engine.react command = engine.takeInput text) ∨
      (∃ o, engine.react command = engine.takeOperator o) ∨
      (command = .reduce ∧ engine.react command = engine.takeReduction) ∨
      engine.react command = (initial engine.settings).told .nothing [] ∨
      ∃ answer, engine.react command = engine.quiet answer [] := by
  cases command with
  | numeral typed =>
      rw [react]
      cases accepted : Input.keystroke typed with
      | error fault => exact .inr (.inr (.inr (.inr ⟨_, rfl⟩)))
      | ok text =>
          obtain ⟨some_char, input⟩ := Input.keystroke_text typed text accepted
          exact .inl ⟨text, some_char, input, rfl⟩
  | operator chosen =>
      rw [react]
      cases Input.operator chosen with
      | error fault => exact .inr (.inr (.inr (.inr ⟨_, rfl⟩)))
      | ok o => exact .inr (.inl ⟨o, rfl⟩)
  | reduce => exact .inr (.inr (.inl ⟨rfl, rfl⟩))
  | reset => exact .inr (.inr (.inr (.inl rfl)))
  | observe _ | release | settings | describe | idle => exact .inr (.inr (.inr (.inr ⟨_, rfl⟩)))

end Engine

@[simp] def Command.observerAfter (command : Command) (observer : Option Observer) : Option Observer :=
  match command with
  | .observe next => next
  | .release => none
  | _ => observer

@[simp] theorem Engine.quiet_engine (engine : Engine) (answer : Except Failure Answer) (events : List Event) :
    (engine.quiet answer events).engine = engine := rfl

@[simp] theorem Engine.quiet_events (engine : Engine) (answer : Except Failure Answer) (events : List Event) :
    (engine.quiet answer events).events = events := rfl

@[simp] theorem Engine.told_engine (engine : Engine) (answer : Answer) (events : List Event) :
    (engine.told answer events).engine = engine := rfl

@[simp] theorem Engine.told_events (engine : Engine) (answer : Answer) (events : List Event) :
    (engine.told answer events).events = events := rfl

namespace Session

-- The session as it is when the observer hears of the command.
def reacted (command : Command) (session : Session) : Session where
  engine := (session.engine.react command).engine
  observer := command.observerAfter session.observer
  seen := session.seen
  events := session.events ++ (session.engine.react command).events

def conclude (notify : Action Unit) (reaction : Reaction) (session : Session) : Except Failure Answer × Session :=
  if reaction.told then Action.next (fun _ last => (reaction.answer, last)) (notify session)
  else (reaction.answer, session)

@[simp] theorem conclude_of_quiet (notify : Action Unit) (engine : Engine) (answer : Except Failure Answer)
    (events : List Event) (session : Session) :
    conclude notify (engine.quiet answer events) session = (answer, session) := rfl

@[simp] theorem conclude_of_told (notify : Action Unit) (engine : Engine) (answer : Answer) (events : List Event)
    (session : Session) :
    conclude notify (engine.told answer events) session =
      Action.next (fun _ after => (.ok answer, after)) (notify session) := rfl

open PocketCalculator.Action

@[simp] theorem tell_expression_run (notify : Action Unit) (session : Session) :
    tellExpression notify session =
      notify { session with events := session.events ++ [.expressionChanged session.engine.text] } := by
  simp [tellExpression]

theorem numeral_reacts (notify : Action Unit) (typed : Value) (session : Session) :
    perform notify (.numeral typed) session =
      conclude notify (session.engine.react (.numeral typed)) (session.reacted (.numeral typed)) := by
  cases input : Input.keystroke typed with
  | error fault => simp [perform, appendNumeral, input, reacted, Engine.react]
  | ok text =>
      have opening : ∀ rest : Action Bool,
          (if session.engine.resultShown then (do changeEngine Engine.cleared; rest) else rest) session =
            rest { session with engine := session.engine.opened } := by
        intro rest
        cases shown : session.engine.resultShown <;> simp [Engine.opened, shown]
      simp only [perform, appendNumeral, input, reacted, Engine.react, Engine.takeInput, map_run, bind_run, or_fault_ok,
        next_ok, current_run, opening]
      cases session.engine.opened.tokens.typed text <;> simp [Engine.withTokens]

theorem operator_reacts (notify : Action Unit) (chosen : Value) (session : Session) :
    perform notify (.operator chosen) session =
      conclude notify (session.engine.react (.operator chosen)) (session.reacted (.operator chosen)) := by
  cases input : Input.operator chosen with
  | error fault => simp [perform, appendOperator, input, reacted, Engine.react]
  | ok o => simp [perform, appendOperator, input, reacted, Engine.react, Engine.takeOperator, Engine.withTokens]

theorem reset_reacts (notify : Action Unit) (session : Session) :
    perform notify .reset session = conclude notify (session.engine.react .reset) (session.reacted .reset) := by
  simp [perform, reset, reacted, Engine.react]

@[simp] theorem show_fault_run (notify : Action Unit) (fault : Fault) (session : Session) :
    showFault notify fault session =
      notify { session with
        engine := session.engine.withFault fault
        events := session.events ++ [.reductionFailed fault] } := by
  simp [showFault]

theorem tell_fault_run (notify : Action Unit) (before : Engine) (fault : Fault) (session : Session)
    (shown : session.engine = before.shown) :
    tellFault notify before fault session =
      notify { session with
        engine := (before.takeFault fault).engine
        events := session.events ++ (before.takeFault fault).events } := by
  rw [Engine.takeFault]
  cases fault with
  | missingElement value =>
      cases lone : before.showsLoneResult <;> simp [tellFault, Engine.keeps, lone, shown, Engine.faultEvents]
  | unknownOperator found => simp [tellFault, Engine.keeps, Engine.faultEvents, shown]
  | general _ _ | operandInvalid _ _ _ | divisionByZero _ | resultOverflow _ _ | invalidInput _ _ =>
      simp [tellFault, Engine.keeps, Engine.faultEvents, shown]

theorem take_fault_told (engine : Engine) (fault : Fault) :
    (engine.takeFault fault).told = true ∧ (engine.takeFault fault).answer = .ok (.reduced (some fault)) := by
  rw [Engine.takeFault]
  split <;> exact ⟨rfl, rfl⟩

theorem reduce_reacts (notify : Action Unit) (session : Session) :
    perform notify .reduce session = conclude notify (session.engine.react .reduce) (session.reacted .reduce) := by
  have before : ∀ engine : Engine, ({ engine with resultShown := true } : Engine) = engine.shown := fun _ => rfl
  cases outcome : session.engine.evaluate with
  | ok result => simp [perform, Action.reduce, reacted, Engine.react, Engine.takeReduction, outcome, before]
  | error failure =>
      cases failure with
      | fault fault =>
          obtain ⟨told, answer⟩ := take_fault_told session.engine fault
          simp [perform, Action.reduce, reacted, Engine.react, Engine.takeReduction, outcome, before, conclude, told,
            answer, tell_fault_run notify session.engine fault]
      | wholeTooLarge | tooManyDigits | precisionRefused | precisionTooLarge | observerRefused =>
          simp [perform, Action.reduce, reacted, Engine.react, Engine.takeReduction, outcome, before]

-- Whoever is notified finds all done: nothing of the session is changed after the notification.
theorem perform_reacts (notify : Action Unit) (command : Command) (session : Session) :
    perform notify command session = conclude notify (session.engine.react command) (session.reacted command) := by
  cases command with
  | numeral typed => exact numeral_reacts notify typed session
  | operator chosen => exact operator_reacts notify chosen session
  | reduce => exact reduce_reacts notify session
  | reset => exact reset_reacts notify session
  | observe _ | release | settings | describe | idle => simp [perform, reacted, Engine.react]

end Session

end PocketCalculator
