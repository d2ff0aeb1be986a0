import PocketCalculator.Engine.Basic
import PocketCalculator.Engine.Event
import PocketCalculator.Observer

set_option autoImplicit false

namespace PocketCalculator

structure Session where
  engine : Engine
  observer : Option Observer
  seen : List Text
  events : List Event

def Session.start (engine : Engine) (observer : Option Observer) : Session := ⟨engine, observer, [], []⟩

-- Changes of the session stay when an action fails.
abbrev Action := ExceptT Failure (StateM Session)

inductive Answer where
  | nothing
  | accepted (changed : Bool)
  | reduced (fault : Option Fault)
  | limits (settings : Settings)
  | description (t : Text)

namespace Action

def current : Action Engine := do return (← get).engine

def changeEngine (change : Engine → Engine) : Action Unit :=
  modify fun session => { session with engine := change session.engine }

def report (event : Event) : Action Unit :=
  modify fun session => { session with events := session.events ++ [event] }

def observe (observer : Option Observer) : Action Unit :=
  modify fun session => { session with observer := observer }

def expose : Action Unit :=
  modify fun session => { session with seen := session.seen ++ [session.engine.text] }

def orFault {α : Type} (result : Except Fault α) : Action α :=
  match result with
  | .ok value => pure value
  | .error fault => throw (.fault fault)

end Action

end PocketCalculator
