import PocketCalculator.Session.Operations

set_option autoImplicit false

namespace PocketCalculator.Session

def performQuietly (command : Command) (session : Session) : Except Failure Answer × Session :=
  Action.perform Action.expose command session

def told (before after : Session) : Bool := before.seen.length < after.seen.length

structure Outcome where
  failure : Option Failure
  session : Session
  script : List Command

def failure? (result : Except Failure Answer) : Option Failure :=
  match result with
  | .ok _ => none
  | .error failure => some failure

-- A script performed after the command that starts it and not from inside: one command at a time, each on an
-- engine that nobody acts on, as long as the last one told of a change.
def queued : List Command → Command → Session → Outcome
  | script, command, session =>
      let (result, after) := performQuietly command session
      match script with
      | [] => ⟨failure? result, after, []⟩
      | next :: rest =>
          if told session after then queued rest next after else ⟨failure? result, after, next :: rest⟩

end PocketCalculator.Session
