import PocketCalculator.Session.Operations

/- Notifications. The observer is shown the engine's text while the call that changed it is still running,
   and a scripted one performs its next command from there: the command leaves the script first, its
   answer is dropped, and its failure passes through every call around it.

   Each nested command uses up one of a budget. The length of the script is enough, since a command that
   brings another script notifies nobody. -/
set_option autoImplicit false

namespace PocketCalculator

def Action.hear (nested : Option (Command → Action Answer)) : Action Unit := do
  match (← get).observer with
  | none => pure ()
  | some observer =>
      expose
      match observer, nested with
      | .refuser, _ => throw .observerRefused
      | .scripted (next :: rest), some performNext =>
          observe (some (.scripted rest))
          let _ ← performNext next
      | _, _ => pure ()

def Action.notify : Nat → Action Unit
  | 0 => hear none
  | budget + 1 => hear (some (perform (notify budget)))

def Session.step (command : Command) (session : Session) : Except Failure Answer × Session :=
  let budget := (session.observer.map Observer.scriptLength).getD 0
  Action.perform (Action.notify budget) command { session with seen := [], events := [] }

end PocketCalculator
