import PocketCalculator.Input
import PocketCalculator.Session.Basic

set_option autoImplicit false

namespace PocketCalculator.Action

def tellExpression (notify : Action Unit) : Action Unit := do
  report (.expressionChanged (← current).text)
  notify

def appendNumeral (notify : Action Unit) (typed : Value) : Action Bool := do
  let text ← orFault (Input.keystroke typed)
  if (← current).resultShown then changeEngine Engine.cleared
  match (← current).tokens.typed text with
  | .error held =>
      report (.pointRejected text held.text)
      return false
  | .ok tokens =>
      changeEngine ({ · with tokens := tokens })
      tellExpression notify
      return true

def appendOperator (notify : Action Unit) (chosen : Value) : Action Unit := do
  let operator ← orFault (Input.operator chosen)
  changeEngine Engine.continued
  changeEngine fun engine => { engine with tokens := engine.tokens.withOperator operator }
  tellExpression notify

def reset (notify : Action Unit) : Action Unit := do
  changeEngine fun engine => Engine.initial engine.settings
  notify

def showFault (notify : Action Unit) (fault : Fault) : Action Unit := do
  report (.reductionFailed fault)
  changeEngine (·.withFault fault)
  notify

def tellFault (notify : Action Unit) (before : Engine) (fault : Fault) : Action Unit :=
  match fault with
  | .missingElement _ =>
      -- Reducing a displayed result again leaves it on display.
      if before.showsLoneResult then do
        changeEngine ({ · with lastFault := some fault })
        notify
      else showFault notify fault
  | .unknownOperator _ => do
      report (.expressionInconsistent before.tokens.rendered fault)
      showFault notify fault
  | _ => showFault notify fault

-- A fault is shown and answered. A failure that is no fault leaves the call, as does the notification's own.
def reduce (notify : Action Unit) : Action (Option Fault) := do
  let before ← current
  changeEngine ({ · with resultShown := true })
  match before.evaluate with
  | .ok result =>
      changeEngine (·.withResult result)
      report (.reduced result.text)
      notify
      return none
  | .error (.fault fault) =>
      tellFault notify before fault
      return some fault
  | .error failure => throw failure

def perform (notify : Action Unit) : Command → Action Answer
  | .numeral typed => .accepted <$> appendNumeral notify typed
  | .operator chosen => do
      appendOperator notify chosen
      return .nothing
  | .reduce => .reduced <$> reduce notify
  | .reset => do
      reset notify
      return .nothing
  | .observe observer => do
      observe observer
      return .nothing
  | .release => do
      observe none
      return .nothing
  | .settings => do return .limits (← current).settings
  | .describe => do return .description (← current).description
  | .idle => return .nothing

end PocketCalculator.Action
