import PocketCalculator.Expression.Editing
import PocketCalculator.Reduction.Scan

set_option autoImplicit false

namespace PocketCalculator

structure Engine where
  tokens : Expression
  resultShown : Bool
  message : Option Text
  lastFault : Option Fault
  settings : Settings

namespace Engine

def initial (settings : Settings) : Engine := ⟨Expression.initial, false, none, none, settings⟩

def ofText (settings : Settings) (t : Text) : Engine :=
  let tokens := Expression.ofText t
  { initial settings with tokens := if tokens.isEmpty then Expression.initial else tokens }

def text (engine : Engine) : Text := engine.message.getD engine.tokens.rendered

def cleared (engine : Engine) : Engine :=
  { engine with tokens := [], resultShown := false, message := none, lastFault := none }

-- Before an operator a result stays as its left operand, and a message goes.
def continued (engine : Engine) : Engine :=
  if engine.resultShown then
    { engine with
      tokens := if engine.message.isSome then [] else engine.tokens
      resultShown := false
      message := none
      lastFault := none }
  else engine

def showsLoneResult (engine : Engine) : Bool :=
  engine.resultShown && engine.message.isNone && engine.tokens.length = 1

def evaluate (engine : Engine) : Except Failure Numeral :=
  Reduction.evaluate engine.settings engine.tokens

def withResult (engine : Engine) (result : Numeral) : Engine :=
  { engine with tokens := [.numeral result], message := none, lastFault := none }

def withFault (engine : Engine) (fault : Fault) : Engine :=
  { engine with tokens := [], message := some fault.message, lastFault := some fault }

def truthText (holds : Bool) : Text := (Number.truth holds).written

def description (engine : Engine) : Text :=
  "ExpressionEngine(text=".toList ++ Quoted.quoted engine.text ++
    ", result_displayed=".toList ++ truthText engine.resultShown ++ [')']

end Engine

end PocketCalculator
