import PocketCalculator.Fault

set_option autoImplicit false

namespace PocketCalculator.Input

open DecimalDigit

def isNumeralInput (t : Text) : Bool :=
  match t.dropWhile isDecimal with
  | [] => true
  | '.' :: rest => rest.all isDecimal
  | _ => false

def emptyReason : Text := "Numeral input must not be empty".toList
def digitsReason : Text := "Numeral input must be digits with at most one decimal point".toList
def symbolReason : Text := "Unknown operator symbol".toList
def undefinedReason : Text := "NaN is not allowed".toList
def infiniteReason : Text := "Infinity is not allowed".toList

def kindReason (expected : Text) (value : Value) : Text :=
  "Expected ".toList ++ expected ++ ", got ".toList ++ value.kind

def refused {α : Type} (value : Value) (reason : Text) : Except Fault α :=
  .error (.invalidInput value (.text reason))

def keyedText (t : Text) (value : Value) : Except Fault Text :=
  if t.isEmpty then refused value emptyReason
  else if isNumeralInput t then .ok t
  else refused value digitsReason

def keystroke (value : Value) : Except Fault Text :=
  match value with
  | .text t => keyedText t value
  -- An operator passes for the text of its symbol, which is no numeral input.
  | .operator o => keyedText o.text value
  | _ => refused value (kindReason "str".toList value)

def operator (value : Value) : Except Fault Operator :=
  match value with
  | .operator o => .ok o
  | .text t =>
      match Operator.ofText? t with
      | some o => .ok o
      | none => refused value symbolReason
  | _ => refused value symbolReason

-- A truth value is no number here.
def number (value : Value) : Except Fault Number :=
  match value with
  | .number (.whole n) => .ok (.whole n)
  | .number (.real .undefined) => refused value undefinedReason
  | .number (.real (.infinite _)) => refused value infiniteReason
  | .number (.real x) => .ok (.real x)
  | _ => refused value (kindReason "number".toList value)

end PocketCalculator.Input
