import PocketCalculator.Double.Rounding
import PocketCalculator.Text.DecimalDigit
import PocketCalculator.Text.Quoted

set_option autoImplicit false

namespace PocketCalculator

open DecimalDigit

structure Numeral where
  text : Text
deriving DecidableEq

structure Malformed where
  text : Text
deriving DecidableEq

def Malformed.message (malformed : Malformed) : Text :=
  "not a decimal numeral: ".toList ++ Quoted.quoted malformed.text

namespace Numeral

def hasPoint (numeral : Numeral) : Bool := numeral.text.contains '.'

structure Parts where
  negative : Bool
  whole : Text
  fraction : Text
deriving DecidableEq

def signOf : Text → Bool × Text
  | '-' :: rest => (true, rest)
  | t => (false, t)

def parts? (numeral : Numeral) : Option Parts :=
  let (negative, unsigned) := signOf numeral.text
  let whole := unsigned.takeWhile isDecimal
  match unsigned.dropWhile isDecimal with
  | [] => if whole.isEmpty then none else some ⟨negative, whole, []⟩
  | '.' :: fraction =>
      if fraction.all isDecimal && !(whole.isEmpty && fraction.isEmpty) then
        some ⟨negative, whole, fraction⟩
      else none
  | _ => none

def Parts.value (parts : Parts) : Double :=
  Double.ofDecimal parts.negative (valueOf (parts.whole ++ parts.fraction)) (-parts.fraction.length)

def wellFormed (numeral : Numeral) : Bool := numeral.parts?.isSome

def value (numeral : Numeral) : Except Malformed Double :=
  match numeral.parts? with
  | some parts => .ok parts.value
  | none => .error ⟨numeral.text⟩

-- An ASCII zero directly before a digit of any script is redundant.
def dropZeros : Text → Text
  | [] => []
  | c :: rest =>
      if c = '0' && (rest.head?.any isDecimal) then dropZeros rest else c :: rest

def withoutLeadingZeros : Text → Text
  | '-' :: rest => '-' :: dropZeros rest
  | t => dropZeros t

def withLeadingZero : Text → Text
  | '.' :: rest => '0' :: '.' :: rest
  | t => t

def empty : Numeral := ⟨[]⟩
def zero : Numeral := ⟨['0']⟩

def extend (numeral : Numeral) (typed : Text) : Numeral :=
  ⟨withoutLeadingZeros (withLeadingZero (numeral.text ++ typed))⟩

end Numeral

end PocketCalculator
