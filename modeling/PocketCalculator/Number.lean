import PocketCalculator.Double.Written

set_option autoImplicit false

namespace PocketCalculator

inductive Number where
  | whole (n : Int)
  | real (x : Double)
  | truth (holds : Bool)
deriving DecidableEq

namespace Number

def ofTruth (holds : Bool) : Int := if holds then 1 else 0

def whole? : Number → Option Int
  | .whole n => some n
  | .truth holds => some (ofTruth holds)
  | .real _ => none

def isZero : Number → Bool
  | .whole n => n = 0
  | .truth holds => !holds
  | .real x => x.isZero

def written : Number → Text
  | .whole n => signedText n
  | .real x => x.written
  | .truth true => "True".toList
  | .truth false => "False".toList

def kind : Number → Text
  | .whole _ => "int".toList
  | .real _ => "float".toList
  | .truth _ => "bool".toList

end Number

end PocketCalculator
