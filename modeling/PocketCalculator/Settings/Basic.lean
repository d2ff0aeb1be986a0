import PocketCalculator.Settings.Library

set_option autoImplicit false

namespace PocketCalculator

structure Settings where
  minDigits : Nat
  maxDigits : Nat
  ordered : minDigits ≤ maxDigits
deriving DecidableEq

namespace Settings

structure Problem where
  location : List Text
  complaint : Complaint
deriving DecidableEq

def Field.problem (field : Field) (complaint : Complaint) : Problem := ⟨[field.name], complaint⟩

variable (library : Library)

def reversed : Problem :=
  ⟨[], library.refused "max_fraction_digits must not be below min_fraction_digits".toList⟩

def source (arguments : Arguments) (environment : Environment) (field : Field) : Value :=
  (library.gathered arguments environment field).getD field.default

def digitCount (value : Value) : Except Complaint Nat := do
  let n ← library.whole value
  if n < 0 then .error (library.below 0) else .ok n.toNat

def ofDigits (minDigits maxDigits : Nat) : Except (List Problem) Settings :=
  if ordered : minDigits ≤ maxDigits then .ok ⟨minDigits, maxDigits, ordered⟩ else .error [reversed library]

-- Both fields are read before they are compared, and each complaint is reported, the minimum's first.
def load (arguments : Arguments) (environment : Environment) : Except (List Problem) Settings :=
  let minimum := digitCount library (source library arguments environment .minimum)
  let maximum := digitCount library (source library arguments environment .maximum)
  match minimum, maximum with
  | .ok m, .ok n => ofDigits library m n
  | .error complaint, .ok _ => .error [Field.minimum.problem complaint]
  | .ok _, .error complaint => .error [Field.maximum.problem complaint]
  | .error first, .error second => .error [Field.minimum.problem first, Field.maximum.problem second]

end Settings

end PocketCalculator
