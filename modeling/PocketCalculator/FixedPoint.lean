import PocketCalculator.Fault
import PocketCalculator.Settings.Basic

set_option autoImplicit false

namespace PocketCalculator.FixedPoint

-- The greatest finite double has as many digits left of the point.
def mostWholeDigits : Nat := 309

def mostPlaces : Nat := 1074

-- Doubles end within `mostPlaces` fraction digits, so that rounding at more of them changes nothing
-- (`rounded_past_end`) and is not done.
def places (settings : Settings) : Nat := min settings.maxDigits mostPlaces

def rounded (places num den : Nat) : Nat := halfEven (num * 10 ^ places) den

theorem doubles_end (units : Nat) : Double.unitsPerOne ∣ units * 10 ^ mostPlaces := by
  unfold Double.unitsPerOne mostPlaces
  generalize 1074 = exponent
  rw [show 10 = 2 * 5 from rfl, Nat.mul_pow]
  exact Nat.dvd_mul_left_of_dvd (Nat.dvd_mul_right _ _) units

theorem rounded_past_end (places extra num den : Nat) (ends : den ∣ num * 10 ^ places) :
    rounded (places + extra) num den = rounded places num den * 10 ^ extra := by
  unfold rounded
  rw [Nat.pow_add, ← Nat.mul_assoc, half_even_dvd _ _ ends, half_even_dvd _ _ (Nat.dvd_mul_right_of_dvd ends _)]
  exact Nat.mul_div_right_comm ends _

def trimmedFraction (least : Nat) (fraction : Text) : Text :=
  Text.paddedRight least (Text.withoutTrailingZeros fraction)

def withFraction (whole fraction : Text) : Text :=
  if fraction.isEmpty then whole else whole ++ '.' :: fraction

-- `count` is in units of the last place.
def positional (settings : Settings) (count : Nat) : Text :=
  let digits := Text.paddedLeft (places settings + 1) (decimalText count)
  let whole := digits.take (digits.length - places settings)
  let fraction := digits.drop (digits.length - places settings)
  withFraction whole (trimmedFraction settings.minDigits fraction)

-- A value that rounds to zero has no sign.
def ofQuotient (settings : Settings) (negative : Bool) (num den : Nat) : Except Failure Text :=
  let count := rounded (places settings) num den
  if count < 10 ^ (mostWholeDigits + places settings) then
    let sign : Text := if negative && count ≠ 0 then ['-'] else []
    .ok (sign ++ positional settings count)
  else .error .tooManyDigits

def ofDouble (settings : Settings) : Double → Except Failure Text
  | .undefined => .ok (withFraction "NaN".toList (trimmedFraction settings.minDigits []))
  | .infinite _ => .error .tooManyDigits
  | .finite negative units _ => ofQuotient settings negative units Double.unitsPerOne

def ofWhole (settings : Settings) (n : Int) : Except Failure Text :=
  ofQuotient settings (n < 0) n.natAbs 1

def ofNumber (settings : Settings) : Number → Except Failure Text
  | .whole n => ofWhole settings n
  | .truth holds => ofWhole settings (Number.ofTruth holds)
  | .real x => ofDouble settings x

def precision (settings : Settings) : Nat := mostWholeDigits + settings.maxDigits

def mostPrecision : Nat := 10 ^ (18 : Nat) - 1

def mostMachineWord : Nat := 2 ^ (63 : Nat) - 1

def written (settings : Settings) (number : Number) : Except Failure Text :=
  if mostMachineWord < precision settings then .error .precisionTooLarge
  else if mostPrecision < precision settings then .error .precisionRefused
  else ofNumber settings number

theorem written_within (settings : Settings) (number : Number) (within : precision settings ≤ mostPrecision) :
    written settings number = ofNumber settings number := by
  have word : ¬ mostMachineWord < precision settings := by
    rw [mostPrecision] at within
    rw [mostMachineWord]
    omega
  rw [written, if_neg word, if_neg (Nat.not_lt.mpr within)]

end PocketCalculator.FixedPoint
