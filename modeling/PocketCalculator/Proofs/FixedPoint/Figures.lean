import PocketCalculator.Proofs.Double.Whole
import PocketCalculator.Proofs.FixedPoint.Layout
import Mathlib.Algebra.Order.Field.Rat
import Mathlib.Tactic.FieldSimp
import Mathlib.Tactic.Linarith
import Mathlib.Tactic.Positivity
import Mathlib.Tactic.Ring

set_option autoImplicit false

namespace PocketCalculator

-- No whole number is nearer, and of two as near it is the even one.
structure IsHalfEven (q : ℚ) (count : ℤ) : Prop where
  near : |q - count| ≤ 1 / 2
  even : |q - count| = 1 / 2 → Even count

theorem half_even_ordered (q : ℚ) (one other : ℤ) (first : IsHalfEven q one) (second : IsHalfEven q other) :
    other ≤ one := by
  by_contra less
  have apart : (one : ℚ) + 1 ≤ other := by exact_mod_cast Int.lt_of_not_ge less
  obtain ⟨_, above⟩ := abs_le.mp first.near
  obtain ⟨below, _⟩ := abs_le.mp second.near
  -- Both are half way, one after the other.
  have next : other = one + 1 := by
    have same : (other : ℚ) = (one : ℤ) + 1 := by linarith
    exact_mod_cast same
  have half : q - one = 1 / 2 := by linarith
  have half' : q - other = -(1 / 2) := by linarith
  have even := first.even (by rw [half, abs_of_pos (by norm_num)])
  have even' := second.even (by rw [half', abs_neg, abs_of_pos (by norm_num)])
  rw [next] at even'
  grind

theorem half_even_once (q : ℚ) (one other : ℤ) (first : IsHalfEven q one) (second : IsHalfEven q other) : one = other :=
  Int.le_antisymm (half_even_ordered q other one second first) (half_even_ordered q one other first second)

@[ext]
structure Figures where
  negative : Bool
  whole : Text
  fraction : Text
deriving DecidableEq

namespace Figures

open DecimalDigit FixedPoint

def text (figures : Figures) : Text := Double.signText figures.negative ++ (figures.whole ++ pointed figures.fraction)

def value (figures : Figures) : ℚ :=
  Double.signedUnits figures.negative (valueOf (figures.whole ++ figures.fraction)) / 10 ^ figures.fraction.length

structure Shows (settings : Settings) (value : ℚ) (figures : Figures) : Prop where
  some_digit : figures.whole ≠ []
  digits : (figures.whole ++ figures.fraction).all Char.isDigit = true
  lead : figures.whole.head? = some '0' → figures.whole = ['0']
  least : settings.minDigits ≤ figures.fraction.length
  most : figures.fraction.length ≤ settings.maxDigits
  -- A zero ends a fraction only to fill up the least number of digits.
  last : figures.fraction.getLast? = some '0' → figures.fraction.length = settings.minDigits
  rounded : ∃ count, IsHalfEven (value * 10 ^ settings.maxDigits) count ∧ figures.value = count / 10 ^ settings.maxDigits
  sign : figures.negative = true ↔ figures.value < 0

theorem whole_unique (one other : Text) (some_digit : one ≠ []) (first : one.all Char.isDigit = true)
    (second : other.all Char.isDigit = true) (lead : other.head? = some '0' → other = ['0'])
    (shorter : one.length ≤ other.length) (value : valueOf one = valueOf other) : one = other := by
  have padded : Text.zeros (other.length - one.length) ++ one = other := by
    apply ascii_digits_unique
    · simp [List.all_append, first]
    · exact second
    · rw [List.length_append, Text.zeros_of_length]
      omega
    · simp [value_of_append, value]
  cases more : other.length - one.length with
  | zero =>
      rw [more] at padded
      exact padded
  | succ count =>
      rw [more] at padded
      have zero := lead (by rw [← padded]; rfl)
      have length := List.length_pos_iff.mpr some_digit
      rw [zero, List.length_singleton] at more
      omega

-- Behind the shorter fraction only zeros could stand.
theorem fraction_unique (one other : Text) (least : Nat) (few : least ≤ one.length)
    (last : other.getLast? = some '0' → other.length = least) (shorter : one.length ≤ other.length)
    (padded : one ++ Text.zeros other.length = other ++ Text.zeros one.length) : one = other := by
  have front : other = one ++ Text.zeros (other.length - one.length) := by
    have taken := congrArg (List.take other.length) padded
    rw [List.take_left, List.take_append, List.take_of_length_le shorter, Text.zeros, List.take_replicate,
      Nat.min_eq_left (Nat.sub_le ..)] at taken
    exact taken.symm
  cases more : other.length - one.length with
  | zero =>
      rw [more] at front
      exact (front.trans (List.append_nil one)).symm
  | succ count =>
      rw [more, Text.zeros_snoc, ← List.append_assoc] at front
      have length := last (by rw [front, List.getLast?_concat])
      omega

variable (settings : Settings) (value : ℚ) (one other : Figures)

theorem shows_value (first : one.Shows settings value) (second : other.Shows settings value) :
    one.negative = other.negative ∧
      valueOf (one.whole ++ (one.fraction ++ Text.zeros other.fraction.length)) =
        valueOf (other.whole ++ (other.fraction ++ Text.zeros one.fraction.length)) := by
  obtain ⟨count, rounded, same⟩ := first.rounded
  obtain ⟨count', rounded', same'⟩ := second.rounded
  have alike : one.value = other.value := by rw [same, same', half_even_once _ _ _ rounded rounded']
  have sign : one.negative = other.negative := by
    rw [Bool.eq_iff_iff, first.sign, second.sign, alike]
  refine ⟨sign, ?_⟩
  rw [← List.append_assoc, ← List.append_assoc, trailing_zeros_value, trailing_zeros_value]
  rw [Figures.value, Figures.value, sign, div_eq_div_iff (by positivity) (by positivity)] at alike
  have scaled : Double.signedUnits other.negative (valueOf (one.whole ++ one.fraction)) * 10 ^ other.fraction.length =
      Double.signedUnits other.negative (valueOf (other.whole ++ other.fraction)) * 10 ^ one.fraction.length := by
    exact_mod_cast alike
  have magnitude := congrArg Int.natAbs scaled
  rw [Int.natAbs_mul, Int.natAbs_mul, Double.signed_units_abs, Double.signed_units_abs, Int.natAbs_pow, Int.natAbs_pow] at magnitude
  exact magnitude

theorem shows_digits (figures : Figures) (shows_it : figures.Shows settings value) (count : Nat) :
    figures.whole.all Char.isDigit = true ∧ (figures.fraction ++ Text.zeros count).all Char.isDigit = true := by
  have digits := shows_it.digits
  rw [List.all_append, Bool.and_eq_true] at digits
  exact ⟨digits.1, by simp [List.all_append, digits.2]⟩

theorem shows_once (first : one.Shows settings value) (second : other.Shows settings value) : one = other := by
  obtain ⟨sign, same⟩ := shows_value settings value one other first second
  obtain ⟨digits, behind⟩ := shows_digits settings value one first other.fraction.length
  obtain ⟨digits', behind'⟩ := shows_digits settings value other second one.fraction.length
  have length : (one.fraction ++ Text.zeros other.fraction.length).length =
      (other.fraction ++ Text.zeros one.fraction.length).length := by
    simp [Nat.add_comm]
  have small := value_below (other.fraction ++ Text.zeros one.fraction.length)
  rw [value_of_append one.whole, value_of_append other.whole, ← length] at same
  rw [← length] at small
  obtain ⟨front, back⟩ := DecimalDigit.split_unique _ _ _ _ _ (value_below _) small same
  have padded := ascii_digits_unique _ _ behind behind' length back
  have whole : one.whole = other.whole := by
    rcases Nat.le_total one.whole.length other.whole.length with shorter | longer
    · exact whole_unique _ _ first.some_digit digits digits' second.lead shorter front
    · exact (whole_unique _ _ second.some_digit digits' digits first.lead longer front.symm).symm
  have fraction : one.fraction = other.fraction := by
    rcases Nat.le_total one.fraction.length other.fraction.length with shorter | longer
    · exact fraction_unique _ _ settings.minDigits first.least second.last shorter padded
    · exact (fraction_unique _ _ settings.minDigits second.least first.last longer padded.symm).symm
  exact Figures.ext sign whole fraction

end Figures

end PocketCalculator
