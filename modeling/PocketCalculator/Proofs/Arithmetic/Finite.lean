import PocketCalculator.Arithmetic
import PocketCalculator.FixedPoint
import Mathlib.Algebra.Group.Nat.Defs

set_option autoImplicit false

namespace PocketCalculator

namespace Double

def IsFinite (x : Double) : Prop := ∃ negative units representable, x = .finite negative units representable

theorem finite_or_infinite (x : Double) (defined : x ≠ .undefined) : x.IsFinite ∨ x.isInfinite = true := by
  cases x with
  | undefined => exact absurd rfl defined
  | infinite negative => exact .inr rfl
  | finite negative units representable => exact .inl ⟨negative, units, representable, rfl⟩

theorem of_quotient_defined (negative : Bool) (num den : Nat) : ofQuotient negative num den ≠ .undefined := by
  rw [ofQuotient]
  split <;> exact Double.noConfusion

theorem add_defined (x y : Double) (left : x.IsFinite) (right : y.IsFinite) : add x y ≠ .undefined := by
  obtain ⟨s, u, _, rfl⟩ := left
  obtain ⟨t, v, _, rfl⟩ := right
  rw [add]
  split
  · exact Double.noConfusion
  · exact of_quotient_defined _ _ _

theorem subtract_defined (x y : Double) (left : x.IsFinite) (right : y.IsFinite) : subtract x y ≠ .undefined := by
  obtain ⟨t, v, representable, rfl⟩ := right
  exact add_defined x _ left ⟨!t, v, representable, rfl⟩

theorem multiply_defined (x y : Double) (left : x.IsFinite) (right : y.IsFinite) : multiply x y ≠ .undefined := by
  obtain ⟨s, u, _, rfl⟩ := left
  obtain ⟨t, v, _, rfl⟩ := right
  exact of_quotient_defined _ _ _

theorem divide_defined (x y : Double) (left : x.IsFinite) (right : y.IsFinite) (divides : y.isZero = false) :
    divide x y ≠ .undefined := by
  obtain ⟨s, u, _, rfl⟩ := left
  obtain ⟨t, v, _, rfl⟩ := right
  have nonzero : v ≠ 0 := by simpa [isZero] using divides
  rw [divide, if_neg nonzero]
  exact of_quotient_defined _ _ _

end Double

namespace Arithmetic

def Settled (outcome : Except Failure Number) : Prop :=
  (∃ fault, outcome = .error (.fault fault)) ∨ ∃ z : Double, z.IsFinite ∧ outcome = .ok (.real z)

theorem checked_finite (operation : Text) (a b : Number) (z : Double) (finite : z.IsFinite) :
    checked operation a b (.real z) = .ok (.real z) := by
  obtain ⟨negative, units, representable, rfl⟩ := finite
  rfl

theorem checked_infinite (operation : Text) (a b : Number) (z : Double) (infinite : z.isInfinite = true) :
    checked operation a b (.real z) =
      .error (.fault (.resultOverflow (.text operation) [.number a, .number b])) := by
  simp only [checked, toDouble, bind, Except.bind, infinite, if_true]

theorem checked_settled (operation : Text) (a b : Number) (z : Double) (defined : z ≠ .undefined) :
    Settled (checked operation a b (.real z)) := by
  rcases Double.finite_or_infinite z defined with finite | infinite
  · exact .inr ⟨z, finite, checked_finite operation a b z finite⟩
  · exact .inl ⟨_, checked_infinite operation a b z infinite⟩

theorem operation_settled (o : Operator) (x y : Double) (left : x.IsFinite) (right : y.IsFinite) :
    Settled (operation o (.real x) (.real y)) := by
  cases o with
  | addition => exact checked_settled _ _ _ _ (Double.add_defined x y left right)
  | subtraction => exact checked_settled _ _ _ _ (Double.subtract_defined x y left right)
  | multiplication => exact checked_settled _ _ _ _ (Double.multiply_defined x y left right)
  | division =>
      rw [operation, divide]
      by_cases zero : (Number.real y).isZero = true
      · rw [if_pos zero]
        exact .inl ⟨_, rfl⟩
      · rw [if_neg zero]
        exact checked_settled _ _ _ _ (Double.divide_defined x y left right (by simpa [Number.isZero] using zero))

theorem number_finite (x : Double) (finite : x.IsFinite) : Input.number (.number (.real x)) = .ok (.real x) := by
  obtain ⟨negative, units, representable, rfl⟩ := finite
  rfl

theorem number_not_finite (x : Double) (unbounded : ¬ x.IsFinite) :
    ∃ value reason, Input.number (.number (.real x)) = .error (.invalidInput value reason) := by
  cases x with
  | undefined => exact ⟨_, _, rfl⟩
  | infinite negative => exact ⟨_, _, rfl⟩
  | finite negative units representable => exact absurd ⟨negative, units, representable, rfl⟩ unbounded

-- What `apply` makes of two doubles: only finite ones are let through.
theorem apply_doubles (o : Operator) (x y : Double) :
    Settled (apply (.operator o) (.number (.real x)) (.number (.real y))) ∧
      ∀ result, apply (.operator o) (.number (.real x)) (.number (.real y)) = .ok result → x.IsFinite ∧ y.IsFinite := by
  by_cases left : x.IsFinite
  · by_cases right : y.IsFinite
    · rw [apply, number_finite x left, number_finite y right]
      exact ⟨operation_settled o x y left right, fun _ _ => ⟨left, right⟩⟩
    · obtain ⟨value, reason, refused⟩ := number_not_finite y right
      rw [apply, number_finite x left, refused]
      exact ⟨.inl ⟨_, rfl⟩, fun _ done => by cases done⟩
  · obtain ⟨value, reason, refused⟩ := number_not_finite x left
    rw [apply, refused]
    exact ⟨.inl ⟨_, rfl⟩, fun _ done => by cases done⟩

end Arithmetic

namespace FixedPoint

theorem half_even_le (num den bound : Nat) (below : num < bound * den) : halfEven num den ≤ bound := by
  have quotient : num / den < bound := Nat.div_lt_of_lt_mul (by rwa [Nat.mul_comm] at below)
  have upper := (half_even_bounds num den).2
  omega

def wholeBits : Nat := 1024

theorem two_pow_lt (count bits digits : Nat) (few : bits = 93 * count + 1) (many : digits = 28 * count + 1) :
    2 ^ bits < 10 ^ digits := by
  rw [few, many, Nat.pow_succ, Nat.pow_succ, Nat.pow_mul, Nat.pow_mul]
  exact Nat.mul_lt_mul_of_le_of_lt (Nat.pow_le_pow_left (by decide) count) (by decide) (Nat.pow_pos (by decide))

theorem limit_digits : 2 ^ wholeBits < 10 ^ mostWholeDigits := two_pow_lt 11 wholeBits mostWholeDigits rfl rfl

theorem rounded_fits (places units : Nat) (inside : units < Double.limit) :
    rounded places units Double.unitsPerOne < 10 ^ (mostWholeDigits + places) := by
  have whole : Double.limit = 2 ^ wholeBits * Double.unitsPerOne := by
    rw [Double.limit, Double.unitsPerOne, ← Nat.pow_add, wholeBits]
  have below : units * 10 ^ places < 2 ^ wholeBits * 10 ^ places * Double.unitsPerOne := by
    rw [whole] at inside
    have scaled := Nat.mul_lt_mul_of_pos_right inside (Nat.pow_pos (n := places) (show 0 < 10 by decide))
    rwa [Nat.mul_right_comm] at scaled
  calc rounded places units Double.unitsPerOne
      ≤ 2 ^ wholeBits * 10 ^ places := half_even_le _ _ _ below
    _ < 10 ^ mostWholeDigits * 10 ^ places := Nat.mul_lt_mul_of_pos_right limit_digits (Nat.pow_pos (by decide))
    _ = 10 ^ (mostWholeDigits + places) := (Nat.pow_add 10 _ _).symm

theorem finite_written (settings : Settings) (within : precision settings ≤ mostPrecision) (x : Double)
    (finite : x.IsFinite) : ∃ text, written settings (.real x) = .ok text := by
  obtain ⟨negative, units, representable, rfl⟩ := finite
  rw [written_within settings _ within]
  exact ⟨_, if_pos (rounded_fits (places settings) units representable.1)⟩

theorem with_fraction_nonempty (whole fraction : Text) (some_digit : whole ≠ []) : withFraction whole fraction ≠ [] := by
  rw [withFraction]
  split
  · exact some_digit
  · simp [some_digit]

theorem positional_nonempty (settings : Settings) (count : Nat) : positional settings count ≠ [] := by
  apply with_fraction_nonempty
  have length := Text.padded_left_length (places settings + 1) (decimalText count)
  apply List.ne_nil_of_length_pos
  rw [List.length_take]
  omega

theorem of_quotient_nonempty (settings : Settings) (negative : Bool) (num den : Nat) (text : Text)
    (done : ofQuotient settings negative num den = .ok text) : text ≠ [] := by
  rw [ofQuotient] at done
  split at done
  · cases done
    simp [positional_nonempty]
  · cases done

theorem written_nonempty (settings : Settings) (number : Number) (text : Text)
    (done : written settings number = .ok text) : text ≠ [] := by
  rw [written] at done
  split at done
  · cases done
  · split at done
    · cases done
    · cases number with
      | whole n => exact of_quotient_nonempty _ _ _ _ _ done
      | truth holds => exact of_quotient_nonempty _ _ _ _ _ done
      | real x =>
          cases x with
          | finite negative units representable => exact of_quotient_nonempty _ _ _ _ _ done
          | infinite negative => cases done
          | undefined =>
              cases done
              exact with_fraction_nonempty _ _ (by decide)

end FixedPoint

end PocketCalculator
