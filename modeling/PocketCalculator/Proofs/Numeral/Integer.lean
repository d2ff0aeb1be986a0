import PocketCalculator.Proofs.FixedPoint.Whole

set_option autoImplicit false

namespace PocketCalculator.Numeral

open DecimalDigit

def IsInteger (n : Numeral) : Prop := (signOf n.text).2 ≠ [] ∧ (signOf n.text).2.all Char.isDigit = true

instance (n : Numeral) : Decidable n.IsInteger := by
  unfold IsInteger
  infer_instance

def integer (n : Numeral) : Int := Double.signedUnits (signOf n.text).1 (valueOf (signOf n.text).2)

theorem sign_of_text (t : Text) : t = Double.signText (signOf t).1 ++ (signOf t).2 := by
  unfold signOf
  split <;> rfl

theorem integer_reads_whole (n : Numeral) (plain : n.IsInteger) (small : n.integer.natAbs ≤ Double.exactLimit) :
    n.ReadsWhole n.integer := by
  have magnitude : n.integer.natAbs = valueOf (signOf n.text).2 := Double.signed_units_abs _ _
  apply digits_read_whole n (signOf n.text).1 (signOf n.text).2 [] n.integer _ plain.1 (ascii_decimal _ plain.2)
    (.inl rfl) _ _ small
  · rw [List.append_nil]
    exact sign_of_text n.text
  · rw [magnitude, List.drop_nil, List.append_nil, List.length_nil, Nat.pow_zero, Nat.mul_one]
  · rw [magnitude]
    rfl

end PocketCalculator.Numeral
