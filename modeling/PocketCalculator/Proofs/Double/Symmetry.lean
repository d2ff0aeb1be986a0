import PocketCalculator.Proofs.FixedPoint.Exact
import PocketCalculator.Proofs.Reduction.Neutral

set_option autoImplicit false

namespace PocketCalculator.Double

theorem finite_value (x : Double) (finite : x.IsFinite) : ∃ value, x.exact? = some value := by
  obtain ⟨negative, units, _, rfl⟩ := finite
  exact ⟨_, rfl⟩

theorem add_swapped (x y : Double) (left : x.IsFinite) (right : y.IsFinite) : add y x = add x y := by
  obtain ⟨s, u, _, rfl⟩ := left
  obtain ⟨t, v, _, rfl⟩ := right
  rw [add, add, Int.add_comm (signedUnits t v), Bool.and_comm t]

theorem multiply_swapped (x y : Double) (left : x.IsFinite) (right : y.IsFinite) : multiply y x = multiply x y := by
  obtain ⟨s, u, _, rfl⟩ := left
  obtain ⟨t, v, _, rfl⟩ := right
  rw [multiply, multiply, Nat.mul_comm v, bne_comm]

structure Opposed (x y : Double) : Prop where
  infinite : y.isInfinite = x.isInfinite
  value : y.exact? = x.exact?.map (- ·)

theorem signed_units_negated (negative : Bool) (units : Nat) :
    signedUnits (!negative) units = -signedUnits negative units := by
  cases negative with
  | false => rfl
  | true => exact (Int.neg_neg _).symm

theorem negated_opposed (x : Double) : Opposed x (negated x) := by
  cases x with
  | undefined => exact ⟨rfl, rfl⟩
  | infinite negative => exact ⟨rfl, rfl⟩
  | finite negative units representable =>
      refine ⟨rfl, ?_⟩
      rw [negated, Double.exact?, Double.exact?, signed_units_negated, Int.cast_neg, neg_div, Option.map_some]

theorem zero_value (negative : Bool) : Double.exact? (zero negative) = some 0 := by
  have none : signedUnits negative 0 = 0 := by cases negative <;> rfl
  rw [zero, Double.exact?, none, Int.cast_zero, zero_div]

theorem zeros_opposed (s t : Bool) : Opposed (zero s) (zero t) := by
  refine ⟨rfl, ?_⟩
  rw [zero_value, zero_value, Option.map_some, neg_zero]

theorem of_quotient_negated (negative : Bool) (num den : Nat) :
    ofQuotient (!negative) num den = negated (ofQuotient negative num den) := by
  rw [ofQuotient, ofQuotient]
  split <;> rfl

theorem subtract_swapped (x y : Double) (left : x.IsFinite) (right : y.IsFinite) :
    Opposed (subtract x y) (subtract y x) := by
  obtain ⟨s, u, _, rfl⟩ := left
  obtain ⟨t, v, _, rfl⟩ := right
  have total : signedUnits t v + signedUnits (!s) u = -(signedUnits s u + signedUnits (!t) v) := by
    rw [signed_units_negated, signed_units_negated]
    omega
  rw [subtract, subtract, negated, negated, add, add, total]
  generalize signedUnits s u + signedUnits (!t) v = difference
  by_cases same : difference = 0
  · rw [if_pos same, if_pos (Int.neg_eq_zero.mpr same)]
    exact zeros_opposed _ _
  · have other_side : decide (-difference < 0) = !decide (difference < 0) := by
      rw [← decide_not, decide_eq_decide]
      omega
    rw [if_neg same, if_neg (mt Int.neg_eq_zero.mp same), Int.natAbs_neg, other_side, of_quotient_negated]
    exact negated_opposed _

theorem of_int_nothing : ofInt 0 = zero false := by
  rw [ofInt, Int.natAbs_zero, Nat.zero_mul]
  exact of_quotient_exact false 0 1 Nat.one_pos representable_zero

theorem subtract_itself (x : Double) (finite : x.IsFinite) :
    (subtract x x).IsFinite ∧ Double.exact? (subtract x x) = some 0 := by
  obtain ⟨s, u, _, rfl⟩ := finite
  have total : signedUnits s u + signedUnits (!s) u = 0 := by
    rw [signed_units_negated]
    exact Int.add_right_neg _
  rw [subtract, negated, add, if_pos total]
  exact ⟨⟨_, _, _, rfl⟩, zero_value _⟩

theorem add_nothing (x : Double) (finite : x.IsFinite) :
    (add x (zero false)).IsFinite ∧ Double.exact? (add x (zero false)) = x.exact? := by
  obtain ⟨negative, units, representable, rfl⟩ := finite
  by_cases none : units = 0
  · subst none
    have total : signedUnits negative 0 + signedUnits false 0 = 0 := by cases negative <;> rfl
    rw [zero, add, if_pos total]
    exact ⟨⟨_, _, _, rfl⟩, (zero_value _).trans (zero_value negative).symm⟩
  · rw [add_zero _ ⟨negative, units, representable, rfl, fun zero => absurd zero none⟩]
    exact ⟨⟨negative, units, representable, rfl⟩, rfl⟩

end PocketCalculator.Double
