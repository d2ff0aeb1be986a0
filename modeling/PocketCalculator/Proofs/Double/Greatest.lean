import PocketCalculator.Proofs.Arithmetic.Finite

set_option autoImplicit false

namespace PocketCalculator

theorem half_even_at_most (num den bound : Nat) (most : num ≤ bound * den) : halfEven num den ≤ bound := by
  rcases Nat.lt_or_eq_of_le most with below | rfl
  · exact FixedPoint.half_even_le num den bound below
  · rw [half_even_dvd _ _ (Nat.dvd_mul_left _ _)]
    exact Nat.div_le_of_le_mul (Nat.le_of_eq (Nat.mul_comm _ _))

namespace Double

def greatest : Nat := (2 ^ 53 - 1) * 2 ^ 971

-- The last binade: its doubles are the multiples of its spacing by 2^52 up to 2^53 - 1.
def lastExponent : Nat := 2045

def lastSpacing : Nat := 2 ^ lastExponent

theorem two_pow_sum (a b c : Nat) (sum : a + b = c) : 2 ^ a * 2 ^ b = 2 ^ c := by
  rw [← Nat.pow_add, sum]

theorem last_spacing_pos : 0 < lastSpacing := Nat.two_pow_pos _

theorem greatest_units : greatest * unitsPerOne = (2 ^ 53 - 1) * lastSpacing := by
  rw [greatest, unitsPerOne, Nat.mul_assoc, two_pow_sum 971 1074 lastExponent rfl, lastSpacing]

theorem limit_split : limit = 2 ^ 53 * lastSpacing := by
  rw [lastSpacing, two_pow_sum 53 lastExponent 2098 rfl, limit]

theorem last_start : 2 ^ 52 * lastSpacing = 2 ^ (lastExponent + 52) := by
  rw [lastSpacing, two_pow_sum 52 lastExponent (lastExponent + 52) (Nat.add_comm ..)]

theorem greatest_inside : greatest * unitsPerOne < limit := by
  have positive := last_spacing_pos
  rw [greatest_units, limit_split]
  omega

theorem last_binade (units : Nat) (large : 2 ^ 52 * lastSpacing ≤ units) (inside : units < limit) :
    spacing units = lastSpacing := by
  have positive : units ≠ 0 := by
    have some_spacing := last_spacing_pos
    omega
  rw [last_start] at large
  have lower := (Nat.le_log2 positive).mpr large
  have upper := (Nat.log2_lt positive).mpr inside
  rw [lastExponent] at lower
  have log : units.log2 - 52 = lastExponent := by
    rw [lastExponent]
    omega
  rw [spacing, log, lastSpacing]

theorem representable_at_most (units : Nat) (representable : Representable units) :
    units ≤ greatest * unitsPerOne := by
  by_cases large : 2 ^ 52 * lastSpacing ≤ units
  · obtain ⟨inside, count, multiple⟩ := representable
    rw [last_binade units large inside, Nat.mul_comm] at multiple
    rw [multiple, limit_split] at inside
    have few : count < 2 ^ 53 := Nat.lt_of_mul_lt_mul_right inside
    rw [multiple, greatest_units]
    exact Nat.mul_le_mul_right _ (Nat.le_sub_one_of_lt few)
  · rw [greatest_units]
    omega

theorem nearest_below (num den exponent : Nat) (below : (num / den).log2 < exponent) (least : 53 ≤ exponent) :
    nearestUnits num den ≤ 2 ^ exponent := by
  have upper := (half_even_bounds num (den * spacing (num / den))).2
  have quotient := quotient_below_spacing (num / den)
  rw [← Nat.div_div_eq_div_mul] at upper
  calc spacing (num / den) * halfEven num (den * spacing (num / den))
      ≤ 2 ^ (exponent - 53) * 2 ^ 53 := Nat.mul_le_mul (Nat.pow_le_pow_right (by decide) (by omega)) (by omega)
    _ = 2 ^ exponent := two_pow_sum _ _ _ (by omega)

theorem nearest_inside (num den : Nat) (most : num ≤ greatest * unitsPerOne * den) : nearestUnits num den < limit := by
  have quotient : num / den ≤ greatest * unitsPerOne := Nat.div_le_of_le_mul (by rwa [Nat.mul_comm] at most)
  have positive := last_spacing_pos
  by_cases large : 2 ^ 52 * lastSpacing ≤ num / den
  · have step := last_binade _ large (Nat.lt_of_le_of_lt quotient greatest_inside)
    rw [greatest_units, Nat.mul_assoc, Nat.mul_comm lastSpacing] at most
    have count := half_even_at_most num (den * lastSpacing) (2 ^ 53 - 1) most
    rw [nearestUnits, step, limit_split, Nat.mul_comm]
    exact Nat.mul_lt_mul_of_pos_right (by omega) positive
  · have log : (num / den).log2 < lastExponent + 52 := by
      by_cases none : num / den = 0
      · rw [none]
        exact Nat.succ_pos _
      · rw [last_start] at large
        exact (Nat.log2_lt none).mpr (Nat.lt_of_not_le large)
    have least : 53 ≤ lastExponent + 52 := by decide
    have below := nearest_below num den (lastExponent + 52) log least
    rw [← last_start] at below
    rw [limit_split]
    omega

theorem of_quotient_finite (negative : Bool) (num den : Nat) (most : num ≤ greatest * unitsPerOne * den) :
    (ofQuotient negative num den).IsFinite := by
  rw [ofQuotient, dif_pos (nearest_inside num den most)]
  exact ⟨_, _, _, rfl⟩

theorem of_decimal_quotient (negative : Bool) (digits places : Nat) :
    ofDecimal negative digits (-places) = ofQuotient negative (digits * unitsPerOne) (10 ^ places) := by
  rw [ofDecimal, Int.natAbs_neg, Int.natAbs_natCast]
  split
  · rfl
  · have none : places = 0 := by omega
    rw [none, Nat.pow_zero, Nat.mul_one]

theorem of_decimal_finite (negative : Bool) (digits places : Nat) (most : digits ≤ greatest * 10 ^ places) :
    (ofDecimal negative digits (-places)).IsFinite := by
  have scaled : digits * unitsPerOne ≤ greatest * unitsPerOne * 10 ^ places := by
    rw [Nat.mul_right_comm]
    exact Nat.mul_le_mul_right _ most
  rw [of_decimal_quotient]
  exact of_quotient_finite negative _ _ scaled

end Double

end PocketCalculator
