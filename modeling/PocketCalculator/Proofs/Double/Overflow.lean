import PocketCalculator.Proofs.Double.Nearest

set_option autoImplicit false

namespace PocketCalculator.Double

-- 2^1024 - 2^970.
def overflowBound : Nat := (2 ^ 54 - 1) * 2 ^ 970

def halfExponent : Nat := 2044

def halfSpacing : Nat := 2 ^ halfExponent

theorem half_spacing_pos : 0 < halfSpacing := Nat.two_pow_pos _

theorem last_spacing_half : lastSpacing = 2 * halfSpacing := by
  rw [lastSpacing, halfSpacing, ← two_pow_sum 1 halfExponent lastExponent rfl, Nat.pow_one]

theorem overflow_units : overflowBound * unitsPerOne = (2 ^ 54 - 1) * halfSpacing := by
  rw [overflowBound, unitsPerOne, Nat.mul_assoc, two_pow_sum 970 1074 halfExponent rfl, halfSpacing]

theorem greatest_half : greatest * unitsPerOne = (2 ^ 54 - 2) * halfSpacing := by
  rw [greatest_units, last_spacing_half]
  omega

theorem limit_half : limit = 2 ^ 54 * halfSpacing := by
  rw [limit_split, last_spacing_half]
  omega

theorem greatest_on_grid : spacing (greatest * unitsPerOne) ∣ greatest * unitsPerOne := by
  have large : 2 ^ 52 * lastSpacing ≤ greatest * unitsPerOne := by
    rw [greatest_units]
    exact Nat.mul_le_mul_right _ (by decide)
  rw [last_binade _ large greatest_inside, greatest_units]
  exact Nat.dvd_mul_left _ _

theorem limit_on_grid : spacing limit ∣ limit := by
  have step := pow_log2_dvd 2098 1 (by decide)
  rwa [Nat.mul_one] at step

theorem nearest_half_way (den : Nat) (positive : 0 < den) :
    nearestUnits (overflowBound * unitsPerOne * den) den = limit := by
  have half := half_spacing_pos
  have step : spacing (overflowBound * unitsPerOne) = lastSpacing := by
    apply last_binade
    · rw [overflow_units, last_spacing_half, ← Nat.mul_assoc]
      exact Nat.mul_le_mul_right _ (by decide)
    · rw [overflow_units, limit_half]
      exact Nat.mul_lt_mul_of_pos_right (by decide) half
  have parts : overflowBound * unitsPerOne * den = (2 ^ 53 - 1) * (den * lastSpacing) + halfSpacing * den := by
    rw [overflow_units, last_spacing_half]
    grind
  have twice : 2 * (halfSpacing * den) = den * lastSpacing := by
    rw [last_spacing_half, ← Nat.mul_assoc, Nat.mul_comm]
  have rest : halfSpacing * den < den * lastSpacing := by
    have some_rest := Nat.mul_pos half positive
    omega
  have even : 2 ^ 53 - 1 + (2 ^ 53 - 1) % 2 = 2 ^ 53 := by decide
  unfold nearestUnits
  dsimp only
  rw [Nat.mul_div_cancel _ positive, step, parts, half_even_parts _ _ _ rest, if_neg (by omega), if_neg (by omega), even,
    limit_split, Nat.mul_comm]

theorem nearest_inside_iff (num den : Nat) (positive : 0 < den) :
    nearestUnits num den < limit ↔ num < overflowBound * unitsPerOne * den := by
  have half := Nat.mul_pos half_spacing_pos positive
  constructor
  · -- The limit itself is nearer from half way on, and half way it is the even one.
    intro inside
    have most := representable_at_most _ ⟨inside, nearest_on_grid num den⟩
    have nearer := nearest_double num den limit positive limit_on_grid
    have scaled := Nat.mul_le_mul_right den most
    have different : num ≠ overflowBound * unitsPerOne * den := by
      intro same
      rw [same, nearest_half_way den positive] at inside
      exact Nat.lt_irrefl _ inside
    rw [limit_half, Nat.mul_assoc] at nearer
    rw [greatest_half, Nat.mul_assoc] at scaled
    rw [overflow_units, Nat.mul_assoc] at different ⊢
    unfold distance at nearer
    omega
  · intro below
    apply Nat.lt_of_not_le
    intro beyond
    have nearer := nearest_double num den (greatest * unitsPerOne) positive greatest_on_grid
    have scaled := Nat.mul_le_mul_right den beyond
    rw [greatest_half, Nat.mul_assoc] at nearer
    rw [limit_half, Nat.mul_assoc] at scaled
    rw [overflow_units, Nat.mul_assoc] at below
    unfold distance at nearer
    omega

theorem of_quotient_infinite_iff (negative : Bool) (num den : Nat) (positive : 0 < den) :
    (ofQuotient negative num den).isInfinite = true ↔ overflowBound * unitsPerOne * den ≤ num := by
  have inside := nearest_inside_iff num den positive
  rw [ofQuotient]
  split
  · rename_i below
    exact ⟨Bool.noConfusion, fun beyond => absurd (inside.mp below) (Nat.not_lt.mpr beyond)⟩
  · rename_i beyond
    exact ⟨fun _ => Nat.le_of_not_lt fun below => beyond (inside.mpr below), fun _ => rfl⟩

theorem nearest_nonzero (num den : Nat) (some_units : 0 < num / den) : nearestUnits num den ≠ 0 := by
  have step : spacing (num / den) ≤ num / den := by
    rw [spacing]
    exact Nat.le_trans (Nat.pow_le_pow_right (by decide) (Nat.sub_le _ _)) (Nat.log2_self_le (Nat.ne_of_gt some_units))
  have lower := (half_even_bounds num (den * spacing (num / den))).1
  rw [← Nat.div_div_eq_div_mul] at lower
  have count := Nat.lt_of_lt_of_le (Nat.div_pos step (spacing_pos _)) lower
  exact Nat.ne_of_gt (Nat.mul_pos (spacing_pos _) count)

theorem of_int_zero (n : Int) : (ofInt n).isZero = decide (n = 0) := by
  by_cases zero : n = 0
  · subst zero
    have exact := of_quotient_exact ((0 : Int) < 0) 0 1 Nat.one_pos representable_zero
    rw [Nat.zero_mul] at exact
    rw [ofInt, Int.natAbs_zero, Nat.zero_mul, exact]
    rfl
  · have some_units : 0 < n.natAbs * unitsPerOne / 1 := by
      rw [Nat.div_one]
      exact Nat.mul_pos (Int.natAbs_pos.mpr zero) units_per_one_pos
    rw [ofInt, ofQuotient, decide_eq_false zero]
    split
    · exact decide_eq_false (nearest_nonzero _ _ some_units)
    · rfl

theorem of_int_infinite_iff (n : Int) : (ofInt n).isInfinite = true ↔ overflowBound ≤ n.natAbs := by
  rw [ofInt, of_quotient_infinite_iff _ _ _ Nat.one_pos, Nat.mul_one]
  exact Nat.mul_le_mul_right_iff units_per_one_pos

end PocketCalculator.Double
