import PocketCalculator.Double.Basic
import PocketCalculator.HalfEven

set_option autoImplicit false

namespace PocketCalculator

namespace Double

def nearestUnits (num den : Nat) : Nat :=
  let step := spacing (num / den)
  step * halfEven num (den * step)

theorem pow_log2_dvd (exponent count : Nat) (small : count ≤ 2 ^ (53 : Nat)) :
    spacing (2 ^ exponent * count) ∣ 2 ^ exponent * count := by
  rw [spacing]
  by_cases none : count = 0
  · simp [none]
  · have positive : 2 ^ exponent * count ≠ 0 := Nat.mul_ne_zero (by simp) none
    by_cases full : count = 2 ^ (53 : Nat)
    · subst full
      rw [← Nat.pow_add, Nat.log2_two_pow]
      exact Nat.pow_dvd_pow 2 (by omega)
    · have narrow : count < 2 ^ (53 : Nat) := by omega
      have bound : (2 ^ exponent * count).log2 < exponent + 53 := by
        rw [Nat.log2_lt positive, Nat.pow_add]
        exact Nat.mul_lt_mul_of_pos_left narrow (Nat.two_pow_pos _)
      exact Nat.dvd_mul_right_of_dvd (Nat.pow_dvd_pow 2 (by omega)) count

theorem quotient_below_spacing (units : Nat) : units / spacing units < 2 ^ (53 : Nat) := by
  rw [Nat.div_lt_iff_lt_mul (spacing_pos units)]
  rw [spacing]
  rw [← Nat.pow_add]
  exact Nat.lt_of_lt_of_le Nat.lt_log2_self (Nat.pow_le_pow_right (by decide) (by omega))

theorem nearest_on_grid (num den : Nat) : spacing (nearestUnits num den) ∣ nearestUnits num den := by
  unfold nearestUnits
  dsimp only
  have upper := (half_even_bounds num (den * spacing (num / den))).2
  rw [← Nat.div_div_eq_div_mul] at upper
  have quotient := quotient_below_spacing (num / den)
  generalize halfEven num (den * spacing (num / den)) = count at upper
  exact pow_log2_dvd _ count (by omega)

-- The magnitude is `num / den` units.
def ofQuotient (negative : Bool) (num den : Nat) : Double :=
  if inside : nearestUnits num den < limit then
    .finite negative (nearestUnits num den) ⟨inside, nearest_on_grid num den⟩
  else .infinite negative

-- The magnitude is `digits * 10 ^ exponent`.
def ofDecimal (negative : Bool) (digits : Nat) (exponent : Int) : Double :=
  if exponent < 0 then ofQuotient negative (digits * unitsPerOne) (10 ^ exponent.natAbs)
  else ofQuotient negative (digits * unitsPerOne * 10 ^ exponent.natAbs) 1

def ofInt (n : Int) : Double := ofQuotient (n < 0) (n.natAbs * unitsPerOne) 1

end Double

end PocketCalculator
