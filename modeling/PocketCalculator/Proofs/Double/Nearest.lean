import PocketCalculator.Proofs.Double.Greatest

set_option autoImplicit false

namespace PocketCalculator

def distance (a b : Nat) : Nat := a - b + (b - a)

theorem distance_comm (a b : Nat) : distance a b = distance b a := Nat.add_comm _ _

theorem multiples_apart (left right den : Nat) (less : left < right) : left * den + den ≤ right * den := by
  rw [← Nat.succ_mul]
  exact Nat.mul_le_mul_right den less

theorem half_even_scaled (num den factor : Nat) (positive : 0 < factor) :
    halfEven (num * factor) (den * factor) = halfEven num den := by
  have twice : 2 * (num % den * factor) = 2 * (num % den) * factor := (Nat.mul_assoc _ _ _).symm
  unfold halfEven
  dsimp only
  rw [Nat.mul_div_mul_right _ _ positive, Nat.mul_mod_mul_right, twice]
  simp only [Nat.mul_lt_mul_right positive]

theorem half_even_distance (num den : Nat) (positive : 0 < den) :
    2 * distance num (halfEven num den * den) ≤ den := by
  obtain ⟨above, below⟩ := half_even_near num den positive
  rw [Nat.add_mul, Nat.one_mul, Nat.mul_assoc] at above
  rw [Nat.mul_assoc] at below
  unfold distance
  omega

theorem half_even_nearest (num den count : Nat) (positive : 0 < den) :
    distance num (halfEven num den * den) ≤ distance num (count * den) := by
  have near := half_even_distance num den positive
  rcases Nat.lt_trichotomy count (halfEven num den) with less | same | more
  · have apart := multiples_apart _ _ den less
    unfold distance at near ⊢
    omega
  · exact Nat.le_of_eq (by rw [same])
  · have apart := multiples_apart _ _ den more
    unfold distance at near ⊢
    omega

theorem half_even_half_way (num den : Nat) (positive : 0 < den)
    (half_way : 2 * distance num (halfEven num den * den) = den) : halfEven num den % 2 = 0 := by
  have exact := Nat.div_add_mod num den
  have small := Nat.mod_lt num positive
  rw [Nat.mul_comm] at exact
  apply half_even_tie
  obtain ⟨lower, upper⟩ := half_even_bounds num den
  unfold distance at half_way
  rcases Nat.lt_or_eq_of_le lower with above | same
  · rw [show halfEven num den = num / den + 1 by omega, Nat.succ_mul (num / den)] at half_way
    omega
  · rw [← same] at half_way
    omega

theorem half_even_parts (below rest den : Nat) (small : rest < den) :
    halfEven (below * den + rest) den =
      if 2 * rest < den then below else if den < 2 * rest then below + 1 else below + below % 2 := by
  have positive : 0 < den := Nat.zero_lt_of_lt small
  have quotient : (below * den + rest) / den = below := by
    rw [Nat.add_comm, Nat.add_mul_div_right _ _ positive, Nat.div_eq_of_lt small, Nat.zero_add]
  have remainder : (below * den + rest) % den = rest := by
    rw [Nat.add_comm, Nat.add_mul_mod_self_right, Nat.mod_eq_of_lt small]
  rw [halfEven, quotient, remainder]

-- What is as near as a rounding may be, and even if there is another as near, is the rounding.
theorem half_even_unique (num den count : Nat) (positive : 0 < den) (near : 2 * distance num (count * den) ≤ den)
    (even : 2 * distance num (count * den) = den → count % 2 = 0) : halfEven num den = count := by
  unfold distance at near even
  by_cases above : count * den ≤ num
  · obtain ⟨rest, rfl⟩ := Nat.exists_eq_add_of_le above
    rw [half_even_parts count rest den (by omega)]
    split
    · rfl
    · rw [if_neg (by omega)]
      omega
  · cases count with
    | zero => omega
    | succ below =>
        rw [Nat.succ_mul below] at near even above
        obtain ⟨rest, rfl⟩ : ∃ rest, num = below * den + rest := Nat.exists_eq_add_of_le (by omega)
        rw [half_even_parts below rest den (by omega), if_neg (by omega)]
        split <;> omega

namespace Double

theorem units_per_one_pos : 0 < unitsPerOne := by
  rw [unitsPerOne]
  apply Nat.two_pow_pos

theorem nearest_scaled (num den factor : Nat) (positive : 0 < factor) :
    nearestUnits (num * factor) (den * factor) = nearestUnits num den := by
  unfold nearestUnits
  dsimp only
  rw [Nat.mul_div_mul_right _ _ positive, Nat.mul_right_comm, half_even_scaled _ _ _ positive]

theorem nearest_same (num den num' den' : Nat) (positive : 0 < den) (positive' : 0 < den')
    (same : num * den' = num' * den) : nearestUnits num den = nearestUnits num' den' := by
  rw [← nearest_scaled num den den' positive', ← nearest_scaled num' den' den positive, same, Nat.mul_comm den]

theorem nearest_exact (units den : Nat) (positive : 0 < den) (on_grid : spacing units ∣ units) :
    nearestUnits (units * den) den = units := by
  have whole : den * spacing units ∣ units * den := by
    rw [Nat.mul_comm units]
    exact Nat.mul_dvd_mul_left den on_grid
  unfold nearestUnits
  dsimp only
  rw [Nat.mul_div_cancel _ positive, half_even_dvd _ _ whole, Nat.mul_comm units, Nat.mul_div_mul_left _ _ positive,
    Nat.mul_div_cancel' on_grid]

theorem grid_or_below (quotient units : Nat) (on_grid : spacing units ∣ units) :
    spacing quotient ∣ units ∨ units < 2 ^ 52 * spacing quotient ∧ 2 ^ 52 * spacing quotient ≤ quotient := by
  unfold spacing at on_grid ⊢
  by_cases fine : quotient.log2 ≤ 52
  · left
    rw [Nat.sub_eq_zero_of_le fine]
    exact Nat.one_dvd units
  · have start : 2 ^ 52 * 2 ^ (quotient.log2 - 52) = 2 ^ quotient.log2 := two_pow_sum _ _ _ (by omega)
    have positive : quotient ≠ 0 := by
      rintro rfl
      exact fine (by decide)
    rw [start]
    by_cases below : units < 2 ^ quotient.log2
    · exact .inr ⟨below, Nat.log2_self_le positive⟩
    · have some_units : units ≠ 0 := by
        have some_start := Nat.two_pow_pos quotient.log2
        omega
      have coarser := (Nat.le_log2 some_units).mpr (Nat.le_of_not_lt below)
      exact .inl (Nat.dvd_trans (Nat.pow_dvd_pow 2 (by omega)) on_grid)

theorem nearest_double (num den units : Nat) (positive : 0 < den) (on_grid : spacing units ∣ units) :
    distance num (nearestUnits num den * den) ≤ distance num (units * den) := by
  have step := Nat.mul_pos positive (spacing_pos (num / den))
  have grid : ∀ count, spacing (num / den) * count * den = count * (den * spacing (num / den)) := by
    intro count
    rw [Nat.mul_comm (spacing _), Nat.mul_assoc, Nat.mul_comm den]
  rw [nearestUnits, grid]
  rcases grid_or_below (num / den) units on_grid with ⟨count, rfl⟩ | ⟨below, start⟩
  · rw [grid]
    exact half_even_nearest num _ count step
  · have nearest := half_even_nearest num (den * spacing (num / den)) (2 ^ 52) step
    have edge : 2 ^ 52 * (den * spacing (num / den)) ≤ num := by
      rw [← grid, Nat.mul_comm (spacing _)]
      exact (Nat.le_div_iff_mul_le positive).mp start
    have further : units * den ≤ 2 ^ 52 * (den * spacing (num / den)) := by
      rw [← grid, Nat.mul_comm (spacing _)]
      exact Nat.mul_le_mul_right den (Nat.le_of_lt below)
    unfold distance at nearest ⊢
    omega

theorem of_quotient_exact (negative : Bool) (units den : Nat) (positive : 0 < den) (representable : Representable units) :
    ofQuotient negative (units * den) den = .finite negative units representable := by
  have exact := nearest_exact units den positive representable.2
  simp only [ofQuotient, exact, representable.1, dif_pos]

theorem of_quotient_same (negative : Bool) (num den num' den' : Nat) (positive : 0 < den) (positive' : 0 < den')
    (same : num * den' = num' * den) : ofQuotient negative num den = ofQuotient negative num' den' := by
  simp only [ofQuotient, nearest_same num den num' den' positive positive' same]

theorem of_quotient_units (negative : Bool) (num den : Nat) (finite : (ofQuotient negative num den).IsFinite) :
    ∃ representable, ofQuotient negative num den = .finite negative (nearestUnits num den) representable := by
  by_cases inside : nearestUnits num den < limit
  · exact ⟨_, dif_pos inside⟩
  · rw [ofQuotient, dif_neg inside] at finite
    obtain ⟨_, _, _, same⟩ := finite
    cases same

end Double

end PocketCalculator
