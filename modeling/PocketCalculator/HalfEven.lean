set_option autoImplicit false

namespace PocketCalculator

def halfEven (num den : Nat) : Nat :=
  let below := num / den
  let rest := num % den
  if 2 * rest < den then below
  else if den < 2 * rest then below + 1
  else below + below % 2

theorem half_even_bounds (num den : Nat) :
    num / den ≤ halfEven num den ∧ halfEven num den ≤ num / den + 1 := by
  unfold halfEven
  dsimp only
  split
  · omega
  · split <;> omega

theorem half_even_one (n : Nat) : halfEven n 1 = n := by
  simp [halfEven, Nat.mod_one]

theorem half_even_dvd (num den : Nat) (whole : den ∣ num) : halfEven num den = num / den := by
  have none : num % den = 0 := Nat.mod_eq_zero_of_dvd whole
  unfold halfEven
  dsimp only
  rw [none]
  by_cases zero : den = 0
  · subst zero
    simp
  · rw [if_pos (by omega)]

theorem half_even_near (num den : Nat) (positive : 0 < den) :
    2 * num ≤ (2 * halfEven num den + 1) * den ∧ 2 * halfEven num den * den ≤ 2 * num + den := by
  have exact := Nat.div_add_mod num den
  have small := Nat.mod_lt num positive
  unfold halfEven
  dsimp only
  generalize num / den = below at exact
  generalize num % den = rest at exact small
  subst exact
  split
  · constructor <;> grind
  · split
    · constructor <;> grind
    · have half : den = 2 * rest := by omega
      rcases Nat.mod_two_eq_zero_or_one below with even | odd
      · rw [even]
        constructor <;> grind
      · rw [odd]
        constructor <;> grind

theorem half_even_tie (num den : Nat) (tie : 2 * (num % den) = den) : halfEven num den % 2 = 0 := by
  unfold halfEven
  dsimp only
  rw [if_neg (by omega), if_neg (by omega)]
  omega

end PocketCalculator
