import PocketCalculator.Proofs.Double.Nearest
import PocketCalculator.Proofs.FixedPoint.Layout

/- Fixed-point text, read back and written again. The double that is read is at least as near to the text's
   decimal as the one that was written, so that it is rounded to the same decimal; where it is half way to
   another, so was the one that was written, and the decimal is the even of the two. -/
set_option autoImplicit false

namespace PocketCalculator

namespace Double

-- What is finite and, if it is zero, has no sign.
def IsShown (x : Double) : Prop :=
  ∃ negative units representable, x = .finite negative units representable ∧ (units = 0 → negative = false)

theorem IsShown.finite {x : Double} (shown : x.IsShown) : x.IsFinite := by
  obtain ⟨negative, units, representable, same, _⟩ := shown
  exact ⟨negative, units, representable, same⟩

end Double

namespace FixedPoint

open DecimalDigit Numeral

theorem rounded_again (places units den : Nat) (positive : 0 < den) (on_grid : Double.spacing units ∣ units) :
    rounded places (Double.nearestUnits (rounded places units den * den) (10 ^ places)) den =
      rounded places units den := by
  have scale : 0 < 10 ^ places := Nat.pow_pos (by decide)
  have written := half_even_distance (units * 10 ^ places) den positive
  have nearer := Double.nearest_double (rounded places units den * den) (10 ^ places) units scale on_grid
  rw [distance_comm _ (units * 10 ^ places), distance_comm] at nearer
  apply half_even_unique _ _ _ positive
  · exact Nat.le_trans (Nat.mul_le_mul_left 2 nearer) written
  · intro half_way
    apply half_even_half_way (units * 10 ^ places) den positive
    rw [rounded] at nearer half_way
    omega

theorem of_quotient_reads (settings : Settings) (negative : Bool) (num den : Nat) (text : Text)
    (done : ofQuotient settings negative num den = .ok text) :
    Numeral.value ⟨text⟩ = .ok (Double.ofQuotient (negative && rounded (places settings) num den ≠ 0)
      (rounded (places settings) num den * Double.unitsPerOne) (10 ^ places settings)) := by
  obtain ⟨whole, fraction, laid, value⟩ := of_quotient_laid settings negative num den text done
  have scale : ∀ exponent, 0 < 10 ^ exponent := fun _ => Nat.pow_pos (by decide)
  rw [Numeral.value, laid_parts _ _ whole fraction laid]
  dsimp only
  rw [Parts.value, Double.of_decimal_quotient]
  refine congrArg Except.ok (Double.of_quotient_same _ _ _ _ _ (scale _) (scale _) ?_)
  rw [Nat.mul_right_comm, value, Nat.mul_right_comm]

theorem rounded_zero (places den : Nat) : rounded places 0 den = 0 := by
  rw [rounded, Nat.zero_mul, half_even_dvd 0 den (Nat.dvd_zero den), Nat.zero_div]

structure ReadsBack (settings : Settings) (text : Text) (x : Double) : Prop where
  shown : x.IsShown
  value : Numeral.value ⟨text⟩ = .ok x
  text : written settings (.real x) = .ok text

theorem written_reads_back (settings : Settings) (v : Double) (finite : v.IsFinite) (text : Text)
    (done : written settings (.real v) = .ok text) : ∃ x, ReadsBack settings text x := by
  obtain ⟨x, value, read⟩ := written_reads_finite settings v finite text done
  obtain ⟨negative, units, representable, rfl⟩ := finite
  obtain ⟨within, quotient⟩ := written_of_double settings _ text done
  have reads := of_quotient_reads settings negative units Double.unitsPerOne text quotient
  have again := rounded_again (places settings) units Double.unitsPerOne Double.units_per_one_pos representable.2
  generalize counted : rounded (places settings) units Double.unitsPerOne = count at reads again
  rw [value, Except.ok.injEq] at reads
  rw [reads] at read
  obtain ⟨inside, same⟩ := Double.of_quotient_units _ _ _ read
  rw [reads, same] at value
  refine ⟨_, ⟨_, _, inside, rfl, ?_⟩, value, ?_⟩
  · intro zero
    rw [zero, rounded_zero] at again
    simp [← again]
  · rw [written_within settings _ within, ← quotient]
    simp only [ofNumber, ofDouble, ofQuotient, again, counted, Bool.and_assoc, Bool.and_self]

end FixedPoint

end PocketCalculator
