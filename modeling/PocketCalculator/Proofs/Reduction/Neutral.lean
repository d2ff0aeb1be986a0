import PocketCalculator.Proofs.Arithmetic.Operation
import PocketCalculator.Proofs.FixedPoint.Stability
import PocketCalculator.Proofs.FixedPoint.Whole
import PocketCalculator.Proofs.Reduction.Outcome

set_option autoImplicit false

namespace PocketCalculator

namespace Double

theorem one_exact : 1 ≤ exactLimit := by decide

def one : Double := .finite false _ (whole_representable 1 one_exact)

theorem signed_units_sign (negative : Bool) (units : Nat) (some_units : units ≠ 0) :
    decide (signedUnits negative units < 0) = negative := by
  cases negative with
  | false => exact decide_eq_false (Int.not_lt.mpr (Int.natCast_nonneg units))
  | true => exact decide_eq_true (Int.neg_neg_of_pos (Int.natCast_pos.mpr (Nat.pos_of_ne_zero some_units)))

theorem add_zero (x : Double) (shown : x.IsShown) (sign : Bool) : add x (zero sign) = x := by
  obtain ⟨negative, units, representable, rfl, unsigned⟩ := shown
  have total : signedUnits negative units + signedUnits sign 0 = signedUnits negative units := by
    cases sign <;> exact Int.add_zero _
  rw [zero, add, total]
  by_cases none : units = 0
  · subst none
    rw [unsigned rfl]
    rfl
  · have nonzero : signedUnits negative units ≠ 0 := by
      rw [← Int.natAbs_ne_zero, signed_units_abs]
      exact none
    have exact := of_quotient_exact negative units 1 Nat.one_pos representable
    rw [Nat.mul_one] at exact
    rw [if_neg nonzero, signed_units_abs, signed_units_sign negative units none]
    exact exact

theorem subtract_zero (x : Double) (shown : x.IsShown) : subtract x (zero false) = x := add_zero x shown true

theorem multiply_one (x : Double) (shown : x.IsShown) : multiply x one = x := by
  obtain ⟨negative, units, representable, rfl, _⟩ := shown
  rw [one, multiply, Nat.one_mul, Bool.bne_false]
  exact of_quotient_exact negative units _ units_per_one_pos representable

theorem one_nonzero : 1 * unitsPerOne ≠ 0 := by
  rw [Nat.one_mul]
  exact Nat.ne_of_gt units_per_one_pos

theorem divide_one (x : Double) (shown : x.IsShown) : divide x one = x := by
  obtain ⟨negative, units, representable, rfl, _⟩ := shown
  rw [one, divide, if_neg one_nonzero, Nat.one_mul, Bool.bne_false]
  exact of_quotient_exact negative units _ units_per_one_pos representable

end Double

namespace Operator

def neutral : Operator → Numeral
  | .addition | .subtraction => ⟨['0']⟩
  | .multiplication | .division => ⟨['1']⟩

def neutralValue : Operator → Double
  | .addition | .subtraction => .zero false
  | .multiplication | .division => .one

theorem neutral_reads (o : Operator) : o.neutral.value = .ok o.neutralValue := by
  have digit : ∀ (c : Char) (count : Nat) (small : count ≤ Double.exactLimit), [c].all DecimalDigit.isDecimal = true →
      DecimalDigit.valueOf [c] = count →
      Numeral.value ⟨[c]⟩ = .ok (.finite false _ (Double.whole_representable count small)) := by
    intro c count small decimal value
    refine Numeral.digits_value ⟨[c]⟩ false [c] [] count rfl (List.cons_ne_nil _ _) decimal (.inl rfl) ?_ small
    rw [List.drop_nil, List.append_nil, value]
    exact (Nat.mul_one count).symm
  have zero : Numeral.value ⟨['0']⟩ = .ok (.zero false) := by
    rw [digit '0' 0 (Nat.zero_le _) (by decide) (by decide), Double.zero]
    simp only [Nat.zero_mul]
  have one : Numeral.value ⟨['1']⟩ = .ok .one := digit '1' 1 Double.one_exact (by decide) (by decide)
  cases o with
  | addition => exact zero
  | subtraction => exact zero
  | multiplication => exact one
  | division => exact one

theorem neutral_finite (o : Operator) : o.neutralValue.IsFinite := by
  cases o <;> exact ⟨_, _, _, rfl⟩

theorem neutral_divides (o : Operator) (division : o = .division) : o.neutralValue.isZero = false := by
  subst division
  rw [neutralValue, Double.one, Double.isZero]
  exact decide_eq_false Double.one_nonzero

theorem rounded_neutral (o : Operator) (x : Double) (shown : x.IsShown) : o.rounded x o.neutralValue = x := by
  cases o with
  | addition => exact Double.add_zero x shown false
  | subtraction => exact Double.subtract_zero x shown
  | multiplication => exact Double.multiply_one x shown
  | division => exact Double.divide_one x shown

end Operator

namespace Reduction

variable (settings : Settings)

theorem step_neutral (r : Numeral) (o : Operator) (x : Double) (reads : FixedPoint.ReadsBack settings r.text x) :
    step settings r o o.neutral = .ok r := by
  have finite := reads.shown.finite
  have unchanged := o.rounded_neutral x reads.shown
  rw [← combined_step, combined_rounds settings r o.neutral o x o.neutralValue reads.value o.neutral_reads finite o.neutral_finite
    o.neutral_divides (unchanged.symm ▸ finite), unchanged, reads.text]
  rfl

theorem evaluate_step (l r : Numeral) (o : Operator) :
    evaluate settings (Chain.tokens ⟨l, [(o, r)]⟩) = step settings l o r := by
  rw [evaluate_chain settings ⟨l, [(o, r)]⟩ (List.cons_ne_nil _ _), by_precedence_terms]
  cases high : o.hasPriority with
  | true =>
      rw [term_results_factor settings l r o [] high]
      cases step settings l o r <;> rfl
  | false =>
      rw [term_results_divided settings l r o [] high, term_results_alone]
      change folded settings l [(o, r)] = _
      rw [folded]
      cases step settings l o r <;> rfl

theorem evaluate_neutral (tokens : Expression) (r : Numeral) (done : evaluate settings tokens = .ok r) (o : Operator) :
    evaluate settings (Chain.tokens ⟨r, [(o, o.neutral)]⟩) = .ok r := by
  obtain ⟨z, finite, written⟩ := evaluate_writes settings tokens r done
  obtain ⟨x, reads⟩ := FixedPoint.written_reads_back settings z finite r.text written
  rw [evaluate_step, step_neutral settings r o x reads]

end Reduction

end PocketCalculator
