import PocketCalculator.Proofs.Double.Whole
import PocketCalculator.Proofs.FixedPoint.Layout

set_option autoImplicit false

namespace PocketCalculator

open DecimalDigit

namespace Numeral

def ReadsWhole (n : Numeral) (i : Int) : Prop := ∃ x, n.value = .ok x ∧ x.IsWhole i

theorem digits_value (n : Numeral) (negative : Bool) (whole fraction : Text) (count : Nat)
    (text : n.text = Double.signText negative ++ (whole ++ fraction)) (some_digit : whole ≠ [])
    (digits : whole.all isDecimal = true) (form : IsFraction fraction)
    (value : valueOf (whole ++ fraction.drop 1) = count * 10 ^ (fraction.drop 1).length)
    (small : count ≤ Double.exactLimit) :
    n.value = .ok (.finite negative (count * Double.unitsPerOne) (Double.whole_representable count small)) := by
  rw [Numeral.value, parts_of_digits n negative whole fraction text some_digit digits form]
  refine congrArg Except.ok ?_
  rw [Parts.value, Double.of_decimal_quotient, value, Nat.mul_right_comm]
  exact Double.of_quotient_exact negative _ _ (Nat.pow_pos (by decide)) _

theorem digits_read_whole (n : Numeral) (negative : Bool) (whole fraction : Text) (i : Int)
    (text : n.text = Double.signText negative ++ (whole ++ fraction)) (some_digit : whole ≠ [])
    (digits : whole.all isDecimal = true) (form : IsFraction fraction)
    (count : valueOf (whole ++ fraction.drop 1) = i.natAbs * 10 ^ (fraction.drop 1).length)
    (sign : Double.signedUnits negative i.natAbs = i) (small : i.natAbs ≤ Double.exactLimit) : n.ReadsWhole i := by
  refine ⟨_, digits_value n negative whole fraction _ text some_digit digits form count small, negative, _, _, rfl, ?_⟩
  have scaled := Double.signed_units_product negative false i.natAbs Double.unitsPerOne
  rwa [Bool.bne_false, sign] at scaled

end Numeral

theorem decimal_text_scaled (n places : Nat) (positive : 0 < n) :
    decimalText (n * 10 ^ places) = decimalText n ++ Text.zeros places := by
  induction places with
  | zero => simp
  | succ places ih =>
      have large : 0 < n * 10 ^ places := Nat.mul_pos positive (Nat.pow_pos (by decide))
      have front : n * 10 ^ (places + 1) / 10 = n * 10 ^ places := by
        rw [Nat.pow_succ, ← Nat.mul_assoc, Nat.mul_div_cancel _ (by decide)]
      have last : n * 10 ^ (places + 1) % 10 = 0 := by
        rw [Nat.pow_succ, ← Nat.mul_assoc, Nat.mul_mod_left]
      rw [decimalText] at ih ⊢
      rw [Nat.toDigits_of_base_le (by decide) (by rw [Nat.pow_succ, ← Nat.mul_assoc]; omega), front, last, ih,
        Text.zeros_snoc, List.append_assoc]
      rfl

namespace FixedPoint

theorem zeros_trimmed (least count : Nat) : trimmedFraction least (Text.zeros count) = Text.zeros least := by
  have none : Text.withoutTrailingZeros (Text.zeros count) = [] := by
    simp [Text.withoutTrailingZeros, Text.zeros]
  rw [trimmedFraction, none, Text.paddedRight, List.nil_append, List.length_nil, Nat.sub_zero]

theorem digits_of_whole (settings : Settings) (n : Nat) :
    digitsOf settings (n * 10 ^ places settings) = decimalText n ++ Text.zeros (places settings) := by
  by_cases zero : n = 0
  · have one : decimalText 0 = ['0'] := rfl
    rw [digitsOf, zero, Nat.zero_mul, one, Text.paddedLeft]
    exact (Text.zeros_snoc _).symm.trans (Text.zeros_succ _)
  · have some_digit := List.length_pos_iff.mpr (decimal_text_nonempty n)
    have none : places settings + 1 - (decimalText n ++ Text.zeros (places settings)).length = 0 := by
      rw [List.length_append, Text.zeros_of_length]
      omega
    rw [digitsOf, decimal_text_scaled n _ (Nat.pos_of_ne_zero zero), Text.paddedLeft, none]
    rfl

theorem positional_whole (settings : Settings) (n : Nat) :
    positional settings (n * 10 ^ places settings) = decimalText n ++ pointed (Text.zeros settings.minDigits) := by
  have length : (decimalText n ++ Text.zeros (places settings)).length - places settings = (decimalText n).length := by
    simp
  have whole : wholeOf settings (n * 10 ^ places settings) = decimalText n := by
    rw [wholeOf, digits_of_whole, length, List.take_left]
  have fraction : fractionOf settings (n * 10 ^ places settings) = Text.zeros (places settings) := by
    rw [fractionOf, digits_of_whole, length, List.drop_left]
  rw [← zeros_trimmed settings.minDigits (places settings), ← with_fraction_pointed, ← fraction, ← whole]
  rfl

def wholeText (settings : Settings) (i : Int) : Text :=
  signedText i ++ if settings.minDigits = 0 then [] else '.' :: Text.zeros settings.minDigits

theorem whole_text_parts (settings : Settings) (i : Int) :
    wholeText settings i = Double.signText (i < 0) ++ (decimalText i.natAbs ++ pointed (Text.zeros settings.minDigits)) := by
  have point : pointed (Text.zeros settings.minDigits) =
      if settings.minDigits = 0 then [] else '.' :: Text.zeros settings.minDigits := by
    cases settings.minDigits <;> rfl
  rw [wholeText, signedText, point, Double.signText]
  by_cases negative : i < 0 <;> simp [negative]

theorem written_whole (settings : Settings) (within : precision settings ≤ mostPrecision) (x : Double) (i : Int)
    (whole : x.IsWhole i) : written settings (.real x) = .ok (wholeText settings i) := by
  obtain ⟨negative, units, representable, rfl, same⟩ := whole
  have fits := rounded_fits (places settings) units representable.1
  have count : rounded (places settings) units Double.unitsPerOne = i.natAbs * 10 ^ places settings := by
    rw [Double.whole_units negative units i same, rounded, Nat.mul_right_comm, half_even_dvd _ _ (Nat.dvd_mul_left _ _),
      Nat.mul_div_cancel _ Double.units_per_one_pos]
  have scale : 10 ^ places settings ≠ 0 := Nat.ne_of_gt (Nat.pow_pos (by decide))
  have sign : (negative && i.natAbs * 10 ^ places settings ≠ 0) = decide (i < 0) := by
    simp only [Double.whole_sign negative units i same, ne_eq, Nat.mul_eq_zero, Int.natAbs_eq_zero, scale, or_false]
  rw [written_within settings _ within, ofNumber, ofDouble, ofQuotient, count, if_pos (count ▸ fits)]
  simp only [sign, whole_text_parts, positional_whole, Double.signText]

theorem whole_text_reads (settings : Settings) (i : Int) (small : i.natAbs ≤ Double.exactLimit) :
    Numeral.ReadsWhole ⟨wholeText settings i⟩ i := by
  apply Numeral.digits_read_whole _ (i < 0) (decimalText i.natAbs) (pointed (Text.zeros settings.minDigits)) i
    (whole_text_parts settings i) (decimal_text_nonempty _) (decimal_text_digits _)
    (pointed_fraction _ (zeros_decimal _)) ?_ (Double.signed_units_of_abs i) small
  rw [pointed_digits]
  simp

end FixedPoint

end PocketCalculator
