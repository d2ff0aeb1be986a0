import PocketCalculator.Proofs.Double.Greatest
import PocketCalculator.Proofs.Numeral.Layout
import PocketCalculator.Proofs.Reduction.Window

set_option autoImplicit false

namespace PocketCalculator

theorem Numeral.signed_laid (n : Numeral) (negative : Bool) (whole fraction : Text)
    (laid : n.Laid false whole fraction) :
    Numeral.Laid ⟨Double.signText negative ++ n.text⟩ negative whole fraction where
  text := by rw [laid.text]; rfl
  some_digit := laid.some_digit
  digits := laid.digits
  fraction_form := laid.fraction_form
  lead := laid.lead

namespace FixedPoint

open DecimalDigit Numeral

def pointed (fraction : Text) : Text := if fraction.isEmpty then [] else '.' :: fraction

theorem with_fraction_pointed (whole fraction : Text) : withFraction whole fraction = whole ++ pointed fraction := by
  rw [withFraction, pointed]
  split <;> simp

theorem pointed_fraction (fraction : Text) (decimal : fraction.all isDecimal = true) :
    IsFraction (pointed fraction) := by
  rw [pointed]
  split
  · exact .inl rfl
  · exact .inr ⟨fraction, rfl, decimal⟩

theorem pointed_digits (fraction : Text) : (pointed fraction).drop 1 = fraction := by
  cases fraction <;> rfl

theorem trimmed_fraction_zeros (least : Nat) (fraction : Text) :
    ∃ kept dropped added, fraction = kept ++ Text.zeros dropped ∧
      trimmedFraction least fraction = kept ++ Text.zeros added := by
  obtain ⟨dropped, split⟩ := Text.without_trailing_zeros_split fraction
  exact ⟨_, dropped, _, split, rfl⟩

@[simp] theorem trailing_zeros_value (digits : Text) (count : Nat) :
    valueOf (digits ++ Text.zeros count) = valueOf digits * 10 ^ count := by
  simp [value_of_append]

def digitsOf (settings : Settings) (count : Nat) : Text := Text.paddedLeft (places settings + 1) (decimalText count)

theorem digits_of_length (settings : Settings) (count : Nat) : places settings < (digitsOf settings count).length := by
  rw [digitsOf, Text.padded_left_length]
  omega

@[simp] theorem digits_of_ascii (settings : Settings) (count : Nat) : (digitsOf settings count).all Char.isDigit = true := by
  simp [digitsOf, Text.paddedLeft, List.all_append]

@[simp] theorem digits_of_value (settings : Settings) (count : Nat) : valueOf (digitsOf settings count) = count := by
  simp [digitsOf, Text.paddedLeft, value_of_append]

-- A zero in front is there for the one digit that the whole part has at least.
theorem digits_of_lead (settings : Settings) (count : Nat) (zero : (digitsOf settings count).head? = some '0') :
    (digitsOf settings count).length = places settings + 1 := by
  by_cases padded : (decimalText count).length ≤ places settings + 1
  · rw [digitsOf, Text.padded_left_length]
    omega
  · have none : places settings + 1 - (decimalText count).length = 0 := by omega
    rw [digitsOf, Text.paddedLeft, none] at zero
    rw [decimal_text_lead count zero] at padded
    have one : (decimalText 0).length = 1 := rfl
    omega

def wholeOf (settings : Settings) (count : Nat) : Text :=
  (digitsOf settings count).take ((digitsOf settings count).length - places settings)

def fractionOf (settings : Settings) (count : Nat) : Text :=
  (digitsOf settings count).drop ((digitsOf settings count).length - places settings)

theorem whole_of_fraction_of (settings : Settings) (count : Nat) :
    wholeOf settings count ++ fractionOf settings count = digitsOf settings count := List.take_append_drop _ _

@[simp] theorem fraction_of_length (settings : Settings) (count : Nat) :
    (fractionOf settings count).length = places settings := by
  have length := digits_of_length settings count
  rw [fractionOf, List.length_drop]
  omega

theorem whole_of_lead (settings : Settings) (count : Nat) (zero : (wholeOf settings count).head? = some '0') :
    wholeOf settings count = ['0'] := by
  have length := digits_of_length settings count
  obtain ⟨c, rest, same⟩ := List.exists_cons_of_ne_nil (List.ne_nil_of_length_pos (Nat.zero_lt_of_lt length))
  have some_digits : (digitsOf settings count).length - places settings =
      (digitsOf settings count).length - places settings - 1 + 1 := by omega
  rw [wholeOf, some_digits, same, List.take_succ_cons, List.head?_cons, ← List.head?_cons (l := rest), ← same] at zero
  have single := digits_of_lead settings count zero
  rw [same, List.head?_cons, Option.some.injEq] at zero
  rw [wholeOf, single, Nat.add_sub_cancel_left, same, zero]
  rfl

theorem whole_of_some_digit (settings : Settings) (count : Nat) : wholeOf settings count ≠ [] := by
  have length := digits_of_length settings count
  apply List.ne_nil_of_length_pos
  rw [wholeOf, List.length_take]
  omega

def shownFraction (settings : Settings) (count : Nat) : Text :=
  trimmedFraction settings.minDigits (fractionOf settings count)

theorem positional_parts (settings : Settings) (count : Nat) :
    positional settings count = wholeOf settings count ++ pointed (shownFraction settings count) := by
  rw [← with_fraction_pointed]
  rfl

theorem positional_value (settings : Settings) (count : Nat) :
    valueOf (wholeOf settings count ++ shownFraction settings count) * 10 ^ places settings =
      count * 10 ^ (shownFraction settings count).length := by
  obtain ⟨kept, dropped, added, all, trimmed⟩ := trimmed_fraction_zeros settings.minDigits (fractionOf settings count)
  have exact_places : kept.length + dropped = places settings := by
    simpa using (congrArg List.length all).symm
  have exact_value : valueOf (wholeOf settings count ++ kept) * 10 ^ dropped = count := by
    rw [← trailing_zeros_value, List.append_assoc, ← all, whole_of_fraction_of, digits_of_value]
  rw [shownFraction, trimmed, ← List.append_assoc, trailing_zeros_value, List.length_append, Text.zeros_of_length,
    ← exact_places, ← exact_value, Nat.pow_add, Nat.pow_add]
  grind

theorem positional_digits (settings : Settings) (count : Nat) :
    (wholeOf settings count ++ shownFraction settings count).all Char.isDigit = true := by
  have digits := digits_of_ascii settings count
  obtain ⟨kept, dropped, added, all, trimmed⟩ := trimmed_fraction_zeros settings.minDigits (fractionOf settings count)
  rw [← whole_of_fraction_of, all, ← List.append_assoc, List.all_append, Bool.and_eq_true] at digits
  rw [shownFraction, trimmed, ← List.append_assoc, List.all_append, digits.1, zeros_ascii]
  rfl

theorem positional_laid (settings : Settings) (count : Nat) :
    ∃ whole fraction, Laid ⟨positional settings count⟩ false whole fraction ∧
      valueOf (whole ++ fraction.drop 1) * 10 ^ places settings = count * 10 ^ (fraction.drop 1).length := by
  have digits := ascii_decimal _ (positional_digits settings count)
  rw [List.all_append, Bool.and_eq_true] at digits
  refine ⟨wholeOf settings count, pointed (shownFraction settings count), ?_, ?_⟩
  · constructor
    · exact positional_parts settings count
    · exact whole_of_some_digit settings count
    · exact digits.1
    · exact pointed_fraction _ digits.2
    · exact whole_of_lead settings count
  · rw [pointed_digits]
    exact positional_value settings count

theorem of_quotient_laid (settings : Settings) (negative : Bool) (num den : Nat) (text : Text)
    (done : ofQuotient settings negative num den = .ok text) :
    ∃ whole fraction, Laid ⟨text⟩ (negative && rounded (places settings) num den ≠ 0) whole fraction ∧
      valueOf (whole ++ fraction.drop 1) * 10 ^ places settings =
        rounded (places settings) num den * 10 ^ (fraction.drop 1).length := by
  rw [ofQuotient] at done
  split at done
  · cases done
    obtain ⟨whole, fraction, laid, value⟩ := positional_laid settings (rounded (places settings) num den)
    exact ⟨whole, fraction, signed_laid _ _ whole fraction laid, value⟩
  · cases done

theorem written_of_double (settings : Settings) (x : Double) (text : Text)
    (done : written settings (.real x) = .ok text) :
    precision settings ≤ mostPrecision ∧ ofDouble settings x = .ok text := by
  rw [written] at done
  split at done
  · cases done
  · split at done
    · cases done
    · rename_i within
      exact ⟨Nat.le_of_not_lt within, done⟩

theorem written_displayed (settings : Settings) (x : Double) (finite : x.IsFinite) (text : Text)
    (done : written settings (.real x) = .ok text) : Displayed ⟨text⟩ := by
  obtain ⟨negative, units, representable, rfl⟩ := finite
  have quotient := (written_of_double settings _ text done).2
  obtain ⟨whole, fraction, laid, _⟩ := of_quotient_laid settings negative units Double.unitsPerOne text quotient
  exact ⟨_, whole, fraction, laid⟩

theorem written_reads_finite (settings : Settings) (x : Double) (finite : x.IsFinite) (text : Text)
    (done : written settings (.real x) = .ok text) : Numeral.IsFinite ⟨text⟩ := by
  obtain ⟨negative, units, representable, rfl⟩ := finite
  have quotient := (written_of_double settings _ text done).2
  obtain ⟨whole, fraction, laid, value⟩ := of_quotient_laid settings negative units Double.unitsPerOne text quotient
  have small : rounded (places settings) units Double.unitsPerOne ≤ Double.greatest * 10 ^ places settings := by
    apply half_even_at_most
    rw [Nat.mul_right_comm]
    exact Nat.mul_le_mul_right _ (Double.representable_at_most units representable)
  have most : valueOf (whole ++ fraction.drop 1) ≤ Double.greatest * 10 ^ (fraction.drop 1).length := by
    apply Nat.le_of_mul_le_mul_right (c := 10 ^ places settings) _ (Nat.pow_pos (by decide))
    rw [value, Nat.mul_right_comm]
    exact Nat.mul_le_mul_right _ small
  have parts := laid_parts _ _ whole fraction laid
  refine ⟨_, by rw [Numeral.value, parts], ?_⟩
  exact Double.of_decimal_finite _ _ _ most

end FixedPoint

end PocketCalculator
