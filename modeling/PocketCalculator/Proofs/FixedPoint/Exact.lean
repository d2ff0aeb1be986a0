import PocketCalculator.Proofs.FixedPoint.Figures

set_option autoImplicit false

namespace PocketCalculator

def Double.exact? : Double → Option ℚ
  | .finite negative units _ => some (signedUnits negative units / unitsPerOne)
  | _ => none

def Number.exact? : Number → Option ℚ
  | .whole n => some n
  | .truth holds => some (ofTruth holds)
  | .real x => x.exact?

theorem distance_abs (num den count : Nat) (positive : 0 < den) :
    |(num : ℚ) / den - count| = distance num (count * den) / den := by
  have scale : (0 : ℚ) < den := by exact_mod_cast positive
  have difference : (num : ℚ) / den - count = (num - count * den) / den := by field_simp
  have magnitude : |(num : ℚ) - count * den| = distance num (count * den) := by
    rw [distance]
    rcases Nat.le_total num (count * den) with below | above
    · have cast : (num : ℚ) ≤ count * den := by exact_mod_cast below
      rw [Nat.sub_eq_zero_of_le below, Nat.zero_add, Nat.cast_sub below, abs_of_nonpos (by linarith)]
      push_cast
      ring
    · have cast : (count : ℚ) * den ≤ num := by exact_mod_cast above
      rw [Nat.sub_eq_zero_of_le above, Nat.add_zero, Nat.cast_sub above, abs_of_nonneg (by linarith)]
      push_cast
      ring
  rw [difference, abs_div, magnitude, abs_of_pos scale]

theorem signed_distance (negative : Bool) (num den count : Nat) :
    |(Double.signedUnits negative num : ℚ) / den - Double.signedUnits negative count| = |(num : ℚ) / den - count| := by
  cases negative with
  | false => rfl
  | true =>
      have mirrored : (Double.signedUnits true num : ℚ) / den - Double.signedUnits true count = -((num : ℚ) / den - count) := by
        simp only [Double.signedUnits, if_true]
        push_cast
        ring
      rw [mirrored, abs_neg]

theorem signed_half_even (negative : Bool) (num den : Nat) (positive : 0 < den) :
    IsHalfEven (Double.signedUnits negative num / den) (Double.signedUnits negative (halfEven num den)) where
  near := by
    have scale : (0 : ℚ) < den := by exact_mod_cast positive
    have near : (2 * distance num (halfEven num den * den) : ℚ) ≤ den := by
      exact_mod_cast half_even_distance num den positive
    rw [signed_distance, distance_abs num den _ positive, div_le_iff₀ scale]
    linarith
  even := by
    have scale : (den : ℚ) ≠ 0 := by exact_mod_cast Nat.ne_of_gt positive
    intro half
    rw [signed_distance, distance_abs num den _ positive, div_eq_iff scale] at half
    have half_way : (2 * distance num (halfEven num den * den) : ℚ) = den := by linarith
    have even := half_even_half_way num den positive (by exact_mod_cast half_way)
    rw [Double.signedUnits]
    split <;> grind

namespace FixedPoint

open DecimalDigit Figures

variable (settings : Settings)

-- The places that no double reaches are zeros.
theorem rounded_at_most (num den : Nat) (ends : den ∣ num * 10 ^ mostPlaces) :
    rounded settings.maxDigits num den = rounded (places settings) num den * 10 ^ (settings.maxDigits - places settings) := by
  rw [places]
  rcases Nat.le_total settings.maxDigits mostPlaces with few | many
  · rw [Nat.min_eq_left few, Nat.sub_self, Nat.pow_zero, Nat.mul_one]
  · rw [Nat.min_eq_right many, ← rounded_past_end mostPlaces _ num den ends, Nat.add_sub_cancel' many]

theorem shown_fraction_length (count : Nat) :
    settings.minDigits ≤ (shownFraction settings count).length ∧
      (shownFraction settings count).length ≤ settings.maxDigits := by
  have length : (shownFraction settings count).length =
      max settings.minDigits (Text.withoutTrailingZeros (fractionOf settings count)).length := Text.padded_right_length _ _
  obtain ⟨dropped, split⟩ := Text.without_trailing_zeros_split (fractionOf settings count)
  have whole := congrArg List.length split
  rw [fraction_of_length, List.length_append] at whole
  have few : places settings ≤ settings.maxDigits := Nat.min_le_left _ _
  have ordered := settings.ordered
  omega

theorem trimmed_last (t : Text) : (Text.withoutTrailingZeros t).getLast? ≠ some '0' := by
  rw [Text.withoutTrailingZeros, List.getLast?_reverse]
  intro zero
  have kept := List.head?_dropWhile_not (· = '0') t.reverse
  rw [zero] at kept
  simp at kept

theorem shown_fraction_last (count : Nat) (zero : (shownFraction settings count).getLast? = some '0') :
    (shownFraction settings count).length = settings.minDigits := by
  rw [shownFraction, trimmedFraction, Text.padded_right_length]
  by_contra longer
  have none : settings.minDigits - (Text.withoutTrailingZeros (fractionOf settings count)).length = 0 := by omega
  rw [shownFraction, trimmedFraction, Text.paddedRight, none, Text.zeros_none, List.append_nil] at zero
  exact trimmed_last _ zero

def figuresOf (negative : Bool) (count : Nat) : Figures :=
  ⟨negative && count ≠ 0, wholeOf settings count, shownFraction settings count⟩

theorem figures_of_text (negative : Bool) (count : Nat) :
    (figuresOf settings negative count).text =
      (if negative && count ≠ 0 then ['-'] else []) ++ positional settings count := by
  rw [positional_parts]
  rfl

theorem signed_nonzero (negative : Bool) (count digits : Nat) (both : count = 0 → digits = 0) :
    Double.signedUnits (negative && count ≠ 0) digits = Double.signedUnits negative digits := by
  by_cases zero : count = 0
  · simp [Double.signedUnits, zero, both zero]
  · simp [zero]

theorem signed_units_scaled (negative : Bool) (a b c d : Nat) (same : a * b = c * d) :
    (Double.signedUnits negative a * b : ℚ) = Double.signedUnits negative c * d := by
  have cast : (a * b : ℚ) = c * d := by exact_mod_cast same
  cases negative with
  | false => exact cast
  | true =>
      simp only [Double.signedUnits, if_true]
      push_cast
      linarith

theorem figures_of_value (negative : Bool) (count : Nat) :
    (figuresOf settings negative count).value = Double.signedUnits negative count / 10 ^ places settings := by
  have exact_value := positional_value settings count
  have zero : count = 0 → valueOf (wholeOf settings count ++ shownFraction settings count) = 0 := by
    intro none
    rw [none, Nat.zero_mul, Nat.mul_eq_zero] at exact_value
    rw [none]
    exact exact_value.resolve_right (Nat.ne_of_gt (Nat.pow_pos (by decide)))
  have scaled := signed_units_scaled negative _ _ _ _ exact_value
  rw [Figures.value, figuresOf, signed_nonzero negative count _ zero, div_eq_div_iff (by positivity) (by positivity)]
  exact_mod_cast scaled

theorem figures_of_sign (negative : Bool) (count : Nat) :
    (figuresOf settings negative count).negative = true ↔ (figuresOf settings negative count).value < 0 := by
  have scale : (0 : ℚ) < 10 ^ places settings := by positivity
  rw [figures_of_value, figuresOf, div_lt_iff₀ scale, zero_mul]
  cases negative with
  | false => simp [Double.signedUnits]
  | true =>
      simp only [Double.signedUnits, if_true, Bool.true_and, decide_eq_true_eq]
      constructor
      · intro some_units
        have positive : (0 : ℚ) < count := by exact_mod_cast Nat.pos_of_ne_zero some_units
        push_cast
        linarith
      · rintro below rfl
        simp at below

theorem figures_of_shows (negative : Bool) (num den : Nat) (positive : 0 < den) (ends : den ∣ num * 10 ^ mostPlaces) :
    (figuresOf settings negative (rounded (places settings) num den)).Shows settings
      (Double.signedUnits negative num / den) where
  some_digit := whole_of_some_digit settings _
  digits := positional_digits settings _
  lead := whole_of_lead settings _
  least := (shown_fraction_length settings _).1
  most := (shown_fraction_length settings _).2
  last := shown_fraction_last settings _
  rounded := by
    refine ⟨Double.signedUnits negative (rounded settings.maxDigits num den), ?_, ?_⟩
    · have scaled := signed_units_scaled negative (num * 10 ^ settings.maxDigits) 1 num (10 ^ settings.maxDigits) (Nat.mul_one _)
      rw [Nat.cast_one, mul_one] at scaled
      have shifted : (Double.signedUnits negative num / den * 10 ^ settings.maxDigits : ℚ) =
          Double.signedUnits negative (num * 10 ^ settings.maxDigits) / den := by
        rw [scaled]
        push_cast
        ring
      rw [shifted]
      exact signed_half_even negative _ den positive
    · have few : places settings ≤ settings.maxDigits := Nat.min_le_left _ _
      have count : rounded (places settings) num den * 10 ^ settings.maxDigits =
          rounded settings.maxDigits num den * 10 ^ places settings := by
        rw [rounded_at_most settings num den ends, Nat.mul_assoc, ← Nat.pow_add, Nat.sub_add_cancel few]
      have scaled := signed_units_scaled negative _ _ _ _ count
      rw [figures_of_value, div_eq_div_iff (by positivity) (by positivity)]
      exact_mod_cast scaled
  sign := figures_of_sign settings negative _

theorem of_number_quotient (number : Number) (value : ℚ) (exact_value : number.exact? = some value) :
    ∃ (negative : Bool) (num den : Nat), 0 < den ∧ den ∣ num * 10 ^ mostPlaces ∧
      value = Double.signedUnits negative num / den ∧ ofNumber settings number = ofQuotient settings negative num den ∧
      (∀ n, number.whole? = some n → num = n.natAbs ∧ den = 1) ∧
      (number.whole? = none → rounded (places settings) num den < 10 ^ (mostWholeDigits + places settings)) := by
  have whole : ∀ n : Int, (n : ℚ) = Double.signedUnits (n < 0) n.natAbs / (1 : Nat) := by
    intro n
    rw [Double.signed_units_of_abs, Nat.cast_one, div_one]
  cases number with
  | whole n =>
      cases exact_value
      exact ⟨n < 0, n.natAbs, 1, Nat.one_pos, Nat.one_dvd _, whole n, rfl,
        fun m same => by cases same; exact ⟨rfl, rfl⟩, fun none => by cases none⟩
  | truth holds =>
      cases exact_value
      exact ⟨Number.ofTruth holds < 0, (Number.ofTruth holds).natAbs, 1, Nat.one_pos, Nat.one_dvd _, whole _, rfl,
        fun m same => by cases same; exact ⟨rfl, rfl⟩, fun none => by cases none⟩
  | real x =>
      cases x with
      | undefined => cases exact_value
      | infinite negative => cases exact_value
      | finite negative units representable =>
          have same := (Option.some.inj exact_value).symm
          exact ⟨negative, units, Double.unitsPerOne, Double.units_per_one_pos, doubles_end units, same, rfl,
            fun m same => (by cases same), fun _ => rounded_fits _ units representable.1⟩

theorem written_uniquely (within : precision settings ≤ mostPrecision) (number : Number) (value : ℚ)
    (exact_value : number.exact? = some value) :
    ((∀ n, number.whole? = some n → n.natAbs < 10 ^ mostWholeDigits) →
      ∃ text, written settings number = .ok text ∧ (Numeral.mk text).wellFormed = true ∧
        ∀ t, (∃ figures : Figures, figures.Shows settings value ∧ figures.text = t) ↔ t = text) ∧
      ∀ n, number.whole? = some n → 10 ^ mostWholeDigits ≤ n.natAbs → written settings number = .error .tooManyDigits := by
  obtain ⟨negative, num, den, positive, ends, rfl, same, whole, real⟩ := of_number_quotient settings number value exact_value
  rw [written_within settings number within, same]
  constructor
  · intro small
    have fits : rounded (places settings) num den < 10 ^ (mostWholeDigits + places settings) := by
      cases integral : number.whole? with
      | none => exact real integral
      | some n =>
          obtain ⟨rfl, rfl⟩ := whole n integral
          rw [rounded, half_even_one, Nat.pow_add]
          exact Nat.mul_lt_mul_of_pos_right (small n integral) (Nat.pow_pos (by decide))
    have shows_it := figures_of_shows settings negative num den positive ends
    have done : ofQuotient settings negative num den =
        .ok (figuresOf settings negative (rounded (places settings) num den)).text := by
      rw [ofQuotient, if_pos fits, figures_of_text]
    refine ⟨_, done, ?_, fun t => ?_⟩
    · obtain ⟨digits, fraction, laid, _⟩ := of_quotient_laid settings negative num den _ done
      rw [Numeral.wellFormed, Numeral.laid_parts _ _ digits fraction laid]
      rfl
    · constructor
      · rintro ⟨figures, other, rfl⟩
        rw [shows_once settings _ figures _ other shows_it]
      · rintro rfl
        exact ⟨_, shows_it, rfl⟩
  · intro n integral large
    obtain ⟨rfl, rfl⟩ := whole n integral
    have beyond : ¬ rounded (places settings) n.natAbs 1 < 10 ^ (mostWholeDigits + places settings) := by
      rw [rounded, half_even_one, Nat.pow_add, Nat.not_lt]
      exact Nat.mul_le_mul_right _ large
    rw [ofQuotient, if_neg beyond]

-- An eighth is half way between two decimals of two places, and there is a whole number that is too long.
theorem eighth_and_long_whole_written :
    let settings : Settings := ⟨0, 2, by decide⟩
    let eighth : Number := .real (.finite false (2 ^ 1071) (by decide +kernel))
    let long : Int := 10 ^ mostWholeDigits
    precision settings ≤ mostPrecision ∧ eighth.exact? = some (1 / 8) ∧ eighth.whole? = none ∧
      written settings eighth = .ok "0.12".toList ∧
      (∀ t, (∃ figures : Figures, figures.Shows settings (1 / 8) ∧ figures.text = t) ↔ t = "0.12".toList) ∧
      10 ^ mostWholeDigits ≤ long.natAbs ∧ written settings (.whole long) = .error .tooManyDigits := by
  intro settings eighth long
  have within : precision settings ≤ mostPrecision := by decide
  have value : eighth.exact? = some (1 / 8) := by
    have units : Double.unitsPerOne = 2 ^ 1071 * 2 ^ 3 := by
      rw [Double.unitsPerOne, Double.two_pow_sum 1071 3 1074 rfl]
    have quotient : ((2 ^ 1071 : Nat) : ℚ) / Double.unitsPerOne = 1 / 8 := by
      rw [units]
      generalize 1071 = exponent
      push_cast
      field_simp
    exact congrArg some quotient
  obtain ⟨text, done, _, unique⟩ := (written_uniquely settings within eighth (1 / 8) value).1 (fun n whole => by cases whole)
  have same : text = "0.12".toList := by
    have evaluated : (written settings eighth).toOption = some "0.12".toList := by decide +kernel
    rw [done] at evaluated
    exact Option.some.inj evaluated
  rw [same] at done unique
  have power : ∀ exponent, 10 ^ exponent ≤ ((10 : Int) ^ exponent).natAbs := fun exponent =>
    Nat.le_of_eq (Int.natAbs_pow 10 exponent).symm
  have large : 10 ^ mostWholeDigits ≤ long.natAbs := power mostWholeDigits
  exact ⟨within, value, rfl, done, unique, large, (written_uniquely settings within (.whole long) long rfl).2 long rfl large⟩

end FixedPoint

end PocketCalculator
