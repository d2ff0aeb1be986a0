import PocketCalculator.Proofs.FixedPoint.Figures
import PocketCalculator.Proofs.Numeral.Extension
import PocketCalculator.Proofs.Numeral.Integer

set_option autoImplicit false

namespace PocketCalculator.Numeral

open DecimalDigit

def Parts.denoted (parts : Parts) : ℚ := Figures.value ⟨parts.negative, parts.whole, parts.fraction⟩

def denoted? (n : Numeral) : Option ℚ := n.parts?.map Parts.denoted

-- The same decimal, perhaps with other digits in front.
structure Parts.Alike (one other : Parts) : Prop where
  negative : one.negative = other.negative
  whole : valueOf one.whole = valueOf other.whole
  fraction : one.fraction = other.fraction

theorem Parts.alike_digits (one other : Parts) (alike : one.Alike other) :
    valueOf (one.whole ++ one.fraction) = valueOf (other.whole ++ other.fraction) := by
  rw [value_of_append, value_of_append, alike.whole, alike.fraction]

theorem Parts.alike_denoted (one other : Parts) (alike : one.Alike other) : one.denoted = other.denoted := by
  simp only [Parts.denoted, Figures.value]
  rw [Parts.alike_digits one other alike, alike.negative, alike.fraction]

theorem Parts.alike_value (one other : Parts) (alike : one.Alike other) : one.value = other.value := by
  simp only [Parts.value]
  rw [Parts.alike_digits one other alike, alike.negative, alike.fraction]

theorem parts_laid (n : Numeral) (parts : Parts) (known : n.parts? = some parts) :
    ∃ tail, n.text = Double.signText parts.negative ++ (parts.whole ++ tail) ∧ parts.whole.all isDecimal = true ∧
      IsFraction tail ∧ tail.drop 1 = parts.fraction ∧ (parts.whole = [] → parts.fraction ≠ []) := by
  have text : n.text = Double.signText (signOf n.text).1 ++
      ((signOf n.text).2.takeWhile isDecimal ++ (signOf n.text).2.dropWhile isDecimal) := by
    rw [List.takeWhile_append_dropWhile]
    exact sign_of_text n.text
  have digits : ((signOf n.text).2.takeWhile isDecimal).all isDecimal = true := List.all_takeWhile
  rw [parts?] at known
  dsimp only at known
  split at known
  · rename_i ends
    split at known
    · cases known
    · rename_i some_digit
      cases known
      rw [ends] at text
      exact ⟨[], text, digits, .inl rfl, rfl, fun none => absurd (by simpa using none) some_digit⟩
  · rename_i fraction ends
    split at known
    · rename_i valid
      cases known
      rw [ends] at text
      simp only [Bool.and_eq_true, Bool.not_eq_true', Bool.and_eq_false_iff, List.isEmpty_eq_false_iff] at valid
      exact ⟨'.' :: fraction, text, digits, .inr ⟨fraction, rfl, valid.1⟩, rfl, valid.2.resolve_left ∘ not_not.mpr⟩
    · cases known
  · cases known

theorem drop_zeros_value (digits : Text) : valueOf (dropZeros digits) = valueOf digits := by
  obtain ⟨count, split, _⟩ := drop_zeros_split digits
  have whole := congrArg valueOf split
  rw [value_of_append, value_of_zeros, Nat.zero_mul, Nat.zero_add] at whole
  exact whole.symm

theorem tidied_digits (negative : Bool) (whole tail : Text) (some_digit : whole ≠ [])
    (digits : whole.all isDecimal = true) (form : IsFraction tail) :
    tidied (Double.signText negative ++ (whole ++ tail)) =
      Double.signText negative ++ (dropZeros whole ++ tail) := by
  have shorter := drop_zeros_append whole tail some_digit digits (fraction_no_digit tail form)
  cases negative with
  | true => exact congrArg ('-' :: ·) shorter
  | false => exact (extended_digits whole tail some_digit digits).trans shorter

theorem tidied_parts (t : Text) (parts : Parts) (known : parts? ⟨t⟩ = some parts) :
    ∃ kept, parts? ⟨tidied t⟩ = some kept ∧ kept.Alike parts := by
  obtain ⟨tail, text, digits, form, behind, some_digit⟩ := parts_laid ⟨t⟩ parts known
  change t = _ at text
  by_cases pointed : parts.whole = []
  · rw [pointed, List.nil_append] at text
    rcases form with rfl | ⟨fraction, rfl, decimal⟩
    · exact absurd behind.symm (some_digit pointed)
    · cases sign : parts.negative with
      | true =>
          -- Between a minus sign and a point no zero comes.
          have same : tidied t = t := by
            rw [text, sign]
            simp [tidied, withLeadingZero, withoutLeadingZeros, dropZeros, Double.signText]
          exact ⟨parts, by rw [same, known], rfl, rfl, rfl⟩
      | false =>
          have zero : tidied t = Double.signText false ++ (['0'] ++ '.' :: fraction) := by
            rw [text, sign]
            exact tidied_point fraction
          refine ⟨⟨false, ['0'], fraction⟩, ?_, sign.symm, ?_, behind⟩
          · exact parts_of_digits _ _ _ _ zero (List.cons_ne_nil _ _) (by decide) (.inr ⟨fraction, rfl, decimal⟩)
          · rw [pointed]
            rfl
  · have shorter := tidied_digits parts.negative parts.whole tail pointed digits form
    rw [← text] at shorter
    have decimal := (drop_zeros_laid parts.whole tail pointed digits form).digits
    refine ⟨_, parts_of_digits _ _ _ _ shorter (drop_zeros_nonempty _ pointed) decimal form, rfl, ?_, behind⟩
    exact drop_zeros_value parts.whole

theorem sign_of_unsigned (t : Text) (unsigned : t.head? ≠ some '-') : signOf t = (false, t) := by
  unfold signOf
  split
  · exact absurd rfl unsigned
  · rfl

-- What a text begins with decides where zeros may come and go.
theorem tidied_cases (t : Text) (some_char : t ≠ []) :
    (∃ rest, t = '.' :: rest ∧ tidied t = '0' :: t) ∨ (∃ rest, t = '-' :: rest ∧ tidied t = '-' :: dropZeros rest) ∨
      (t.head? ≠ some '.' ∧ t.head? ≠ some '-' ∧ tidied t = dropZeros t) := by
  obtain ⟨c, rest, rfl⟩ := List.exists_cons_of_ne_nil some_char
  by_cases point : c = '.'
  · subst point
    exact .inl ⟨rest, rfl, tidied_point rest⟩
  · by_cases minus : c = '-'
    · subst minus
      exact .inr (.inl ⟨rest, rfl, rfl⟩)
    · have no_point : (c :: rest).head? ≠ some '.' := fun same => point (Option.some.inj same)
      have unsigned : (c :: rest).head? ≠ some '-' := fun same => minus (Option.some.inj same)
      refine .inr (.inr ⟨no_point, unsigned, ?_⟩)
      rw [tidied, pointless_zero _ no_point, unsigned_zeros _ unsigned]

theorem tidied_no_point (t : Text) : (tidied t).head? ≠ some '.' := by
  intro point
  by_cases some_char : t = []
  · subst some_char
    cases point
  · rcases tidied_cases t some_char with ⟨rest, _, tidy⟩ | ⟨rest, _, tidy⟩ | ⟨no_point, _, tidy⟩
    · simp [tidy] at point
    · simp [tidy] at point
    · rw [tidy] at point
      exact no_point (drop_zeros_head t '.' point_no_digit point)

theorem tidied_no_zero (t : Text) (c : Char) (rest : Text) (kept : (signOf (tidied t)).2 = '0' :: c :: rest) :
    isDecimal c = false := by
  by_cases some_char : t = []
  · subst some_char
    cases kept
  · rcases tidied_cases t some_char with ⟨behind, rfl, tidy⟩ | ⟨behind, _, tidy⟩ | ⟨_, unsigned, tidy⟩
    · rw [tidy] at kept
      cases kept
      exact point_no_digit
    · rw [tidy] at kept
      exact drop_zeros_tidy behind c rest kept
    · have still : (dropZeros t).head? ≠ some '-' := fun minus => unsigned (drop_zeros_head t '-' minus_no_digit minus)
      rw [tidy, sign_of_unsigned _ still] at kept
      exact drop_zeros_tidy t c rest kept

theorem extensions_add_up (n : Numeral) (first second : Text) :
    (n.extend first).extend second = n.extend (first ++ second) ∧
      (wellFormed ⟨n.text ++ first⟩ = true →
        (n.extend first).wellFormed = true ∧ (n.extend first).value = value ⟨n.text ++ first⟩ ∧
          ∃ decimal, denoted? ⟨n.text ++ first⟩ = some decimal ∧ (n.extend first).denoted? = some decimal) ∧
      (n.extend first).text.head? ≠ some '.' ∧
      ∀ c rest, (signOf (n.extend first).text).2 = '0' :: c :: rest → isDecimal c = false := by
  refine ⟨extend_extend n first second, fun formed => ?_, ?_⟩
  · obtain ⟨parts, known⟩ := Option.isSome_iff_exists.mp formed
    obtain ⟨kept, tidy, alike⟩ := tidied_parts (n.text ++ first) parts known
    have extended : (n.extend first).parts? = some kept := tidy
    refine ⟨by rw [wellFormed, extended]; rfl, ?_, parts.denoted, ?_, ?_⟩
    · rw [value, value, extended, known]
      exact congrArg Except.ok (kept.alike_value parts alike)
    · rw [denoted?, known, Option.map_some]
    · rw [denoted?, extended, Option.map_some, kept.alike_denoted parts alike]
  · rw [extend_text]
    exact ⟨tidied_no_point _, tidied_no_zero _⟩

theorem zeros_behind_minus_dropped :
    let n : Numeral := ⟨"-0".toList⟩
    let typed := "0\u0667.5".toList
    wellFormed ⟨n.text ++ typed⟩ = true ∧ n.extend typed = ⟨"-\u0667.5".toList⟩ ∧
      (n.extend typed).value = value ⟨"-00\u0667.5".toList⟩ ∧
      denoted? ⟨"-00\u0667.5".toList⟩ = some (-15 / 2) ∧ (n.extend typed).denoted? = some (-15 / 2) ∧
      (n.extend "0".toList).extend "\u0667.5".toList = n.extend typed := by
  intro n typed
  have formed : wellFormed ⟨n.text ++ typed⟩ = true := by decide
  obtain ⟨pieces, _, _⟩ := extensions_add_up n "0".toList "\u0667.5".toList
  obtain ⟨_, keeps, _⟩ := extensions_add_up n typed []
  obtain ⟨_, same, decimal, joined, kept⟩ := keeps formed
  have value : denoted? ⟨n.text ++ typed⟩ = some (-15 / 2) := by
    have parts : parts? ⟨n.text ++ typed⟩ = some ⟨true, "00\u0667".toList, "5".toList⟩ := by decide
    have count : valueOf ("00\u0667".toList ++ "5".toList) = 75 := by decide
    have places : "5".toList.length = 1 := rfl
    rw [denoted?, parts, Option.map_some, Parts.denoted, Figures.value]
    simp only [count, places, Double.signedUnits]
    norm_num
  exact ⟨formed, by decide, same, value, kept.trans (joined.symm.trans value), pieces⟩

end PocketCalculator.Numeral
