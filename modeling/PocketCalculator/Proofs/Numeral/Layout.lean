import PocketCalculator.Double.Written
import PocketCalculator.Input
import PocketCalculator.Proofs.Numeral.Digits

set_option autoImplicit false

namespace PocketCalculator.Numeral

open DecimalDigit

-- Perhaps still without a digit behind the point.
def IsFraction (t : Text) : Prop := t = [] ∨ ∃ digits, t = '.' :: digits ∧ digits.all isDecimal = true

structure Laid (n : Numeral) (negative : Bool) (whole fraction : Text) : Prop where
  text : n.text = Double.signText negative ++ (whole ++ fraction)
  some_digit : whole ≠ []
  digits : whole.all isDecimal = true
  fraction_form : IsFraction fraction
  lead : whole.head? = some '0' → whole = ['0']

-- What is typed has no sign; what is shown may have one.
def Entered (n : Numeral) : Prop := ∃ whole fraction, n.Laid false whole fraction

def Displayed (n : Numeral) : Prop := ∃ sign whole fraction, n.Laid sign whole fraction

structure Tidy (n : Numeral) : Prop where
  wellFormed : n.wellFormed = true
  leading : (signOf n.text).2.head?.any isDecimal = true
  one_point : n.text.count '.' ≤ 1
  zero : ∀ c rest, (signOf n.text).2 = '0' :: c :: rest → isDecimal c = false

theorem fraction_no_digit (fraction : Text) (form : IsFraction fraction) : fraction.head?.any isDecimal = false := by
  rcases form with rfl | ⟨digits, rfl, _⟩
  · rfl
  · exact point_no_digit

theorem not_decimal (c : Char) (other : isDecimal c = false) (digits : Text) (decimal : digits.all isDecimal = true) :
    c ∉ digits := by
  intro member
  have digit := List.all_eq_true.mp decimal c member
  rw [other] at digit
  cases digit

theorem sign_of_digits (negative : Bool) (whole fraction : Text) (some_digit : whole ≠ [])
    (digits : whole.all isDecimal = true) :
    signOf (Double.signText negative ++ (whole ++ fraction)) = (negative, whole ++ fraction) := by
  cases negative with
  | true => rfl
  | false =>
      cases whole with
      | nil => exact absurd rfl some_digit
      | cons c rest =>
          have other : c ≠ '-' := by
            rintro rfl
            exact not_decimal '-' minus_no_digit _ digits (List.mem_cons_self ..)
          rw [Double.signText, if_neg Bool.false_ne_true, List.nil_append, List.cons_append, signOf]
          simpa using other

theorem parts_of_digits (n : Numeral) (negative : Bool) (whole fraction : Text)
    (text : n.text = Double.signText negative ++ (whole ++ fraction)) (some_digit : whole ≠ [])
    (digits : whole.all isDecimal = true) (form : IsFraction fraction) :
    n.parts? = some ⟨negative, whole, fraction.drop 1⟩ := by
  have every : ∀ c ∈ whole, isDecimal c = true := List.all_eq_true.mp digits
  have some_whole : whole.isEmpty = false := by simpa using some_digit
  rw [parts?, text, sign_of_digits negative whole fraction some_digit digits]
  dsimp only
  rw [List.takeWhile_append_of_pos every, List.dropWhile_append_of_pos every]
  rcases form with rfl | ⟨digits, rfl, decimal⟩
  · simp [some_whole]
  · simp [point_no_digit, some_whole, decimal]

theorem laid_parts (n : Numeral) (negative : Bool) (whole fraction : Text) (laid : n.Laid negative whole fraction) :
    n.parts? = some ⟨negative, whole, fraction.drop 1⟩ :=
  parts_of_digits n negative whole fraction laid.text laid.some_digit laid.digits laid.fraction_form

theorem entered_displayed (n : Numeral) (entered : n.Entered) : n.Displayed := ⟨false, entered⟩

theorem displayed_tidy (n : Numeral) (displayed : n.Displayed) : n.Tidy := by
  obtain ⟨negative, whole, fraction, laid⟩ := displayed
  have sign := sign_of_digits negative whole fraction laid.some_digit laid.digits
  rw [← laid.text] at sign
  obtain ⟨first, rest, same⟩ := List.exists_cons_of_ne_nil laid.some_digit
  constructor
  · rw [wellFormed, laid_parts n negative whole fraction laid]
    rfl
  · have digit := laid.digits
    rw [same, List.all_cons, Bool.and_eq_true] at digit
    rw [sign, same]
    exact digit.1
  · have none : whole.count '.' = 0 := List.count_eq_zero.mpr (not_decimal '.' point_no_digit whole laid.digits)
    have unsigned : (Double.signText negative).count '.' = 0 := by cases negative <;> rfl
    have once : fraction.count '.' ≤ 1 := by
      rcases laid.fraction_form with rfl | ⟨digits, rfl, decimal⟩
      · simp
      · have later := List.count_eq_zero.mpr (not_decimal '.' point_no_digit digits decimal)
        have one : ('.' :: digits).count '.' = 1 := by rw [List.count_cons_self, later]
        exact Nat.le_of_eq one
    rw [laid.text, List.count_append, List.count_append, none, unsigned]
    omega
  · intro c behind found
    rw [sign, same, List.cons_append, List.cons.injEq] at found
    obtain ⟨rfl, found⟩ := found
    have alone := laid.lead (by rw [same]; rfl)
    rw [same] at alone
    rw [(List.cons.inj alone).2, List.nil_append] at found
    have after := fraction_no_digit fraction laid.fraction_form
    rw [found] at after
    exact after

theorem entered_minus (n : Numeral) (entered : n.Entered) : '-' ∉ n.text := by
  obtain ⟨whole, fraction, laid⟩ := entered
  rw [laid.text]
  intro member
  rcases List.mem_append.mp member with sign | member
  · cases sign
  · rcases List.mem_append.mp member with inside | behind
    · exact not_decimal '-' minus_no_digit whole laid.digits inside
    · rcases laid.fraction_form with rfl | ⟨digits, rfl, decimal⟩
      · cases behind
      · rcases List.mem_cons.mp behind with other | later
        · cases other
        · exact not_decimal '-' minus_no_digit digits decimal later

theorem drop_zeros_append (whole fraction : Text) (some_digit : whole ≠ []) (digits : whole.all isDecimal = true)
    (ends : fraction.head?.any isDecimal = false) : dropZeros (whole ++ fraction) = dropZeros whole ++ fraction := by
  induction whole with
  | nil => exact absurd rfl some_digit
  | cons c rest ih =>
      rw [List.all_cons, Bool.and_eq_true] at digits
      cases rest with
      | nil => simp [dropZeros, ends]
      | cons d rest =>
          have next : isDecimal d = true := by
            have later := digits.2
            rw [List.all_cons, Bool.and_eq_true] at later
            exact later.1
          have shorter := ih (List.cons_ne_nil _ _) digits.2
          by_cases zero : c = '0'
          · simpa [dropZeros, zero, next] using shorter
          · simp [dropZeros, zero]

theorem drop_zeros_suffix (t : Text) : dropZeros t <:+ t := by
  induction t with
  | nil => exact List.suffix_rfl
  | cons c rest ih =>
      rw [dropZeros]
      split
      · exact ih.trans (List.suffix_cons c rest)
      · exact List.suffix_rfl

theorem drop_zeros_nonempty (t : Text) (some_char : t ≠ []) : dropZeros t ≠ [] := by
  induction t with
  | nil => exact absurd rfl some_char
  | cons c rest ih =>
      rw [dropZeros]
      split
      · rename_i zero
        apply ih
        rintro rfl
        simp at zero
      · exact List.cons_ne_nil _ _

theorem drop_zeros_lead (digits : Text) (decimal : digits.all isDecimal = true)
    (zero : (dropZeros digits).head? = some '0') : dropZeros digits = ['0'] := by
  induction digits with
  | nil => cases zero
  | cons c rest ih =>
      rw [List.all_cons, Bool.and_eq_true] at decimal
      rw [dropZeros] at zero ⊢
      split at zero
      · rename_i dropped
        rw [if_pos dropped]
        exact ih decimal.2 zero
      · rename_i kept
        rw [if_neg kept]
        cases rest with
        | nil => simpa using zero
        | cons d rest =>
            have next := decimal.2
            rw [List.all_cons, Bool.and_eq_true] at next
            simp only [List.head?_cons, Option.some.injEq] at zero
            simp [zero, next.1] at kept

theorem drop_zeros_laid (whole fraction : Text) (some_digit : whole ≠ []) (digits : whole.all isDecimal = true)
    (form : IsFraction fraction) : Laid ⟨dropZeros (whole ++ fraction)⟩ false (dropZeros whole) fraction where
  text := drop_zeros_append whole fraction some_digit digits (fraction_no_digit fraction form)
  some_digit := drop_zeros_nonempty whole some_digit
  digits := by
    rw [List.all_eq_true] at digits ⊢
    exact fun c member => digits c ((drop_zeros_suffix whole).subset member)
  fraction_form := form
  lead := drop_zeros_lead whole digits

theorem extended_digits (whole rest : Text) (some_digit : whole ≠ []) (digits : whole.all isDecimal = true) :
    withoutLeadingZeros (withLeadingZero (whole ++ rest)) = dropZeros (whole ++ rest) := by
  obtain ⟨c, others, rfl⟩ := List.exists_cons_of_ne_nil some_digit
  have no_point : c ≠ '.' := by
    rintro rfl
    exact not_decimal '.' point_no_digit _ digits (List.mem_cons_self ..)
  have no_minus : c ≠ '-' := by
    rintro rfl
    exact not_decimal '-' minus_no_digit _ digits (List.mem_cons_self ..)
  simp [withLeadingZero, withoutLeadingZeros, no_point, no_minus]

theorem input_parts (text : Text) (input : Input.isNumeralInput text = true) :
    ∃ front back, text = front ++ back ∧ front.all isDecimal = true ∧ IsFraction back := by
  refine ⟨text.takeWhile isDecimal, text.dropWhile isDecimal, List.takeWhile_append_dropWhile.symm,
    List.all_takeWhile, ?_⟩
  rw [Input.isNumeralInput] at input
  split at input
  · rename_i ends
    exact .inl ends
  · rename_i digits point
    exact .inr ⟨digits, point, input⟩
  · cases input

theorem zero_entered : zero.Entered :=
  ⟨['0'], [], rfl, List.cons_ne_nil _ _, by decide, .inl rfl, fun _ => rfl⟩

theorem begun_entered (text : Text) (some_char : text ≠ []) (input : Input.isNumeralInput text = true) :
    (empty.extend text).Entered := by
  obtain ⟨front, back, rfl, digits, form⟩ := input_parts text input
  by_cases some_digit : front = []
  · subst some_digit
    rcases form with rfl | ⟨behind, rfl, decimal⟩
    · exact absurd rfl some_char
    · have form : IsFraction ('.' :: behind) := .inr ⟨behind, rfl, decimal⟩
      exact ⟨_, _, drop_zeros_laid ['0'] ('.' :: behind) (List.cons_ne_nil _ _) (by decide) form⟩
  · rw [extend, empty, List.nil_append, extended_digits front back some_digit digits]
    exact ⟨_, _, drop_zeros_laid front back some_digit digits form⟩

theorem extended_entered (n : Numeral) (text : Text) (entered : n.Entered) (input : Input.isNumeralInput text = true)
    (one_point : ¬ (n.hasPoint && text.contains '.') = true) : (n.extend text).Entered := by
  obtain ⟨whole, fraction, laid⟩ := entered
  obtain ⟨front, back, rfl, digits, form⟩ := input_parts text input
  have same : n.text = whole ++ fraction := laid.text
  rw [hasPoint, same] at one_point
  rw [extend, same]
  rcases laid.fraction_form with rfl | ⟨held, rfl, decimal⟩
  · -- The digits typed go on with the whole part.
    have all : (whole ++ front).all isDecimal = true := by rw [List.all_append, laid.digits, digits]; rfl
    have some_digit : whole ++ front ≠ [] := List.append_ne_nil_of_left_ne_nil laid.some_digit _
    rw [List.append_nil, ← List.append_assoc, extended_digits _ back some_digit all]
    exact ⟨_, _, drop_zeros_laid _ back some_digit all form⟩
  · rcases form with rfl | ⟨behind, rfl, _⟩
    · have both : (held ++ front).all isDecimal = true := by rw [List.all_append, decimal, digits]; rfl
      have more : IsFraction ('.' :: held ++ front) := .inr ⟨held ++ front, rfl, both⟩
      rw [List.append_nil, List.append_assoc, extended_digits whole _ laid.some_digit laid.digits]
      exact ⟨_, _, drop_zeros_laid whole _ laid.some_digit laid.digits more⟩
    · simp at one_point

end PocketCalculator.Numeral
