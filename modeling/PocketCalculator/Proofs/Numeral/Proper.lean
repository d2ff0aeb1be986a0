import PocketCalculator.Proofs.Expression.Rendering
import PocketCalculator.Proofs.Numeral.Layout

set_option autoImplicit false

namespace PocketCalculator

open DecimalDigit Blank

-- The runs of digits lie between the separators.
theorem DecimalDigit.zeros_solid : ∀ start ∈ zeros,
    0x20 < start ∧ start + 10 ≤ 0x85 ∨ 0xa0 < start ∧ start + 10 ≤ 0x1680 ∨
      0x1680 < start ∧ start + 10 ≤ 0x2000 ∨ 0x3000 < start := by decide

theorem DecimalDigit.digit_solid (c : Char) (digit : isDecimal c = true) : isSeparator c = false := by
  rw [isDecimal, value?, Option.isSome_map, Option.isSome_iff_exists] at digit
  obtain ⟨start, found⟩ := digit
  have inside := List.find?_some found
  have apart := zeros_solid start (List.mem_of_find?_eq_some found)
  simp only [Bool.and_eq_true, decide_eq_true_eq] at inside
  simp only [isSeparator, isSpace, Bool.or_eq_false_iff, Bool.and_eq_false_iff, decide_eq_false_iff_not]
  omega

namespace Numeral

def IsShown (c : Char) : Prop := isDecimal c = true ∨ c = '.'

theorem shown_solid (c : Char) (shown : IsShown c) : isSeparator c = false := by
  rcases shown with digit | rfl
  · exact digit_solid c digit
  · decide

theorem operators_not_shown (o : Operator) : ¬ IsShown o.symbol := by
  rintro (digit | point)
  · cases o <;> exact absurd digit (by decide)
  · cases o <;> exact absurd point (by decide)

theorem proper_of_last (n : Numeral) (c : Char) (last : n.text.getLast? = some c) (shown : IsShown c)
    (solid : ∀ c ∈ n.text, isSeparator c = false) : n.IsProper := by
  refine ⟨⟨?_, solid⟩, ?_⟩
  · intro none
    rw [none] at last
    cases last
  · cases known : Operator.ofText? n.text with
    | none => rfl
    | some o =>
        rw [(Operator.of_text_eq_some_iff n.text o).mp known] at last
        cases last
        exact absurd shown (operators_not_shown o)

theorem fraction_shown (fraction : Text) (form : IsFraction fraction) : ∀ c ∈ fraction, IsShown c := by
  intro c member
  rcases form with rfl | ⟨digits, rfl, decimal⟩
  · cases member
  · rcases List.mem_cons.mp member with rfl | digit
    · exact .inr rfl
    · exact .inl (List.all_eq_true.mp decimal c digit)

theorem unsigned_shown (whole fraction : Text) (digits : whole.all isDecimal = true) (form : IsFraction fraction) :
    ∀ c ∈ whole ++ fraction, IsShown c := by
  intro c member
  rcases List.mem_append.mp member with digit | behind
  · exact .inl (List.all_eq_true.mp digits c digit)
  · exact fraction_shown fraction form c behind

theorem input_shown (text : Text) (input : Input.isNumeralInput text = true) : ∀ c ∈ text, IsShown c := by
  obtain ⟨front, back, rfl, digits, form⟩ := input_parts text input
  exact unsigned_shown front back digits form

theorem last_shown (text : Text) (some_char : text ≠ []) (shown : ∀ c ∈ text, IsShown c) :
    ∃ c, text.getLast? = some c ∧ IsShown c :=
  ⟨_, List.getLast?_eq_some_getLast some_char, shown _ (List.getLast_mem some_char)⟩

theorem displayed_proper (n : Numeral) (displayed : n.Displayed) : n.IsProper := by
  obtain ⟨sign, whole, fraction, laid⟩ := displayed
  have shown := unsigned_shown whole fraction laid.digits laid.fraction_form
  have some_char : whole ++ fraction ≠ [] := List.append_ne_nil_of_left_ne_nil laid.some_digit _
  obtain ⟨c, last, ends⟩ := last_shown _ some_char shown
  refine proper_of_last n c ?_ ends fun d member => ?_
  · rw [laid.text, List.getLast?_append, last]
    rfl
  · rw [laid.text] at member
    rcases List.mem_append.mp member with minus | unsigned
    · cases sign with
      | false => cases minus
      | true =>
          rw [List.mem_singleton.mp minus]
          decide
    · exact shown_solid d (shown d unsigned)

theorem drop_zeros_last (t : Text) : (dropZeros t).getLast? = t.getLast? := by
  by_cases some_char : t = []
  · rw [some_char, dropZeros]
  · obtain ⟨dropped, whole⟩ := drop_zeros_suffix t
    obtain ⟨c, last⟩ := Option.isSome_iff_exists.mp (List.getLast?_isSome.mpr (drop_zeros_nonempty t some_char))
    rw [← whole, List.getLast?_append, whole, last]
    rfl

theorem extended_last (n : Numeral) (text : Text) (some_char : text ≠ []) :
    (n.extend text).text.getLast? = text.getLast? := by
  have zero_in_front : ∀ t : Text, (withLeadingZero t).getLast? = t.getLast? := by
    intro t
    unfold withLeadingZero
    split <;> simp
  have without : ∀ t : Text, (withoutLeadingZeros t).getLast? = t.getLast? := by
    intro t
    unfold withoutLeadingZeros
    split
    · rw [List.getLast?_cons, List.getLast?_cons, drop_zeros_last]
    · exact drop_zeros_last _
  have behind : (n.text ++ text).getLast? = text.getLast? := by
    rw [List.getLast?_append, List.getLast?_eq_some_getLast some_char]
    rfl
  rw [extend, without, zero_in_front, behind]

theorem mem_extended (n : Numeral) (text : Text) (c : Char) (member : c ∈ (n.extend text).text) :
    c = '0' ∨ c ∈ n.text ∨ c ∈ text := by
  have zero_in_front : ∀ t : Text, c ∈ withLeadingZero t → c = '0' ∨ c ∈ t := by
    intro t inside
    unfold withLeadingZero at inside
    split at inside
    · exact List.mem_cons.mp inside
    · exact .inr inside
  have without : ∀ t : Text, c ∈ withoutLeadingZeros t → c ∈ t := by
    intro t inside
    unfold withoutLeadingZeros at inside
    split at inside
    · exact List.mem_cons.mpr ((List.mem_cons.mp inside).imp_right fun later => (drop_zeros_suffix _).subset later)
    · exact (drop_zeros_suffix _).subset inside
  exact (zero_in_front _ (without _ member)).imp_right List.mem_append.mp

theorem extended_proper (n : Numeral) (text : Text) (solid : ∀ c ∈ n.text, isSeparator c = false)
    (some_char : text ≠ []) (input : Input.isNumeralInput text = true) : (n.extend text).IsProper := by
  have shown := input_shown text input
  obtain ⟨c, last, ends⟩ := last_shown text some_char shown
  refine proper_of_last _ c ((extended_last n text some_char).trans last) ends fun d member => ?_
  rcases mem_extended n text d member with rfl | before | typed
  · decide
  · exact solid d before
  · exact shown_solid d (shown d typed)

end Numeral

end PocketCalculator
