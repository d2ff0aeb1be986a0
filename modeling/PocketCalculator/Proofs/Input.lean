import PocketCalculator.Input
import PocketCalculator.Proofs.Numeral.Digits

set_option autoImplicit false

namespace PocketCalculator

open DecimalDigit

namespace Value

def IsInput : Value → Prop
  | .text t => t ≠ [] ∧ (∀ c ∈ t, c = '.' ∨ isDecimal c = true) ∧ t.count '.' ≤ 1
  | _ => False

def IsOperator : Value → Prop
  | .operator _ => True
  | .text t => t = ['+'] ∨ t = ['-'] ∨ t = ['*'] ∨ t = ['/']
  | _ => False

end Value

namespace Input

theorem digits_only (t : Text) :
    t.all isDecimal = true ↔ (∀ c ∈ t, c = '.' ∨ isDecimal c = true) ∧ t.count '.' = 0 := by
  rw [List.all_eq_true, List.count_eq_zero]
  constructor
  · intro digits
    refine ⟨fun c member => .inr (digits c member), fun point => ?_⟩
    have digit := digits '.' point
    rw [point_no_digit] at digit
    cases digit
  · rintro ⟨either, no_point⟩ c member
    rcases either c member with rfl | digit
    · exact absurd member no_point
    · exact digit

theorem numeral_input_iff (t : Text) :
    isNumeralInput t = true ↔ (∀ c ∈ t, c = '.' ∨ isDecimal c = true) ∧ t.count '.' ≤ 1 := by
  induction t with
  | nil => simp [isNumeralInput]
  | cons c rest ih =>
      by_cases digit : isDecimal c = true
      · have other : c ≠ '.' := by
          rintro rfl
          rw [point_no_digit] at digit
          cases digit
        have shorter : isNumeralInput (c :: rest) = isNumeralInput rest := by
          rw [isNumeralInput, isNumeralInput, List.dropWhile_cons_of_pos digit]
        rw [shorter, ih, List.forall_mem_cons, List.count_cons_of_ne other]
        simp [digit]
      · by_cases point : c = '.'
        · subst point
          have behind : isNumeralInput ('.' :: rest) = rest.all isDecimal := by
            rw [isNumeralInput, List.dropWhile_cons_of_neg digit]
            rfl
          rw [behind, digits_only, List.forall_mem_cons, List.count_cons_self]
          simp
        · have refused : isNumeralInput (c :: rest) = false := by
            rw [isNumeralInput, List.dropWhile_cons_of_neg digit]
            simp [point]
          simp [refused, point, digit]

theorem keystroke_input (typed : Value) (valid : typed.IsInput) :
    ∃ text, typed = .text text ∧ keystroke typed = .ok text := by
  cases typed with
  | text t =>
      obtain ⟨some_char, input⟩ := valid
      have filled : t.isEmpty = false := by simpa using some_char
      refine ⟨t, rfl, ?_⟩
      rw [keystroke, keyedText, filled, if_neg Bool.false_ne_true, if_pos ((numeral_input_iff t).mpr input)]
  | absent | number _ | operator _ | list _ | tuple _ | other _ _ _ => cases valid

theorem keystroke_refused (typed : Value) (invalid : ¬ typed.IsInput) :
    ∃ reason, keystroke typed = .error (.invalidInput typed reason) := by
  cases typed with
  | text t =>
      rw [keystroke, keyedText]
      split
      · exact ⟨_, rfl⟩
      · rename_i filled
        have other : ¬ isNumeralInput t = true := fun input =>
          invalid ⟨by simpa using filled, (numeral_input_iff t).mp input⟩
        rw [if_neg other]
        exact ⟨_, rfl⟩
  | operator o => cases o <;> exact ⟨_, rfl⟩
  | absent | number _ | list _ | tuple _ | other _ _ _ => exact ⟨_, rfl⟩

theorem operator_text_iff (t : Text) :
    (∃ o : Operator, t = o.text) ↔ t = ['+'] ∨ t = ['-'] ∨ t = ['*'] ∨ t = ['/'] := by
  constructor
  · rintro ⟨o, rfl⟩
    cases o <;> simp [Operator.text, Operator.symbol]
  · rintro (rfl | rfl | rfl | rfl)
    · exact ⟨.addition, rfl⟩
    · exact ⟨.subtraction, rfl⟩
    · exact ⟨.multiplication, rfl⟩
    · exact ⟨.division, rfl⟩

theorem operator_taken (chosen : Value) (valid : chosen.IsOperator) : ∃ o, operator chosen = .ok o := by
  cases chosen with
  | operator o => exact ⟨o, rfl⟩
  | text t =>
      obtain ⟨o, rfl⟩ := (operator_text_iff t).mpr valid
      exact ⟨o, by rw [operator, Operator.of_text_text]⟩
  | absent | number _ | list _ | tuple _ | other _ _ _ => cases valid

theorem operator_refused (chosen : Value) (invalid : ¬ chosen.IsOperator) :
    ∃ reason, operator chosen = .error (.invalidInput chosen reason) := by
  cases chosen with
  | operator o => exact absurd trivial invalid
  | text t =>
      rw [operator]
      cases found : Operator.ofText? t with
      | some o => exact absurd ((operator_text_iff t).mp ⟨o, (Operator.of_text_eq_some_iff t o).mp found⟩) invalid
      | none => exact ⟨_, rfl⟩
  | absent | number _ | list _ | tuple _ | other _ _ _ => exact ⟨_, rfl⟩

end Input

end PocketCalculator
