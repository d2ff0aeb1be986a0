import PocketCalculator.Expression.Chain
import PocketCalculator.Expression.Keying

set_option autoImplicit false

namespace PocketCalculator.Expression

theorem typed_nonempty (tokens next : Expression) (text : Text) (taken : tokens.typed text = .ok next) :
    next ≠ [] := by
  rw [typed] at taken
  split at taken
  · split at taken
    · cases taken
    · cases taken
      exact List.append_ne_nil_of_right_ne_nil _ (List.cons_ne_nil _ _)
  · cases taken
    exact List.append_ne_nil_of_right_ne_nil _ (List.cons_ne_nil _ _)

theorem typed_refused (tokens : Expression) (held : Numeral) (text : Text) (refused : tokens.typed text = .error held) :
    tokens ≠ [] := by
  rintro rfl
  cases refused

theorem typed_error_iff (tokens : Expression) (text : Text) :
    (∃ held, tokens.typed text = .error held) ↔
      '.' ∈ text ∧ ∃ held, tokens.getLast? = some (.numeral held) ∧ '.' ∈ held.text := by
  rw [typed]
  cases tokens.getLast? with
  | none => simp
  | some last =>
      cases last with
      | operator o => simp
      | numeral n =>
          dsimp only
          by_cases refused : n.hasPoint && text.contains '.'
          · rw [if_pos refused]
            rw [Numeral.hasPoint, Bool.and_eq_true, List.contains_iff_mem, List.contains_iff_mem] at refused
            exact ⟨fun _ => ⟨refused.2, n, rfl, refused.1⟩, fun _ => ⟨n, rfl⟩⟩
          · rw [if_neg refused]
            rw [Numeral.hasPoint, Bool.and_eq_true, List.contains_iff_mem, List.contains_iff_mem] at refused
            constructor
            · rintro ⟨held, impossible⟩
              cases impossible
            · rintro ⟨point, held, same, second⟩
              cases same
              exact absurd ⟨second, point⟩ refused

theorem with_operator_nonempty (tokens : Expression) (o : Operator) : tokens.withOperator o ≠ [] := by
  rw [withOperator]
  split
  · exact List.cons_ne_nil _ _
  · exact List.append_ne_nil_of_right_ne_nil _ (List.cons_ne_nil _ _)

theorem typed_behind (front tail : Expression) (text : Text) (some_tail : tail ≠ []) :
    (front ++ tail).typed text = (tail.typed text).map (front ++ ·) := by
  obtain ⟨last, found⟩ := Option.isSome_iff_exists.mp (List.getLast?_isSome.mpr some_tail)
  rw [typed, typed, List.getLast?_append, found, List.dropLast_append_of_ne_nil some_tail]
  cases last with
  | operator o => simp [Except.map]
  | numeral n =>
      dsimp only [Option.some_or]
      split
      · rfl
      · simp [Except.map]

theorem without_trailing_behind (front tail : Expression) (some_tail : tail ≠ []) :
    (front ++ tail).withoutTrailingOperator = front ++ tail.withoutTrailingOperator := by
  obtain ⟨last, found⟩ := Option.isSome_iff_exists.mp (List.getLast?_isSome.mpr some_tail)
  have ends : (front ++ tail).endsInOperator = tail.endsInOperator := by
    rw [endsInOperator, endsInOperator, List.getLast?_append, found]
    rfl
  rw [withoutTrailingOperator, withoutTrailingOperator, ends]
  split
  · exact List.dropLast_append_of_ne_nil some_tail
  · rfl

end PocketCalculator.Expression
