import PocketCalculator.Proofs.Reduction.Turn

set_option autoImplicit false

namespace PocketCalculator.Reduction.Scan

-- The window that a pass hands on; none when the pass moves the cursor or runs out of tokens.
def choice? (scan : Scan) : Option (Token × Token × Token) :=
  match window? scan.tokens scan.cursor with
  | none => none
  | some window =>
      if scan.tokens.priorityLeft then (if window.2.1.hasPriority then some window else none)
      else window? scan.tokens 0

def trail (settings : Settings) (scan : Scan) : List Scan :=
  match scan.tokens with
  | [.numeral _] => [scan]
  | _ =>
      match _moved : scan.pass settings with
      | .error _ => [scan]
      | .ok next => scan :: next.trail settings
termination_by scan.weight
decreasing_by exact pass_lighter settings scan next _moved

def windows (settings : Settings) (scan : Scan) : List (Token × Token × Token) :=
  (scan.trail settings).filterMap choice?

variable (settings : Settings)

theorem choice_on_the_way (tokens : Expression) (cursor : Nat) (left slot right : Token)
    (leftOver : tokens.priorityLeft = true) (window : window? tokens cursor = some (left, slot, right))
    (low : slot.hasPriority = false) : choice? ⟨tokens, cursor⟩ = none := by
  simp only [choice?, window, leftOver, low, if_true, Bool.false_eq_true, if_false]

theorem choice_of_turn (tokens : Expression) (turn : Turn) (found : turn? tokens = some turn) :
    choice? ⟨tokens, turn.before.length⟩ = some (turn.left, turn.slot, turn.right) := by
  have same := (turn_tokens tokens turn found).1
  have window := window_behind turn.before turn.after turn.left turn.slot turn.right
  rw [← Turn.tokens, same] at window
  simp only [choice?, window]
  by_cases leftOver : tokens.priorityLeft = true
  · rw [if_pos leftOver, if_pos (turn_of_priority tokens turn found leftOver)]
  · rw [turn_without_priority tokens turn found leftOver] at window
    rw [if_neg leftOver]
    exact window

theorem trail_alone (n : Numeral) (cursor : Nat) : trail settings ⟨[.numeral n], cursor⟩ = [⟨[.numeral n], cursor⟩] := by
  rw [trail]

theorem trail_by_pass (scan next : Scan) (several : ∀ n, scan.tokens ≠ [.numeral n])
    (moved : scan.pass settings = .ok next) : scan.trail settings = scan :: next.trail settings := by
  rw [trail]
  split
  · rename_i result alone
    exact absurd alone (several result)
  · split
    · rename_i failed
      rw [moved] at failed
      cases failed
    · rename_i found
      rw [moved] at found
      cases found
      rfl

theorem windows_alone (n : Numeral) (cursor : Nat) : windows settings ⟨[.numeral n], cursor⟩ = [] := by
  have none : window? [.numeral n] cursor = none := by
    cases cursor <;> simp [window?]
  rw [windows, trail_alone]
  simp only [List.filterMap_cons, choice?, none, List.filterMap_nil]

theorem seeks_windows (scan last : Scan) (seeks : Seeks scan last) : scan.windows settings = last.windows settings := by
  induction seeks with
  | here => rfl
  | on tokens cursor last left slot right leftOver window low later ih =>
      have skipped := pass_skips settings tokens cursor left slot right leftOver window low
      rw [windows, trail_by_pass settings _ _ (several_of_window tokens cursor _ window) skipped, List.filterMap_cons,
        choice_on_the_way tokens cursor left slot right leftOver window low]
      exact ih

theorem windows_turn (tokens : Expression) (turn : Turn) (result : Numeral) (several : ∀ n, tokens ≠ [.numeral n])
    (found : turn? tokens = some turn) (done : turn.combined settings = .ok result) :
    windows settings ⟨tokens, 0⟩ =
      (turn.left, turn.slot, turn.right) :: windows settings ⟨turn.reduced result, 0⟩ := by
  have moved := pass_reduces settings tokens turn found
  rw [done, Except.map] at moved
  rw [seeks_windows settings _ _ (seeks_turn tokens turn found), windows, trail_by_pass settings _ _ several moved,
    List.filterMap_cons, choice_of_turn tokens turn found]
  rfl

end PocketCalculator.Reduction.Scan
