import PocketCalculator.Reduction.Window

/- Reduction of an expression. While a priority operator is left, a cursor looks for the leftmost one, two
   tokens at a time; without any, the leftmost window is taken. The window is replaced by its result and
   the search starts over. A window that the expression is too short to fill is a missing element. Each
   pass leaves fewer tokens, or as many with the cursor nearer to their end. -/
set_option autoImplicit false

namespace PocketCalculator.Reduction

structure Scan where
  tokens : Expression
  cursor : Nat

def window? (tokens : Expression) (cursor : Nat) : Option (Token × Token × Token) :=
  match tokens.drop cursor with
  | left :: slot :: right :: _ => some (left, slot, right)
  | _ => none

def replaced (tokens : Expression) (cursor : Nat) (result : Numeral) : Expression :=
  tokens.take cursor ++ .numeral result :: tokens.drop (cursor + 3)

theorem window_inside (tokens : Expression) (cursor : Nat) (window : Token × Token × Token)
    (found : window? tokens cursor = some window) : cursor + 2 < tokens.length := by
  unfold window? at found
  split at found
  · rename_i left slot right rest shape
    have size := congrArg List.length shape
    simp only [List.length_drop, List.length_cons] at size
    omega
  · simp at found

theorem replaced_length (tokens : Expression) (cursor : Nat) (result : Numeral)
    (inside : cursor + 2 < tokens.length) : (replaced tokens cursor result).length + 2 = tokens.length := by
  simp only [replaced, List.length_append, List.length_take, List.length_cons, List.length_drop]
  omega

def missing (tokens : Expression) : Failure := .fault (.missingElement (.text tokens.rendered))

def reduceWindow (settings : Settings) (tokens : Expression) (cursor : Nat) : Except Failure Scan :=
  match window? tokens cursor with
  | none => .error (missing tokens)
  | some (left, slot, right) => do
      let result ← combined settings left slot right
      return ⟨replaced tokens cursor result, 0⟩

namespace Scan

def pass (settings : Settings) (scan : Scan) : Except Failure Scan :=
  match window? scan.tokens scan.cursor with
  | none => .error (missing scan.tokens)
  | some (_, slot, _) =>
      if scan.tokens.priorityLeft then
        if slot.hasPriority then reduceWindow settings scan.tokens scan.cursor
        else .ok ⟨scan.tokens, scan.cursor + 2⟩
      else reduceWindow settings scan.tokens 0

theorem reduce_window_shorter (settings : Settings) (tokens : Expression) (cursor : Nat) (next : Scan)
    (moved : reduceWindow settings tokens cursor = .ok next) :
    next.tokens.length + 2 = tokens.length ∧ next.cursor = 0 := by
  rw [reduceWindow] at moved
  split at moved
  · simp at moved
  · rename_i left slot right found
    cases result : combined settings left slot right with
    | error failure => simp [result, bind, Except.bind] at moved
    | ok numeral =>
        simp only [result, bind, Except.bind, pure, Except.pure, Except.ok.injEq] at moved
        subst moved
        exact ⟨replaced_length tokens cursor numeral (window_inside tokens cursor _ found), rfl⟩

theorem pass_decreases (settings : Settings) (scan next : Scan) (moved : scan.pass settings = .ok next) :
    next.tokens.length < scan.tokens.length ∨
      next.tokens.length = scan.tokens.length ∧
        next.tokens.length - next.cursor < scan.tokens.length - scan.cursor := by
  rw [pass] at moved
  split at moved
  · simp at moved
  · rename_i left slot right found
    have inside := window_inside scan.tokens scan.cursor _ found
    split at moved
    · split at moved
      · have shorter := reduce_window_shorter settings _ _ next moved
        omega
      · simp only [Except.ok.injEq] at moved
        subst moved
        dsimp only
        omega
    · have shorter := reduce_window_shorter settings _ _ next moved
      omega

def weight (scan : Scan) : Nat :=
  scan.tokens.length * scan.tokens.length + (scan.tokens.length - scan.cursor)

theorem pass_lighter (settings : Settings) (scan next : Scan) (moved : scan.pass settings = .ok next) :
    next.weight < scan.weight := by
  unfold weight
  rcases pass_decreases settings scan next moved with shorter | ⟨same, nearer⟩
  · have square := Nat.mul_le_mul shorter shorter
    grind
  · rw [same] at nearer ⊢
    omega

def run (settings : Settings) (scan : Scan) : Except Failure Numeral :=
  match scan.tokens with
  | [.numeral result] => .ok result
  | _ =>
      match _moved : scan.pass settings with
      | .error failure => .error failure
      | .ok next => next.run settings
termination_by scan.weight
decreasing_by exact pass_lighter settings scan next _moved

end Scan

def evaluate (settings : Settings) (tokens : Expression) : Except Failure Numeral := do
  tokens.ensureValid.mapError .fault
  Scan.run settings ⟨tokens, 0⟩

end PocketCalculator.Reduction
