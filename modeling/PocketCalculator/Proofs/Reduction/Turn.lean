import PocketCalculator.Reduction.Scan

set_option autoImplicit false

namespace PocketCalculator.Reduction

structure Turn where
  before : Expression
  left : Token
  slot : Token
  right : Token
  after : Expression

namespace Turn

def tokens (turn : Turn) : Expression := turn.before ++ turn.left :: turn.slot :: turn.right :: turn.after

def reduced (turn : Turn) (result : Numeral) : Expression := turn.before ++ .numeral result :: turn.after

def behind (left slot : Token) (turn : Turn) : Turn := { turn with before := left :: slot :: turn.before }

def combined (settings : Settings) (turn : Turn) : Except Failure Numeral :=
  Reduction.combined settings turn.left turn.slot turn.right

end Turn

-- Windows start two tokens apart, so that a slot is where an operator belongs.
def firstPriority? : Expression → Option Turn
  | left :: slot :: right :: rest =>
      if slot.hasPriority then some ⟨[], left, slot, right, rest⟩
      else (firstPriority? (right :: rest)).map (Turn.behind left slot)
  | _ => none

def first? : Expression → Option Turn
  | left :: slot :: right :: rest => some ⟨[], left, slot, right, rest⟩
  | _ => none

-- While a priority operator is left, the leftmost window that has one between its operands, and otherwise the
-- first window. A run does not depend on the passes that only move the cursor to it.
def turn? (tokens : Expression) : Option Turn :=
  if tokens.priorityLeft then firstPriority? tokens else first? tokens

theorem first_priority_low (left slot : Token) (rest : Expression) (low : slot.hasPriority = false) :
    firstPriority? (left :: slot :: rest) = (firstPriority? rest).map (Turn.behind left slot) := by
  cases rest with
  | nil => rfl
  | cons right rest => rw [firstPriority?, low, if_neg Bool.false_ne_true]

theorem first_priority_turn (tokens : Expression) (turn : Turn) (found : firstPriority? tokens = some turn) :
    turn.tokens = tokens ∧ turn.before.length % 2 = 0 ∧ turn.slot.hasPriority = true := by
  match tokens with
  | [] | [_] | [_, _] => simp [firstPriority?] at found
  | left :: slot :: right :: rest =>
      rw [firstPriority?] at found
      by_cases priority : slot.hasPriority = true
      · rw [if_pos priority] at found
        cases found
        exact ⟨rfl, rfl, priority⟩
      · rw [if_neg priority] at found
        obtain ⟨later, foundLater, rfl⟩ := Option.map_eq_some_iff.mp found
        obtain ⟨same, even, high⟩ := first_priority_turn (right :: rest) later foundLater
        refine ⟨?_, ?_, high⟩
        · simpa only [Turn.tokens, Turn.behind, List.cons_append, List.cons.injEq, true_and] using same
        · simp only [Turn.behind, List.length_cons]
          omega

theorem first_turn (tokens : Expression) (turn : Turn) (found : first? tokens = some turn) :
    turn.tokens = tokens ∧ turn.before = [] := by
  match tokens with
  | [] | [_] | [_, _] => simp [first?] at found
  | left :: slot :: right :: rest =>
      cases found
      exact ⟨rfl, rfl⟩

theorem turn_tokens (tokens : Expression) (turn : Turn) (found : turn? tokens = some turn) :
    turn.tokens = tokens ∧ turn.before.length % 2 = 0 := by
  rw [turn?] at found
  split at found
  · have priority := first_priority_turn tokens turn found
    exact ⟨priority.1, priority.2.1⟩
  · obtain ⟨same, none⟩ := first_turn tokens turn found
    exact ⟨same, by simp [none]⟩

theorem turn_of_priority (tokens : Expression) (turn : Turn) (found : turn? tokens = some turn)
    (leftOver : tokens.priorityLeft = true) : turn.slot.hasPriority = true := by
  rw [turn?, if_pos leftOver] at found
  exact (first_priority_turn tokens turn found).2.2

theorem turn_without_priority (tokens : Expression) (turn : Turn) (found : turn? tokens = some turn)
    (noneLeft : ¬ tokens.priorityLeft = true) : turn.before = [] := by
  rw [turn?, if_neg noneLeft] at found
  exact (first_turn tokens turn found).2

theorem turn_shortens (turn : Turn) (result : Numeral) :
    (turn.reduced result).length + 2 = turn.tokens.length := by
  simp only [Turn.reduced, Turn.tokens, List.length_append, List.length_cons]
  omega

namespace Scan

theorem window_behind (before rest : Expression) (left slot right : Token) :
    window? (before ++ left :: slot :: right :: rest) before.length = some (left, slot, right) := by
  simp only [window?, List.drop_left]

theorem window_within (tokens : Expression) (cursor : Nat) (inside : cursor + 2 < tokens.length) :
    ∃ window, window? tokens cursor = some window := by
  have size : (tokens.drop cursor).length = tokens.length - cursor := List.length_drop
  rw [window?]
  match shape : tokens.drop cursor with
  | left :: slot :: right :: _ => exact ⟨(left, slot, right), rfl⟩
  | [] | [_] | [_, _] =>
      simp only [shape, List.length_cons, List.length_nil] at size
      omega

theorem window_beyond (before rest : Expression) (short : rest.length < 3) :
    window? (before ++ rest) before.length = none := by
  rw [window?, List.drop_left]
  match rest with
  | [] | [_] | [_, _] => rfl
  | _ :: _ :: _ :: _ =>
      simp only [List.length_cons] at short
      omega

-- The cursor on its way to the turn, past windows without a priority operator.
inductive Seeks : Scan → Scan → Prop where
  | here (scan : Scan) : Seeks scan scan
  | on (tokens : Expression) (cursor : Nat) (last : Scan) (left slot right : Token)
      (leftOver : tokens.priorityLeft = true) (window : window? tokens cursor = some (left, slot, right))
      (low : slot.hasPriority = false) (later : Seeks ⟨tokens, cursor + 2⟩ last) : Seeks ⟨tokens, cursor⟩ last

theorem seeks_tokens (scan last : Scan) (seeks : Seeks scan last) : last.tokens = scan.tokens := by
  induction seeks with
  | here => rfl
  | on _ _ _ _ _ _ _ _ _ _ ih => exact ih

theorem seeks_priority (before rest : Expression) (leftOver : (before ++ rest).priorityLeft = true) :
    match firstPriority? rest with
    | none => ∃ last, Seeks ⟨before ++ rest, before.length⟩ last ∧ window? last.tokens last.cursor = none
    | some turn => Seeks ⟨before ++ rest, before.length⟩ ⟨before ++ rest, before.length + turn.before.length⟩ := by
  match rest with
  | [] | [_] | [_, _] => exact ⟨_, .here _, window_beyond before _ (by simp)⟩
  | left :: slot :: right :: rest =>
      rw [firstPriority?]
      by_cases high : slot.hasPriority = true
      · rw [if_pos high]
        exact .here _
      · rw [if_neg high]
        have low : slot.hasPriority = false := by simpa using high
        have window := window_behind before rest left slot right
        have later := seeks_priority (before ++ [left, slot]) (right :: rest) (by simpa using leftOver)
        simp only [List.append_assoc, List.cons_append, List.nil_append, List.length_append, List.length_cons,
          List.length_nil] at later
        cases found : firstPriority? (right :: rest) with
        | none =>
            rw [found] at later
            obtain ⟨last, seeks, out⟩ := later
            exact ⟨last, .on _ _ _ left slot right leftOver window low seeks, out⟩
        | some turn =>
            rw [found] at later
            have place : before.length + (turn.behind left slot).before.length =
                before.length + 2 + turn.before.length := by
              simp only [Turn.behind, List.length_cons]
              omega
            rw [Option.map_some]
            dsimp only
            rw [place]
            exact .on _ _ _ left slot right leftOver window low later
termination_by rest.length

theorem seeks_turn (tokens : Expression) (turn : Turn) (found : turn? tokens = some turn) :
    Seeks ⟨tokens, 0⟩ ⟨tokens, turn.before.length⟩ := by
  by_cases leftOver : tokens.priorityLeft = true
  · rw [turn?, if_pos leftOver] at found
    have seeks := seeks_priority [] tokens leftOver
    rw [found] at seeks
    simpa only [List.nil_append, List.length_nil, Nat.zero_add] using seeks
  · rw [turn_without_priority tokens turn found leftOver]
    exact .here _

theorem seeks_beyond (tokens : Expression) (absent : turn? tokens = none) :
    ∃ last, Seeks ⟨tokens, 0⟩ last ∧ window? last.tokens last.cursor = none := by
  by_cases leftOver : tokens.priorityLeft = true
  · rw [turn?, if_pos leftOver] at absent
    have seeks := seeks_priority [] tokens leftOver
    rw [absent] at seeks
    exact seeks
  · rw [turn?, if_neg leftOver] at absent
    refine ⟨_, .here _, ?_⟩
    match tokens with
    | [] | [_] | [_, _] => rfl
    | _ :: _ :: _ :: _ => cases absent

section

variable (settings : Settings)

theorem run_alone (n : Numeral) (cursor : Nat) : run settings ⟨[.numeral n], cursor⟩ = .ok n := by
  rw [run]

theorem run_by_pass (scan : Scan) (several : ∀ n, scan.tokens ≠ [.numeral n]) :
    scan.run settings = (scan.pass settings).bind (run settings) := by
  rw [run]
  split
  · rename_i result alone
    exact absurd alone (several result)
  · split <;> rename_i outcome <;> rw [outcome] <;> rfl

theorem pass_beyond (scan : Scan) (beyond : window? scan.tokens scan.cursor = none) :
    scan.pass settings = .error (missing scan.tokens) := by
  simp only [pass, beyond]

theorem pass_skips (tokens : Expression) (cursor : Nat) (left slot right : Token)
    (leftOver : tokens.priorityLeft = true) (window : window? tokens cursor = some (left, slot, right))
    (low : slot.hasPriority = false) : pass settings ⟨tokens, cursor⟩ = .ok ⟨tokens, cursor + 2⟩ := by
  simp only [pass, window, leftOver, low, if_true, Bool.false_eq_true, if_false]

theorem reduce_window_behind (before rest : Expression) (left slot right : Token) :
    reduceWindow settings (before ++ left :: slot :: right :: rest) before.length =
      (combined settings left slot right).map fun result => ⟨before ++ .numeral result :: rest, 0⟩ := by
  have dropped : (before ++ left :: slot :: right :: rest).drop (before.length + 3) = rest := by
    rw [List.drop_append]
    simp
  rw [reduceWindow, window_behind]
  simp only [replaced, List.take_left, dropped]
  cases combined settings left slot right <;> rfl

theorem pass_reduces (tokens : Expression) (turn : Turn) (found : turn? tokens = some turn) :
    pass settings ⟨tokens, turn.before.length⟩ =
      (turn.combined settings).map fun result => ⟨turn.reduced result, 0⟩ := by
  have same := (turn_tokens tokens turn found).1
  have window := window_behind turn.before turn.after turn.left turn.slot turn.right
  have reduces := reduce_window_behind settings turn.before turn.after turn.left turn.slot turn.right
  rw [← Turn.tokens, same] at window reduces
  simp only [pass, window]
  by_cases leftOver : tokens.priorityLeft = true
  · rw [if_pos leftOver, if_pos (turn_of_priority tokens turn found leftOver)]
    exact reduces
  · have start := turn_without_priority tokens turn found leftOver
    rw [start, List.length_nil] at reduces
    rw [if_neg leftOver, reduces]
    simp only [Turn.combined, Turn.reduced, start]

theorem several_of_window (tokens : Expression) (cursor : Nat) (window : Token × Token × Token)
    (found : window? tokens cursor = some window) (n : Numeral) : tokens ≠ [.numeral n] := by
  rintro rfl
  have inside := window_inside _ cursor window found
  rw [List.length_singleton] at inside
  omega

theorem seeks_run (scan last : Scan) (seeks : Seeks scan last) : scan.run settings = last.run settings := by
  induction seeks with
  | here => rfl
  | on tokens cursor last left slot right leftOver window low later ih =>
      rw [run_by_pass settings _ (several_of_window tokens cursor _ window),
        pass_skips settings tokens cursor left slot right leftOver window low]
      exact ih

theorem run_turn (tokens : Expression) (several : ∀ n, tokens ≠ [.numeral n]) :
    run settings ⟨tokens, 0⟩ =
      match turn? tokens with
      | none => .error (missing tokens)
      | some turn => (turn.combined settings).bind fun result => run settings ⟨turn.reduced result, 0⟩ := by
  cases found : turn? tokens with
  | none =>
      obtain ⟨last, seeks, out⟩ := seeks_beyond tokens found
      have same := seeks_tokens _ _ seeks
      rw [seeks_run settings _ _ seeks, run_by_pass settings last (by rwa [same]), pass_beyond settings last out, same]
      rfl
  | some turn =>
      rw [seeks_run settings _ _ (seeks_turn tokens turn found), run_by_pass settings _ several,
        pass_reduces settings tokens turn found]
      dsimp only
      cases turn.combined settings <;> rfl

theorem several_of_turn (tokens : Expression) (turn : Turn) (found : turn? tokens = some turn) (n : Numeral) :
    tokens ≠ [.numeral n] := by
  rintro rfl
  cases found

theorem run_goes_on (tokens : Expression) (turn : Turn) (result : Numeral) (found : turn? tokens = some turn)
    (done : turn.combined settings = .ok result) :
    run settings ⟨tokens, 0⟩ = run settings ⟨turn.reduced result, 0⟩ := by
  rw [run_turn settings tokens (several_of_turn tokens turn found), found]
  dsimp only
  rw [done, Except.bind]

theorem run_stops (tokens : Expression) (turn : Turn) (failure : Failure) (found : turn? tokens = some turn)
    (failed : turn.combined settings = .error failure) : run settings ⟨tokens, 0⟩ = .error failure := by
  rw [run_turn settings tokens (several_of_turn tokens turn found), found]
  dsimp only
  rw [failed, Except.bind]

-- What is kept from turn to turn holds of the expression a run starts from and of what it comes to.
theorem run_induction {motive : Expression → Except Failure Numeral → Prop}
    (alone : ∀ n, motive [.numeral n] (.ok n))
    (beyond : ∀ tokens, (∀ n, tokens ≠ [.numeral n]) → turn? tokens = none → motive tokens (.error (missing tokens)))
    (failed : ∀ tokens turn failure, turn? tokens = some turn → turn.combined settings = .error failure →
      motive tokens (.error failure))
    (reduced : ∀ tokens turn result outcome, (∀ n, tokens ≠ [.numeral n]) → turn? tokens = some turn →
      turn.combined settings = .ok result → motive (turn.reduced result) outcome → motive tokens outcome)
    (tokens : Expression) : motive tokens (run settings ⟨tokens, 0⟩) := by
  by_cases single : ∃ n, tokens = [.numeral n]
  · obtain ⟨n, rfl⟩ := single
    rw [run_alone]
    exact alone n
  · have several : ∀ n, tokens ≠ [.numeral n] := fun n same => single ⟨n, same⟩
    rw [run_turn settings tokens several]
    cases found : turn? tokens with
    | none => exact beyond tokens several found
    | some turn =>
        dsimp only
        cases outcome : turn.combined settings with
        | error failure => exact failed tokens turn failure found outcome
        | ok result =>
            have shorter : (turn.reduced result).length < tokens.length := by
              have length := turn_shortens turn result
              rw [(turn_tokens tokens turn found).1] at length
              omega
            exact reduced tokens turn result _ several found outcome
              (run_induction alone beyond failed reduced (turn.reduced result))
termination_by tokens.length

end

end Scan

end PocketCalculator.Reduction
