import PocketCalculator.Proofs.Reduction.Shortage
import Mathlib.Data.List.Chain

set_option autoImplicit false

namespace PocketCalculator.Reduction

namespace Scan

variable (settings : Settings) (scan next : Scan)

-- A pass that takes each token from its place; none if it reaches for a place that holds no token.
def passByPlaces : Option (Except Failure Scan) :=
  if scan.tokens.length ≤ scan.cursor + 2 then some (.error (missing scan.tokens))
  else do
    let slot ← scan.tokens[scan.cursor + 1]?
    if scan.tokens.priorityLeft && !slot.hasPriority then
      return .ok ⟨scan.tokens, scan.cursor + 2⟩
    else
      -- Without a priority operator the cursor goes back to the start, and the operator is read anew.
      let cursor := if scan.tokens.priorityLeft then scan.cursor else 0
      let slot ← scan.tokens[cursor + 1]?
      let left ← scan.tokens[cursor]?
      let right ← scan.tokens[cursor + 2]?
      return (combined settings left slot right).map fun result => ⟨replaced scan.tokens cursor result, 0⟩

theorem window_places (tokens : Expression) (cursor : Nat) (left slot right : Token)
    (found : window? tokens cursor = some (left, slot, right)) :
    tokens[cursor]? = some left ∧ tokens[cursor + 1]? = some slot ∧ tokens[cursor + 2]? = some right := by
  have places : ∀ further, tokens[cursor + further]? = (tokens.drop cursor)[further]? := fun further =>
    List.getElem?_drop.symm
  rw [window?] at found
  split at found
  · rename_i shape
    cases found
    exact ⟨by rw [← Nat.add_zero cursor, places, shape]; rfl, by rw [places, shape]; rfl, by rw [places, shape]; rfl⟩
  · cases found

theorem window_none (tokens : Expression) (cursor : Nat) (none : window? tokens cursor = none) :
    tokens.length ≤ cursor + 2 := by
  apply Nat.le_of_not_lt
  intro inside
  obtain ⟨window, found⟩ := window_within tokens cursor inside
  rw [none] at found
  cases found

theorem pass_by_places : scan.passByPlaces settings = some (scan.pass settings) := by
  by_cases beyond : window? scan.tokens scan.cursor = none
  · rw [passByPlaces, if_pos (window_none _ _ beyond), pass_beyond settings scan beyond]
  · obtain ⟨⟨left, slot, right⟩, found⟩ := Option.ne_none_iff_exists'.mp beyond
    obtain ⟨⟨first, second, third⟩, front⟩ := window_before scan beyond
    have inside := window_inside scan.tokens scan.cursor _ found
    obtain ⟨leftAt, slotAt, rightAt⟩ := window_places _ _ _ _ _ found
    obtain ⟨firstAt, secondAt, thirdAt⟩ := window_places _ _ _ _ _ front
    rw [passByPlaces, if_neg (Nat.not_le.mpr inside), pass, found, slotAt]
    dsimp only [Option.bind_eq_bind, Option.bind_some]
    by_cases leftOver : scan.tokens.priorityLeft = true
    · by_cases high : slot.hasPriority = true
      · simp [leftOver, high, slotAt, leftAt, rightAt, reduce_window_found settings _ _ _ _ _ found]
      · simp [leftOver, high]
    · simp [leftOver, firstAt, secondAt, thirdAt, reduce_window_found settings _ _ _ _ _ front]

structure Placed : Prop where
  even : scan.cursor % 2 = 0
  inside : scan.cursor < scan.tokens.length
  -- The cursor need not go back to the start: it is there.
  atStart : scan.tokens.priorityLeft = false → scan.cursor = 0
  alone : scan.tokens.length = 1 → ∃ n, scan.tokens = [.numeral n]

-- What a pass does that does not fail: the cursor moves on, or the window that it stands at is replaced.
inductive Moves : Scan → Scan → Prop where
  | on (scan : Scan) (leftOver : scan.tokens.priorityLeft = true) (inside : scan.cursor + 2 < scan.tokens.length)
      (seeks : scan.choice? = none) : Moves scan ⟨scan.tokens, scan.cursor + 2⟩
  | reduced (scan : Scan) (left slot right : Token) (result : Numeral)
      (window : window? scan.tokens scan.cursor = some (left, slot, right))
      (chosen : scan.choice? = some (left, slot, right)) (done : combined settings left slot right = .ok result) :
      Moves scan ⟨replaced scan.tokens scan.cursor result, 0⟩

def remaining : Nat × Nat := (scan.tokens.length, scan.tokens.length - scan.cursor)

theorem start_placed (tokens : Expression) (long : 3 ≤ tokens.length) : Placed ⟨tokens, 0⟩ where
  even := rfl
  inside := by dsimp only; omega
  atStart := fun _ => rfl
  alone := fun one => by dsimp only at one; omega

theorem window_reduces (left slot right : Token) (found : window? scan.tokens scan.cursor = some (left, slot, right))
    (chosen : scan.choice? = some (left, slot, right))
    (moved : reduceWindow settings scan.tokens scan.cursor = .ok next) : Moves settings scan next := by
  rw [reduce_window_found settings _ _ _ _ _ found] at moved
  cases done : combined settings left slot right with
  | error failure =>
      rw [done] at moved
      cases moved
  | ok result =>
      rw [done] at moved
      cases moved
      exact .reduced scan left slot right result found chosen done

theorem pass_moves (placed : scan.Placed) (moved : scan.pass settings = .ok next) : Moves settings scan next := by
  obtain ⟨⟨left, slot, right⟩, found⟩ := Option.ne_none_iff_exists'.mp (moved_inside settings scan next moved)
  have inside := window_inside scan.tokens scan.cursor _ found
  rw [pass, found] at moved
  dsimp only at moved
  by_cases leftOver : scan.tokens.priorityLeft = true
  · by_cases high : slot.hasPriority = true
    · rw [if_pos leftOver, if_pos high] at moved
      exact window_reduces settings scan next left slot right found (by simp [choice?, found, leftOver, high]) moved
    · rw [if_pos leftOver, if_neg high] at moved
      cases moved
      exact .on scan leftOver inside (by simp [choice?, found, leftOver, high])
  · have start := placed.atStart (by simpa using leftOver)
    rw [if_neg leftOver, ← start] at moved
    rw [start] at found
    have chosen : scan.choice? = some (left, slot, right) := by simp [choice?, start, found, leftOver]
    exact window_reduces settings scan next left slot right (by rw [start, found]) chosen moved

theorem moves_placed (placed : scan.Placed) (moves : Moves settings scan next) : next.Placed := by
  cases moves with
  | on leftOver inside _ =>
      have even := placed.even
      refine ⟨by dsimp only; omega, by dsimp only; omega, fun none => ?_, placed.alone⟩
      rw [leftOver] at none
      cases none
  | reduced left slot right result window _ _ =>
      have inside := window_inside scan.tokens scan.cursor _ window
      have shorter := replaced_length scan.tokens scan.cursor result inside
      refine ⟨rfl, by dsimp only; omega, fun _ => rfl, fun one => ⟨result, ?_⟩⟩
      -- With a single token left there was none in front of the window, nor behind it.
      dsimp only at one
      obtain ⟨token, only⟩ := List.length_eq_one_iff.mp one
      have member : .numeral result ∈ replaced scan.tokens scan.cursor result := by simp [replaced]
      dsimp only
      rw [only, List.mem_singleton] at member
      rw [only, member]

theorem pass_nearer (moved : scan.pass settings = .ok next) :
    Prod.Lex (· < ·) (· < ·) next.remaining scan.remaining :=
  Prod.lex_def.mpr (pass_decreases settings scan next moved)

theorem trail_stops (failure : Failure) (stopped : scan.pass settings = .error failure) :
    scan.trail settings = [scan] := by
  rw [trail]
  split
  · rfl
  · rw [stopped]

theorem several_of_moved (moved : scan.pass settings = .ok next) (n : Numeral) : scan.tokens ≠ [.numeral n] := by
  obtain ⟨window, found⟩ := Option.ne_none_iff_exists'.mp (moved_inside settings scan next moved)
  exact several_of_window scan.tokens scan.cursor window found n

theorem trail_goes_on (moved : scan.pass settings = .ok next) :
    scan.trail settings = scan :: next.trail settings :=
  trail_by_pass settings scan next (several_of_moved settings scan next moved) moved

theorem trail_induction {motive : Scan → List Scan → Prop}
    (stops : ∀ scan failure, scan.pass settings = .error failure → motive scan [scan])
    (goes_on : ∀ scan next, scan.pass settings = .ok next → motive next (next.trail settings) →
      motive scan (scan :: next.trail settings))
    (scan : Scan) : motive scan (scan.trail settings) := by
  cases outcome : scan.pass settings with
  | error failure =>
      rw [trail_stops settings scan failure outcome]
      exact stops scan failure outcome
  | ok next =>
      rw [trail_goes_on settings scan next outcome]
      exact goes_on scan next outcome (trail_induction stops goes_on next)
termination_by scan.weight
decreasing_by exact pass_lighter settings scan next outcome

theorem trail_placed (placed : scan.Placed) : ∀ held ∈ scan.trail settings, held.Placed := by
  refine trail_induction settings (motive := fun scan trail => scan.Placed → ∀ held ∈ trail, held.Placed) ?_ ?_
    scan placed
  · intro scan failure _ placed held member
    rw [List.mem_singleton.mp member]
    exact placed
  · intro scan next moved later placed held member
    rcases List.mem_cons.mp member with rfl | behind
    · exact placed
    · exact later (moves_placed settings scan next placed (pass_moves settings scan next placed moved)) held behind

theorem trail_head : ∃ rest, scan.trail settings = scan :: rest := by
  refine trail_induction settings (motive := fun scan trail => ∃ rest, trail = scan :: rest) ?_ ?_ scan
  · exact fun scan _ _ => ⟨[], rfl⟩
  · exact fun scan next _ _ => ⟨_, rfl⟩

theorem trail_chain :
    (scan.trail settings).IsChain fun held after => held.pass settings = .ok after := by
  refine trail_induction settings
    (motive := fun _ trail => trail.IsChain fun held after => held.pass settings = .ok after) ?_ ?_ scan
  · exact fun scan _ _ => .singleton scan
  · intro scan next moved later
    obtain ⟨rest, same⟩ := trail_head settings next
    rw [same] at later ⊢
    exact .cons_cons moved later

inductive Ends (last : Scan) : Except Failure Numeral → Prop where
  | alone (n : Numeral) (single : last.tokens = [.numeral n]) : Ends last (.ok n)
  | failed (failure : Failure) (several : 1 < last.tokens.length) (stopped : last.pass settings = .error failure) :
      Ends last (.error failure)

theorem trail_ends (placed : scan.Placed) :
    ∃ last, (scan.trail settings).getLast? = some last ∧ Ends settings last (scan.run settings) := by
  refine trail_induction settings (motive := fun scan trail => scan.Placed →
    ∃ last, trail.getLast? = some last ∧ Ends settings last (scan.run settings)) ?_ ?_ scan placed
  · intro scan failure stopped placed
    refine ⟨scan, rfl, ?_⟩
    by_cases single : ∃ n, scan.tokens = [.numeral n]
    · obtain ⟨n, alone⟩ := single
      have result : scan.run settings = .ok n := by rw [run, alone]
      rw [result]
      exact .alone n alone
    · have fails : scan.run settings = .error failure := by
        rw [run_by_pass settings scan fun n alone => single ⟨n, alone⟩, stopped]
        rfl
      have inside := placed.inside
      have several : scan.tokens.length ≠ 1 := fun one => single (placed.alone one)
      rw [fails]
      exact .failed failure (by omega) stopped
  · intro scan next moved later placed
    have goes_on : scan.run settings = next.run settings := by
      rw [run_by_pass settings scan (several_of_moved settings scan next moved), moved]
      rfl
    obtain ⟨rest, same⟩ := trail_head settings next
    rw [goes_on, same, List.getLast?_cons_cons, ← same]
    exact later (moves_placed settings scan next placed (pass_moves settings scan next placed moved))

theorem choice_inside (window : Token × Token × Token) (chosen : scan.choice? = some window) :
    3 ≤ scan.tokens.length := by
  rw [choice?] at chosen
  split at chosen
  · cases chosen
  · rename_i found
    have inside := window_inside scan.tokens scan.cursor _ found
    omega

theorem windows_at_most (some_token : scan.tokens ≠ []) :
    2 * (scan.windows settings).length + 1 ≤ scan.tokens.length := by
  refine trail_induction settings (motive := fun scan trail => scan.tokens ≠ [] →
    2 * (trail.filterMap choice?).length + 1 ≤ scan.tokens.length) ?_ ?_ scan some_token
  · intro scan failure _ some_token
    have long := List.length_pos_iff.mpr some_token
    cases chosen : scan.choice? with
    | none =>
        rw [List.filterMap_cons_none chosen, List.filterMap_nil, List.length_nil]
        omega
    | some window =>
        have long := choice_inside scan window chosen
        rw [List.filterMap_cons_some chosen, List.filterMap_nil, List.length_singleton]
        omega
  · intro scan next moved later some_token
    rcases pass_choice settings scan next moved with ⟨none, same⟩ | ⟨window, chosen, shorter⟩
    · rw [List.filterMap_cons_none none, ← same]
      exact later (by rwa [same])
    · have long := choice_inside scan window chosen
      have counted := later (List.length_pos_iff.mp (by omega))
      rw [List.filterMap_cons_some chosen, List.length_cons]
      omega

end Scan

theorem passes_come_to_an_end (settings : Settings) (tokens : Expression) (long : 3 ≤ tokens.length) :
    let trail := Scan.trail settings ⟨tokens, 0⟩
    trail.head? = some ⟨tokens, 0⟩ ∧
      (∀ scan ∈ trail, scan.Placed ∧ scan.passByPlaces settings = some (scan.pass settings)) ∧
      (trail.IsChain fun scan next => scan.pass settings = .ok next ∧ Scan.Moves settings scan next ∧
        Prod.Lex (· < ·) (· < ·) next.remaining scan.remaining) ∧
      (∃ last, trail.getLast? = some last ∧ last.Ends settings (Scan.run settings ⟨tokens, 0⟩)) ∧
      (Scan.windows settings ⟨tokens, 0⟩).length ≤ (tokens.length - 1) / 2 := by
  intro trail
  have start := Scan.start_placed tokens long
  have placed := Scan.trail_placed settings ⟨tokens, 0⟩ start
  refine ⟨?_, fun scan member => ⟨placed scan member, scan.pass_by_places settings⟩, ?_,
    Scan.trail_ends settings ⟨tokens, 0⟩ start, ?_⟩
  · obtain ⟨rest, same⟩ := Scan.trail_head settings ⟨tokens, 0⟩
    exact congrArg List.head? same
  · refine (Scan.trail_chain settings ⟨tokens, 0⟩).imp_of_mem_imp fun scan next member _ moved => ?_
    exact ⟨moved, scan.pass_moves settings next (placed scan member) moved, scan.pass_nearer settings next moved⟩
  · have most := Scan.windows_at_most settings ⟨tokens, 0⟩ (List.length_pos_iff.mp (by dsimp only; omega))
    dsimp only at most
    omega

theorem operator_in_operand_place_ends :
    let settings : Settings := ⟨0, 5, by decide⟩
    let rest : Expression := [.operator .addition, .operator .multiplication, .operator .subtraction, .numeral ⟨['5']⟩]
    let tokens : Expression :=
      .numeral ⟨['2']⟩ :: .operator .multiplication :: .numeral ⟨['3']⟩ :: rest
    let left : Expression := .numeral ⟨['6']⟩ :: rest
    let trail := Scan.trail settings ⟨tokens, 0⟩
    3 ≤ tokens.length ∧ trail = [⟨tokens, 0⟩, ⟨left, 0⟩, ⟨left, 2⟩, ⟨left, 4⟩] ∧
      Scan.run settings ⟨tokens, 0⟩ = .error (missing left) ∧
      (∀ scan ∈ trail, scan.Placed ∧ scan.passByPlaces settings = some (scan.pass settings)) ∧
      (trail.IsChain fun scan next => scan.pass settings = .ok next ∧ Scan.Moves settings scan next ∧
        Prod.Lex (· < ·) (· < ·) next.remaining scan.remaining) ∧
      (Scan.windows settings ⟨tokens, 0⟩).length ≤ 3 := by
  intro settings rest tokens left trail
  have six : combined settings (.numeral ⟨['2']⟩) (.operator .multiplication) (.numeral ⟨['3']⟩) = .ok ⟨['6']⟩ := by
    decide +kernel
  have product : Scan.pass settings ⟨tokens, 0⟩ = .ok ⟨left, 0⟩ := by
    have reduces := Scan.pass_reduces settings tokens ⟨[], _, _, _, _⟩ rfl
    rw [Turn.combined, six] at reduces
    exact reduces
  have stopped : Scan.pass settings ⟨left, 4⟩ = .error (missing left) := rfl
  have passes : trail = [⟨tokens, 0⟩, ⟨left, 0⟩, ⟨left, 2⟩, ⟨left, 4⟩] := by
    change Scan.trail settings ⟨tokens, 0⟩ = _
    rw [Scan.trail_goes_on settings _ ⟨left, 0⟩ product, Scan.trail_goes_on settings ⟨left, 0⟩ ⟨left, 2⟩ rfl,
      Scan.trail_goes_on settings ⟨left, 2⟩ ⟨left, 4⟩ rfl, Scan.trail_stops settings _ _ stopped]
  obtain ⟨_, each, chain, ⟨last, ends, outcome⟩, count⟩ := passes_come_to_an_end settings tokens (by decide)
  have failed : Scan.run settings ⟨tokens, 0⟩ = .error (missing left) := by
    have same : some last = some ⟨left, 4⟩ := ends.symm.trans (congrArg List.getLast? passes)
    rw [Option.some.inj same] at outcome
    generalize Scan.run settings ⟨tokens, 0⟩ = result at outcome ⊢
    cases outcome with
    | alone n single => exact absurd (List.cons.inj single).2 (List.cons_ne_nil _ _)
    | failed failure _ refused =>
        rw [stopped] at refused
        rw [Except.error.inj refused]
  have three : (tokens.length - 1) / 2 = 3 := by decide
  exact ⟨by decide, passes, failed, each, chain, count.trans_eq three⟩

end PocketCalculator.Reduction
