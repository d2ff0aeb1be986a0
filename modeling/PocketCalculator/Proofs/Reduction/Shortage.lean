import PocketCalculator.Proofs.Engine.Answers
import PocketCalculator.Proofs.Engine.Restoring
import PocketCalculator.Proofs.Reduction.Blame
import PocketCalculator.Proofs.Reduction.Trail

set_option autoImplicit false

namespace PocketCalculator

namespace Expression

variable (tokens other : Expression) (proper : tokens.IsProper)

include proper

theorem rendered_inj (otherProper : other.IsProper) : tokens.rendered = other.rendered ↔ tokens = other := by
  refine ⟨fun same => ?_, congrArg rendered⟩
  rw [← of_text_rendered tokens proper, same, of_text_rendered other otherProper]

theorem rendered_empty : tokens.rendered = [] ↔ tokens = [] :=
  rendered_inj tokens [] proper empty_proper

theorem shown_absent : shownText tokens.rendered = .absent ↔ tokens = [] := by
  rw [← rendered_empty tokens proper, ← List.isEmpty_iff, shownText]
  cases tokens.rendered.isEmpty <;> simp

theorem shown_text_iff (otherProper : other.IsProper) (some_token : other ≠ []) :
    .text tokens.rendered = shownText other.rendered ↔ tokens = other := by
  have some_char : ¬ other.rendered.isEmpty = true := by
    rw [List.isEmpty_iff, rendered_empty other otherProper]
    exact some_token
  rw [shownText, if_neg some_char, Value.text.injEq, rendered_inj tokens other proper otherProper]

end Expression

namespace Reduction

variable (settings : Settings)

theorem Turn.combined_complete (turn : Turn) (shown : Value) :
    turn.combined settings ≠ .error (.fault (.missingElement shown)) := by
  intro failed
  rcases turn.combined_refuses settings _ failed with computing | same | same
  · rcases turn.computed_refuses _ computing with ⟨side, refused⟩ | ⟨_, _, same⟩ | ⟨o, x, y, _, applied⟩
    · obtain ⟨_, _, same⟩ := operand_refused side _ _ refused
      cases same
    · cases same
    · rcases Arithmetic.apply_refuses o x y _ applied with (⟨_, same⟩ | ⟨_, _, same⟩) | ⟨_, _, _, same⟩ <;>
        cases same
  · cases same
  · cases same

theorem combined_proper (left slot right : Token) (result : Numeral)
    (done : combined settings left slot right = .ok result) : result.IsProper := by
  obtain ⟨z, computes, written⟩ := combined_succeeds settings left slot right result done
  exact result.displayed_proper (FixedPoint.written_displayed settings z computes.finite result.text written)

namespace Scan

variable (scan next : Scan)

theorem window_before (inside : window? scan.tokens scan.cursor ≠ none) :
    ∃ window, window? scan.tokens 0 = some window := by
  obtain ⟨window, found⟩ := Option.ne_none_iff_exists'.mp inside
  have within := window_inside scan.tokens scan.cursor window found
  exact window_within scan.tokens 0 (by omega)

theorem reduce_window_found (tokens : Expression) (cursor : Nat) (left slot right : Token)
    (found : window? tokens cursor = some (left, slot, right)) :
    reduceWindow settings tokens cursor =
      (combined settings left slot right).map fun result => ⟨replaced tokens cursor result, 0⟩ := by
  rw [reduceWindow, found]
  dsimp only
  cases combined settings left slot right <;> rfl

-- What a pass with a window in reach does: it moves on, or reduces the window that is chosen.
theorem pass_inside (inside : window? scan.tokens scan.cursor ≠ none) :
    (scan.choice? = none ∧ scan.pass settings = .ok ⟨scan.tokens, scan.cursor + 2⟩) ∨
      ∃ cursor left slot right, window? scan.tokens cursor = some (left, slot, right) ∧
        scan.choice? = some (left, slot, right) ∧
        scan.pass settings =
          (combined settings left slot right).map fun result => ⟨replaced scan.tokens cursor result, 0⟩ := by
  obtain ⟨⟨left, slot, right⟩, found⟩ := Option.ne_none_iff_exists'.mp inside
  obtain ⟨⟨first, second, third⟩, front⟩ := window_before scan inside
  simp only [choice?, pass, found]
  by_cases leftOver : scan.tokens.priorityLeft = true
  · by_cases high : slot.hasPriority = true
    · rw [if_pos leftOver, if_pos leftOver, if_pos high, if_pos high]
      exact .inr ⟨_, _, _, _, found, rfl, reduce_window_found settings _ _ _ _ _ found⟩
    · rw [if_pos leftOver, if_pos leftOver, if_neg high, if_neg high]
      exact .inl ⟨rfl, rfl⟩
  · rw [if_neg leftOver, if_neg leftOver]
    exact .inr ⟨_, _, _, _, front, front, reduce_window_found settings _ _ _ _ _ front⟩

theorem pass_misses_iff (shown : Value) :
    scan.pass settings = .error (.fault (.missingElement shown)) ↔
      window? scan.tokens scan.cursor = none ∧ shown = .text scan.tokens.rendered := by
  by_cases beyond : window? scan.tokens scan.cursor = none
  · rw [pass_beyond settings scan beyond]
    constructor
    · rintro ⟨⟩
      exact ⟨beyond, rfl⟩
    · rintro ⟨_, rfl⟩
      rfl
  · refine ⟨fun failed => ?_, fun out => absurd out.1 beyond⟩
    rcases pass_inside settings scan beyond with ⟨_, moved⟩ | ⟨cursor, left, slot, right, _, _, reduced⟩
    · rw [moved] at failed
      cases failed
    · rw [reduced] at failed
      cases outcome : combined settings left slot right with
      | ok result =>
          rw [outcome] at failed
          cases failed
      | error failure =>
          rw [outcome] at failed
          cases failed
          exact absurd outcome (Turn.combined_complete settings ⟨[], left, slot, right, []⟩ shown)

theorem moved_inside (moved : scan.pass settings = .ok next) : window? scan.tokens scan.cursor ≠ none := by
  intro beyond
  rw [pass_beyond settings scan beyond] at moved
  cases moved

theorem pass_cases (moved : scan.pass settings = .ok next) :
    (scan.choice? = none ∧ next = ⟨scan.tokens, scan.cursor + 2⟩) ∨
      ∃ cursor left slot right result, window? scan.tokens cursor = some (left, slot, right) ∧
        scan.choice? = some (left, slot, right) ∧ combined settings left slot right = .ok result ∧
        next = ⟨replaced scan.tokens cursor result, 0⟩ := by
  rcases pass_inside settings scan (moved_inside settings scan next moved) with
    ⟨none, on⟩ | ⟨cursor, left, slot, right, found, chosen, reduced⟩
  · rw [on] at moved
    exact .inl ⟨none, (Except.ok.inj moved).symm⟩
  · rw [reduced] at moved
    cases outcome : combined settings left slot right with
    | error failure =>
        rw [outcome] at moved
        cases moved
    | ok result =>
        rw [outcome] at moved
        exact .inr ⟨cursor, left, slot, right, result, found, chosen, outcome, (Except.ok.inj moved).symm⟩

theorem pass_choice (moved : scan.pass settings = .ok next) :
    (scan.choice? = none ∧ next.tokens = scan.tokens) ∨
      ∃ window, scan.choice? = some window ∧ next.tokens.length + 2 = scan.tokens.length := by
  rcases pass_cases settings scan next moved with ⟨none, rfl⟩ | ⟨_, _, _, _, _, found, chosen, _, rfl⟩
  · exact .inl ⟨none, rfl⟩
  · exact .inr ⟨_, chosen, replaced_length _ _ _ (window_inside _ _ _ found)⟩

theorem pass_proper (proper : scan.tokens.IsProper) (moved : scan.pass settings = .ok next) :
    next.tokens.IsProper := by
  rcases pass_cases settings scan next moved with ⟨_, rfl⟩ | ⟨cursor, left, slot, right, result, _, _, done, rfl⟩
  · exact proper
  · intro n member
    rcases List.mem_append.mp member with before | here
    · exact proper n (List.mem_of_mem_take before)
    · rcases List.mem_cons.mp here with same | after
      · rw [Token.numeral.inj same]
        exact combined_proper settings left slot right result done
      · exact proper n (List.mem_of_mem_drop after)

-- Pass by pass a run comes to a scan whose window reaches beyond the tokens.
inductive BreaksOff : Scan → Scan → Prop where
  | here (scan : Scan) (several : ∀ n, scan.tokens ≠ [.numeral n])
      (beyond : window? scan.tokens scan.cursor = none) : BreaksOff scan scan
  | later (scan next last : Scan) (several : ∀ n, scan.tokens ≠ [.numeral n])
      (moved : scan.pass settings = .ok next) (breaks : BreaksOff next last) : BreaksOff scan last

theorem breaks_off_misses (scan last : Scan) (breaks : BreaksOff settings scan last) :
    scan.run settings = .error (missing last.tokens) := by
  induction breaks with
  | here scan several beyond =>
      rw [run_by_pass settings scan several, pass_beyond settings scan beyond]
      rfl
  | later scan next last several moved _ ih =>
      rw [run_by_pass settings scan several, moved]
      exact ih

theorem misses_breaks_off (shown : Value) (failed : scan.run settings = .error (.fault (.missingElement shown))) :
    ∃ last, BreaksOff settings scan last ∧ shown = .text last.tokens.rendered := by
  induction scan using run.induct settings with
  | case1 scan result alone =>
      rw [run, alone] at failed
      cases failed
  | case2 scan failure stopped several =>
      have same := run_by_pass settings scan several
      rw [stopped, failed] at same
      cases same
      obtain ⟨beyond, text⟩ := (pass_misses_iff settings scan shown).mp stopped
      exact ⟨scan, .here scan several beyond, text⟩
  | case3 scan next moved several ih =>
      rw [run_by_pass settings scan several, moved] at failed
      obtain ⟨last, breaks, text⟩ := ih failed
      exact ⟨last, .later scan next last several moved breaks, text⟩

theorem breaks_off_proper (scan last : Scan) (breaks : BreaksOff settings scan last) (proper : scan.tokens.IsProper) :
    last.tokens.IsProper := by
  induction breaks with
  | here scan _ _ => exact proper
  | later scan next last _ moved _ ih => exact ih (pass_proper settings scan next proper moved)

theorem windows_beyond (beyond : window? scan.tokens scan.cursor = none) :
    scan.windows settings = [] := by
  have only : scan.trail settings = [scan] := by
    rw [trail]
    split
    · rfl
    · rw [pass_beyond settings scan beyond]
  rw [windows, only, List.filterMap_cons, choice?, beyond]
  rfl

theorem windows_pass (several : ∀ n, scan.tokens ≠ [.numeral n]) (moved : scan.pass settings = .ok next) :
    scan.windows settings = scan.choice?.toList ++ next.windows settings := by
  rw [windows, trail_by_pass settings scan next several moved, List.filterMap_cons]
  cases scan.choice? <;> rfl

theorem breaks_off_windows (scan last : Scan) (breaks : BreaksOff settings scan last) :
    last.tokens.length + 2 * (scan.windows settings).length = scan.tokens.length ∧
      (scan.windows settings = [] → last.tokens = scan.tokens) := by
  induction breaks with
  | here scan _ beyond =>
      rw [windows_beyond settings scan beyond]
      exact ⟨rfl, fun _ => rfl⟩
  | later scan next last several moved _ ih =>
      obtain ⟨counted, kept⟩ := ih
      rw [windows_pass settings scan next several moved]
      rcases pass_choice settings scan next moved with ⟨none, same⟩ | ⟨window, chosen, shorter⟩
      · rw [none, ← same]
        exact ⟨counted, kept⟩
      · rw [chosen, Option.toList_some, List.singleton_append, List.length_cons]
        exact ⟨by omega, fun empty => absurd empty (List.cons_ne_nil _ _)⟩

end Scan

-- What a missing element shows: the submitted expression, or the working copy that the scan has come to.
inductive Misses (submitted : Expression) : Value → Prop where
  | incomplete (incomplete : submitted.Incomplete) : Misses submitted (Expression.shownText submitted.rendered)
  | breaksOff (complete : ¬ submitted.Incomplete) (last : Scan) (breaks : Scan.BreaksOff settings ⟨submitted, 0⟩ last) :
      Misses submitted (.text last.tokens.rendered)

theorem complete_valid (submitted : Expression) (complete : ¬ submitted.Incomplete) : submitted.validity = .valid := by
  obtain ⟨long, ends⟩ := not_or.mp complete
  rw [Expression.validity, Expression.leastTokens, if_neg long, if_neg ends]

theorem evaluate_misses_iff (submitted : Expression) (shown : Value) :
    evaluate settings submitted = .error (.fault (.missingElement shown)) ↔ Misses settings submitted shown := by
  by_cases incomplete : submitted.Incomplete
  · rw [evaluate_incomplete settings submitted incomplete]
    constructor
    · rintro ⟨⟩
      exact .incomplete incomplete
    · rintro (_ | ⟨complete, _, _⟩)
      · rfl
      · exact absurd incomplete complete
  · have runs : evaluate settings submitted = Scan.run settings ⟨submitted, 0⟩ := by
      rw [evaluate, Expression.ensureValid, if_pos (complete_valid submitted incomplete)]
      rfl
    rw [runs]
    constructor
    · intro failed
      obtain ⟨last, breaks, rfl⟩ := Scan.misses_breaks_off settings _ shown failed
      exact .breaksOff incomplete last breaks
    · rintro (short | ⟨_, last, breaks⟩)
      · exact absurd short incomplete
      · exact Scan.breaks_off_misses settings _ last breaks

theorem breaks_off_shows (submitted : Expression) (proper : submitted.IsProper) (complete : ¬ submitted.Incomplete)
    (last : Scan) (breaks : Scan.BreaksOff settings ⟨submitted, 0⟩ last) :
    let windows := Scan.windows settings ⟨submitted, 0⟩
    last.tokens.length + 2 * windows.length = submitted.length ∧
      (.text last.tokens.rendered = Expression.shownText submitted.rendered ↔ windows = []) := by
  intro windows
  obtain ⟨counted, kept⟩ := Scan.breaks_off_windows settings _ last breaks
  have lastProper := Scan.breaks_off_proper settings _ last breaks proper
  have some_token : submitted ≠ [] := by
    rintro rfl
    exact complete (.inl (by decide))
  refine ⟨counted, ?_⟩
  rw [Expression.shown_text_iff last.tokens submitted lastProper proper some_token]
  refine ⟨fun same => ?_, kept⟩
  rw [same] at counted
  have none : 2 * List.length windows = 0 := Nat.add_eq_left.mp counted
  exact List.length_eq_zero_iff.mp (by omega)

end Reduction

end PocketCalculator
