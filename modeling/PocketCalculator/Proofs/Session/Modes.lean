import PocketCalculator.Proofs.Engine.Modes
import PocketCalculator.Proofs.Session.Nesting

set_option autoImplicit false

namespace PocketCalculator

structure Engine.InOneMode (settings : Settings) (engine : Engine) : Prop where
  configured : engine.settings = settings
  mode : ∃ mode, engine.In mode ∧ (∀ other, engine.In other → other = mode) ∧
    (mode = .unreduced → FixedPoint.mostPrecision < FixedPoint.precision settings)

theorem Engine.settled_one_mode (settings : Settings) (engine : Engine)
    (kept : engine.Settled ∧ engine.settings = settings) : engine.InOneMode settings := by
  obtain ⟨settled, same⟩ := kept
  obtain ⟨mode, holds⟩ := settled_in engine settled
  refine ⟨same, mode, holds, fun other => modes_apart engine mode other holds, ?_⟩
  rintro rfl
  rw [← same]
  exact Reduction.escapes_beyond engine.settings engine.tokens holds.1.2.2.2

namespace Session

theorem always_in_one_mode (settings : Settings) (seed : Option Text) (observer : Option Observer)
    (commands : List Command) (command : Command) :
    let session := (start (.seeded settings seed) observer).after commands
    session.engine.InOneMode settings ∧
      (∀ reaction ∈ session.reactions command, reaction.engine.InOneMode settings) ∧
      Undergoes { session with seen := [], events := [] } (session.reactions command) (session.step command).2 := by
  intro session
  have keep : ∀ (engine : Engine) (command : Command), engine.Settled ∧ engine.settings = settings →
      (engine.react command).engine.Settled ∧ (engine.react command).engine.settings = settings :=
    fun engine command kept =>
      ⟨engine.react_settled command kept.1, (engine.react_settings command).trans kept.2⟩
  have kept : session.engine.Settled ∧ session.engine.settings = settings :=
    after_keeps keep commands (start (.seeded settings seed) observer)
      ⟨Engine.seeded_settled settings seed, Engine.seeded_settings settings seed⟩
  refine ⟨session.engine.settled_one_mode settings kept, fun reaction member => ?_, step_undergoes command session⟩
  exact reaction.engine.settled_one_mode settings (Engine.reactions_keep keep session.engine command _ kept reaction member)

-- The three modes of a display are not enough where a precision is refused.
theorem refused_sum_stays_unreduced :
    let engine := ((start (.seeded ⟨0, 10 ^ 18, by decide⟩ (some "4 + 2".toList)) none).after [.reduce]).engine
    engine.In .unreduced ∧ ¬ engine.In .editing ∧ ¬ engine.In .result ∧ ¬ engine.In .fault := by
  let before : Engine := .seeded ⟨0, 10 ^ 18, by decide⟩ (some "4 + 2".toList)
  let sum : Chain := ⟨⟨['4']⟩, [(.addition, ⟨['2']⟩)]⟩
  intro engine
  have escapes : Reduction.Escapes before.evaluate := by
    change Reduction.Escapes (Reduction.evaluate before.settings sum.tokens)
    rw [Reduction.evaluate_chain _ sum (List.cons_ne_nil _ _)]
    decide +kernel
  have left : engine = before.takeReduction.engine :=
    (Option.some.inj (step_undergoes .reduce (start before none)).engine).symm
  have unreduced : engine.In .unreduced := by
    rw [left, Engine.reduction_escapes before escapes]
    exact ⟨Engine.escape_unreduced before (Engine.seeded_settled _ _) escapes, rfl⟩
  refine ⟨unreduced, fun editing => ?_, fun result => ?_, fun fault => ?_⟩
  · cases engine.modes_apart _ _ unreduced editing
  · cases engine.modes_apart _ _ unreduced result
  · cases engine.modes_apart _ _ unreduced fault

end Session

end PocketCalculator
