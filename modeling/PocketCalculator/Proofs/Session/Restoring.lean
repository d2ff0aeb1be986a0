import PocketCalculator.Proofs.Engine.Restoring

set_option autoImplicit false

namespace PocketCalculator

theorem Session.step_by_reaction (one other : Engine) (observer : Option Observer) (command : Command)
    (same : one.react command = other.react command) :
    (start one observer).step command = (start other observer).step command := by
  rw [step, step, perform_reacts, perform_reacts, start, start, reacted, reacted, same]

structure Engine.Restores (settings : Settings) (engine : Engine) : Prop where
  tokens : engine.message = none → Expression.ofText engine.text = engine.tokens
  editing : engine.message = none → engine.resultShown = false → ofText settings engine.text = engine
  result : engine.message = none → engine.resultShown = true → ∀ chosen o, Input.operator chosen = .ok o →
    ∀ observer, (Session.start (ofText settings engine.text) observer).step (.operator chosen) =
      (Session.start engine observer).step (.operator chosen)

theorem Engine.legible_restores (settings : Settings) (engine : Engine) (legible : engine.Legible settings) :
    engine.Restores settings where
  tokens := display_tokens legible
  editing := fun _ hidden => restored_editing legible hidden
  result := by
    intro display _ chosen o valid observer
    rw [restored legible display]
    exact Session.step_by_reaction _ _ observer _ (continued_operator engine chosen o valid)

theorem Session.always_restores (settings : Settings) (seed : Option Text) (observer : Option Observer)
    (commands : List Command) (command : Command) :
    let session := (start (.seeded settings seed) observer).after commands
    session.engine.Restores settings ∧
      (∀ reaction ∈ session.reactions command, reaction.engine.Restores settings) ∧
      Undergoes { session with seen := [], events := [] } (session.reactions command) (session.step command).2 := by
  intro session
  have keep : ∀ (engine : Engine) (command : Command), engine.Legible settings →
      (engine.react command).engine.Legible settings := fun engine command => engine.react_legible settings command
  have legible : session.engine.Legible settings :=
    after_keeps keep commands (start (.seeded settings seed) observer) (Engine.seeded_legible settings seed)
  refine ⟨Engine.legible_restores settings _ legible, fun reaction member => ?_, step_undergoes command session⟩
  exact Engine.legible_restores settings _ (Engine.reactions_keep keep session.engine command _ legible reaction member)

end PocketCalculator
