import PocketCalculator.Proofs.Engine.Entry
import PocketCalculator.Proofs.Numeral.Proper

set_option autoImplicit false

namespace PocketCalculator

namespace Expression

theorem empty_proper : IsProper [] := fun _ member => by cases member

theorem initial_proper : initial.IsProper := by
  intro n member
  cases List.mem_singleton.mp member
  exact Numeral.displayed_proper _ (Numeral.entered_displayed _ Numeral.zero_entered)

theorem snoc_proper (tokens : Expression) (token : Token) (proper : tokens.IsProper)
    (last : ∀ n, token = .numeral n → n.IsProper) : IsProper (tokens ++ [token]) := by
  intro n member
  rcases List.mem_append.mp member with before | here
  · exact proper n before
  · exact last n (List.mem_singleton.mp here).symm

theorem left_proper (tokens : Expression) (proper : tokens.IsProper) : IsProper tokens.dropLast :=
  fun n member => proper n (List.dropLast_subset tokens member)

theorem typed_proper (tokens next : Expression) (text : Text) (proper : tokens.IsProper) (some_char : text ≠ [])
    (input : Input.isNumeralInput text = true) (taken : tokens.typed text = .ok next) : next.IsProper := by
  have placed : ∀ (front : Expression) (n : Numeral), front.IsProper → (∀ c ∈ n.text, Blank.isSeparator c = false) →
      IsProper (front ++ [.numeral (n.extend text)]) := by
    intro front n before solid
    refine snoc_proper front _ before fun m same => ?_
    cases same
    exact Numeral.extended_proper n text solid some_char input
  rw [typed] at taken
  split at taken
  · rename_i last found
    split at taken
    · cases taken
    · cases taken
      exact placed _ last (left_proper tokens proper) (proper last (List.mem_of_getLast? found)).1.2
  · cases taken
    exact placed tokens .empty proper fun c member => by cases member

theorem with_operator_proper (tokens : Expression) (o : Operator) (proper : tokens.IsProper) :
    IsProper (tokens.withOperator o) := by
  have kept : IsProper tokens.withoutTrailingOperator := by
    rw [withoutTrailingOperator]
    split
    · exact left_proper tokens proper
    · exact proper
  rw [withOperator]
  split
  · exact initial_proper
  · exact snoc_proper _ _ kept fun n same => by cases same

end Expression

namespace Engine

variable (engine : Engine)

theorem seeded_proper (settings : Settings) (seed : Option Text) : (seeded settings seed).tokens.IsProper := by
  cases seed with
  | none => exact Expression.initial_proper
  | some t =>
      change Expression.IsProper (if (Expression.ofText t).isEmpty then Expression.initial else Expression.ofText t)
      split
      · exact Expression.initial_proper
      · exact Expression.of_text_proper t

theorem opened_proper (proper : engine.tokens.IsProper) : engine.opened.tokens.IsProper := by
  rw [opened]
  split
  · exact Expression.empty_proper
  · exact proper

theorem continued_proper (proper : engine.tokens.IsProper) : engine.continued.tokens.IsProper := by
  rcases engine.continued_tokens with gone | kept
  · rw [gone]
    exact Expression.empty_proper
  · rw [kept]
    exact proper

theorem input_proper (text : Text) (some_char : text ≠ []) (input : Input.isNumeralInput text = true)
    (proper : engine.tokens.IsProper) : (engine.takeInput text).engine.tokens.IsProper := by
  have opens := opened_proper engine proper
  rw [takeInput]
  cases typed : engine.opened.tokens.typed text with
  | error held => exact opens
  | ok tokens => exact Expression.typed_proper _ tokens text opens some_char input typed

theorem reduction_proper (proper : engine.tokens.IsProper) : engine.takeReduction.engine.tokens.IsProper := by
  obtain ⟨_, gone | kept | ⟨result, only, _, displayed⟩⟩ := engine.reduction_tokens
  · rw [gone]
    exact Expression.empty_proper
  · rw [kept]
    exact proper
  · intro n member
    rw [only] at member
    cases List.mem_singleton.mp member
    exact Numeral.displayed_proper result displayed

theorem react_proper (command : Command) (proper : engine.tokens.IsProper) :
    (engine.react command).engine.tokens.IsProper := by
  rcases engine.react_cases command with
    ⟨text, some_char, input, reaction⟩ | ⟨o, reaction⟩ | ⟨_, reaction⟩ | reaction | ⟨answer, reaction⟩
  · rw [reaction]
    exact input_proper engine text some_char input proper
  · rw [reaction]
    exact Expression.with_operator_proper _ o (continued_proper engine proper)
  · rw [reaction]
    exact reduction_proper engine proper
  · rw [reaction]
    exact Expression.initial_proper
  · rw [reaction]
    exact proper

structure Legible (settings : Settings) (engine : Engine) : Prop where
  settled : engine.Settled
  configured : engine.settings = settings
  proper : engine.tokens.IsProper

theorem seeded_legible (settings : Settings) (seed : Option Text) : (seeded settings seed).Legible settings :=
  ⟨seeded_settled settings seed, seeded_settings settings seed, seeded_proper settings seed⟩

theorem react_legible (settings : Settings) (command : Command) (legible : engine.Legible settings) :
    (engine.react command).engine.Legible settings where
  settled := react_settled engine command legible.settled
  configured := (react_settings engine command).trans legible.configured
  proper := react_proper engine command legible.proper

variable {engine} {settings : Settings}

theorem display_tokens (legible : engine.Legible settings) (display : engine.message = none) :
    Expression.ofText engine.text = engine.tokens := by
  rw [text, display]
  exact Expression.of_text_rendered engine.tokens legible.proper

theorem display_nonempty (legible : engine.Legible settings) (display : engine.message = none) :
    engine.tokens ≠ [] := by
  intro empty
  obtain ⟨_, _, fault, _, message⟩ := settled_empty engine legible.settled empty
  rw [display] at message
  cases message

-- Only what an operator does away with anyway is not restored.
theorem restored (legible : engine.Legible settings) (display : engine.message = none) :
    ofText settings engine.text = engine.continued := by
  have some_tokens : engine.tokens.isEmpty = false := by simpa using display_nonempty legible display
  have same := legible.configured
  rw [ofText, display_tokens legible display, some_tokens, if_neg Bool.false_ne_true, continued]
  cases shown : engine.resultShown with
  | false =>
      have editing := settled_editing engine legible.settled shown
      obtain ⟨tokens, resultShown, message, lastFault, settings⟩ := engine
      obtain ⟨rfl, rfl, rfl, _⟩ := editing
      cases same
      rfl
  | true =>
      rw [display]
      obtain ⟨tokens, resultShown, message, lastFault, settings⟩ := engine
      cases same
      rfl

theorem continued_hidden (engine : Engine) : engine.continued.resultShown = false := by
  rw [continued]
  cases shown : engine.resultShown with
  | false => exact shown
  | true => rfl

theorem continued_still (engine : Engine) (hidden : engine.resultShown = false) : engine.continued = engine := by
  rw [continued, hidden, if_neg Bool.false_ne_true]

theorem restored_editing (legible : engine.Legible settings) (hidden : engine.resultShown = false) :
    ofText settings engine.text = engine := by
  have editing := settled_editing engine legible.settled hidden
  exact (restored legible editing.2.1).trans (continued_still engine hidden)

theorem continued_operator (engine : Engine) (chosen : Value) (o : Operator) (valid : Input.operator chosen = .ok o) :
    engine.continued.react (.operator chosen) = engine.react (.operator chosen) := by
  have twice := continued_still engine.continued (continued_hidden engine)
  simp only [react, valid, takeOperator, twice]

end Engine

end PocketCalculator
