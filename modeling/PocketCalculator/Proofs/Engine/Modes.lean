import PocketCalculator.Engine.Mode
import PocketCalculator.Proofs.Expression.Editing
import PocketCalculator.Proofs.Reduction.Outcome
import PocketCalculator.Proofs.Session.Reaction

set_option autoImplicit false

namespace PocketCalculator

inductive Mode where
  | editing
  | result
  | fault
  | unreduced
deriving DecidableEq

namespace Engine

-- The expression stays, and counts as shown although it is no result.
def Unreduced (engine : Engine) : Prop :=
  engine.resultShown = true ∧ engine.message = none ∧ engine.lastFault = none ∧ Reduction.Escapes engine.evaluate

def In (engine : Engine) : Mode → Prop
  | .editing => engine.Editing ∧ engine.text = engine.tokens.rendered
  | .result => engine.ShowsResult ∧ ∀ result, engine.tokens = [.numeral result] → engine.text = result.text
  | .fault => engine.ShowsFault ∧ ∀ fault, engine.lastFault = some fault → engine.text = fault.message
  | .unreduced => engine.Unreduced ∧ engine.text = engine.tokens.rendered

def mode (engine : Engine) : Mode :=
  if engine.resultShown then
    if engine.message.isSome then .fault
    else if engine.tokens.length = 1 then .result
    else .unreduced
  else .editing

def Settled (engine : Engine) : Prop :=
  engine.Editing ∨ engine.ShowsResult ∨ engine.ShowsFault ∨ engine.Unreduced

def seeded (settings : Settings) : Option Text → Engine
  | none => initial settings
  | some seed => ofText settings seed

theorem seeded_settled (settings : Settings) (seed : Option Text) : (seeded settings seed).Settled := by
  cases seed with
  | none => exact .inl (initial_editing settings)
  | some text => exact .inl (of_text_editing settings text)

theorem seeded_settings (settings : Settings) (seed : Option Text) : (seeded settings seed).settings = settings := by
  cases seed <;> rfl

theorem in_mode (engine : Engine) (found : Mode) (holds : engine.In found) : found = engine.mode := by
  cases found with
  | editing => simp [mode, holds.1.1]
  | result =>
      obtain ⟨⟨shown, message, result, tokens, _⟩, _⟩ := holds
      simp [mode, shown, message, tokens]
  | fault =>
      obtain ⟨⟨shown, _, fault, _, message⟩, _⟩ := holds
      simp [mode, shown, message]
  | unreduced =>
      obtain ⟨⟨shown, message, _, escapes⟩, _⟩ := holds
      have long := Reduction.escapes_long engine.settings engine.tokens escapes
      have several : engine.tokens.length ≠ 1 := by omega
      simp [mode, shown, message, several]

theorem modes_apart (engine : Engine) (one other : Mode) (first : engine.In one) (second : engine.In other) :
    other = one := by
  rw [in_mode engine one first, in_mode engine other second]

theorem settled_in (engine : Engine) (settled : engine.Settled) : ∃ found, engine.In found := by
  rcases settled with editing | result | fault | unreduced
  · exact ⟨.editing, editing, editing_text engine editing⟩
  · exact ⟨.result, result, fun numeral => result_text engine numeral result⟩
  · exact ⟨.fault, fault, fun stored => fault_text engine stored fault⟩
  · exact ⟨.unreduced, unreduced, by rw [text, unreduced.2.1]; rfl⟩

theorem settled_editing (engine : Engine) (settled : engine.Settled) (hidden : engine.resultShown = false) :
    engine.Editing := by
  rcases settled with editing | result | fault | unreduced
  · exact editing
  · exact absurd (hidden.symm.trans result.1) Bool.false_ne_true
  · exact absurd (hidden.symm.trans fault.1) Bool.false_ne_true
  · exact absurd (hidden.symm.trans unreduced.1) Bool.false_ne_true

theorem hidden_opened (engine : Engine) (hidden : engine.resultShown = false) : engine.opened = engine := by
  rw [opened, hidden]
  rfl

theorem opened_settings (engine : Engine) : engine.opened.settings = engine.settings := by
  rw [opened]
  cases engine.resultShown <;> rfl

theorem continued_settings (engine : Engine) : engine.continued.settings = engine.settings := by
  rw [continued]
  cases engine.resultShown <;> rfl

theorem opened_fresh (engine : Engine) (tokens : Expression) (settled : engine.Settled) (some_tokens : tokens ≠ []) :
    (engine.opened.withTokens tokens).Editing := by
  rw [opened]
  cases shown : engine.resultShown with
  | false =>
      have editing := settled_editing engine settled shown
      exact ⟨shown, editing.2.1, editing.2.2.1, some_tokens⟩
  | true => exact ⟨rfl, rfl, rfl, some_tokens⟩

theorem continued_fresh (engine : Engine) (tokens : Expression) (settled : engine.Settled)
    (some_tokens : tokens ≠ []) : (engine.continued.withTokens tokens).Editing := by
  rw [continued]
  cases shown : engine.resultShown with
  | false =>
      have editing := settled_editing engine settled shown
      exact ⟨shown, editing.2.1, editing.2.2.1, some_tokens⟩
  | true => exact ⟨rfl, rfl, rfl, some_tokens⟩

theorem input_settled (engine : Engine) (input : Text) (settled : engine.Settled) :
    (engine.takeInput input).engine.Settled := by
  rw [takeInput]
  cases typed : engine.opened.tokens.typed input with
  | ok tokens => exact .inl (opened_fresh engine tokens settled (Expression.typed_nonempty _ _ input typed))
  | error held =>
      have open_tokens := Expression.typed_refused _ held input typed
      exact .inl (opened_fresh engine engine.opened.tokens settled open_tokens)

theorem operator_settled (engine : Engine) (o : Operator) (settled : engine.Settled) :
    (engine.takeOperator o).engine.Settled :=
  .inl (continued_fresh engine _ settled (Expression.with_operator_nonempty _ o))

theorem lone_shows_result (engine : Engine) (settled : engine.Settled) (lone : engine.showsLoneResult = true) :
    engine.ShowsResult := by
  simp only [showsLoneResult, Bool.and_eq_true, decide_eq_true_eq] at lone
  obtain ⟨⟨shown, _⟩, single⟩ := lone
  rcases settled with editing | result | fault | unreduced
  · exact absurd (editing.1.symm.trans shown) Bool.false_ne_true
  · exact result
  · rw [fault.2.1] at single
    cases single
  · have long := Reduction.escapes_long engine.settings engine.tokens unreduced.2.2.2
    omega

theorem result_again (engine : Engine) (result : Numeral) (tokens : engine.tokens = [.numeral result])
    (written : IsResult engine.settings result) :
    engine.evaluate = .error (.fault (.missingElement (.text result.text))) := by
  obtain ⟨number, done⟩ := written
  have some_text := FixedPoint.written_nonempty engine.settings number result.text done
  have short : engine.tokens.length < 3 := by simp [tokens]
  have rendered : Expression.rendered [.numeral result] = result.text := rfl
  have value : Expression.shownText engine.tokens.rendered = .text result.text := by
    rw [tokens, rendered, Expression.shownText, if_neg (by simpa using some_text)]
  rw [evaluate, Reduction.evaluate_short engine.settings engine.tokens short, value]

theorem fault_settled (engine : Engine) (fault : Fault) (settled : engine.Settled)
    (failed : engine.evaluate = .error (.fault fault)) : (engine.takeFault fault).engine.Settled := by
  rw [takeFault]
  cases keeps : engine.keeps fault with
  | false => exact .inr (.inr (.inl ⟨rfl, rfl, fault, rfl, rfl⟩))
  | true =>
      obtain ⟨value, rfl, lone⟩ := keeps_missing engine fault keeps
      obtain ⟨_, message, result, tokens, written, _⟩ := lone_shows_result engine settled lone
      rw [result_again engine result tokens written] at failed
      cases failed
      exact .inr (.inl ⟨rfl, message, result, tokens, written, .inr rfl⟩)

theorem escape_unreduced (engine : Engine) (settled : engine.Settled) (escapes : Reduction.Escapes engine.evaluate) :
    engine.shown.Unreduced := by
  have long := Reduction.escapes_long engine.settings engine.tokens escapes
  rcases settled with editing | result | fault | unreduced
  · exact ⟨rfl, editing.2.1, editing.2.2.1, escapes⟩
  · obtain ⟨_, _, numeral, tokens, _⟩ := result
    simp [tokens] at long
  · simp [fault.2.1] at long
  · exact ⟨rfl, unreduced.2.1, unreduced.2.2.1, escapes⟩

theorem reduction_escapes (engine : Engine) (escapes : Reduction.Escapes engine.evaluate) :
    engine.takeReduction.engine = engine.shown := by
  obtain ⟨failure, failed, noFault⟩ := escapes
  rcases engine.reduction_cases with ⟨result, done, _⟩ | ⟨fault, faulted, _⟩ | ⟨_, _, reaction⟩
  · rw [failed] at done
    cases done
  · rw [failed] at faulted
    cases faulted
    exact absurd rfl (noFault fault)
  · rw [reaction]
    rfl

theorem reduction_settled (engine : Engine) (settled : engine.Settled) : engine.takeReduction.engine.Settled := by
  rcases engine.reduction_cases with
    ⟨result, outcome, reaction⟩ | ⟨fault, outcome, reaction⟩ | ⟨failure, escapes, reaction⟩
  · obtain ⟨z, _, written⟩ := Reduction.evaluate_writes engine.settings engine.tokens result outcome
    rw [reaction]
    exact .inr (.inl ⟨rfl, rfl, result, rfl, ⟨.real z, written⟩, .inl rfl⟩)
  · rw [reaction]
    exact fault_settled engine fault settled outcome
  · rw [reaction]
    exact .inr (.inr (.inr (escape_unreduced engine settled ⟨failure, escapes⟩)))

theorem react_settled (engine : Engine) (command : Command) (settled : engine.Settled) :
    (engine.react command).engine.Settled := by
  rcases engine.react_cases command with
    ⟨text, _, _, reaction⟩ | ⟨o, reaction⟩ | ⟨_, reaction⟩ | reaction | ⟨answer, reaction⟩
  · rw [reaction]
    exact input_settled engine text settled
  · rw [reaction]
    exact operator_settled engine o settled
  · rw [reaction]
    exact reduction_settled engine settled
  · rw [reaction]
    exact .inl (initial_editing engine.settings)
  · rw [reaction]
    exact settled

theorem input_settings (engine : Engine) (text : Text) : (engine.takeInput text).engine.settings = engine.settings := by
  rw [takeInput]
  cases engine.opened.tokens.typed text <;> exact opened_settings engine

theorem fault_settings (engine : Engine) (fault : Fault) :
    (engine.takeFault fault).engine.settings = engine.settings := by
  rw [takeFault]
  cases engine.keeps fault <;> rfl

theorem reduction_settings (engine : Engine) : engine.takeReduction.engine.settings = engine.settings := by
  rcases engine.reduction_cases with ⟨result, _, reaction⟩ | ⟨fault, _, reaction⟩ | ⟨failure, _, reaction⟩
  · rw [reaction]
    rfl
  · rw [reaction]
    exact fault_settings engine fault
  · rw [reaction]
    rfl

theorem react_settings (engine : Engine) (command : Command) :
    (engine.react command).engine.settings = engine.settings := by
  rcases engine.react_cases command with
    ⟨text, _, _, reaction⟩ | ⟨o, reaction⟩ | ⟨_, reaction⟩ | reaction | ⟨answer, reaction⟩
  · rw [reaction]
    exact input_settings engine text
  · rw [reaction]
    exact continued_settings engine
  · rw [reaction]
    exact reduction_settings engine
  · rw [reaction]
    rfl
  · rw [reaction]
    rfl

end Engine

end PocketCalculator
