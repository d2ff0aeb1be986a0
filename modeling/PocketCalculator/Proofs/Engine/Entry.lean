import PocketCalculator.Proofs.Engine.Modes
import PocketCalculator.Proofs.Expression.Entry
import PocketCalculator.Proofs.FixedPoint.Layout
import PocketCalculator.Proofs.Session.Course

set_option autoImplicit false

namespace PocketCalculator

namespace Engine

def Obtained (start : Engine) (done : List Command) (n : Numeral) : Prop :=
  ∃ earlier, earlier ++ [.reduce] <+: done ∧ (start.after earlier).evaluate = .ok n

theorem obtained_mono (start : Engine) (done more : List Command) (n : Numeral) (before : start.Obtained done n) :
    start.Obtained (done ++ more) n := by
  obtain ⟨earlier, inside, result⟩ := before
  exact ⟨earlier, inside.trans (List.prefix_append done more), result⟩

def Enters (obtained : Numeral → Prop) (engine : Engine) : Prop :=
  ∃ entry : Entry, engine.tokens = entry.tokens ∧ Numeral.FrontObtained obtained entry.numerals ∧
    (engine.resultShown = false → entry.Open)

variable {obtained : Numeral → Prop} (engine : Engine)

theorem empty_enters (empty : engine.tokens = []) : engine.Enters obtained :=
  ⟨⟨[], none⟩, empty, Numeral.front_obtained_nil, fun _ _ impossible => by cases impossible⟩

theorem initial_enters (settings : Settings) : (initial settings).Enters obtained := by
  refine ⟨⟨[], some .zero⟩, rfl, Numeral.front_obtained_snoc [] _ Numeral.front_obtained_nil Numeral.zero_entered, ?_⟩
  intro _ n same
  cases same
  exact Numeral.zero_entered

theorem enters_mono {wider : Numeral → Prop} (enters : engine.Enters obtained) (more : ∀ n, obtained n → wider n) :
    engine.Enters wider := by
  obtain ⟨entry, same, front, opens⟩ := enters
  exact ⟨entry, same, Numeral.front_obtained_mono _ front more, opens⟩

theorem opened_enters (enters : engine.Enters obtained) :
    engine.opened.Enters obtained ∧ engine.opened.resultShown = false := by
  rw [opened]
  cases shown : engine.resultShown with
  | false => exact ⟨enters, shown⟩
  | true => exact ⟨empty_enters engine.cleared rfl, rfl⟩

theorem continued_tokens : engine.continued.tokens = [] ∨ engine.continued.tokens = engine.tokens := by
  rw [continued]
  cases engine.resultShown with
  | false => exact .inr rfl
  | true =>
      cases gone : engine.message.isSome with
      | true => exact .inl rfl
      | false => exact .inr rfl

theorem continued_enters (enters : engine.Enters obtained) :
    ∃ entry : Entry, engine.continued.tokens = entry.tokens ∧ Numeral.FrontObtained obtained entry.numerals := by
  obtain ⟨entry, same, front, _⟩ := enters
  rcases engine.continued_tokens with gone | kept
  · exact ⟨⟨[], none⟩, gone, Numeral.front_obtained_nil⟩
  · exact ⟨entry, kept.trans same, front⟩

theorem input_enters (text : Text) (some_char : text ≠ []) (input : Input.isNumeralInput text = true)
    (enters : engine.Enters obtained) : (engine.takeInput text).engine.Enters obtained := by
  obtain ⟨opens, hidden⟩ := opened_enters engine enters
  rw [takeInput]
  cases typed : engine.opened.tokens.typed text with
  | error held => exact opens
  | ok tokens =>
      obtain ⟨entry, same, front, may_go_on⟩ := opens
      rw [same, Entry.typed_tokens] at typed
      cases taken : entry.typed text with
      | error held =>
          rw [taken] at typed
          cases typed
      | ok next =>
          rw [taken] at typed
          cases typed
          obtain ⟨fits, open_next⟩ := entry.typed_fits next text front (may_go_on hidden) some_char input taken
          exact ⟨next, rfl, fits, fun _ => open_next⟩

theorem operator_enters (o : Operator) (enters : engine.Enters obtained) :
    (engine.takeOperator o).engine.Enters obtained := by
  obtain ⟨entry, same, front⟩ := continued_enters engine enters
  obtain ⟨fits, open_next⟩ := entry.with_operator_fits o front
  refine ⟨entry.withOperator o, ?_, fits, fun _ => open_next⟩
  rw [← Entry.with_operator_tokens, ← same]
  rfl

theorem fault_tokens (fault : Fault) : (engine.takeFault fault).engine.resultShown = true ∧
    ((engine.takeFault fault).engine.tokens = [] ∨ (engine.takeFault fault).engine.tokens = engine.tokens) := by
  rw [takeFault]
  cases engine.keeps fault with
  | false => exact ⟨rfl, .inl rfl⟩
  | true => exact ⟨rfl, .inr rfl⟩

theorem reduction_tokens : engine.takeReduction.engine.resultShown = true ∧
    (engine.takeReduction.engine.tokens = [] ∨ engine.takeReduction.engine.tokens = engine.tokens ∨
      ∃ result, engine.takeReduction.engine.tokens = [.numeral result] ∧ engine.evaluate = .ok result ∧
        result.Displayed) := by
  rcases engine.reduction_cases with ⟨result, done, reaction⟩ | ⟨fault, _, reaction⟩ | ⟨failure, _, reaction⟩
  · obtain ⟨z, finite, written⟩ := Reduction.evaluate_writes engine.settings engine.tokens result done
    have displayed := FixedPoint.written_displayed engine.settings z finite result.text written
    rw [reaction]
    exact ⟨rfl, .inr (.inr ⟨result, rfl, done, displayed⟩)⟩
  · obtain ⟨shown, tokens⟩ := engine.fault_tokens fault
    rw [reaction]
    exact ⟨shown, tokens.imp_right .inl⟩
  · rw [reaction]
    exact ⟨rfl, .inr (.inl rfl)⟩

theorem reduction_enters (comes_to : ∀ n, engine.evaluate = .ok n → obtained n) (enters : engine.Enters obtained) :
    engine.takeReduction.engine.Enters obtained := by
  obtain ⟨shown, gone | kept | ⟨result, only, done, displayed⟩⟩ := engine.reduction_tokens
  · exact empty_enters _ gone
  · obtain ⟨entry, same, front, _⟩ := enters
    exact ⟨entry, kept.trans same, front, fun hidden => by rw [shown] at hidden; cases hidden⟩
  · exact ⟨⟨[], some result⟩, only, Numeral.front_obtained_alone result displayed (comes_to result done),
      fun hidden => by rw [shown] at hidden; cases hidden⟩

theorem react_enters (command : Command) (comes_to : command = .reduce → ∀ n, engine.evaluate = .ok n → obtained n)
    (enters : engine.Enters obtained) : (engine.react command).engine.Enters obtained := by
  rcases engine.react_cases command with
    ⟨text, some_char, input, reaction⟩ | ⟨o, reaction⟩ | ⟨reduces, reaction⟩ | reaction | ⟨answer, reaction⟩
  · rw [reaction]
    exact input_enters engine text some_char input enters
  · rw [reaction]
    exact operator_enters engine o enters
  · rw [reaction]
    exact reduction_enters engine (comes_to reduces) enters
  · rw [reaction]
    exact initial_enters engine.settings
  · rw [reaction]
    exact enters

-- The course that a fresh engine has taken, and what it has come to.
structure Keyed (settings : Settings) (done : List Command) (engine : Engine) : Prop where
  reached : engine = (initial settings).after done
  settled : engine.Settled
  configured : engine.settings = settings
  enters : engine.Enters ((initial settings).Obtained done)

theorem after_keyed (settings : Settings) (done : List Command) :
    Keyed settings done ((initial settings).after done) := by
  have keep : ∀ done engine command, Keyed settings done engine →
      Keyed settings (done ++ [command]) (engine.react command).engine := by
    intro done engine command keyed
    refine ⟨?_, react_settled engine command keyed.settled, (react_settings engine command).trans keyed.configured, ?_⟩
    · rw [keyed.reached, after_snoc]
    · apply react_enters engine command
      · rintro rfl n result
        rw [keyed.reached] at result
        exact ⟨done, List.prefix_rfl, result⟩
      · exact enters_mono engine keyed.enters (obtained_mono _ done [command])
  have start : Keyed settings [] (initial settings) :=
    ⟨rfl, .inl (initial_editing settings), rfl, initial_enters settings⟩
  exact after_holds keep (initial settings) [] done start

theorem settled_empty (settled : engine.Settled) (empty : engine.tokens = []) : engine.ShowsFault := by
  rcases settled with editing | result | fault | unreduced
  · exact absurd empty editing.2.2.2
  · obtain ⟨_, _, numeral, tokens, _⟩ := result
    rw [tokens] at empty
    cases empty
  · exact fault
  · have long := Reduction.escapes_long engine.settings engine.tokens unreduced.2.2.2
    rw [empty] at long
    cases long

end Engine

end PocketCalculator
