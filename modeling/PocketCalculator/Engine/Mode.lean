import PocketCalculator.Engine.Basic

set_option autoImplicit false

namespace PocketCalculator.Engine

-- Nothing of an earlier reduction is left.
def Editing (engine : Engine) : Prop :=
  engine.resultShown = false ∧ engine.message = none ∧ engine.lastFault = none ∧ engine.tokens ≠ []

def IsResult (settings : Settings) (result : Numeral) : Prop :=
  ∃ number, FixedPoint.written settings number = .ok result.text

-- One numeral in fixed-point text. It stays when it is reduced again, and only the fault is stored.
def ShowsResult (engine : Engine) : Prop :=
  engine.resultShown = true ∧ engine.message = none ∧
    ∃ result, engine.tokens = [.numeral result] ∧ IsResult engine.settings result ∧
      (engine.lastFault = none ∨ engine.lastFault = some (.missingElement (.text result.text)))

def ShowsFault (engine : Engine) : Prop :=
  engine.resultShown = true ∧ engine.tokens = [] ∧
    ∃ fault, engine.lastFault = some fault ∧ engine.message = some fault.message

theorem initial_editing (settings : Settings) : (initial settings).Editing := by
  simp [initial, Editing, Expression.initial]

theorem of_text_editing (settings : Settings) (t : Text) : (ofText settings t).Editing := by
  refine ⟨rfl, rfl, rfl, ?_⟩
  simp only [ofText]
  split
  · simp [Expression.initial]
  · rename_i words
    simpa using words

theorem editing_text (engine : Engine) (editing : engine.Editing) : engine.text = engine.tokens.rendered := by
  simp [text, editing.2.1]

theorem result_text (engine : Engine) (result : Numeral) (shown : engine.ShowsResult)
    (tokens : engine.tokens = [.numeral result]) : engine.text = result.text := by
  simp [text, shown.2.1, tokens, Expression.rendered, Text.joined, Token.text]

theorem fault_text (engine : Engine) (fault : Fault) (shown : engine.ShowsFault)
    (last : engine.lastFault = some fault) : engine.text = fault.message := by
  obtain ⟨_, _, stored, stands, message⟩ := shown
  have same : stored = fault := Option.some.inj (stands.symm.trans last)
  simp [text, message, same]

end PocketCalculator.Engine
