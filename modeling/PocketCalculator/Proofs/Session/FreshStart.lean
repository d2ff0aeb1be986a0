import PocketCalculator.Proofs.Session.Restoring
import PocketCalculator.Proofs.Numeral.Extension

set_option autoImplicit false

namespace PocketCalculator

-- Where input is the first of a new expression.
def Engine.BeginsAnew (engine : Engine) : Prop := engine.resultShown = true ∨ engine = initial engine.settings

namespace Engine

def begun (settings : Settings) (text : Text) : Reaction :=
  let engine := (initial settings).withTokens [.numeral (Numeral.empty.extend text)]
  engine.told (.accepted true) [.expressionChanged engine.text]

variable (engine : Engine) (text : Text)

theorem input_cleared (shown : engine.resultShown = true) : engine.takeInput text = begun engine.settings text := by
  have opened : engine.opened = (initial engine.settings).withTokens [] := by rw [Engine.opened, if_pos shown]; rfl
  rw [takeInput, opened]
  rfl

-- The zero of a fresh display goes, or stays as the zero that is put in front of a point.
theorem input_fresh (settings : Settings) (some_char : text ≠ []) (input : Input.isNumeralInput text = true) :
    (initial settings).takeInput text = begun settings text := by
  have opened : (initial settings).opened = initial settings := rfl
  have typed : (initial settings).tokens.typed text = .ok [.numeral (Numeral.zero.extend text)] := rfl
  rw [takeInput, opened, typed, Numeral.zero_extend text some_char input]
  rfl

theorem begins_anew (anew : engine.BeginsAnew) (typed : Value) (valid : Input.keystroke typed = .ok text) :
    engine.react (.numeral typed) = begun engine.settings text := by
  rw [react, valid]
  rcases anew with shown | fresh
  · exact engine.input_cleared text shown
  · obtain ⟨some_char, input⟩ := Input.keystroke_text typed text valid
    rw [fresh]
    exact input_fresh text engine.settings some_char input

end Engine

namespace Session

theorem begun_alone (engine : Engine) (anew : engine.BeginsAnew) (typed : Value) (text : Text)
    (valid : Input.keystroke typed = .ok text) :
    ((start engine none).step (.numeral typed)).1 = .ok (.accepted true) ∧
      ((start engine none).step (.numeral typed)).2.engine =
        (Engine.initial engine.settings).withTokens [.numeral (Numeral.empty.extend text)] := by
  obtain ⟨answer, left, _⟩ := step_alone (.numeral typed) (start engine none) rfl
  rw [answer, left, start, engine.begins_anew text anew typed valid]
  exact ⟨rfl, rfl⟩

theorem input_forgets (one other : Engine) (same : one.settings = other.settings) (first : one.BeginsAnew)
    (second : other.BeginsAnew) (typed : Value) (text : Text) (valid : Input.keystroke typed = .ok text) :
    let here := fun observer => (start one observer).step (.numeral typed)
    let there := fun observer => (start other observer).step (.numeral typed)
    (here none).1 = .ok (.accepted true) ∧ (there none).1 = .ok (.accepted true) ∧
      (here none).2.engine = (Engine.initial one.settings).withTokens [.numeral (Numeral.empty.extend text)] ∧
      ∀ observer, here observer = there observer ∧
        ∀ later, (here observer).2.outcomes later = (there observer).2.outcomes later := by
  intro here there
  obtain ⟨taken, left⟩ := begun_alone one first typed text valid
  refine ⟨taken, (begun_alone other second typed text valid).1, left, fun observer => ?_⟩
  have reaction : one.react (.numeral typed) = other.react (.numeral typed) := by
    rw [one.begins_anew text first typed valid, other.begins_anew text second typed valid, same]
  have step : here observer = there observer := step_by_reaction one other observer _ reaction
  exact ⟨step, fun later => by rw [step]⟩

theorem quarter_forgotten :
    let settings : Settings := ⟨0, 5, by decide⟩
    let one := ((start (.ofText settings "1 / 4".toList) none).after [.reduce]).engine
    let other := Engine.initial settings
    let typed : Value := .text "007.".toList
    one.settings = other.settings ∧ one.BeginsAnew ∧ other.BeginsAnew ∧ Input.keystroke typed = .ok "007.".toList ∧
      ((start one none).step (.numeral typed)).2.engine.text = "7.".toList ∧
      (start one (some .recorder)).step (.numeral typed) = (start other (some .recorder)).step (.numeral typed) := by
  intro settings one other typed
  have reduced : one = (Engine.ofText settings "1 / 4".toList).takeReduction.engine :=
    (step_alone .reduce (start (.ofText settings "1 / 4".toList) none) rfl).2.1
  have same : one.settings = other.settings := by
    rw [reduced, Engine.reduction_settings]
    rfl
  have first : one.BeginsAnew := by
    rw [reduced]
    exact .inl (Engine.reduction_tokens _).1
  have second : other.BeginsAnew := .inr rfl
  have valid : Input.keystroke typed = .ok "007.".toList := rfl
  obtain ⟨_, _, left, alike⟩ := input_forgets one other same first second typed _ valid
  refine ⟨same, first, second, valid, ?_, (alike (some .recorder)).1⟩
  rw [left]
  decide +kernel

end Session

end PocketCalculator
