import PocketCalculator.Proofs.Expression.Keying
import PocketCalculator.Proofs.Session.Refused
import PocketCalculator.Proofs.Session.Spectators

set_option autoImplicit false

namespace PocketCalculator

-- No digit but zeros, typed where the numeral behind is nothing but a zero itself.
def Expression.AbsorbsZeros (tokens : Expression) (text : Text) : Prop :=
  (∃ held, tokens.getLast? = some (.numeral held) ∧ (held.text = ['0'] ∨ held.text = ['-', '0'])) ∧
    ∀ c ∈ text, c = '0'

theorem Expression.typed_same_iff (tokens : Expression) (text : Text) (some_char : text ≠ []) :
    tokens.typed text = .ok tokens ↔ tokens.AbsorbsZeros text := by
  rw [AbsorbsZeros]
  cases last : tokens.getLast? with
  | none => simp [typed, last]
  | some token =>
      cases token with
      | operator o => simp [typed, last]
      | numeral n =>
          obtain ⟨front, rfl⟩ := List.getLast?_eq_some_iff.mp last
          rw [typed_numeral]
          by_cases refused : (n.hasPoint && text.contains '.') = true
          · rw [if_pos refused]
            rw [Bool.and_eq_true, List.contains_iff_mem] at refused
            constructor
            · intro same
              cases same
            · rintro ⟨_, zeros⟩
              exact absurd (zeros '.' refused.2) (by decide)
          · rw [if_neg refused, Except.ok.injEq, List.append_cancel_left_eq, List.cons.injEq, Token.numeral.injEq,
              n.extend_same_iff text some_char]
            simp

namespace Engine

-- The same to those who look at the expression, at whether it is a result, and at the last fault.
structure Alike (one other : Engine) : Prop where
  tokens : one.tokens = other.tokens
  resultShown : one.resultShown = other.resultShown
  lastFault : one.lastFault = other.lastFault

def AbsorbsZeros (engine : Engine) (text : Text) : Prop := engine.Editing ∧ engine.tokens.AbsorbsZeros text

variable (engine : Engine) (text : Text)

theorem opened_hidden : engine.opened.resultShown = false := by
  cases shown : engine.resultShown with
  | false => rw [engine.hidden_opened shown, shown]
  | true =>
      rw [opened, if_pos shown]
      rfl

theorem absorbed_same (tokens : Expression) (some_char : text ≠ [])
    (typed : engine.opened.tokens.typed text = .ok tokens) (absorbs : engine.AbsorbsZeros text) :
    engine.opened.withTokens tokens = engine := by
  rw [engine.hidden_opened absorbs.1.1] at typed ⊢
  cases typed.symm.trans ((engine.tokens.typed_same_iff text some_char).mpr absorbs.2)
  rfl

theorem taken_alike_iff (tokens : Expression) (settled : engine.Settled) (some_char : text ≠ [])
    (typed : engine.opened.tokens.typed text = .ok tokens) :
    (engine.opened.withTokens tokens).Alike engine ↔ engine.AbsorbsZeros text := by
  constructor
  · intro alike
    have hidden : engine.resultShown = false := alike.resultShown.symm.trans engine.opened_hidden
    have kept : tokens = engine.tokens := alike.tokens
    rw [engine.hidden_opened hidden, kept] at typed
    exact ⟨engine.settled_editing settled hidden, (engine.tokens.typed_same_iff text some_char).mp typed⟩
  · intro absorbs
    rw [engine.absorbed_same text tokens some_char typed absorbs]
    exact ⟨rfl, rfl, rfl⟩

theorem absorbs_accepts (absorbs : engine.AbsorbsZeros text) : ¬ engine.RefusesPoint text := by
  rintro ⟨_, point, _⟩
  exact absurd (absorbs.2.2 '.' point) (by decide)

theorem input_told_iff (settled : engine.Settled) (some_char : text ≠ []) :
    let left := (engine.takeInput text).engine
    ((engine.takeInput text).told = true ↔ ¬ left.Alike engine ∨ engine.AbsorbsZeros text) ∧
      ((engine.takeInput text).told = true ↔ ¬ engine.RefusesPoint text) ∧
      (engine.AbsorbsZeros text → left = engine) := by
  by_cases refuses : engine.RefusesPoint text
  · obtain ⟨held, reaction⟩ := Session.refused_reaction engine settled text refuses
    have rejected : ¬ engine.AbsorbsZeros text := fun absorbs => engine.absorbs_accepts text absorbs refuses
    have alike : engine.Alike engine := ⟨rfl, rfl, rfl⟩
    rw [reaction]
    simp [quiet, refuses, rejected, alike]
  · obtain ⟨tokens, typed, reaction⟩ := Session.accepted_reaction engine settled text refuses
    have alike := engine.taken_alike_iff text tokens settled some_char typed
    rw [reaction]
    refine ⟨?_, ⟨fun _ => refuses, fun _ => rfl⟩, engine.absorbed_same text tokens some_char typed⟩
    exact ⟨fun _ => (Classical.em _).symm.imp_left fun apart => apart ∘ alike.mp, fun _ => rfl⟩

end Engine

namespace Session

theorem input_tells_of_changes (settings : Settings) (seed : Option Text) (observer : Option Observer)
    (commands : List Command) :
    let session := (start (.seeded settings seed) observer).after commands
    ∀ text : Text, Value.IsInput (.text text) →
      let typing : Command := .numeral (.text text)
      let called := session.step typing
      let left := (session.engine.react typing).engine
      let taken := ¬ left.Alike session.engine ∨ session.engine.AbsorbsZeros text
      ((session.engine.react typing).told = true ↔ taken) ∧
        (taken → called.1 = (session.notified typing).map fun _ => .accepted true) ∧
        (¬ taken → called.1 = .ok (.accepted false) ∧ session.Untouched called.2) ∧
        (session.engine.AbsorbsZeros text → left = session.engine) ∧
        (Observer.Spectates session.observer → called.2.engine = left ∧
          (taken → called.2.seen = if session.observer.isSome then [left.text] else [])) := by
  intro session text input typing called left taken
  have settled : session.engine.Settled :=
    after_keeps (fun engine command => engine.react_settled command) commands (start (.seeded settings seed) observer)
      (Engine.seeded_settled settings seed)
  obtain ⟨told, accepts, absorbed⟩ := session.engine.input_told_iff text settled input.1
  rw [← input_taken _ text input] at told accepts absorbed
  refine ⟨told, fun takes => ?_, fun leaves => ?_, absorbed, fun spectates => ?_⟩
  · exact input_answers session text input settled (accepts.mp (told.mpr takes))
  · have refuses : session.engine.RefusesPoint text :=
      Classical.byContradiction fun accepted => leaves (told.mp (accepts.mpr accepted))
    exact point_refused session text input settled refuses
  · obtain ⟨_, engine, seen⟩ := step_spectated typing session spectates
    refine ⟨engine, fun takes => ?_⟩
    rw [seen, told.mpr takes, Bool.and_true]

theorem zeros_absorbed_and_points_told_of :
    let settings : Settings := ⟨0, 5, by decide⟩
    let session := start (.seeded settings (some "-0".toList)) (some .recorder)
    let pointed := session.after [.numeral (.text ['.'])]
    let zeros : Command := .numeral (.text "00".toList)
    let point : Command := .numeral (.text ['.'])
    Value.IsInput (.text "00".toList) ∧ Value.IsInput (.text ['.']) ∧
      (session.step zeros).1 = .ok (.accepted true) ∧ (session.step zeros).2.engine = session.engine ∧
      (session.step zeros).2.seen = ["-0".toList] ∧ (session.step point).1 = .ok (.accepted true) ∧
      ¬ (session.step point).2.engine.Alike session.engine ∧ (session.step point).2.seen = ["-0.".toList] ∧
      (pointed.step point).1 = .ok (.accepted false) ∧ pointed.Untouched (pointed.step point).2 := by
  intro settings session pointed zeros point
  have digits : ∀ c ∈ "00".toList, DecimalDigit.isDecimal c = true := List.all_eq_true.mp (by decide)
  have zero_input : Value.IsInput (.text "00".toList) :=
    ⟨by decide, fun c member => .inr (digits c member), by decide⟩
  have point_input : Value.IsInput (.text ['.']) :=
    ⟨by decide, fun c member => .inl (List.mem_singleton.mp member), by decide⟩
  have tells := input_tells_of_changes settings (some "-0".toList) (some .recorder) []
  have tells_later := input_tells_of_changes settings (some "-0".toList) (some .recorder) [point]
  have absorbs : session.engine.AbsorbsZeros "00".toList :=
    ⟨Engine.of_text_editing settings _, ⟨⟨"-0".toList⟩, rfl, .inr rfl⟩, (Numeral.all_zeros _).mp rfl⟩
  have changes : ¬ (session.engine.react point).engine.Alike session.engine := by
    rintro ⟨tokens, _, _⟩
    exact absurd tokens (by decide +kernel)
  obtain ⟨_, accepted, _, absorbed, watched⟩ := tells "00".toList zero_input
  obtain ⟨_, taken, _, _, heard⟩ := tells ['.'] point_input
  obtain ⟨_, _, refused, _⟩ := tells_later ['.'] point_input
  obtain ⟨kept, shown⟩ := watched rfl
  obtain ⟨changed, seen⟩ := heard rfl
  have moved : (session.step point).2.engine = (session.engine.react point).engine := changed
  refine ⟨zero_input, point_input, accepted (.inr absorbs), kept.trans (absorbed absorbs), shown (.inr absorbs),
    taken (.inl changes), ?_, seen (.inl changes), refused ?_⟩
  · rw [moved]
    exact changes
  · rintro (unlike | again)
    · exact unlike ⟨rfl, rfl, rfl⟩
    · exact absurd (again.2.2 '.' (List.mem_singleton_self _)) (by decide)

theorem absorbed_zero_told_of :
    let session := start (.initial ⟨0, 5, by decide⟩) (some .recorder)
    let called := session.step (.numeral (.text ['0']))
    Value.IsInput (.text ['0']) ∧ called.1 = .ok (.accepted true) ∧ called.2.engine = session.engine ∧
      called.2.seen = [['0']] := by
  intro session called
  have digit : ∀ c ∈ ['0'], DecimalDigit.isDecimal c = true := List.all_eq_true.mp (by decide)
  exact ⟨⟨by decide, fun c member => .inr (digit c member), by decide⟩, rfl, rfl, rfl⟩

end Session

end PocketCalculator
