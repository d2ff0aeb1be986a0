import PocketCalculator.Proofs.Engine.Continuation
import PocketCalculator.Proofs.Expression.Keying
import PocketCalculator.Proofs.Session.Spectators

set_option autoImplicit false

namespace PocketCalculator

def Command.typing (text : Text) : Command := .numeral (.text text)

theorem Input.keystroke_of_text (text taken : Text) :
    keystroke (.text text) = .ok taken ↔ taken = text ∧ text ≠ [] ∧ isNumeralInput text = true := by
  constructor
  · intro accepted
    have valid := keystroke_text _ _ accepted
    rw [keystroke, keyedText] at accepted
    split at accepted
    · cases accepted
    · split at accepted
      · cases accepted
        exact ⟨rfl, valid⟩
      · cases accepted
  · rintro ⟨rfl, some_char, input⟩
    rw [keystroke, keyedText, if_neg (by simpa using some_char), if_pos input]

theorem Command.keyed_input (command : Command) (text : Text) (keyed : .input text ∈ command.keys) :
    Input.isNumeralInput text = true := by
  cases command with
  | numeral typed =>
      rw [keys] at keyed
      cases valid : Input.keystroke typed with
      | error fault => simp [valid, Except.toOption] at keyed
      | ok taken =>
          have same : text = taken := by simpa [valid, Except.toOption] using keyed
          rw [same]
          exact (Input.keystroke_text typed taken valid).2
  | operator chosen => simp [keys] at keyed
  | _ => cases keyed

namespace Engine

def Accepts (engine : Engine) (text : Text) (next : Engine) : Prop :=
  (engine.react (.typing text)).answer = .ok (.accepted true) ∧ (engine.react (.typing text)).engine = next

theorem accepts_iff (engine : Engine) (text : Text) (next : Engine) :
    engine.Accepts text next ↔ (text ≠ [] ∧ Input.isNumeralInput text = true) ∧
      ∃ tokens, engine.opened.tokens.typed text = .ok tokens ∧ engine.opened.withTokens tokens = next := by
  rw [Accepts, Command.typing, react]
  cases valid : Input.keystroke (.text text) with
  | error fault =>
      constructor
      · intro accepted
        cases accepted.1
      · intro accepted
        rw [(Input.keystroke_of_text text text).mpr ⟨rfl, accepted.1⟩] at valid
        cases valid
  | ok taken =>
      obtain ⟨rfl, input⟩ := (Input.keystroke_of_text text taken).mp valid
      dsimp only [takeInput]
      cases engine.opened.tokens.typed taken with
      | error held =>
          constructor
          · rintro ⟨⟨⟩, _⟩
          · rintro ⟨_, tokens, ⟨⟩, _⟩
      | ok tokens =>
          constructor
          · rintro ⟨_, rfl⟩
            exact ⟨input, tokens, rfl, rfl⟩
          · rintro ⟨_, _, typed, rfl⟩
            cases typed
            exact ⟨rfl, rfl⟩

theorem opened_once (engine : Engine) (tokens : Expression) :
    (engine.opened.withTokens tokens).opened = engine.opened.withTokens tokens := by
  have editing : engine.opened.resultShown = false := by
    rw [opened]
    split
    · rfl
    · rename_i editing
      simpa using editing
  have still : ¬ (engine.opened.withTokens tokens).resultShown = true := by
    rw [Bool.not_eq_true]
    exact editing
  rw [opened, if_neg still]

theorem accepts_joined (engine middle next : Engine) (first second : Text) (taken : engine.Accepts first middle)
    (going_on : middle.Accepts second next) : engine.Accepts (first ++ second) next := by
  obtain ⟨⟨some_char, input⟩, held, typed, rfl⟩ := (accepts_iff engine first middle).mp taken
  obtain ⟨⟨_, also_input⟩, tokens, also_typed, rfl⟩ := (accepts_iff _ second next).mp going_on
  rw [opened_once] at also_typed ⊢
  obtain ⟨whole, one_point⟩ := Expression.typed_typed _ held tokens first second typed also_typed
  exact (accepts_iff engine _ _).mpr ⟨⟨List.append_ne_nil_of_left_ne_nil some_char _,
    Numeral.input_append first second input also_input one_point⟩, tokens, whole, rfl⟩

theorem accepts_flatten (engine next : Engine) (first : Text) (rest : List Text) (taken : engine.Accepts first next)
    (accepted : ∀ reaction ∈ next.trace (rest.map Command.typing), reaction.answer = .ok (.accepted true)) :
    engine.Accepts (first ++ rest.flatten) (next.after (rest.map Command.typing)) := by
  induction rest generalizing first next with
  | nil =>
      rw [List.flatten_nil, List.append_nil]
      exact taken
  | cons second rest ih =>
      obtain ⟨here, there⟩ := List.forall_mem_cons.mp accepted
      have joined := accepts_joined engine next _ first second taken ⟨here, rfl⟩
      have later := ih _ (first ++ second) joined there
      rwa [List.append_assoc] at later

end Engine

namespace Session

theorem typing_alone (texts : List Text) : ∀ command ∈ texts.map Command.typing, command.observerAfter none = none := by
  intro command member
  obtain ⟨text, _, rfl⟩ := List.mem_map.mp member
  rfl

theorem pieces_joined (session : Session) (pieces : List Text) (alone : session.observer = none) (some_piece : pieces ≠ [])
    (accepted : ∀ outcome ∈ session.outcomes (pieces.map Command.typing), outcome.1 = .ok (.accepted true)) :
    (session.step (.typing pieces.flatten)).1 = .ok (.accepted true) ∧
      (session.step (.typing pieces.flatten)).2.engine = (session.after (pieces.map Command.typing)).engine := by
  obtain ⟨first, rest, rfl⟩ := List.exists_cons_of_ne_nil some_piece
  have reacted : ∀ reaction ∈ session.engine.trace ((first :: rest).map Command.typing),
      reaction.answer = .ok (.accepted true) := by
    have answers := outcomes_alone _ session alone (typing_alone (first :: rest))
    intro reaction member
    have answered : reaction.answer ∈ (session.outcomes ((first :: rest).map Command.typing)).map Prod.fst := by
      rw [answers]
      exact List.mem_map_of_mem member
    obtain ⟨outcome, called, same⟩ := List.mem_map.mp answered
    rw [← same, accepted outcome called]
  obtain ⟨here, there⟩ := List.forall_mem_cons.mp reacted
  obtain ⟨whole, engine⟩ := Engine.accepts_flatten session.engine _ first rest ⟨here, rfl⟩ there
  obtain ⟨answer, left, _⟩ := step_alone (.typing (first :: rest).flatten) session alone
  rw [answer, left, (after_alone _ session alone (typing_alone _)).1]
  exact ⟨whole, engine⟩

theorem keystrokes_normal_form (settings : Settings) (observer : Option Observer) (spectates : Observer.Spectates observer)
    (commands : List Command) (keystrokes : ∀ command ∈ commands, command.IsKeystroke) :
    let keys := commands.flatMap Command.keys
    let runs := (['0'] :: (Key.runs keys).first) :: (Key.runs keys).rest.map Prod.snd
    ((start (.initial settings) observer).after commands).engine =
        (Engine.initial settings).withTokens (Key.normalForm keys) ∧
      (∀ run ∈ runs, ∀ n, Numeral.Tidies (Key.kept false run).flatten n ↔ n = Key.numeralOf run) ∧
      ∀ (session : Session) (pieces : List Text), session.observer = none → pieces ≠ [] →
        (∀ outcome ∈ session.outcomes (pieces.map Command.typing), outcome.1 = .ok (.accepted true)) →
        (session.step (.typing pieces.flatten)).1 = .ok (.accepted true) ∧
          (session.step (.typing pieces.flatten)).2.engine = (session.after (pieces.map Command.typing)).engine := by
  intro keys runs
  refine ⟨?_, fun run member n => Key.numeral_tidies run ?_ n, pieces_joined⟩
  · have spectators : ∀ command ∈ commands, command.BringsSpectator :=
      fun command member => command.operation_brings (command.keystroke_operation (keystrokes command member))
    have pressed := Engine.keystrokes_pressed settings Expression.initial commands keystrokes
    rw [Key.pressed_normal_form] at pressed
    exact (after_spectated commands (start (.initial settings) observer) spectates spectators).1.trans pressed
  · have input : ∀ text, .input text ∈ keys → Input.isNumeralInput text = true := by
      intro text keyed
      obtain ⟨command, _, pressed⟩ := List.mem_flatMap.mp keyed
      exact command.keyed_input text pressed
    intro text inside
    rcases List.mem_cons.mp member with rfl | later
    · rcases List.mem_cons.mp inside with rfl | behind
      · decide
      · exact input text (Key.runs_pressed keys _ (.inl rfl) text behind)
    · exact input text (Key.runs_pressed keys run (.inr later) text inside)

theorem seven_and_a_half_keyed :
    let settings : Settings := ⟨0, 5, by decide⟩
    let run := ["0".toList, "07.".toList, ".5".toList, "5".toList]
    let commands := (run.drop 1).map Command.typing ++ [.operator (.text ['+']), .operator (.operator .multiplication),
      .typing ".".toList, .typing "0".toList, .operator (.text ['-'])]
    let session := start (.initial settings) none
    let pieces := ["00".toList, "7.".toList, "50".toList]
    Observer.Spectates (some .recorder) ∧ (∀ command ∈ commands, command.IsKeystroke) ∧
      ((start (.initial settings) (some .recorder)).after commands).engine.tokens =
        [.numeral ⟨"7.5".toList⟩, .operator .multiplication, .numeral ⟨"0.0".toList⟩, .operator .subtraction] ∧
      Key.kept false run = ["0".toList, "07.".toList, "5".toList] ∧ Numeral.Tidies "007.5".toList ⟨"7.5".toList⟩ ∧
      (∀ outcome ∈ session.outcomes (pieces.map Command.typing), outcome.1 = .ok (.accepted true)) ∧
      (session.step (.typing "007.50".toList)).2.engine = (session.after (pieces.map Command.typing)).engine := by
  intro settings run commands session pieces
  have keystrokes : ∀ command ∈ commands, command.IsKeystroke := by
    simp [commands, run, Command.typing, Command.IsKeystroke]
  have accepted : ∀ outcome ∈ session.outcomes (pieces.map Command.typing), outcome.1 = .ok (.accepted true) :=
    List.forall_mem_cons.mpr ⟨rfl, List.forall_mem_cons.mpr ⟨rfl, List.forall_mem_singleton.mpr rfl⟩⟩
  obtain ⟨held, tidies, joined⟩ := keystrokes_normal_form settings (some .recorder) rfl commands keystrokes
  have seven : Numeral.Tidies "007.5".toList ⟨"7.5".toList⟩ :=
    (tidies run List.mem_cons_self _).mpr (by decide +kernel)
  refine ⟨rfl, keystrokes, ?_, by decide +kernel, seven, accepted,
    (joined session pieces rfl (List.cons_ne_nil _ _) accepted).2⟩
  rw [held]
  decide +kernel

end Session

end PocketCalculator
