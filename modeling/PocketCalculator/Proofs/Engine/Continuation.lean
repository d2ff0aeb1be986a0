import PocketCalculator.Proofs.Engine.Restoring
import PocketCalculator.Proofs.Reduction.Continuation

set_option autoImplicit false

namespace PocketCalculator

namespace Command

def IsKeystroke : Command → Prop
  | .numeral _ => True
  | .operator _ => True
  | _ => False

theorem keystroke_operation (command : Command) (keystroke : command.IsKeystroke) : command.IsOperation := by
  cases command with
  | numeral _ => trivial
  | operator _ => trivial
  | _ => cases keystroke

def keys : Command → List Key
  | .numeral typed => (Input.keystroke typed).toOption.toList.map Key.input
  | .operator chosen => (Input.operator chosen).toOption.toList.map Key.operator
  | _ => []

end Command

namespace Chain

-- Behind an operator the keys act on what they have put in themselves, whatever stands in front of it.
theorem operator_behind (chain : Chain) (tail : Expression) (o : Operator) (some_tail : tail ≠ []) :
    (chain.tokens ++ tail).withOperator o = chain.tokens ++ (tail.withoutTrailingOperator ++ [.operator o]) := by
  rw [Expression.withOperator, Expression.without_trailing_behind chain.tokens tail some_tail, List.append_assoc]
  rfl

theorem operator_first (chain : Chain) (o : Operator) :
    chain.tokens.withOperator o = chain.tokens ++ [.operator o] := by
  rw [Expression.withOperator, Expression.withoutTrailingOperator, ends_in_numeral, if_neg Bool.false_ne_true]
  rfl

theorem pressed_behind (key : Key) (tail : Expression) (some_tail : tail ≠ []) :
    ∃ next, next ≠ [] ∧ ∀ chain : Chain, Key.pressed (chain.tokens ++ tail) key = chain.tokens ++ next := by
  cases key with
  | operator o =>
      have some_next : tail.withoutTrailingOperator ++ [.operator o] ≠ [] :=
        List.append_ne_nil_of_right_ne_nil _ (List.cons_ne_nil _ _)
      exact ⟨_, some_next, fun chain => chain.operator_behind tail o some_tail⟩
  | input text =>
      cases taken : tail.typed text with
      | error held =>
          refine ⟨tail, some_tail, fun chain => ?_⟩
          rw [Key.pressed, Expression.typed_behind chain.tokens tail text some_tail, taken]
          rfl
      | ok next =>
          refine ⟨next, Expression.typed_nonempty tail next text taken, fun chain => ?_⟩
          rw [Key.pressed, Expression.typed_behind chain.tokens tail text some_tail, taken]
          rfl

theorem all_pressed_behind (keys : List Key) (tail : Expression) (some_tail : tail ≠ []) :
    ∃ next, ∀ chain : Chain, keys.foldl Key.pressed (chain.tokens ++ tail) = chain.tokens ++ next := by
  induction keys generalizing tail with
  | nil => exact ⟨tail, fun _ => rfl⟩
  | cons key rest ih =>
      obtain ⟨middle, some_middle, here⟩ := pressed_behind key tail some_tail
      obtain ⟨next, later⟩ := ih middle some_middle
      refine ⟨next, fun chain => ?_⟩
      rw [List.foldl_cons, here, later]

end Chain

namespace Engine

-- While an expression is edited there is nothing to an engine but its tokens and settings.
theorem editing_tokens (engine : Engine) (editing : engine.Editing) :
    engine = (initial engine.settings).withTokens engine.tokens := by
  obtain ⟨tokens, resultShown, message, lastFault, settings⟩ := engine
  obtain ⟨rfl, rfl, rfl, _⟩ := editing
  rfl

variable (settings : Settings)

theorem keystroke_pressed (tokens : Expression) (command : Command) (keystroke : command.IsKeystroke) :
    (((initial settings).withTokens tokens).react command).engine =
      (initial settings).withTokens (command.keys.foldl Key.pressed tokens) := by
  cases command with
  | numeral typed =>
      rw [react, Command.keys]
      cases Input.keystroke typed with
      | error fault => rfl
      | ok text =>
          change (((initial settings).withTokens tokens).takeInput text).engine =
            (initial settings).withTokens (Key.pressed tokens (.input text))
          have opened : ((initial settings).withTokens tokens).opened.tokens = tokens := rfl
          rw [takeInput, Key.pressed, opened]
          cases tokens.typed text <;> rfl
  | operator chosen =>
      rw [react, Command.keys]
      cases Input.operator chosen <;> rfl
  | reduce => cases keystroke
  | reset => cases keystroke
  | observe _ => cases keystroke
  | release => cases keystroke
  | settings => cases keystroke
  | describe => cases keystroke
  | idle => cases keystroke

theorem keystrokes_pressed (tokens : Expression) (commands : List Command)
    (keystrokes : ∀ command ∈ commands, command.IsKeystroke) :
    ((initial settings).withTokens tokens).after commands =
      (initial settings).withTokens ((commands.flatMap Command.keys).foldl Key.pressed tokens) := by
  induction commands generalizing tokens with
  | nil => rfl
  | cons command rest ih =>
      obtain ⟨here, there⟩ := List.forall_mem_cons.mp keystrokes
      have later := ih (command.keys.foldl Key.pressed tokens) there
      rw [List.flatMap_cons, List.foldl_append, ← later, ← keystroke_pressed settings tokens command here]
      rfl

theorem keystrokes_behind (chosen : Value) (o : Operator) (rest : List Command) (valid : Input.operator chosen = .ok o)
    (keystrokes : ∀ command ∈ rest, command.IsKeystroke) :
    ∃ next, ∀ chain : Chain, ((initial settings).withTokens chain.tokens).after (.operator chosen :: rest) =
      (initial settings).withTokens (chain.tokens ++ next) := by
  obtain ⟨next, behind⟩ := Chain.all_pressed_behind (rest.flatMap Command.keys) [.operator o] (List.cons_ne_nil _ _)
  refine ⟨next, fun chain => ?_⟩
  have all : ∀ command ∈ Command.operator chosen :: rest, command.IsKeystroke :=
    List.forall_mem_cons.mpr ⟨trivial, keystrokes⟩
  have first : (Command.operator chosen).keys = [.operator o] := by rw [Command.keys, valid]; rfl
  rw [keystrokes_pressed settings chain.tokens _ all, List.flatMap_cons, first, List.foldl_append, ← behind chain,
    ← chain.operator_first o]
  rfl

theorem reduced_continued (engine : Engine) (result : Numeral) (done : engine.evaluate = .ok result) :
    (engine.react .reduce).engine.continued = (initial engine.settings).withTokens [.numeral result] := by
  rw [react, takeReduction, done]
  rfl

theorem after_operator (engine : Engine) (chosen : Value) (o : Operator) (rest : List Command)
    (valid : Input.operator chosen = .ok o) :
    engine.continued.after (.operator chosen :: rest) = engine.after (.operator chosen :: rest) :=
  congrArg (fun reaction => reaction.engine.after rest) (continued_operator engine chosen o valid)

theorem reduction_alike (one other : Expression) (within : FixedPoint.precision settings ≤ FixedPoint.mostPrecision)
    (same : Reduction.evaluate settings one = Reduction.evaluate settings other) :
    (((initial settings).withTokens one).react .reduce).engine =
      (((initial settings).withTokens other).react .reduce).engine := by
  have first : ((initial settings).withTokens one).evaluate = Reduction.evaluate settings one := rfl
  have second : ((initial settings).withTokens other).evaluate = Reduction.evaluate settings other := rfl
  rw [react, react, takeReduction, takeReduction, first, second, same]
  cases outcome : Reduction.evaluate settings other with
  | ok result => rfl
  | error failure =>
      obtain ⟨fault, rfl⟩ := Reduction.evaluate_fails settings within other failure outcome
      have keeps : ∀ tokens, ((initial settings).withTokens tokens).keeps fault = false := by
        intro tokens
        cases fault <;> rfl
      simp only [takeFault, keeps]
      rfl

theorem early_reduction (engine : Engine) (chain : Chain) (result : Numeral) (o : Operator) (n : Numeral)
    (more : List (Operator × Numeral)) (chosen : Value) (p : Operator) (rest : List Command)
    (done : Reduction.evaluate engine.settings chain.tokens = .ok result) (joins : Reduction.Joins chain o)
    (editing : engine.Editing) (entered : engine.tokens = chain.tokens) (valid : Input.operator chosen = .ok p)
    (keystrokes : ∀ command ∈ rest, command.IsKeystroke)
    (continued : (engine.after (.operator chosen :: rest)).tokens = (chain.continued ((o, n) :: more)).tokens) :
    engine.after (.reduce :: .operator chosen :: rest ++ [.reduce]) =
      engine.after (.operator chosen :: rest ++ [.reduce]) := by
  obtain ⟨next, behind⟩ := keystrokes_behind engine.settings chosen p rest valid keystrokes
  have plain := editing_tokens engine editing
  rw [entered] at plain
  have through : engine.after (.operator chosen :: rest) =
      (initial engine.settings).withTokens (chain.tokens ++ next) := by
    rw [← behind chain, ← plain]
  have typed : next = Chain.tokensOf ((o, n) :: more) := by
    rw [through, Chain.continued_tokens] at continued
    exact List.append_cancel_left continued
  rw [typed, ← Chain.continued_tokens] at through
  have reduced : engine.after (.reduce :: .operator chosen :: rest) =
      (initial engine.settings).withTokens (Chain.tokens ⟨result, (o, n) :: more⟩) := by
    have finished : engine.evaluate = .ok result := by rw [evaluate, entered, done]
    have there := behind ⟨result, []⟩
    rw [typed] at there
    change (engine.react .reduce).engine.after (.operator chosen :: rest) = _
    rw [← after_operator _ chosen p rest valid, reduced_continued engine result finished]
    exact there
  have within : FixedPoint.precision engine.settings ≤ FixedPoint.mostPrecision := by
    obtain ⟨z, _, written⟩ := Reduction.evaluate_writes engine.settings chain.tokens result done
    exact (FixedPoint.written_of_double engine.settings z result.text written).1
  rw [after_snoc, after_snoc, reduced, through]
  exact (reduction_alike engine.settings _ _ within
    (Reduction.evaluate_continued engine.settings chain result o n more done joins)).symm

end Engine

end PocketCalculator
