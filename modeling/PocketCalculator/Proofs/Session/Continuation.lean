import PocketCalculator.Proofs.Engine.Continuation

set_option autoImplicit false

namespace PocketCalculator.Session

structure GoesOn (session : Session) (chain : Chain) (more : List (Operator × Numeral)) (chosen : Value)
    (rest : List Command) : Prop where
  alone : session.observer = none
  editing : session.engine.Editing
  entered : session.engine.tokens = chain.tokens
  operator : ∃ o, Input.operator chosen = .ok o
  keystrokes : ∀ command ∈ rest, command.IsKeystroke
  continued : (session.after (.operator chosen :: rest)).engine.tokens = (chain.continued more).tokens

theorem early_reduction_alone (session : Session) (chain : Chain) (result : Numeral) (o : Operator) (n : Numeral)
    (more : List (Operator × Numeral)) (chosen : Value) (rest : List Command)
    (done : Reduction.evaluate session.engine.settings chain.tokens = .ok result) (joins : Reduction.Joins chain o)
    (goes_on : session.GoesOn chain ((o, n) :: more) chosen rest) :
    (session.after (.reduce :: .operator chosen :: rest ++ [.reduce])).engine =
      (session.after (.operator chosen :: rest ++ [.reduce])).engine := by
  obtain ⟨p, valid⟩ := goes_on.operator
  have unwatched : ∀ command ∈ rest, command.observerAfter none = none :=
    fun command member =>
      command.operation_unwatched (command.keystroke_operation (goes_on.keystrokes command member)) none
  have keys : ∀ command ∈ .operator chosen :: rest, Command.observerAfter command none = none :=
    List.forall_mem_cons.mpr ⟨rfl, unwatched⟩
  have all : ∀ command ∈ .operator chosen :: rest ++ [.reduce], Command.observerAfter command none = none :=
    List.forall_mem_append.mpr ⟨keys, List.forall_mem_singleton.mpr rfl⟩
  have early : ∀ command ∈ .reduce :: (.operator chosen :: rest ++ [.reduce]),
      Command.observerAfter command none = none := List.forall_mem_cons.mpr ⟨rfl, all⟩
  have continued := goes_on.continued
  rw [(after_alone _ session goes_on.alone keys).1] at continued
  rw [(after_alone _ session goes_on.alone all).1, List.cons_append, (after_alone _ session goes_on.alone early).1]
  exact Engine.early_reduction session.engine chain result o n more chosen p rest done joins goes_on.editing
    goes_on.entered valid goes_on.keystrokes continued

theorem reduction_on_the_way (settings : Settings) (chain : Chain) (result : Numeral) (o : Operator) (n : Numeral)
    (more : List (Operator × Numeral)) (done : Reduction.evaluate settings chain.tokens = .ok result)
    (joins : Reduction.Joins chain o) :
    Reduction.evaluate settings (chain.continued ((o, n) :: more)).tokens =
        Reduction.evaluate settings (Chain.tokens ⟨result, (o, n) :: more⟩) ∧
      ∀ (session : Session) (chosen : Value) (rest : List Command), session.engine.settings = settings →
        session.GoesOn chain ((o, n) :: more) chosen rest →
        (session.after (.reduce :: .operator chosen :: rest ++ [.reduce])).engine =
          (session.after (.operator chosen :: rest ++ [.reduce])).engine := by
  refine ⟨Reduction.evaluate_continued settings chain result o n more done joins, ?_⟩
  rintro session chosen rest rfl goes_on
  exact early_reduction_alone session chain result o n more chosen rest done joins goes_on

theorem sum_reduced_on_the_way :
    let settings : Settings := ⟨0, 5, by decide⟩
    let sum : Chain := ⟨⟨['1']⟩, [(.addition, ⟨['2']⟩)]⟩
    let session := start (.ofText settings "1 + 2".toList) none
    let rest : List Command := [.numeral (.text ['4']), .operator (.text ['*']), .numeral (.text ['5'])]
    Reduction.evaluate settings sum.tokens = .ok ⟨['3']⟩ ∧ Reduction.Joins sum .subtraction ∧
      Reduction.evaluate settings (sum.continued [(.subtraction, ⟨['4']⟩), (.multiplication, ⟨['5']⟩)]).tokens =
        Reduction.evaluate settings (Chain.tokens ⟨⟨['3']⟩, [(.subtraction, ⟨['4']⟩), (.multiplication, ⟨['5']⟩)]⟩) ∧
      session.GoesOn sum [(.subtraction, ⟨['4']⟩), (.multiplication, ⟨['5']⟩)] (.text ['-']) rest ∧
      (session.after (.reduce :: .operator (.text ['-']) :: rest ++ [.reduce])).engine =
        (session.after (.operator (.text ['-']) :: rest ++ [.reduce])).engine := by
  intro settings sum session rest
  have done : Reduction.evaluate settings sum.tokens = .ok ⟨['3']⟩ := by
    rw [Reduction.evaluate_chain settings sum (List.cons_ne_nil _ _)]
    decide +kernel
  have joins : Reduction.Joins sum .subtraction := .inl rfl
  have keystrokes : ∀ command ∈ rest, command.IsKeystroke := by
    intro command member
    simp only [rest, List.mem_cons, List.not_mem_nil, or_false] at member
    rcases member with rfl | rfl | rfl <;> trivial
  have goes_on : session.GoesOn sum [(.subtraction, ⟨['4']⟩), (.multiplication, ⟨['5']⟩)] (.text ['-']) rest := by
    refine ⟨rfl, Engine.of_text_editing settings _, by decide +kernel, ⟨.subtraction, rfl⟩, keystrokes, ?_⟩
    rw [(after_alone (.operator (.text ['-']) :: rest) session rfl (by decide)).1]
    decide +kernel
  obtain ⟨whole, keyed⟩ := reduction_on_the_way settings sum ⟨['3']⟩ .subtraction ⟨['4']⟩
    [(.multiplication, ⟨['5']⟩)] done joins
  exact ⟨done, joins, whole, goes_on, keyed session (.text ['-']) rest rfl goes_on⟩

end PocketCalculator.Session
