import PocketCalculator.Proofs.Engine.Entry
import PocketCalculator.Proofs.Reduction.Refusal

set_option autoImplicit false

namespace PocketCalculator

def Expression.numerals (tokens : Expression) : List Numeral :=
  tokens.filterMap fun
    | .numeral n => some n
    | .operator _ => none

theorem Expression.mem_numerals (tokens : Expression) (n : Numeral) : n ∈ tokens.numerals ↔ .numeral n ∈ tokens := by
  rw [numerals, List.mem_filterMap]
  constructor
  · rintro ⟨token, member, same⟩
    cases token with
    | numeral m =>
        cases same
        exact member
    | operator o => cases same
  · exact fun member => ⟨.numeral n, member, rfl⟩

def Expression.Incomplete (tokens : Expression) : Prop := tokens.length < 3 ∨ tokens.endsInOperator = true

theorem Reduction.evaluate_incomplete (settings : Settings) (tokens : Expression) (incomplete : tokens.Incomplete) :
    evaluate settings tokens = .error (.fault (.missingElement (Expression.shownText tokens.rendered))) := by
  have invalid : tokens.validity ≠ .valid := by
    rw [Expression.validity]
    split
    · exact Expression.Validity.noConfusion
    · rename_i long
      rw [if_pos (incomplete.resolve_left long)]
      exact Expression.Validity.noConfusion
  rw [evaluate, Expression.ensureValid, if_neg invalid]
  rfl

namespace Engine

-- The error that a reduction is answered with, or leaves its call with.
def answered : Failure → Except Failure Answer
  | .fault fault => .ok (.reduced (some fault))
  | failure => .error failure

theorem reduction_done (engine : Engine) (result : Numeral) (done : engine.evaluate = .ok result) :
    (engine.react .reduce).answer = .ok (.reduced none) := by
  rw [react, takeReduction, done]
  rfl

theorem reduction_engine (engine : Engine) (result : Numeral) (done : engine.evaluate = .ok result) :
    (engine.react .reduce).engine = engine.shown.withResult result := by
  rw [react, takeReduction, done]
  rfl

theorem reduction_failed (engine : Engine) (failure : Failure) (failed : engine.evaluate = .error failure) :
    (engine.react .reduce).answer = answered failure := by
  rw [react, takeReduction, failed]
  cases failure with
  | fault fault => exact (Session.take_fault_told engine fault).2
  | wholeTooLarge => rfl
  | tooManyDigits => rfl
  | precisionRefused => rfl
  | precisionTooLarge => rfl
  | observerRefused => rfl

structure AnswersReduce (engine : Engine) (answer : Except Failure Answer) : Prop where
  missing : (∃ shown, answer = .ok (.reduced (some (.missingElement shown)))) ↔ engine.tokens.Incomplete
  complete : ¬ engine.tokens.Incomplete → answer = .ok (.reduced none) ∨
    ∃ failure, Reduction.Refusal engine.settings engine.tokens.numerals failure ∧ answer = answered failure
  operand : ∀ side token cause, answer ≠ .ok (.reduced (some (.operandInvalid side token cause)))
  operator : ∀ found, answer ≠ .ok (.reduced (some (.unknownOperator found)))

variable {obtained : Numeral → Prop} (engine : Engine)

theorem incomplete_answers (incomplete : engine.tokens.Incomplete) :
    engine.AnswersReduce (engine.react .reduce).answer := by
  rw [reduction_failed engine _ (Reduction.evaluate_incomplete engine.settings engine.tokens incomplete)]
  refine ⟨⟨fun _ => incomplete, fun _ => ⟨_, rfl⟩⟩, absurd incomplete, ?_, ?_⟩
  · intro _ _ _ same
    cases same
  · intro _ same
    cases same

theorem done_answers (complete : ¬ engine.tokens.Incomplete) : engine.AnswersReduce (.ok (.reduced none)) := by
  refine ⟨⟨?_, fun incomplete => absurd incomplete complete⟩, fun _ => .inl rfl, ?_, ?_⟩
  · rintro ⟨shown, same⟩
    cases same
  · intro _ _ _ same
    cases same
  · intro _ same
    cases same

theorem refusal_answers (failure : Failure) (complete : ¬ engine.tokens.Incomplete)
    (refusal : Reduction.Refusal engine.settings engine.tokens.numerals failure) :
    engine.AnswersReduce (answered failure) := by
  have apart : ∀ fault, answered failure = .ok (.reduced (some fault)) →
      Reduction.Refusal engine.settings engine.tokens.numerals (.fault fault) := by
    intro fault same
    cases failure with
    | fault found =>
        cases same
        exact refusal
    | wholeTooLarge => cases same
    | tooManyDigits => cases same
    | precisionRefused => cases same
    | precisionTooLarge => cases same
    | observerRefused => cases same
  refine ⟨⟨?_, fun incomplete => absurd incomplete complete⟩, fun _ => .inr ⟨failure, refusal, rfl⟩, ?_, ?_⟩
  · rintro ⟨shown, same⟩
    cases apart _ same
  · intro side token cause same
    cases apart _ same
  · intro found same
    cases apart _ same

theorem complete_evaluates (enters : engine.Enters obtained) (complete : ¬ engine.tokens.Incomplete) :
    (∃ result, engine.evaluate = .ok result) ∨ ∃ failure, engine.evaluate = .error failure ∧
      Reduction.Refusal engine.settings engine.tokens.numerals failure := by
  obtain ⟨entry, same, front, _⟩ := enters
  rw [same] at complete
  obtain ⟨long, ends⟩ := not_or.mp complete
  obtain ⟨chain, tokens, more, numerals⟩ := entry.complete_chain long (by simpa using ends)
  have wellFormed : ∀ n ∈ chain.numerals, n.wellFormed = true := by
    intro n member
    rw [numerals] at member
    exact (Numeral.displayed_tidy n (Numeral.front_obtained_displayed _ front n member)).wellFormed
  have inside : ∀ n ∈ chain.numerals, n ∈ engine.tokens.numerals := by
    intro n member
    rw [Expression.mem_numerals, same, Entry.mem_tokens, ← numerals]
    exact member
  rw [evaluate, same, tokens]
  cases outcome : Reduction.evaluate engine.settings chain.tokens with
  | ok result => exact .inl ⟨result, rfl⟩
  | error failure =>
      have refusal := Reduction.evaluate_refusal engine.settings chain more failure wellFormed outcome
      rw [← tokens, ← same]
      exact .inr ⟨failure, rfl, Reduction.refusal_before _ _ _ _ (fun n member => .inl (inside n member)) refusal⟩

theorem entry_answers (enters : engine.Enters obtained) : engine.AnswersReduce (engine.react .reduce).answer := by
  by_cases incomplete : engine.tokens.Incomplete
  · exact incomplete_answers engine incomplete
  · rcases complete_evaluates engine enters incomplete with ⟨result, done⟩ | ⟨failure, failed, refusal⟩
    · rw [reduction_done engine result done]
      exact done_answers engine incomplete
    · rw [reduction_failed engine failure failed]
      exact refusal_answers engine failure incomplete refusal

theorem fault_debug (fault : Fault) (known : ∀ found, fault ≠ .unknownOperator found) :
    ∀ event ∈ (engine.takeFault fault).events, event.level = .debug := by
  have reported : ∀ event ∈ engine.faultEvents fault, event.level = .debug := by
    intro event member
    cases fault with
    | unknownOperator found => exact absurd rfl (known found)
    | general _ _ => rw [List.mem_singleton.mp member]; rfl
    | missingElement _ => rw [List.mem_singleton.mp member]; rfl
    | operandInvalid _ _ _ => rw [List.mem_singleton.mp member]; rfl
    | divisionByZero _ => rw [List.mem_singleton.mp member]; rfl
    | resultOverflow _ _ => rw [List.mem_singleton.mp member]; rfl
    | invalidInput _ _ => rw [List.mem_singleton.mp member]; rfl
  rw [takeFault]
  cases engine.keeps fault with
  | true => exact fun event member => by cases member
  | false => exact reported

theorem input_debug (text : Text) : ∀ event ∈ (engine.takeInput text).events, event.level = .debug := by
  intro event member
  rw [takeInput] at member
  cases typed : engine.opened.tokens.typed text with
  | error held =>
      rw [typed] at member
      rw [List.mem_singleton.mp member]
      rfl
  | ok tokens =>
      rw [typed] at member
      rw [List.mem_singleton.mp member]
      rfl

theorem reduction_debug (enters : engine.Enters obtained) :
    ∀ event ∈ engine.takeReduction.events, event.level = .debug := by
  rcases engine.reduction_cases with ⟨result, _, reaction⟩ | ⟨fault, failed, reaction⟩ | ⟨failure, _, reaction⟩
  · intro event member
    rw [reaction] at member
    rw [List.mem_singleton.mp member]
    rfl
  · rw [reaction]
    apply fault_debug engine fault
    rintro found rfl
    exact (entry_answers engine enters).operator found (reduction_failed engine _ failed)
  · intro event member
    rw [reaction] at member
    cases member

theorem react_debug (command : Command) (enters : engine.Enters obtained) :
    ∀ event ∈ (engine.react command).events, event.level = .debug := by
  rcases engine.react_cases command with
    ⟨text, _, _, reaction⟩ | ⟨o, reaction⟩ | ⟨_, reaction⟩ | reaction | ⟨answer, reaction⟩
  · rw [reaction]
    exact input_debug engine text
  · intro event member
    rw [reaction] at member
    rw [List.mem_singleton.mp member]
    rfl
  · rw [reaction]
    exact reduction_debug engine enters
  · intro event member
    rw [reaction] at member
    cases member
  · intro event member
    rw [reaction] at member
    cases member

end Engine

end PocketCalculator
