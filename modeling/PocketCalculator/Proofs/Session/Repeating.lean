import PocketCalculator.Proofs.Engine.Answers
import PocketCalculator.Proofs.Session.Refused
import PocketCalculator.Proofs.Session.Spectators

set_option autoImplicit false

namespace PocketCalculator

namespace Engine

theorem after_repeated (engine : Engine) (command : Command) (rests : (engine.react command).engine = engine)
    (count : Nat) : engine.after (List.replicate count command) = engine := by
  induction count with
  | zero => rfl
  | succ count ih =>
      rw [List.replicate_succ, after, List.foldl_cons, rests]
      exact ih

variable (engine : Engine)

theorem reduced_shown : (engine.react .reduce).engine.resultShown = true := by
  rcases engine.reduction_cases with ⟨result, _, reaction⟩ | ⟨fault, _, reaction⟩ | ⟨failure, _, reaction⟩
  · rw [react, reaction]
    rfl
  · rw [react, reaction, takeFault]
    split <;> rfl
  · rw [react, reaction]
    rfl

theorem reduced_fault (fault : Fault) (failed : engine.evaluate = .error (.fault fault)) :
    engine.react .reduce = engine.takeFault fault := by
  rw [react, takeReduction, failed]

theorem shown_again (shown : engine.resultShown = true) : engine.shown = engine := by
  obtain ⟨tokens, resultShown, message, lastFault, settings⟩ := engine
  cases shown
  rfl

def complaint (result : Numeral) : Fault := .missingElement (.text result.text)

def complaining (result : Numeral) : Engine := { engine with lastFault := some (complaint result) }

def emptied : Engine := engine.withFault (.missingElement .absent)

theorem result_reduces (result : Numeral) (shows_result : engine.ShowsResult)
    (tokens : engine.tokens = [.numeral result]) :
    engine.react .reduce = (engine.complaining result).told (.reduced (some (complaint result))) [] ∧
      (engine.complaining result).ShowsResult := by
  obtain ⟨shown, message, other, alone, written, _⟩ := shows_result
  rw [tokens] at alone
  cases alone
  have lone : engine.keeps (complaint result) = true := by
    simp [complaint, keeps, showsLoneResult, shown, message, tokens]
  refine ⟨?_, shown, message, result, tokens, written, .inr rfl⟩
  rw [engine.reduced_fault _ (engine.result_again result tokens written), ← complaint, takeFault, if_pos lone,
    engine.shown_again shown, complaining]

theorem fault_reduces (shows_fault : engine.ShowsFault) :
    engine.react .reduce = engine.emptied.told (.reduced (some (.missingElement .absent)))
        [.reductionFailed (.missingElement .absent)] ∧
      engine.emptied.ShowsFault := by
  obtain ⟨shown, tokens, fault, _, message⟩ := shows_fault
  have failed : engine.evaluate = .error (.fault (.missingElement .absent)) := by
    rw [evaluate, tokens, Reduction.evaluate_short _ _ (by decide)]
    rfl
  have gone : ¬ engine.keeps (.missingElement .absent) = true := by simp [keeps, showsLoneResult, message]
  refine ⟨?_, shown, rfl, _, rfl, rfl⟩
  rw [engine.reduced_fault _ failed, takeFault, if_neg gone, engine.shown_again shown, emptied, faultEvents]
  simp

theorem unreduced_reduces (unreduced : engine.Unreduced) : (engine.react .reduce).engine = engine :=
  (engine.reduction_escapes unreduced.2.2.2).trans (engine.shown_again unreduced.1)

theorem shown_cases (settled : engine.Settled) (shown : engine.resultShown = true) :
    (engine.ShowsResult ∧ ∃ result, engine.tokens = [.numeral result]) ∨ engine.ShowsFault ∨ engine.Unreduced := by
  rcases settled with editing | result | fault | unreduced
  · exact absurd (editing.1.symm.trans shown) Bool.false_ne_true
  · obtain ⟨_, _, numeral, tokens, _⟩ := id result
    exact .inl ⟨result, numeral, tokens⟩
  · exact .inr (.inl fault)
  · exact .inr (.inr unreduced)

theorem message_shows_fault (settled : engine.Settled) (message : engine.message ≠ none) : engine.ShowsFault := by
  rcases settled with editing | result | fault | unreduced
  · exact absurd editing.2.1 message
  · exact absurd result.2.1 message
  · exact fault
  · exact absurd unreduced.2.1 message

-- Of a shown state a reduction changes at most what was said last, and that once.
theorem reduced_rests (settled : engine.Settled) (shown : engine.resultShown = true) :
    ((engine.react .reduce).engine.react .reduce).engine = (engine.react .reduce).engine := by
  rcases engine.shown_cases settled shown with ⟨shows_result, result, tokens⟩ | shows_fault | unreduced
  · obtain ⟨first, again⟩ := engine.result_reduces result shows_result tokens
    rw [first]
    exact congrArg Reaction.engine ((engine.complaining result).result_reduces result again tokens).1
  · obtain ⟨first, again⟩ := engine.fault_reduces shows_fault
    rw [first]
    exact congrArg Reaction.engine (engine.emptied.fault_reduces again).1
  · rw [engine.unreduced_reduces unreduced]
    exact engine.unreduced_reduces unreduced

theorem continued_shown (shown : engine.resultShown = true) :
    engine.continued = { initial engine.settings with
      tokens := if engine.message.isSome then [] else engine.tokens } := by
  rw [continued, if_pos shown]
  rfl

theorem continued_after_reduction (settled : engine.Settled) (shown : engine.resultShown = true) :
    (engine.react .reduce).engine.continued = engine.continued := by
  rcases engine.shown_cases settled shown with ⟨shows_result, result, tokens⟩ | shows_fault | unreduced
  · obtain ⟨first, again⟩ := engine.result_reduces result shows_result tokens
    rw [first, engine.continued_shown shown]
    exact (engine.complaining result).continued_shown again.1
  · obtain ⟨first, again⟩ := engine.fault_reduces shows_fault
    obtain ⟨_, _, fault, _, message⟩ := shows_fault
    rw [first, engine.continued_shown shown, message]
    exact engine.emptied.continued_shown again.1
  · rw [engine.unreduced_reduces unreduced]

theorem reductions_snoc (count : Nat) :
    engine.after (List.replicate (count + 1) .reduce) = ((engine.after (List.replicate count .reduce)).react .reduce).engine := by
  rw [List.replicate_succ', after_snoc]

theorem result_stays (result : Numeral) (shows_result : engine.ShowsResult) (tokens : engine.tokens = [.numeral result])
    (count : Nat) :
    let now := engine.after (List.replicate count .reduce)
    now.ShowsResult ∧ now.tokens = [.numeral result] := by
  induction count with
  | zero => exact ⟨shows_result, tokens⟩
  | succ count ih =>
      obtain ⟨reduced, again⟩ := result_reduces _ result ih.1 ih.2
      rw [reductions_snoc, reduced]
      exact ⟨again, ih.2⟩

theorem fault_stays (shows_fault : engine.ShowsFault) (count : Nat) :
    (engine.after (List.replicate count .reduce)).ShowsFault := by
  induction count with
  | zero => exact shows_fault
  | succ count ih =>
      obtain ⟨reduced, again⟩ := fault_reduces _ ih
      rw [reductions_snoc, reduced]
      exact again

theorem reductions_settle (count : Nat) (settled : engine.Settled) :
    engine.after (List.replicate (count + 2) .reduce) = engine.after [.reduce, .reduce] := by
  have rests := (engine.react .reduce).engine.reduced_rests (engine.react_settled .reduce settled) engine.reduced_shown
  rw [Nat.add_comm, ← List.replicate_append_replicate, after_append]
  exact after_repeated _ .reduce rests count

theorem operator_after_reductions (count : Nat) (settled : engine.Settled) (o : Operator) :
    (engine.after (List.replicate (count + 1) .reduce)).takeOperator o = (engine.react .reduce).engine.takeOperator o := by
  cases count with
  | zero => rfl
  | succ count =>
      have same := (engine.react .reduce).engine.continued_after_reduction (engine.react_settled .reduce settled)
        engine.reduced_shown
      rw [engine.reductions_settle count settled, takeOperator, takeOperator, ← same]
      rfl

theorem reduction_succeeds (answered : (engine.react .reduce).answer = .ok (.reduced none)) :
    ∃ result, engine.evaluate = .ok result ∧ (engine.react .reduce).engine.ShowsResult ∧
      (engine.react .reduce).engine.tokens = [.numeral result] := by
  rw [react] at answered
  rcases engine.reduction_cases with ⟨result, done, _⟩ | ⟨fault, _, reaction⟩ | ⟨failure, _, reaction⟩
  · obtain ⟨z, _, written⟩ := Reduction.evaluate_writes engine.settings engine.tokens result done
    rw [engine.reduction_engine result done]
    exact ⟨result, done, ⟨rfl, rfl, result, rfl, ⟨.real z, written⟩, .inl rfl⟩, rfl⟩
  · rw [reaction, (Session.take_fault_told engine fault).2] at answered
    cases answered
  · rw [reaction] at answered
    cases answered

end Engine

namespace Session

def reducedTimes (session : Session) (count : Nat) : Session := session.after (List.replicate count .reduce)

theorem reduced_times (session : Session) (spectates : Observer.Spectates session.observer) (count : Nat) :
    (session.reducedTimes count).engine = session.engine.after (List.replicate count .reduce) ∧
      Observer.Spectates (session.reducedTimes count).observer := by
  apply after_spectated _ session spectates
  intro command member
  rw [List.eq_of_mem_replicate member]
  trivial

theorem reduced_times_snoc (session : Session) (count : Nat) :
    session.reducedTimes (count + 1) = ((session.reducedTimes count).step .reduce).2 := by
  rw [reducedTimes, List.replicate_succ', after_snoc]
  rfl

theorem fault_told (session : Session) (fault : Fault) (left : Engine) (events : List Event)
    (spectates : Observer.Spectates session.observer)
    (reaction : session.engine.react .reduce = left.told (.reduced (some fault)) events) :
    (session.step .reduce).1 = ((session.notified .reduce).map fun _ => .reduced (some fault)) ∧
      (session.step .reduce).2.engine = left := by
  constructor
  · apply step_told
    · rw [reaction]
      rfl
    · rw [reaction]
      rfl
  · rw [(step_spectated .reduce session spectates).2.1, reaction]
    rfl

section

variable (session : Session) (spectates : Observer.Spectates session.observer) (count : Nat)

include spectates

theorem reduced_times_display :
    (session.reducedTimes (count + 1)).engine = (session.reducedTimes 1).engine.after (List.replicate count .reduce) := by
  rw [(session.reduced_times spectates (count + 1)).1, (session.reduced_times spectates 1).1, List.replicate_succ]
  rfl

theorem result_reduced_again (result : Numeral) (shows_result : (session.reducedTimes 1).engine.ShowsResult)
    (tokens : (session.reducedTimes 1).engine.tokens = [.numeral result]) :
    let before := session.reducedTimes (count + 1)
    (before.step .reduce).1 = ((before.notified .reduce).map fun _ => .reduced (some (Engine.complaint result))) ∧
      (session.reducedTimes (count + 2)).engine = before.engine.complaining result ∧
      before.engine.ShowsResult ∧ before.engine.tokens = [.numeral result] := by
  intro before
  have stays := (session.reducedTimes 1).engine.result_stays result shows_result tokens count
  rw [← session.reduced_times_display spectates count] at stays
  have reaction := (before.engine.result_reduces result stays.1 stays.2).1
  obtain ⟨answer, left⟩ := fault_told before _ _ _ (session.reduced_times spectates (count + 1)).2 reaction
  rw [← reduced_times_snoc] at left
  exact ⟨answer, left, stays⟩

theorem fault_reduced_again (shows_fault : (session.reducedTimes 1).engine.ShowsFault) :
    let before := session.reducedTimes (count + 1)
    (before.step .reduce).1 = ((before.notified .reduce).map fun _ => .reduced (some (.missingElement .absent))) ∧
      (session.reducedTimes (count + 2)).engine = before.engine.emptied ∧ before.engine.ShowsFault := by
  intro before
  have stays := (session.reducedTimes 1).engine.fault_stays shows_fault count
  rw [← session.reduced_times_display spectates count] at stays
  have reaction := (before.engine.fault_reduces stays).1
  obtain ⟨answer, left⟩ := fault_told before _ _ _ (session.reduced_times spectates (count + 1)).2 reaction
  rw [← reduced_times_snoc] at left
  exact ⟨answer, left, stays⟩

theorem operator_after_times (settled : session.engine.Settled) (chosen : Value) (valid : chosen.IsOperator) :
    ((session.reducedTimes (count + 1)).step (.operator chosen)).2.engine =
      ((session.reducedTimes 1).step (.operator chosen)).2.engine := by
  obtain ⟨o, taken⟩ := Input.operator_taken chosen valid
  have reaction (engine : Engine) : engine.react (.operator chosen) = engine.takeOperator o := by rw [Engine.react, taken]
  obtain ⟨many, still_watched⟩ := session.reduced_times spectates (count + 1)
  obtain ⟨once, watched⟩ := session.reduced_times spectates 1
  rw [(step_spectated _ _ still_watched).2.1, (step_spectated _ _ watched).2.1, reaction, reaction, many, once,
    session.engine.operator_after_reductions count settled]
  rfl

end

theorem repeated_reductions_settle (settings : Settings) (seed : Option Text) (observer : Option Observer)
    (commands : List Command) :
    let session := (start (.seeded settings seed) observer).after commands
    let display := (session.reducedTimes 1).engine
    Observer.Spectates session.observer →
    (((start session.engine none).step .reduce).1 = .ok (.reduced none) → ∀ count,
        let fault : Fault := .missingElement (.text display.text)
        let before := session.reducedTimes (count + 1)
        let after := (session.reducedTimes (count + 2)).engine
        (before.step .reduce).1 = ((before.notified .reduce).map fun _ => .reduced (some fault)) ∧
          after.tokens = display.tokens ∧ after.text = display.text ∧ after.resultShown = display.resultShown ∧
          after.lastFault = some fault) ∧
      (display.message ≠ none → ∀ count,
        let fault : Fault := .missingElement .absent
        let before := session.reducedTimes (count + 1)
        let after := (session.reducedTimes (count + 2)).engine
        (before.step .reduce).1 = ((before.notified .reduce).map fun _ => .reduced (some fault)) ∧
          after.tokens = [] ∧ after.text = fault.message ∧ after.resultShown = true ∧ after.lastFault = some fault) ∧
      (∀ count, (session.reducedTimes (count + 2)).engine = (session.reducedTimes 2).engine) ∧
      ∀ count (chosen : Value), chosen.IsOperator →
        ((session.reducedTimes (count + 1)).step (.operator chosen)).2.engine =
          ((session.reducedTimes 1).step (.operator chosen)).2.engine := by
  intro session display spectates
  have settled : session.engine.Settled :=
    after_keeps (fun engine command => engine.react_settled command) commands (start (.seeded settings seed) observer)
      (Engine.seeded_settled settings seed)
  have times := session.reduced_times spectates
  have once : display = (session.engine.react .reduce).engine := (times 1).1
  refine ⟨fun succeeded count => ?_, fun message count => ?_, fun count => ?_, fun count chosen valid =>
    session.operator_after_times spectates count settled chosen valid⟩
  · rw [(step_alone .reduce (start session.engine none) rfl).1] at succeeded
    obtain ⟨result, _, shows_result, tokens⟩ := session.engine.reduction_succeeds succeeded
    rw [← once] at shows_result tokens
    intro fault before after
    have text : display.text = result.text := display.result_text result shows_result tokens
    have same : fault = Engine.complaint result := congrArg (fun t => Fault.missingElement (.text t)) text
    obtain ⟨answer, left, stays, kept⟩ := session.result_reduced_again spectates count result shows_result tokens
    change after = before.engine.complaining result at left
    rw [same, tokens, text, once, session.engine.reduced_shown, left]
    exact ⟨answer, kept, before.engine.result_text result stays kept, stays.1, rfl⟩
  · intro fault before after
    have display_settled : display.Settled := once ▸ session.engine.react_settled .reduce settled
    have shows_fault := display.message_shows_fault display_settled message
    obtain ⟨answer, left, stays⟩ := session.fault_reduced_again spectates count shows_fault
    change after = before.engine.emptied at left
    rw [left]
    exact ⟨answer, rfl, rfl, stays.1, rfl⟩
  · rw [(times (count + 2)).1, (times 2).1]
    exact session.engine.reductions_settle count settled

-- A third stays displayed; what lacks an operand is forgotten for the empty expression that it has left.
theorem third_and_unfinished_sum_settle :
    let settings : Settings := ⟨0, 5, by decide⟩
    let third := start (.seeded settings (some "1 / 3".toList)) (some .recorder)
    let unfinished := start (.seeded settings (some "4 +".toList)) none
    let plus : Value := .text ['+']
    Observer.Spectates third.observer ∧ Observer.Spectates unfinished.observer ∧ plus.IsOperator ∧
      ((start third.engine none).step .reduce).1 = .ok (.reduced none) ∧
      (unfinished.reducedTimes 1).engine.lastFault = some (.missingElement (.text "4 +".toList)) ∧
      ∀ count,
        (third.reducedTimes (count + 2)).engine.text = "0.33333".toList ∧
          (third.reducedTimes (count + 2)).engine.lastFault = some (.missingElement (.text "0.33333".toList)) ∧
          ((third.reducedTimes (count + 1)).step (.operator plus)).2.engine.text = "0.33333 +".toList ∧
          (unfinished.reducedTimes (count + 2)).engine.text = (Fault.missingElement .absent).message ∧
          (unfinished.reducedTimes (count + 2)).engine.lastFault = some (.missingElement .absent) := by
  intro settings third unfinished plus
  have valid : plus.IsOperator := .inl rfl
  have done : third.engine.evaluate = .ok ⟨"0.33333".toList⟩ := by
    change Reduction.evaluate settings (Chain.tokens ⟨⟨['1']⟩, [(.division, ⟨['3']⟩)]⟩) = _
    rw [Reduction.evaluate_chain _ _ (List.cons_ne_nil _ _)]
    decide +kernel
  have failed : unfinished.engine.evaluate = .error (.fault (.missingElement (.text "4 +".toList))) :=
    Reduction.evaluate_short settings _ (by decide)
  have succeeded : ((start third.engine none).step .reduce).1 = .ok (.reduced none) :=
    (step_alone .reduce (start third.engine none) rfl).1.trans (third.engine.reduction_done _ done)
  have result : (third.reducedTimes 1).engine = third.engine.shown.withResult ⟨"0.33333".toList⟩ :=
    (third.reduced_times rfl 1).1.trans (third.engine.reduction_engine _ done)
  have fault : (unfinished.reducedTimes 1).engine =
      unfinished.engine.shown.withFault (.missingElement (.text "4 +".toList)) :=
    (unfinished.reduced_times rfl 1).1.trans
      (congrArg Reaction.engine (unfinished.engine.reduced_fault _ failed))
  have text : (third.reducedTimes 1).engine.text = "0.33333".toList := by
    rw [result]
    rfl
  have message : (unfinished.reducedTimes 1).engine.message ≠ none := by
    rw [fault]
    exact fun none => by cases none
  have continued : ((third.reducedTimes 1).step (.operator plus)).2.engine.text = "0.33333 +".toList := by
    rw [(step_spectated _ _ (third.reduced_times rfl 1).2).2.1, result]
    rfl
  obtain ⟨settles, _, _, continues⟩ :=
    repeated_reductions_settle settings (some "1 / 3".toList) (some .recorder) [] rfl
  obtain ⟨_, empties, _⟩ := repeated_reductions_settle settings (some "4 +".toList) none [] rfl
  refine ⟨rfl, rfl, valid, succeeded, congrArg Engine.lastFault fault, fun count => ?_⟩
  obtain ⟨_, _, shown, _, last⟩ := settles succeeded count
  obtain ⟨_, _, missing, _, absent⟩ := empties message count
  refine ⟨shown.trans text, ?_, (congrArg Engine.text (continues count plus valid)).trans continued, missing, absent⟩
  exact last.trans (congrArg (fun t => some (Fault.missingElement (.text t))) text)

end Session

end PocketCalculator
