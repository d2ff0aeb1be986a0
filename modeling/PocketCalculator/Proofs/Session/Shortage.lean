import PocketCalculator.Proofs.Reduction.Shortage
import PocketCalculator.Proofs.Session.Blame

set_option autoImplicit false

namespace PocketCalculator

namespace Engine

variable (engine : Engine)

theorem entry_misses {obtained : Numeral → Prop} (enters : engine.Enters obtained) (shown : Value)
    (misses : Reduction.Misses engine.settings engine.tokens shown) :
    shown = Expression.shownText engine.tokens.rendered := by
  have failed := (Reduction.evaluate_misses_iff engine.settings engine.tokens shown).mpr misses
  have incomplete := (engine.entry_answers enters).missing.mp ⟨shown, engine.reduction_failed _ failed⟩
  cases misses with
  | incomplete _ => rfl
  | breaksOff complete _ _ => exact absurd incomplete complete

end Engine

namespace Session

theorem missing_elements_show (settings : Settings) (seed : Option Text) (observer : Option Observer)
    (commands : List Command) :
    let session := (start (.seeded settings seed) observer).after commands
    let submitted := session.engine.tokens
    let whole := Expression.shownText submitted.rendered
    (∀ (notify : Action Unit) (now : Session) (shown : Value), now.engine = session.engine →
      let answer := (Action.perform notify .reduce now).1
      (answer = .ok (.reduced (some (.missingElement shown))) → Reduction.Misses settings submitted shown) ∧
        ((notify (now.reacted .reduce)).1 = .ok () → Reduction.Misses settings submitted shown →
          answer = .ok (.reduced (some (.missingElement shown))))) ∧
      (¬ submitted.Incomplete → ∀ last, Reduction.Scan.BreaksOff settings ⟨submitted, 0⟩ last →
        let windows := Reduction.Scan.windows settings ⟨submitted, 0⟩
        last.tokens.length + 2 * windows.length = submitted.length ∧
          (.text last.tokens.rendered = whole ↔ windows = [])) ∧
      (whole = .absent ↔ submitted = []) ∧
      (seed = none → ∀ shown, Reduction.Misses settings submitted shown → shown = whole) := by
  intro session submitted whole
  have keep : ∀ (engine : Engine) (command : Command), engine.Legible settings →
      (engine.react command).engine.Legible settings := fun engine command => engine.react_legible settings command
  have legible : session.engine.Legible settings :=
    after_keeps keep commands (start (.seeded settings seed) observer) (Engine.seeded_legible settings seed)
  refine ⟨fun notify now shown same => ?_, Reduction.breaks_off_shows settings submitted legible.proper,
    Expression.shown_absent submitted legible.proper, fun fresh shown misses => ?_⟩
  · intro answer
    have evaluates := Reduction.evaluate_misses_iff settings submitted shown
    have evaluate : now.engine.evaluate = Reduction.evaluate settings submitted := by
      rw [same, Engine.evaluate, legible.configured]
    rw [← evaluate] at evaluates
    exact ⟨fun answered => evaluates.mp (fault_answered notify now _ answered),
      fun heard misses => fault_answers notify now _ heard (evaluates.mpr misses)⟩
  · subst fresh
    have keyed := Engine.after_keyed settings ((start (.initial settings) observer).course commands)
    have reached : session.engine = (Engine.initial settings).after ((start (.initial settings) observer).course commands) :=
      after_course commands (start (.initial settings) observer)
    rw [← reached] at keyed
    rw [← legible.configured] at misses
    exact session.engine.entry_misses keyed.enters shown misses

-- A product and a sum have been reduced before the last numeral is left over; a sum that is keyed in lacks an operand.
theorem stray_numeral_shown_with_sum :
    let settings : Settings := ⟨0, 5, by decide⟩
    let session := start (.seeded settings (some "2 * 3 + 4 5".toList)) none
    let shown : Value := .text "10 5".toList
    let whole := Expression.shownText session.engine.tokens.rendered
    let keyed := (start (.seeded settings none) none).after [.numeral (.text ['4']), .operator (.text ['+'])]
    (Action.perform (Action.notify 0) .reduce session).1 = .ok (.reduced (some (.missingElement shown))) ∧
      Reduction.Misses settings session.engine.tokens shown ∧
      (∃ last, ¬ session.engine.tokens.Incomplete ∧
        Reduction.Scan.BreaksOff settings ⟨session.engine.tokens, 0⟩ last ∧ shown = .text last.tokens.rendered ∧
        (shown = whole ↔ Reduction.Scan.windows settings ⟨session.engine.tokens, 0⟩ = [])) ∧
      (Action.perform (Action.notify 0) .reduce keyed).1 =
        .ok (.reduced (some (.missingElement (.text "4 +".toList)))) ∧
      ∀ found, Reduction.Misses settings keyed.engine.tokens found → found = .text "4 +".toList := by
  intro settings session shown whole keyed
  obtain ⟨answers, breaks_off, _⟩ := missing_elements_show settings (some "2 * 3 + 4 5".toList) none []
  have six : Reduction.combined settings (.numeral ⟨['2']⟩) (.operator .multiplication) (.numeral ⟨['3']⟩) =
      .ok ⟨['6']⟩ := by decide +kernel
  have ten : Reduction.combined settings (.numeral ⟨['6']⟩) (.operator .addition) (.numeral ⟨['4']⟩) =
      .ok ⟨"10".toList⟩ := by decide +kernel
  have product := Reduction.Scan.run_goes_on settings session.engine.tokens ⟨[], _, _, _, _⟩ _ rfl six
  have sum := Reduction.Scan.run_goes_on settings
    [.numeral ⟨['6']⟩, .operator .addition, .numeral ⟨['4']⟩, .numeral ⟨['5']⟩] ⟨[], _, _, _, _⟩ _ rfl ten
  have short := Reduction.Scan.run_turn settings [.numeral ⟨"10".toList⟩, .numeral ⟨['5']⟩] fun n same => by cases same
  have failed : Reduction.Scan.run settings ⟨session.engine.tokens, 0⟩ = .error (.fault (.missingElement shown)) :=
    product.trans (sum.trans short)
  have answered := fault_answers (Action.notify 0) session _ rfl failed
  have complete : ¬ session.engine.tokens.Incomplete := by
    rw [Expression.Incomplete]
    decide +kernel
  obtain ⟨last, breaks, text⟩ := Reduction.Scan.misses_breaks_off settings _ shown failed
  have windows := (breaks_off complete last breaks).2
  rw [← text] at windows
  obtain ⟨answers_keyed, _, _, entered⟩ :=
    missing_elements_show settings none none [.numeral (.text ['4']), .operator (.text ['+'])]
  have incomplete : keyed.engine.tokens.Incomplete := .inl (by decide +kernel)
  exact ⟨answered, (answers (Action.notify 0) session shown rfl).1 answered,
    ⟨last, complete, breaks, text, windows⟩,
    (answers_keyed (Action.notify 0) keyed _ rfl).2 rfl (.incomplete incomplete), entered rfl⟩

theorem sum_shown_for_submitted :
    let session := start (.seeded ⟨0, 5, by decide⟩ (some "4 + 2 3".toList)) none
    (session.step .reduce).1 = .ok (.reduced (some (.missingElement (.text "6 3".toList)))) ∧
      Expression.shownText session.engine.tokens.rendered = .text "4 + 2 3".toList := by
  intro session
  have six : Reduction.combined session.engine.settings (.numeral ⟨['4']⟩) (.operator .addition) (.numeral ⟨['2']⟩) =
      .ok ⟨['6']⟩ := by decide +kernel
  have failed : session.engine.evaluate = .error (.fault (.missingElement (.text "6 3".toList))) := by
    have sum := Reduction.Scan.run_goes_on _ session.engine.tokens ⟨[], _, _, _, _⟩ _ rfl six
    exact sum.trans (Reduction.Scan.run_turn _ [.numeral ⟨['6']⟩, .numeral ⟨['3']⟩] fun n same => by cases same)
  exact ⟨fault_answers (Action.notify 0) session _ rfl failed, rfl⟩

end Session

end PocketCalculator
