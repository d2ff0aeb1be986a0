import PocketCalculator.Proofs.FixedPoint.Layout
import PocketCalculator.Proofs.Reduction.TermsFirst

set_option autoImplicit false

namespace PocketCalculator

namespace Numeral

def IsInfinite (n : Numeral) : Prop := ∃ negative, n.value = .ok (.infinite negative)

theorem Parts.value_defined (parts : Parts) : parts.value ≠ .undefined := by
  rw [Parts.value, Double.ofDecimal]
  split <;> exact Double.of_quotient_defined _ _ _

theorem well_formed_value (n : Numeral) (wellFormed : n.wellFormed = true) :
    ∃ x, n.value = .ok x ∧ (¬ x.IsFinite → n.IsInfinite) := by
  rw [Numeral.wellFormed, Option.isSome_iff_exists] at wellFormed
  obtain ⟨parts, found⟩ := wellFormed
  have reads : n.value = .ok parts.value := by rw [value, found]
  refine ⟨parts.value, reads, fun unbounded => ?_⟩
  cases whole : parts.value with
  | undefined => exact absurd whole parts.value_defined
  | infinite negative => exact ⟨negative, reads.trans (congrArg Except.ok whole)⟩
  | finite negative units representable => exact absurd ⟨negative, units, representable, whole⟩ unbounded

theorem finite_not_infinite (n : Numeral) (finite : n.IsFinite) : ¬ n.IsInfinite := by
  rintro ⟨negative, infinite⟩
  obtain ⟨x, reads, _, _, _, rfl⟩ := finite
  rw [infinite] at reads
  cases reads

end Numeral

namespace Arithmetic

theorem checked_refuses (operation : Text) (a b : Number) (z : Double) (failure : Failure)
    (failed : checked operation a b (.real z) = .error failure) :
    failure = .fault (.resultOverflow (.text operation) [.number a, .number b]) := by
  simp only [checked, toDouble, bind, Except.bind] at failed
  split at failed
  · exact (Except.error.inj failed).symm
  · cases failed

theorem operation_refuses (o : Operator) (x y : Double) (failure : Failure)
    (failed : operation o (.real x) (.real y) = .error failure) :
    (∃ numerator, failure = .fault (.divisionByZero numerator)) ∨
      ∃ operation operands, failure = .fault (.resultOverflow operation operands) := by
  cases o with
  | addition => exact .inr ⟨_, _, checked_refuses _ _ _ _ failure failed⟩
  | subtraction => exact .inr ⟨_, _, checked_refuses _ _ _ _ failure failed⟩
  | multiplication => exact .inr ⟨_, _, checked_refuses _ _ _ _ failure failed⟩
  | division =>
      rw [operation, divide] at failed
      split at failed
      · cases failed
        exact .inl ⟨_, rfl⟩
      · exact .inr ⟨_, _, checked_refuses _ _ _ _ failure failed⟩

theorem apply_refuses (o : Operator) (x y : Double) (failure : Failure)
    (failed : apply (.operator o) (.number (.real x)) (.number (.real y)) = .error failure) :
    ((∃ numerator, failure = .fault (.divisionByZero numerator)) ∨
      ∃ operation operands, failure = .fault (.resultOverflow operation operands)) ∨
      (¬ x.IsFinite ∨ ¬ y.IsFinite) ∧ ∃ value reason, failure = .fault (.invalidInput value reason) := by
  by_cases left : x.IsFinite
  · by_cases right : y.IsFinite
    · rw [apply, number_finite x left, number_finite y right] at failed
      exact .inl (operation_refuses o x y failure failed)
    · obtain ⟨value, reason, refused⟩ := number_not_finite y right
      rw [apply, number_finite x left, refused] at failed
      cases failed
      exact .inr ⟨.inr right, value, reason, rfl⟩
  · obtain ⟨value, reason, refused⟩ := number_not_finite x left
    rw [apply, refused] at failed
    cases failed
    exact .inr ⟨.inl left, value, reason, rfl⟩

end Arithmetic

namespace FixedPoint

theorem finite_refused (settings : Settings) (x : Double) (finite : x.IsFinite) (failure : Failure)
    (failed : written settings (.real x) = .error failure) :
    mostPrecision < precision settings ∧ (failure = .precisionRefused ∨ failure = .precisionTooLarge) := by
  have beyond : mostPrecision < precision settings := by
    apply Nat.lt_of_not_le
    intro within
    obtain ⟨text, done⟩ := finite_written settings within x finite
    rw [done] at failed
    cases failed
  rw [written, if_pos beyond] at failed
  split at failed
  · exact ⟨beyond, .inr (Except.error.inj failed).symm⟩
  · exact ⟨beyond, .inl (Except.error.inj failed).symm⟩

end FixedPoint

namespace Reduction

inductive Refusal (settings : Settings) (numerals : List Numeral) : Failure → Prop where
  | divisionByZero (numerator : Value) : Refusal settings numerals (.fault (.divisionByZero numerator))
  | resultOverflow (operation : Value) (operands : List Value) :
      Refusal settings numerals (.fault (.resultOverflow operation operands))
  | invalidInput (value reason : Value) (n : Numeral) (member : n ∈ numerals) (infinite : n.IsInfinite) :
      Refusal settings numerals (.fault (.invalidInput value reason))
  | precisionRefused (beyond : FixedPoint.mostPrecision < FixedPoint.precision settings) :
      Refusal settings numerals .precisionRefused
  | precisionTooLarge (beyond : FixedPoint.mostPrecision < FixedPoint.precision settings) :
      Refusal settings numerals .precisionTooLarge

variable (settings : Settings)

theorem refusal_before (numerals later : List Numeral) (failure : Failure)
    (before : ∀ n ∈ later, n ∈ numerals ∨ n.IsFinite) (refusal : Refusal settings later failure) :
    Refusal settings numerals failure := by
  cases refusal with
  | divisionByZero numerator => exact .divisionByZero numerator
  | resultOverflow operation operands => exact .resultOverflow operation operands
  | precisionRefused beyond => exact .precisionRefused beyond
  | precisionTooLarge beyond => exact .precisionTooLarge beyond
  | invalidInput value reason n member infinite =>
      rcases before n member with given | finite
      · exact .invalidInput value reason n given infinite
      · exact absurd infinite (n.finite_not_infinite finite)

theorem combined_finite (left slot right : Token) (result : Numeral)
    (done : combined settings left slot right = .ok result) : result.IsFinite := by
  obtain ⟨z, computes, written⟩ := combined_succeeds settings left slot right result done
  exact FixedPoint.written_reads_finite settings z computes.finite result.text written

theorem step_finite (l r : Numeral) (o : Operator) (result : Numeral) (done : step settings l o r = .ok result) :
    result.IsFinite := by
  rw [← combined_step] at done
  exact combined_finite settings _ _ _ result done

theorem step_refusal (l r : Numeral) (o : Operator) (failure : Failure) (left : l.wellFormed = true)
    (right : r.wellFormed = true) (failed : step settings l o r = .error failure) :
    Refusal settings [l, r] failure := by
  obtain ⟨x, leftValue, leftInfinite⟩ := l.well_formed_value left
  obtain ⟨y, rightValue, rightInfinite⟩ := r.well_formed_value right
  have applied : computed (.numeral l) (.operator o) (.numeral r) =
      Arithmetic.apply (.operator o) (.number (.real x)) (.number (.real y)) := by
    simp only [computed, operand, leftValue, rightValue, bind, Except.bind, slotValue]
  rw [← combined_step, combined_writes, applied] at failed
  rcases (Arithmetic.apply_doubles o x y).1 with ⟨fault, refused⟩ | ⟨z, finite, done⟩
  · rw [refused] at failed
    cases failed
    rcases Arithmetic.apply_refuses o x y _ refused with
      (⟨numerator, same⟩ | ⟨operation, operands, same⟩) | ⟨unbounded, value, reason, same⟩
    · rw [same]
      exact .divisionByZero numerator
    · rw [same]
      exact .resultOverflow operation operands
    · rw [same]
      rcases unbounded with first | second
      · exact .invalidInput value reason l (by simp) (leftInfinite first)
      · exact .invalidInput value reason r (by simp) (rightInfinite second)
  · rw [done, Except.bind] at failed
    cases written : FixedPoint.written settings (.real z) with
    | ok text =>
        rw [written] at failed
        cases failed
    | error refused =>
        rw [written] at failed
        cases failed
        obtain ⟨beyond, rfl | rfl⟩ := FixedPoint.finite_refused settings z finite failure written
        · exact .precisionRefused beyond
        · exact .precisionTooLarge beyond

-- In front of a result stands nothing new, and the result itself is finite.
theorem before_result (first n result : Numeral) (o : Operator) (rest : List (Operator × Numeral))
    (finite : result.IsFinite) : ∀ m ∈ Chain.numerals ⟨result, rest⟩,
    m ∈ Chain.numerals ⟨first, (o, n) :: rest⟩ ∨ m.IsFinite := by
  intro m member
  rcases List.mem_cons.mp member with rfl | later
  · exact .inr finite
  · exact .inl (List.mem_cons_of_mem _ (List.mem_cons_of_mem _ later))

theorem first_step_refusal (first n : Numeral) (o : Operator) (rest : List (Operator × Numeral)) (failure : Failure)
    (wellFormed : ∀ m ∈ Chain.numerals ⟨first, (o, n) :: rest⟩, m.wellFormed = true)
    (failed : step settings first o n = .error failure) :
    Refusal settings (Chain.numerals ⟨first, (o, n) :: rest⟩) failure := by
  have both : ∀ m ∈ [first, n], m ∈ Chain.numerals ⟨first, (o, n) :: rest⟩ := by
    intro m member
    exact List.mem_append_left _ member
  have refusal := step_refusal settings first n o failure (wellFormed first (both first (by simp)))
    (wellFormed n (both n (by simp))) failed
  exact refusal_before settings _ _ failure (fun m member => .inl (both m member)) refusal

theorem folded_refusal (start : Numeral) (rest : List (Operator × Numeral)) (failure : Failure)
    (wellFormed : ∀ n ∈ Chain.numerals ⟨start, rest⟩, n.wellFormed = true)
    (failed : folded settings start rest = .error failure) :
    Refusal settings (Chain.numerals ⟨start, rest⟩) failure := by
  induction rest generalizing start with
  | nil => cases failed
  | cons head rest ih =>
      obtain ⟨o, n⟩ := head
      rw [folded] at failed
      cases outcome : step settings start o n with
      | error refused =>
          rw [outcome] at failed
          cases failed
          exact first_step_refusal settings start n o rest failure wellFormed outcome
      | ok result =>
          rw [outcome] at failed
          have before := before_result start n result o rest (step_finite settings _ _ o result outcome)
          refine refusal_before settings _ _ failure before (ih result ?_ failed)
          exact fun m member => (before m member).elim (wellFormed m) m.finite_well_formed

theorem term_results_numerals (first : Numeral) (rest : List (Operator × Numeral)) (results : Chain)
    (done : termResults settings ⟨first, rest⟩ = .ok results) :
    ∀ n ∈ results.numerals, n ∈ Chain.numerals ⟨first, rest⟩ ∨ n.IsFinite := by
  induction rest generalizing first results with
  | nil =>
      cases done
      exact fun n member => .inl member
  | cons head rest ih =>
      obtain ⟨o, n⟩ := head
      by_cases high : o.hasPriority = true
      · rw [term_results_factor settings first n o rest high] at done
        cases outcome : step settings first o n with
        | error failure =>
            rw [outcome] at done
            cases done
        | ok result =>
            rw [outcome] at done
            intro m member
            rcases ih result results done m member with given | finite
            · exact before_result first n result o rest (step_finite settings _ _ o result outcome) m given
            · exact .inr finite
      · have low : o.hasPriority = false := by simpa using high
        rw [term_results_divided settings first n o rest low] at done
        cases later : termResults settings ⟨n, rest⟩ with
        | error failure =>
            rw [later] at done
            cases done
        | ok terms =>
            rw [later] at done
            cases done
            intro m member
            rw [Chain.behind_numerals] at member
            rcases List.mem_cons.mp member with rfl | behind
            · exact .inl (List.mem_cons_self ..)
            · exact (ih n terms later m behind).imp_left (List.mem_cons_of_mem _)

theorem term_results_refusal (first : Numeral) (rest : List (Operator × Numeral)) (failure : Failure)
    (wellFormed : ∀ n ∈ Chain.numerals ⟨first, rest⟩, n.wellFormed = true)
    (failed : termResults settings ⟨first, rest⟩ = .error failure) :
    Refusal settings (Chain.numerals ⟨first, rest⟩) failure := by
  induction rest generalizing first with
  | nil => cases failed
  | cons head rest ih =>
      obtain ⟨o, n⟩ := head
      by_cases high : o.hasPriority = true
      · rw [term_results_factor settings first n o rest high] at failed
        cases outcome : step settings first o n with
        | error refused =>
            rw [outcome] at failed
            cases failed
            exact first_step_refusal settings first n o rest failure wellFormed outcome
        | ok result =>
            rw [outcome] at failed
            have before := before_result first n result o rest (step_finite settings _ _ o result outcome)
            refine refusal_before settings _ _ failure before (ih result ?_ failed)
            exact fun m member => (before m member).elim (wellFormed m) m.finite_well_formed
      · have low : o.hasPriority = false := by simpa using high
        rw [term_results_divided settings first n o rest low] at failed
        cases later : termResults settings ⟨n, rest⟩ with
        | ok terms =>
            rw [later] at failed
            cases failed
        | error refused =>
            rw [later] at failed
            cases failed
            have refusal := ih n (fun m member => wellFormed m (List.mem_cons_of_mem _ member)) later
            exact refusal_before settings _ _ failure (fun m member => .inl (List.mem_cons_of_mem _ member)) refusal

theorem evaluate_refusal (chain : Chain) (more : chain.rest ≠ []) (failure : Failure)
    (wellFormed : ∀ n ∈ chain.numerals, n.wellFormed = true)
    (failed : evaluate settings chain.tokens = .error failure) : Refusal settings chain.numerals failure := by
  rw [evaluate_chain settings chain more, by_precedence_terms] at failed
  cases terms : termResults settings chain with
  | error refused =>
      rw [terms] at failed
      cases failed
      exact term_results_refusal settings chain.first chain.rest failure wellFormed terms
  | ok results =>
      rw [terms] at failed
      have before := term_results_numerals settings chain.first chain.rest results terms
      refine refusal_before settings _ _ failure before ?_
      refine folded_refusal settings results.first results.rest failure ?_ failed
      exact fun m member => (before m member).elim (wellFormed m) m.finite_well_formed

end Reduction

end PocketCalculator
