import PocketCalculator.Proofs.Expression.Integers
import PocketCalculator.Proofs.Reduction.TermsFirst

set_option autoImplicit false

namespace PocketCalculator

namespace Double

theorem whole_finite (x : Double) (i : Int) (whole : x.IsWhole i) : x.IsFinite := by
  obtain ⟨negative, units, representable, same, _⟩ := whole
  exact ⟨negative, units, representable, same⟩

theorem rounded_whole (o : Operator) (x y : Double) (i j : Int) (undivided : o ≠ .division) (left : x.IsWhole i)
    (right : y.IsWhole j) (small : (o.exact i j).natAbs ≤ exactLimit) : (o.rounded x y).IsWhole (o.exact i j) := by
  cases o with
  | addition => exact add_whole x y i j left right small
  | subtraction => exact subtract_whole x y i j left right small
  | multiplication => exact multiply_whole x y i j left right small
  | division => exact absurd rfl undivided

end Double

namespace Reduction

open FixedPoint Chain

variable (settings : Settings) (within : precision settings ≤ mostPrecision)

include within

theorem step_whole (l r : Numeral) (o : Operator) (i j : Int) (undivided : o ≠ .division) (left : l.ReadsWhole i)
    (right : r.ReadsWhole j) (small : (o.exact i j).natAbs ≤ Double.exactLimit) :
    step settings l o r = .ok ⟨wholeText settings (o.exact i j)⟩ := by
  obtain ⟨x, leftValue, leftWhole⟩ := left
  obtain ⟨y, rightValue, rightWhole⟩ := right
  have whole := Double.rounded_whole o x y i j undivided leftWhole rightWhole small
  rw [← combined_step, combined_rounds settings l r o x y leftValue rightValue (Double.whole_finite x i leftWhole)
    (Double.whole_finite y j rightWhole) (fun division => absurd division undivided) (Double.whole_finite _ _ whole),
    written_whole settings within _ _ whole]
  rfl

-- The induction is on the parts. The text so far reads as the value so far.
theorem folded_shown (i : Int) (rest : List (Operator × Numeral)) (parts : List (Operator × Int))
    (reads : ReadsParts rest parts) (small : ∀ j ∈ partials i parts, j.natAbs ≤ Double.exactLimit) :
    folded settings ⟨wholeText settings i⟩ rest = .ok ⟨wholeText settings (leftToRight i parts)⟩ := by
  induction reads generalizing i with
  | none => rfl
  | more o n j rest parts undivided whole later ih =>
      have shown := whole_text_reads settings i (small i (List.mem_cons_self ..))
      have small_later : ∀ k ∈ partials (o.exact i j) parts, k.natAbs ≤ Double.exactLimit :=
        fun k member => small k (List.mem_cons_of_mem _ member)
      have next := small_later _ (partials_start _ parts)
      rw [folded, step_whole settings within _ n o i j undivided shown whole next]
      exact ih _ small_later

theorem folded_whole (start : Numeral) (i : Int) (rest : List (Operator × Numeral)) (parts : List (Operator × Int))
    (more : rest ≠ []) (begins : start.ReadsWhole i) (reads : ReadsParts rest parts)
    (small : ∀ j ∈ partials i parts, j.natAbs ≤ Double.exactLimit) :
    folded settings start rest = .ok ⟨wholeText settings (leftToRight i parts)⟩ := by
  cases reads with
  | none => exact absurd rfl more
  | more o n j rest parts undivided whole later =>
      have small_later : ∀ k ∈ partials (o.exact i j) parts, k.natAbs ≤ Double.exactLimit :=
        fun k member => small k (List.mem_cons_of_mem _ member)
      have next := small_later _ (partials_start _ parts)
      rw [folded, step_whole settings within start n o i j undivided begins whole next]
      exact folded_shown settings within _ rest parts later small_later

theorem term_whole (chain : Chain) (reads : ReadsTerm chain) :
    ∃ result, term settings chain = .ok result ∧ result.ReadsWhole chain.termValue := by
  by_cases alone : chain.rest = []
  · refine ⟨chain.first, by rw [term, alone]; rfl, ?_⟩
    rw [termValue, alone]
    exact reads.first
  · refine ⟨_, folded_whole settings within _ _ _ _ alone reads.first reads.rest reads.steps, ?_⟩
    exact whole_text_reads settings _ (reads.steps _ (partials_end _ _))

theorem terms_whole (later : List (Operator × Chain)) (reads : ∀ part ∈ later, part.1 ≠ .division ∧ ReadsTerm part.2) :
    ∃ results, terms settings later = .ok results ∧ ReadsParts results (termValues later) := by
  induction later with
  | nil => exact ⟨[], rfl, .none⟩
  | cons part later ih =>
      obtain ⟨undivided, readable⟩ := reads part (List.mem_cons_self ..)
      obtain ⟨result, done, whole⟩ := term_whole settings within part.2 readable
      obtain ⟨results, finished, others⟩ := ih fun other member => reads other (List.mem_cons_of_mem _ member)
      refine ⟨(part.1, result) :: results, ?_, .more _ _ _ _ _ undivided whole others⟩
      rw [terms, done, finished]
      rfl

theorem evaluate_integers (chain : Chain) (more : chain.rest ≠ []) (integers : chain.IsInteger)
    (exact : chain.StaysExact) :
    evaluate settings chain.tokens = .ok ⟨wholeText settings chain.integerValue⟩ := by
  obtain ⟨first, later⟩ := terms_read chain integers exact
  rw [evaluate_chain settings chain more, byPrecedence]
  by_cases alone : chain.laterTerms = []
  · rw [one_term chain alone] at first
    rw [integerValue, one_term chain alone, alone, term,
      folded_whole settings within _ _ _ _ more first.first first.rest first.steps]
    rfl
  · obtain ⟨result, done, whole⟩ := term_whole settings within chain.firstTerm first
    obtain ⟨results, finished, others⟩ := terms_whole settings within chain.laterTerms later
    have some_result : results ≠ [] := by
      rintro rfl
      have none : termValues chain.laterTerms = [] := by
        generalize termValues chain.laterTerms = values at others
        cases others
        rfl
      exact alone (List.map_eq_nil_iff.mp none)
    rw [done, finished]
    refine folded_whole settings within result _ results _ some_result whole others fun i member => ?_
    apply exact.steps
    rw [integerSteps]
    exact List.mem_append_right _ member

end Reduction

end PocketCalculator
