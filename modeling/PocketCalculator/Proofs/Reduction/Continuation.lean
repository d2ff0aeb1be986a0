import PocketCalculator.Proofs.Reduction.Alternation

set_option autoImplicit false

namespace PocketCalculator.Reduction

variable (settings : Settings)

theorem term_results_continued (first : Numeral) (rest : List (Operator × Numeral)) (o : Operator) (n : Numeral)
    (more : List (Operator × Numeral)) (low : o.hasPriority = false) :
    termResults settings ⟨first, rest ++ (o, n) :: more⟩ =
      (termResults settings ⟨first, rest⟩).bind fun results =>
        (termResults settings ⟨n, more⟩).map fun later => results.continued ((o, later.first) :: later.rest) := by
  induction rest generalizing first with
  | nil =>
      rw [List.nil_append, term_results_divided settings first n o more low, term_results_alone]
      rfl
  | cons head rest ih =>
      obtain ⟨p, m⟩ := head
      rw [List.cons_append]
      by_cases high : p.hasPriority = true
      · rw [term_results_factor settings first m p _ high, term_results_factor settings first m p _ high]
        cases step settings first p m with
        | error failure => rfl
        | ok result => exact ih result
      · have lowHere : p.hasPriority = false := by simpa using high
        rw [term_results_divided settings first m p _ lowHere, term_results_divided settings first m p _ lowHere, ih m]
        cases termResults settings ⟨m, rest⟩ with
        | error failure => rfl
        | ok results => cases termResults settings ⟨n, more⟩ <;> rfl

theorem term_results_one_term (first : Numeral) (rest more : List (Operator × Numeral))
    (high : ∀ factor ∈ rest, factor.1.hasPriority = true) :
    termResults settings ⟨first, rest ++ more⟩ =
      (folded settings first rest).bind fun result => termResults settings ⟨result, more⟩ := by
  induction rest generalizing first with
  | nil => rfl
  | cons head rest ih =>
      obtain ⟨o, n⟩ := head
      have later := fun result => ih result fun factor member => high factor (List.mem_cons_of_mem _ member)
      have here : o.hasPriority = true := high (o, n) (by simp)
      rw [List.cons_append, term_results_factor settings first n o _ here, folded]
      cases step settings first o n with
      | error failure => rfl
      | ok result => exact later result

theorem by_precedence_after_terms (chain : Chain) (result : Numeral) (o : Operator) (n : Numeral)
    (more : List (Operator × Numeral)) (done : byPrecedence settings chain = .ok result)
    (low : o.hasPriority = false) :
    byPrecedence settings (chain.continued ((o, n) :: more)) = byPrecedence settings ⟨result, (o, n) :: more⟩ := by
  rw [by_precedence_terms] at done
  rw [by_precedence_terms, by_precedence_terms, Chain.continued,
    term_results_continued settings chain.first chain.rest o n more low,
    term_results_divided settings result n o more low]
  cases terms : termResults settings chain with
  | error failure =>
      rw [terms] at done
      cases done
  | ok results =>
      rw [terms] at done
      change folded settings results.first results.rest = .ok result at done
      cases termResults settings ⟨n, more⟩ with
      | error failure => rfl
      | ok later =>
          change folded settings results.first (results.rest ++ (o, later.first) :: later.rest) =
            folded settings result ((o, later.first) :: later.rest)
          rw [folded_append, done]
          rfl

theorem by_precedence_after_term (chain : Chain) (result : Numeral) (more : List (Operator × Numeral))
    (done : byPrecedence settings chain = .ok result) (high : ∀ factor ∈ chain.rest, factor.1.hasPriority = true) :
    byPrecedence settings (chain.continued more) = byPrecedence settings ⟨result, more⟩ := by
  have alone : byPrecedence settings chain = folded settings chain.first chain.rest := by
    have whole := term_results_one_term settings chain.first chain.rest [] high
    rw [List.append_nil] at whole
    rw [by_precedence_terms, whole]
    cases folded settings chain.first chain.rest <;> rfl
  rw [by_precedence_terms, by_precedence_terms, Chain.continued,
    term_results_one_term settings chain.first chain.rest more high, ← alone, done]
  rfl

-- Whether what is done to a chain so far is done first when the operator goes on with it.
def Joins (chain : Chain) (o : Operator) : Prop :=
  o.hasPriority = false ∨ ∀ p ∈ chain.operators, p.hasPriority = true

theorem reduced_chain_long (chain : Chain) (result : Numeral) (done : evaluate settings chain.tokens = .ok result) :
    chain.rest ≠ [] := by
  intro none
  have long := valid_length chain.tokens (evaluate_ok settings chain.tokens result done).1
  simp [none] at long

-- A divider ends the last term, so that the terms in front of it are done before any behind it. Within one term
-- every factor is taken from left to right anyway.
theorem evaluate_continued (chain : Chain) (result : Numeral) (o : Operator) (n : Numeral)
    (more : List (Operator × Numeral)) (done : evaluate settings chain.tokens = .ok result) (joins : Joins chain o) :
    evaluate settings (chain.continued ((o, n) :: more)).tokens =
      evaluate settings (Chain.tokens ⟨result, (o, n) :: more⟩) := by
  have long := reduced_chain_long settings chain result done
  rw [evaluate_chain settings chain long] at done
  rw [evaluate_chain settings _ (by simp [Chain.continued]), evaluate_chain settings _ (List.cons_ne_nil _ _)]
  rcases joins with low | high
  · exact by_precedence_after_terms settings chain result o n more done low
  · apply by_precedence_after_term settings chain result _ done
    intro factor member
    exact high factor.1 (List.mem_map_of_mem member)

end PocketCalculator.Reduction
