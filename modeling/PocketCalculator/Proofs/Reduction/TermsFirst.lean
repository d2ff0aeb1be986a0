import PocketCalculator.Proofs.Expression.Lead
import PocketCalculator.Proofs.Reduction.Turn
import PocketCalculator.Reduction.Precedence

set_option autoImplicit false

namespace PocketCalculator.Reduction

variable (settings : Settings)

-- The terms of a chain evaluated, with the operators that divide them.
def termResults (chain : Chain) : Except Failure Chain := do
  let first ← term settings chain.firstTerm
  let later ← terms settings chain.laterTerms
  return ⟨first, later⟩

theorem by_precedence_terms (chain : Chain) :
    byPrecedence settings chain = (termResults settings chain).bind (term settings) := by
  simp only [byPrecedence, termResults, term, bind]
  cases folded settings chain.firstTerm.first chain.firstTerm.rest with
  | error failure => rfl
  | ok first => cases terms settings chain.laterTerms <;> rfl

theorem term_results_alone (n : Numeral) : termResults settings ⟨n, []⟩ = .ok ⟨n, []⟩ := rfl

theorem term_results_factor (first n : Numeral) (o : Operator) (rest : List (Operator × Numeral))
    (high : o.hasPriority = true) :
    termResults settings ⟨first, (o, n) :: rest⟩ =
      (step settings first o n).bind fun result => termResults settings ⟨result, rest⟩ := by
  simp only [termResults, Chain.firstTerm, Chain.laterTerms, Chain.cut, high, if_true, term, folded, bind]
  cases step settings first o n <;> rfl

theorem term_results_divided (first n : Numeral) (o : Operator) (rest : List (Operator × Numeral))
    (low : o.hasPriority = false) :
    termResults settings ⟨first, (o, n) :: rest⟩ =
      (termResults settings ⟨n, rest⟩).map fun results => results.behind [(first, o)] := by
  simp only [termResults, Chain.firstTerm, Chain.laterTerms, Chain.cut, low, Bool.false_eq_true, if_false, term,
    folded, terms, bind, Except.bind]
  cases folded settings n (Chain.cut rest).1 with
  | error failure => rfl
  | ok result => cases terms settings (Chain.cut rest).2 <;> rfl

theorem first_priority_behind (lead : Chain.Lead) (tokens : Expression)
    (low : ∀ o ∈ lead.map Prod.snd, o.hasPriority = false) :
    firstPriority? (Chain.leadTokens lead ++ tokens) =
      (firstPriority? tokens).map fun turn => { turn with before := Chain.leadTokens lead ++ turn.before } := by
  induction lead with
  | nil => simp [Chain.leadTokens]
  | cons head lead ih =>
      have later := ih fun o member => low o (List.mem_cons_of_mem _ member)
      have lowHere : (Token.operator head.2).hasPriority = false := low head.2 (by simp)
      simp only [Chain.leadTokens, List.cons_append]
      rw [first_priority_low _ _ _ lowHere, later, Option.map_map]
      rfl

theorem several_tokens (chain : Chain) (more : chain.rest ≠ []) (n : Numeral) : chain.tokens ≠ [.numeral n] := by
  intro alone
  have length := congrArg List.length alone
  rw [Chain.tokens_odd, List.length_singleton] at length
  exact more (List.length_eq_zero_iff.mp (by omega))

theorem run_without_priority (first : Numeral) (rest : List (Operator × Numeral))
    (low : ∀ o ∈ (⟨first, rest⟩ : Chain).operators, o.hasPriority = false) :
    Scan.run settings ⟨Chain.tokens ⟨first, rest⟩, 0⟩ = folded settings first rest := by
  induction rest generalizing first with
  | nil => exact Scan.run_alone settings first 0
  | cons head rest ih =>
      have none_left : Expression.priorityLeft (Chain.tokens ⟨first, head :: rest⟩) = false := by
        rw [Chain.priority_left_tokens, List.any_eq_false]
        intro part member
        simpa using low part.1 (List.mem_map_of_mem member)
      have later := fun result => ih result fun o member => low o (List.mem_cons_of_mem _ member)
      rw [Scan.run_turn settings _ (several_tokens _ (by simp)), turn?, none_left, if_neg Bool.false_ne_true]
      simp only [Chain.tokens, Chain.tokensOf, first?, Turn.combined, combined_step, Turn.reduced, List.nil_append,
        folded, bind]
      exact congrArg _ (funext later)

theorem run_factor (lead : Chain.Lead) (first n : Numeral) (o : Operator) (rest : List (Operator × Numeral))
    (low : ∀ o ∈ lead.map Prod.snd, o.hasPriority = false) (high : o.hasPriority = true) :
    Scan.run settings ⟨((⟨first, (o, n) :: rest⟩ : Chain).behind lead).tokens, 0⟩ =
      (step settings first o n).bind
        fun result => Scan.run settings ⟨((⟨result, rest⟩ : Chain).behind lead).tokens, 0⟩ := by
  have more : ((⟨first, (o, n) :: rest⟩ : Chain).behind lead).rest ≠ [] := by
    intro none
    simp at none
  have left_over : Expression.priorityLeft ((⟨first, (o, n) :: rest⟩ : Chain).behind lead).tokens = true := by
    rw [Chain.behind_tokens]
    simp [Expression.priorityLeft, Chain.tokens, Chain.tokensOf, Token.hasPriority, high]
  have found : firstPriority? (Chain.tokens ⟨first, (o, n) :: rest⟩) =
      some ⟨[], .numeral first, .operator o, .numeral n, Chain.tokensOf rest⟩ := by
    rw [Chain.tokens, Chain.tokensOf, firstPriority?]
    exact if_pos high
  rw [Scan.run_turn settings _ (several_tokens _ more), turn?, if_pos left_over, Chain.behind_tokens,
    first_priority_behind lead _ low, found]
  simp only [Option.map_some, Turn.combined, combined_step, Turn.reduced, List.append_nil, Chain.behind_tokens]
  rfl

-- The induction is on what the cursor has not passed yet. A factor is folded into the numeral before it, and
-- a divider goes to the lead together with its left numeral.
theorem run_behind (lead : Chain.Lead) (first : Numeral) (rest : List (Operator × Numeral))
    (low : ∀ o ∈ lead.map Prod.snd, o.hasPriority = false) :
    Scan.run settings ⟨((⟨first, rest⟩ : Chain).behind lead).tokens, 0⟩ =
      (termResults settings ⟨first, rest⟩).bind fun results => term settings (results.behind lead) := by
  induction rest generalizing lead first with
  | nil =>
      rw [term_results_alone]
      apply run_without_priority
      intro o member
      change o ∈ ((⟨first, []⟩ : Chain).behind lead).operators at member
      rw [Chain.behind_operators] at member
      exact low o (by simpa [Chain.operators] using member)
  | cons head rest ih =>
      obtain ⟨o, n⟩ := head
      by_cases high : o.hasPriority = true
      · rw [run_factor settings lead first n o rest low high, term_results_factor settings first n o rest high]
        cases step settings first o n with
        | error failure => rfl
        | ok result => exact ih lead result low
      · have lowHere : o.hasPriority = false := by simpa using high
        have lowThere : ∀ divider ∈ (lead ++ [(first, o)]).map Prod.snd, divider.hasPriority = false := by
          intro divider member
          rw [List.map_append, List.mem_append] at member
          rcases member with before | here
          · exact low divider before
          · rw [List.mem_singleton.mp here]
            exact lowHere
        have later := ih (lead ++ [(first, o)]) n lowThere
        rw [Chain.behind_append] at later
        refine later.trans ?_
        rw [term_results_divided settings first n o rest lowHere]
        cases termResults settings ⟨n, rest⟩ with
        | error failure => rfl
        | ok results => exact congrArg (term settings) (Chain.behind_append results lead [(first, o)])

theorem run_chain (chain : Chain) : Scan.run settings ⟨chain.tokens, 0⟩ = byPrecedence settings chain := by
  rw [by_precedence_terms]
  exact run_behind settings [] chain.first chain.rest (by simp)

theorem evaluate_chain (chain : Chain) (more : chain.rest ≠ []) :
    evaluate settings chain.tokens = byPrecedence settings chain := by
  rw [evaluate, Expression.ensureValid, if_pos (Chain.chain_valid chain more)]
  exact run_chain settings chain

/- The outcome of a scan is that of the terms, each from left to right and one after the other, and then of
   their results from left to right. A failure in a term comes first, wherever the term stands. -/
theorem scan_takes_terms_first (settings : Settings) (chain : Chain) :
    (∀ first later, chain.DividesInto first later ↔ first = chain.firstTerm ∧ later = chain.laterTerms) ∧
      Scan.run settings ⟨chain.tokens, 0⟩ = byPrecedence settings chain ∧
      ((∃ failure, termResults settings chain = .error failure ∧
          Scan.run settings ⟨chain.tokens, 0⟩ = .error failure) ∨
        ∃ results, termResults settings chain = .ok results ∧
          Scan.run settings ⟨chain.tokens, 0⟩ = term settings results) := by
  have same := run_chain settings chain
  refine ⟨chain.divides_into_iff, same, ?_⟩
  rw [same, by_precedence_terms]
  cases termResults settings chain with
  | error failure => exact .inl ⟨failure, rfl, rfl⟩
  | ok results => exact .inr ⟨results, rfl, rfl⟩

end PocketCalculator.Reduction
