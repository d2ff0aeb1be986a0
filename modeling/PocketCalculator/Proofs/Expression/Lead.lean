import PocketCalculator.Expression.Chain

set_option autoImplicit false

namespace PocketCalculator.Chain

abbrev Lead := List (Numeral × Operator)

def leadTokens : Lead → Expression
  | [] => []
  | (n, o) :: lead => .numeral n :: .operator o :: leadTokens lead

def behind (chain : Chain) : Lead → Chain
  | [] => chain
  | (n, o) :: lead => ⟨n, (o, (chain.behind lead).first) :: (chain.behind lead).rest⟩

@[simp] theorem behind_tokens (chain : Chain) (lead : Lead) :
    (chain.behind lead).tokens = leadTokens lead ++ chain.tokens := by
  induction lead with
  | nil => rfl
  | cons head lead ih =>
      simp only [behind, tokens, tokensOf, leadTokens, List.cons_append, List.cons.injEq, true_and]
      exact ih

theorem behind_append (chain : Chain) (lead more : Lead) :
    chain.behind (lead ++ more) = (chain.behind more).behind lead := by
  induction lead with
  | nil => rfl
  | cons head lead ih => simp only [List.cons_append, behind, ih]

def operators (chain : Chain) : List Operator := chain.rest.map Prod.fst

@[simp] theorem behind_operators (chain : Chain) (lead : Lead) :
    (chain.behind lead).operators = lead.map Prod.snd ++ chain.operators := by
  induction lead with
  | nil => rfl
  | cons head lead ih =>
      simp only [behind, List.map_cons, List.cons_append, ← ih]
      rfl

@[simp] theorem behind_length (chain : Chain) (lead : Lead) :
    (chain.behind lead).rest.length = lead.length + chain.rest.length := by
  simpa [operators] using congrArg List.length (behind_operators chain lead)

@[simp] theorem behind_alone (chain : Chain) (lead : Lead) :
    (chain.behind lead).rest = [] ↔ lead = [] ∧ chain.rest = [] := by
  rw [← List.length_eq_zero_iff, behind_length, Nat.add_eq_zero_iff, List.length_eq_zero_iff, List.length_eq_zero_iff]

def numerals (chain : Chain) : List Numeral := chain.first :: chain.rest.map Prod.snd

@[simp] theorem behind_numerals (chain : Chain) (lead : Lead) :
    (chain.behind lead).numerals = lead.map Prod.fst ++ chain.numerals := by
  induction lead with
  | nil => rfl
  | cons head lead ih =>
      simp only [behind, List.map_cons, List.cons_append, ← ih]
      rfl

@[simp] theorem priority_left_tokens (chain : Chain) :
    chain.tokens.priorityLeft = chain.rest.any (·.1.hasPriority) := by
  have rest : ∀ rest, (tokensOf rest).any Token.hasPriority = rest.any (·.1.hasPriority) := by
    intro rest
    induction rest with
    | nil => rfl
    | cons head tail ih => simp [tokensOf, Token.hasPriority, ih]
  simp [Expression.priorityLeft, tokens, Token.hasPriority, rest]

@[simp] theorem ends_in_numeral (first : Numeral) (rest : List (Operator × Numeral)) :
    Expression.endsInOperator (Chain.tokens ⟨first, rest⟩) = false := by
  induction rest generalizing first with
  | nil => rfl
  | cons head rest ih =>
      have later := ih head.2
      simp only [Expression.endsInOperator, tokens, tokensOf, List.getLast?_cons_cons] at later ⊢
      exact later

theorem chain_valid (chain : Chain) (more : chain.rest ≠ []) : chain.tokens.validity = .valid := by
  have some_rest := List.length_pos_iff.mpr more
  have long : ¬ chain.tokens.length < Expression.leastTokens := by
    rw [tokens_odd, Expression.leastTokens]
    omega
  rw [Expression.validity, if_neg long, ends_in_numeral, if_neg Bool.false_ne_true]

theorem tokens_of_operators (rest : List (Operator × Numeral)) :
    (tokensOf rest).filter Token.isOperator = rest.map fun part => .operator part.1 := by
  induction rest with
  | nil => rfl
  | cons head rest ih =>
      rw [tokensOf, List.filter_cons_of_pos rfl, List.filter_cons_of_neg Bool.false_ne_true, ih, List.map_cons]

@[simp] theorem tokens_operators (chain : Chain) :
    chain.tokens.filter Token.isOperator = chain.operators.map .operator := by
  rw [tokens, List.filter_cons_of_neg Bool.false_ne_true, tokens_of_operators, operators, List.map_map]
  rfl

-- A numeral at an even place parts a chain into what leads it and what it begins.
theorem tokens_split (chain : Chain) (before after : Expression) (n : Numeral) (even : before.length % 2 = 0)
    (split : chain.tokens = before ++ .numeral n :: after) :
    ∃ lead rest, before = leadTokens lead ∧ after = tokensOf rest ∧ chain = (⟨n, rest⟩ : Chain).behind lead := by
  obtain ⟨first, rest⟩ := chain
  match before with
  | [] =>
      simp only [tokens, List.nil_append, List.cons.injEq, Token.numeral.injEq] at split
      exact ⟨[], rest, rfl, split.2.symm, by rw [behind, split.1]⟩
  | [_] => simp at even
  | left :: slot :: before =>
      cases rest with
      | nil => simp [tokens, tokensOf] at split
      | cons head rest =>
          simp only [tokens, tokensOf, List.cons_append, List.cons.injEq] at split
          obtain ⟨rfl, rfl, later⟩ := split
          have shorter : before.length % 2 = 0 := by
            simp only [List.length_cons] at even
            omega
          obtain ⟨lead, tail, same, ends, whole⟩ := tokens_split ⟨head.2, rest⟩ before after n shorter later
          refine ⟨(first, head.1) :: lead, tail, by rw [same, leadTokens], ends, ?_⟩
          rw [behind, ← whole]

end PocketCalculator.Chain
