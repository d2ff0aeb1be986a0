import PocketCalculator.Proofs.Reduction.TermsFirst
import PocketCalculator.Proofs.Reduction.Trail
import PocketCalculator.Proofs.Reduction.Window

set_option autoImplicit false

namespace PocketCalculator.Reduction

variable (settings : Settings)

-- A turn stands at an even place and leaves a numeral there, so that it was a numeral, an operator and a numeral
-- in the midst of a chain if a chain is left behind.
theorem turn_in_chain (turn : Turn) (result l r : Numeral) (o : Operator) (chain : Chain)
    (even : turn.before.length % 2 = 0) (reduced : turn.reduced result = chain.tokens)
    (window : turn.left = .numeral l ∧ turn.slot = .operator o ∧ turn.right = .numeral r) :
    ∃ lead rest, turn.tokens = ((⟨l, (o, r) :: rest⟩ : Chain).behind lead).tokens ∧
      chain = (⟨result, rest⟩ : Chain).behind lead := by
  obtain ⟨lead, rest, before, after, whole⟩ := chain.tokens_split turn.before turn.after result even reduced.symm
  refine ⟨lead, rest, ?_, whole⟩
  rw [Turn.tokens, Chain.behind_tokens, before, after, window.1, window.2.1, window.2.2]
  rfl

structure Reduced (tokens : Expression) (chain : Chain) : Prop where
  arranged : tokens = chain.tokens
  finite : chain.rest ≠ [] → ∀ n ∈ chain.numerals, n.IsFinite
  computed : ∀ window ∈ Scan.windows settings ⟨tokens, 0⟩, ∃ z, Computes window.1 window.2.1 window.2.2 z
  applied : ((Scan.windows settings ⟨tokens, 0⟩).map (·.2.1)).Perm (chain.operators.map .operator)

theorem alone_reduced (n : Numeral) : Reduced settings [.numeral n] ⟨n, []⟩ where
  arranged := rfl
  finite := fun more => absurd rfl more
  computed := by simp [Scan.windows_alone]
  applied := by
    rw [Scan.windows_alone]
    exact .nil

theorem turn_reduced (tokens : Expression) (turn : Turn) (result : Numeral) (chain : Chain)
    (several : ∀ n, tokens ≠ [.numeral n]) (found : turn? tokens = some turn)
    (done : turn.combined settings = .ok result) (left : Reduced settings (turn.reduced result) chain) :
    ∃ whole, Reduced settings tokens whole := by
  obtain ⟨same, even⟩ := turn_tokens tokens turn found
  obtain ⟨z, computes, _⟩ := combined_succeeds settings turn.left turn.slot turn.right result done
  obtain ⟨l, r, leftIs, rightIs, leftFinite, rightFinite⟩ := computes.operands
  obtain ⟨o, slotIs⟩ := computes.operator
  obtain ⟨lead, rest, whole, part⟩ := turn_in_chain turn result l r o chain even left.arranged ⟨leftIs, slotIs, rightIs⟩
  have windows := Scan.windows_turn settings tokens turn result several found done
  subst part
  refine ⟨(⟨l, (o, r) :: rest⟩ : Chain).behind lead, same.symm.trans whole, fun _ n member => ?_, ?_, ?_⟩
  · rw [Chain.behind_numerals] at member
    simp only [Chain.numerals, List.map_cons, List.mem_append, List.mem_cons] at member
    -- Any other numeral is still there after the turn, beside the result.
    have others : n ∈ lead.map Prod.fst ∨ n ∈ rest.map Prod.snd → n.IsFinite := by
      intro other
      apply left.finite
      · intro none
        obtain ⟨no_lead, no_rest⟩ : lead = [] ∧ rest = [] := (Chain.behind_alone _ lead).mp none
        simp [no_lead, no_rest] at other
      · rw [Chain.behind_numerals, List.mem_append, Chain.numerals, List.mem_cons]
        exact other.imp_right .inr
    rcases member with before | rfl | rfl | after
    · exact others (.inl before)
    · exact leftFinite
    · exact rightFinite
    · exact others (.inr after)
  · rw [windows]
    intro window member
    rcases List.mem_cons.mp member with rfl | later
    · exact ⟨z, computes⟩
    · exact left.computed window later
  · have applied := left.applied
    rw [Chain.behind_operators, List.map_append] at applied
    rw [windows, Chain.behind_operators, List.map_append, List.map_cons, slotIs]
    exact (applied.cons _).trans List.perm_middle.symm

theorem run_succeeds (tokens : Expression) (result : Numeral) (done : Scan.run settings ⟨tokens, 0⟩ = .ok result) :
    ∃ chain, Reduced settings tokens chain := by
  refine Scan.run_induction settings (motive := fun tokens outcome => ∀ result, outcome = .ok result →
    ∃ chain, Reduced settings tokens chain) ?_ ?_ ?_ ?_ tokens result done
  · intro n _ _
    exact ⟨_, alone_reduced settings n⟩
  · intro tokens _ _ result impossible
    cases impossible
  · intro tokens turn failure _ _ result impossible
    cases impossible
  · intro tokens turn next outcome several found combined left result finished
    obtain ⟨chain, reduced⟩ := left result finished
    exact turn_reduced settings tokens turn next chain several found combined reduced

theorem evaluate_ok (tokens : Expression) (result : Numeral) (done : evaluate settings tokens = .ok result) :
    tokens.validity = .valid ∧ Scan.run settings ⟨tokens, 0⟩ = .ok result := by
  rw [evaluate, Expression.ensureValid] at done
  split at done
  · rename_i valid
    exact ⟨valid, done⟩
  · cases done

theorem valid_length (tokens : Expression) (valid : tokens.validity = .valid) : 3 ≤ tokens.length := by
  rw [Expression.validity] at valid
  split at valid
  · cases valid
  · rename_i long
    rw [Expression.leastTokens] at long
    omega

theorem only_chains_reduce (settings : Settings) (tokens : Expression) (result : Numeral)
    (done : evaluate settings tokens = .ok result) :
    ∃ chain : Chain, tokens = chain.tokens ∧ tokens.length % 2 = 1 ∧ 3 ≤ tokens.length ∧
      (∀ n ∈ chain.numerals, n.wellFormed = true ∧ n.IsFinite) ∧
      (∀ window ∈ Scan.windows settings ⟨tokens, 0⟩, ∃ z, Computes window.1 window.2.1 window.2.2 z) ∧
      (Scan.windows settings ⟨tokens, 0⟩).length = (tokens.length - 1) / 2 ∧
      ((Scan.windows settings ⟨tokens, 0⟩).map (·.2.1)).Perm (tokens.filter Token.isOperator) := by
  obtain ⟨valid, finished⟩ := evaluate_ok settings tokens result done
  obtain ⟨chain, reduced⟩ := run_succeeds settings tokens result finished
  have long := valid_length tokens valid
  have length : tokens.length = 2 * chain.rest.length + 1 := by rw [reduced.arranged, Chain.tokens_odd]
  have more : chain.rest ≠ [] := by
    intro none
    simp [none] at length
    omega
  have operators : tokens.filter Token.isOperator = chain.operators.map .operator := by
    rw [reduced.arranged, Chain.tokens_operators]
  have count : (Scan.windows settings ⟨tokens, 0⟩).length = chain.rest.length := by
    simpa [Chain.operators] using reduced.applied.length_eq
  refine ⟨chain, reduced.arranged, by omega, long, fun n member => ?_, reduced.computed, by omega, ?_⟩
  · have finite := reduced.finite more n member
    exact ⟨Numeral.finite_well_formed n finite, finite⟩
  · rw [operators]
    exact reduced.applied

theorem mixed_chain_reduces :
    let settings : Settings := ⟨0, 5, by decide⟩
    let tokens := Chain.tokens ⟨⟨"-.5".toList⟩,
      [(.division, ⟨"3".toList⟩), (.addition, ⟨"2".toList⟩), (.multiplication, ⟨"3.".toList⟩)]⟩
    evaluate settings tokens = .ok ⟨"5.83333".toList⟩ ∧
      (∃ chain : Chain, tokens = chain.tokens ∧ ∀ n ∈ chain.numerals, n.wellFormed = true ∧ n.IsFinite) ∧
      (∀ window ∈ Scan.windows settings ⟨tokens, 0⟩, ∃ z, Computes window.1 window.2.1 window.2.2 z) ∧
      (Scan.windows settings ⟨tokens, 0⟩).length = 3 ∧
      ((Scan.windows settings ⟨tokens, 0⟩).map (·.2.1)).Perm
        [.operator .division, .operator .addition, .operator .multiplication] := by
  intro settings tokens
  have done : evaluate settings tokens = .ok ⟨"5.83333".toList⟩ := by
    rw [evaluate_chain settings _ (List.cons_ne_nil _ _)]
    decide +kernel
  obtain ⟨chain, same, _, _, finite, computes, count, applied⟩ := only_chains_reduce settings tokens _ done
  have three : (tokens.length - 1) / 2 = 3 := by decide
  exact ⟨done, ⟨chain, same, finite⟩, computes, count.trans three, applied⟩

end PocketCalculator.Reduction
