import PocketCalculator.Expression.Basic

set_option autoImplicit false

namespace PocketCalculator

structure Chain where
  first : Numeral
  rest : List (Operator × Numeral)
deriving DecidableEq

namespace Chain

def tokensOf : List (Operator × Numeral) → Expression
  | [] => []
  | (o, n) :: rest => .operator o :: .numeral n :: tokensOf rest

def tokens (chain : Chain) : Expression := .numeral chain.first :: tokensOf chain.rest

def continued (chain : Chain) (more : List (Operator × Numeral)) : Chain :=
  ⟨chain.first, chain.rest ++ more⟩

-- The factors that still belong to the term on the left, and the terms after it with what divides them.
def cut : List (Operator × Numeral) → List (Operator × Numeral) × List (Operator × Chain)
  | [] => ([], [])
  | (o, n) :: rest =>
      let (factors, terms) := cut rest
      if o.hasPriority then ((o, n) :: factors, terms) else ([], (o, ⟨n, factors⟩) :: terms)

def firstTerm (chain : Chain) : Chain := ⟨chain.first, (cut chain.rest).1⟩

def laterTerms (chain : Chain) : List (Operator × Chain) := (cut chain.rest).2

def spread (part : Operator × Chain) : List (Operator × Numeral) := (part.1, part.2.first) :: part.2.rest

def IsTerm (chain : Chain) : Prop := ∀ factor ∈ chain.rest, factor.1 = .multiplication ∨ factor.1 = .division

structure DividesInto (chain first : Chain) (later : List (Operator × Chain)) : Prop where
  whole : first.continued (later.flatMap spread) = chain
  leading : first.IsTerm
  dividers : ∀ part ∈ later, part.1 = .addition ∨ part.1 = .subtraction
  others : ∀ part ∈ later, part.2.IsTerm

@[simp] theorem tokens_of_length (rest : List (Operator × Numeral)) : (tokensOf rest).length = 2 * rest.length := by
  induction rest with
  | nil => rfl
  | cons head tail ih =>
      simp only [tokensOf, List.length_cons, ih]
      omega

@[simp] theorem tokens_of_append (left right : List (Operator × Numeral)) :
    tokensOf (left ++ right) = tokensOf left ++ tokensOf right := by
  induction left with
  | nil => rfl
  | cons head tail ih => simp [tokensOf, ih]

@[simp] theorem tokens_odd (chain : Chain) : chain.tokens.length = 2 * chain.rest.length + 1 := by
  simp [tokens]

@[simp] theorem continued_tokens (chain : Chain) (more : List (Operator × Numeral)) :
    (chain.continued more).tokens = chain.tokens ++ tokensOf more := by
  simp [continued, tokens]

theorem cut_restores (rest : List (Operator × Numeral)) : (cut rest).1 ++ (cut rest).2.flatMap spread = rest := by
  induction rest with
  | nil => rfl
  | cons head tail ih => by_cases priority : head.1.hasPriority = true <;> simpa [cut, priority, spread] using ih

theorem factors_have_priority (rest : List (Operator × Numeral)) :
    ∀ factor ∈ (cut rest).1, factor.1.hasPriority = true := by
  induction rest with
  | nil => simp [cut]
  | cons head tail ih =>
      by_cases priority : head.1.hasPriority = true
      · simpa [cut, priority] using ih
      · simp [cut, priority]

theorem dividers_lack_priority (rest : List (Operator × Numeral)) :
    ∀ part ∈ (cut rest).2, part.1.hasPriority = false ∧ ∀ factor ∈ part.2.rest, factor.1.hasPriority = true := by
  induction rest with
  | nil => simp [cut]
  | cons head tail ih =>
      by_cases priority : head.1.hasPriority = true
      · simpa [cut, priority] using ih
      · have low : head.1.hasPriority = false := by simpa using priority
        have factors := factors_have_priority tail
        simpa [cut, low] using And.intro (by simpa using factors) (by simpa using ih)

theorem cut_factors (factors rest : List (Operator × Numeral))
    (high : ∀ factor ∈ factors, factor.1.hasPriority = true) :
    cut (factors ++ rest) = (factors ++ (cut rest).1, (cut rest).2) := by
  induction factors with
  | nil => rfl
  | cons head factors ih =>
      have later := ih fun factor member => high factor (List.mem_cons_of_mem _ member)
      simp [cut, high head (List.mem_cons_self ..), later]

theorem cut_spread (later : List (Operator × Chain)) (low : ∀ part ∈ later, part.1.hasPriority = false)
    (high : ∀ part ∈ later, ∀ factor ∈ part.2.rest, factor.1.hasPriority = true) :
    cut (later.flatMap spread) = ([], later) := by
  induction later with
  | nil => rfl
  | cons part later ih =>
      have others := ih (fun part member => low part (List.mem_cons_of_mem _ member))
        fun part member => high part (List.mem_cons_of_mem _ member)
      have factors := cut_factors part.2.rest (later.flatMap spread) (high part (List.mem_cons_self ..))
      simp [spread, cut, low part (List.mem_cons_self ..), factors, others]

theorem divides_into_iff (chain first : Chain) (later : List (Operator × Chain)) :
    chain.DividesInto first later ↔ first = chain.firstTerm ∧ later = chain.laterTerms := by
  constructor
  · rintro ⟨rfl, leading, dividers, others⟩
    have low := fun part member => (Operator.no_priority_iff part.1).mpr (dividers part member)
    have high := fun part member factor inside => (Operator.priority_iff factor.1).mpr (others part member factor inside)
    have factors := cut_factors first.rest (later.flatMap spread) fun factor member =>
      (Operator.priority_iff factor.1).mpr (leading factor member)
    simp [firstTerm, laterTerms, continued, factors, cut_spread later low high]
  · rintro ⟨rfl, rfl⟩
    refine ⟨?_, ?_, ?_, ?_⟩
    · rw [firstTerm, laterTerms, continued, cut_restores]
    · exact fun factor member => (Operator.priority_iff factor.1).mp (factors_have_priority _ factor member)
    · exact fun part member => (Operator.no_priority_iff part.1).mp (dividers_lack_priority _ part member).1
    · exact fun part member factor inside =>
        (Operator.priority_iff factor.1).mp ((dividers_lack_priority _ part member).2 factor inside)

end Chain

end PocketCalculator
