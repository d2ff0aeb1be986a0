import PocketCalculator.Proofs.Arithmetic.Operation
import PocketCalculator.Proofs.Expression.Lead
import PocketCalculator.Proofs.Numeral.Integer

set_option autoImplicit false

namespace PocketCalculator.Chain

-- From left to right: the value, and all values on the way, the first operand among them.
def leftToRight (start : Int) (parts : List (Operator × Int)) : Int :=
  parts.foldl (fun value part => part.1.exact value part.2) start

def partials : Int → List (Operator × Int) → List Int
  | start, [] => [start]
  | start, (o, i) :: rest => start :: partials (o.exact start i) rest

theorem partials_start (start : Int) (parts : List (Operator × Int)) : start ∈ partials start parts := by
  cases parts <;> exact List.mem_cons_self ..

theorem partials_end (start : Int) (parts : List (Operator × Int)) : leftToRight start parts ∈ partials start parts := by
  induction parts generalizing start with
  | nil => exact List.mem_cons_self ..
  | cons part rest ih => exact List.mem_cons_of_mem _ (ih _)

def integerParts (rest : List (Operator × Numeral)) : List (Operator × Int) :=
  rest.map fun part => (part.1, part.2.integer)

def termValue (chain : Chain) : Int := leftToRight chain.first.integer (integerParts chain.rest)

def termSteps (chain : Chain) : List Int := partials chain.first.integer (integerParts chain.rest)

def termValues (terms : List (Operator × Chain)) : List (Operator × Int) :=
  terms.map fun part => (part.1, part.2.termValue)

def integerValue (chain : Chain) : Int := leftToRight chain.firstTerm.termValue (termValues chain.laterTerms)

-- All values of the evaluation: of the terms, each from left to right, and of their results from left to right.
def integerSteps (chain : Chain) : List Int :=
  chain.firstTerm.termSteps ++ chain.laterTerms.flatMap (fun part => part.2.termSteps) ++
    partials chain.firstTerm.termValue (termValues chain.laterTerms)

structure IsInteger (chain : Chain) : Prop where
  numerals : ∀ n ∈ chain.numerals, n.IsInteger
  undivided : ∀ o ∈ chain.operators, o ≠ .division

structure StaysExact (chain : Chain) : Prop where
  numerals : ∀ n ∈ chain.numerals, n.integer.natAbs ≤ Double.exactLimit
  steps : ∀ i ∈ chain.integerSteps, i.natAbs ≤ Double.exactLimit

inductive ReadsParts : List (Operator × Numeral) → List (Operator × Int) → Prop where
  | none : ReadsParts [] []
  | more (o : Operator) (n : Numeral) (i : Int) (rest : List (Operator × Numeral)) (parts : List (Operator × Int))
      (undivided : o ≠ .division) (reads : n.ReadsWhole i) (later : ReadsParts rest parts) :
      ReadsParts ((o, n) :: rest) ((o, i) :: parts)

theorem factors_inside (rest : List (Operator × Numeral)) : ∀ part ∈ (cut rest).1, part ∈ rest := by
  intro part member
  rw [← cut_restores rest]
  exact List.mem_append_left _ member

theorem terms_inside (rest : List (Operator × Numeral)) (later : Operator × Chain) (member : later ∈ (cut rest).2) :
    (later.1, later.2.first) ∈ rest ∧ ∀ part ∈ later.2.rest, part ∈ rest := by
  have inside : ∀ part ∈ (later.1, later.2.first) :: later.2.rest, part ∈ rest := by
    intro part within
    rw [← cut_restores rest]
    exact List.mem_append_right _ (List.mem_flatMap.mpr ⟨later, member, within⟩)
  exact ⟨inside _ (List.mem_cons_self ..), fun part within => inside part (List.mem_cons_of_mem _ within)⟩

theorem integer_parts_read (rest : List (Operator × Numeral))
    (reads : ∀ part ∈ rest, part.1 ≠ .division ∧ part.2.ReadsWhole part.2.integer) :
    ReadsParts rest (integerParts rest) := by
  induction rest with
  | nil => exact .none
  | cons part rest ih =>
      obtain ⟨undivided, whole⟩ := reads part (List.mem_cons_self ..)
      exact .more _ _ _ _ _ undivided whole (ih fun later member => reads later (List.mem_cons_of_mem _ member))

structure ReadsTerm (chain : Chain) : Prop where
  first : chain.first.ReadsWhole chain.first.integer
  rest : ReadsParts chain.rest (integerParts chain.rest)
  steps : ∀ i ∈ chain.termSteps, i.natAbs ≤ Double.exactLimit

theorem terms_read (chain : Chain) (integers : chain.IsInteger) (exact : chain.StaysExact) :
    ReadsTerm chain.firstTerm ∧ ∀ later ∈ chain.laterTerms, later.1 ≠ .division ∧ ReadsTerm later.2 := by
  have reads : ∀ n ∈ chain.numerals, n.ReadsWhole n.integer := fun n member =>
    n.integer_reads_whole (integers.numerals n member) (exact.numerals n member)
  have parts : ∀ part ∈ chain.rest, part.1 ≠ .division ∧ part.2.ReadsWhole part.2.integer := fun part member =>
    ⟨integers.undivided _ (List.mem_map_of_mem member),
      reads _ (List.mem_cons_of_mem _ (List.mem_map_of_mem member))⟩
  have steps : ∀ i, (i ∈ chain.firstTerm.termSteps ∨ ∃ later ∈ chain.laterTerms, i ∈ later.2.termSteps) →
      i.natAbs ≤ Double.exactLimit := by
    intro i member
    apply exact.steps
    rw [integerSteps, List.mem_append, List.mem_append, List.mem_flatMap]
    exact .inl member
  refine ⟨⟨reads _ (List.mem_cons_self ..), ?_, fun i member => steps i (.inl member)⟩, fun later member => ?_⟩
  · exact integer_parts_read _ fun part member => parts part (factors_inside chain.rest part member)
  · obtain ⟨first, rest⟩ := terms_inside chain.rest later member
    obtain ⟨undivided, whole⟩ := parts _ first
    refine ⟨undivided, whole, ?_, fun i within => steps i (.inr ⟨later, member, within⟩)⟩
    exact integer_parts_read _ fun part member => parts part (rest part member)

theorem one_term (chain : Chain) (alone : chain.laterTerms = []) : chain.firstTerm = chain := by
  have whole := cut_restores chain.rest
  rw [laterTerms] at alone
  rw [alone, List.flatMap_nil, List.append_nil] at whole
  rw [firstTerm, whole]

end PocketCalculator.Chain
