import PocketCalculator.Proofs.Arithmetic.Finite
import PocketCalculator.Reduction.Window

set_option autoImplicit false

namespace PocketCalculator

def Numeral.IsFinite (n : Numeral) : Prop := ∃ x, n.value = .ok x ∧ x.IsFinite

theorem Numeral.finite_well_formed (n : Numeral) (finite : n.IsFinite) : n.wellFormed = true := by
  obtain ⟨x, value, _⟩ := finite
  rw [Numeral.value] at value
  rw [Numeral.wellFormed]
  cases parts : n.parts? with
  | none => simp [parts] at value
  | some found => rfl

namespace Reduction

variable (settings : Settings)

instance (outcome : Except Failure Numeral) (n : Numeral) : Decidable (outcome = .ok n) :=
  match outcome with
  | .ok m => decidable_of_iff (m = n) (by simp)
  | .error _ => isFalse (by simp)

def computed (left slot right : Token) : Except Failure Number := do
  let x ← operand .left left
  let y ← operand .right right
  Arithmetic.apply (slotValue slot) (.number (.real x)) (.number (.real y))

theorem combined_writes (left slot right : Token) :
    combined settings left slot right =
      (computed left slot right).bind fun result => (FixedPoint.written settings result).map Numeral.mk := by
  simp only [combined, computed, bind, Except.bind]
  cases operand .left left with
  | error failure => rfl
  | ok x =>
      cases operand .right right with
      | error failure => rfl
      | ok y =>
          dsimp only
          cases Arithmetic.apply (slotValue slot) (.number (.real x)) (.number (.real y)) with
          | error failure => rfl
          | ok result => cases FixedPoint.written settings result <;> rfl

theorem operand_cases (side : Side) (token : Token) :
    (∃ fault, operand side token = .error (.fault fault)) ∨
      ∃ n x, token = .numeral n ∧ n.value = .ok x ∧ operand side token = .ok x := by
  cases token with
  | operator o => exact .inl ⟨_, rfl⟩
  | numeral n =>
      cases value : n.value with
      | error malformed => exact .inl ⟨_, by rw [operand, value]⟩
      | ok x => exact .inr ⟨n, x, rfl, value, by rw [operand, value]⟩

structure Computes (left slot right : Token) (result : Double) : Prop where
  operands : ∃ l r : Numeral, left = .numeral l ∧ right = .numeral r ∧ l.IsFinite ∧ r.IsFinite
  operator : ∃ o, slot = .operator o
  finite : result.IsFinite
  value : computed left slot right = .ok (.real result)

theorem computed_cases (left slot right : Token) :
    (∃ fault, computed left slot right = .error (.fault fault)) ∨ ∃ z, Computes left slot right z := by
  rcases operand_cases .left left with ⟨fault, bad⟩ | ⟨l, x, rfl, leftValue, leftRead⟩
  · exact .inl ⟨fault, by rw [computed, bad]; rfl⟩
  · rcases operand_cases .right right with ⟨fault, bad⟩ | ⟨r, y, rfl, rightValue, rightRead⟩
    · exact .inl ⟨fault, by rw [computed, leftRead, bad]; rfl⟩
    · have applied : computed (.numeral l) slot (.numeral r) =
          Arithmetic.apply (slotValue slot) (.number (.real x)) (.number (.real y)) := by
        rw [computed, leftRead, rightRead]
        rfl
      cases slot with
      | numeral n => exact .inl ⟨.unknownOperator (.text n.text), applied⟩
      | operator o =>
          obtain ⟨settled, onlyFinite⟩ := Arithmetic.apply_doubles o x y
          rcases settled with ⟨fault, bad⟩ | ⟨z, finite, done⟩
          · exact .inl ⟨fault, applied.trans bad⟩
          · obtain ⟨leftFinite, rightFinite⟩ := onlyFinite _ done
            exact .inr ⟨z, ⟨l, r, rfl, rfl, ⟨x, leftValue, leftFinite⟩, ⟨y, rightValue, rightFinite⟩⟩, ⟨o, rfl⟩,
              finite, applied.trans done⟩

theorem combined_succeeds (left slot right : Token) (result : Numeral)
    (done : combined settings left slot right = .ok result) :
    ∃ z, Computes left slot right z ∧ FixedPoint.written settings (.real z) = .ok result.text := by
  rw [combined_writes] at done
  rcases computed_cases left slot right with ⟨fault, bad⟩ | ⟨z, computes⟩
  · rw [bad] at done
    cases done
  · rw [computes.value] at done
    refine ⟨z, computes, ?_⟩
    cases text : FixedPoint.written settings (.real z) with
    | error failure =>
        rw [Except.bind, text] at done
        cases done
    | ok t =>
        rw [Except.bind, text] at done
        cases done
        rfl

theorem combined_fails (left slot right : Token) (failure : Failure)
    (within : FixedPoint.precision settings ≤ FixedPoint.mostPrecision)
    (failed : combined settings left slot right = .error failure) : ∃ fault, failure = .fault fault := by
  rw [combined_writes] at failed
  rcases computed_cases left slot right with ⟨fault, bad⟩ | ⟨z, computes⟩
  · rw [bad] at failed
    cases failed
    exact ⟨fault, rfl⟩
  · obtain ⟨text, written⟩ := FixedPoint.finite_written settings within z computes.finite
    rw [computes.value, Except.bind, written] at failed
    cases failed

end Reduction

end PocketCalculator
