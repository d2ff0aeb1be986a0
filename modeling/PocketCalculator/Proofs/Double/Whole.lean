import PocketCalculator.Double.Arithmetic
import PocketCalculator.Proofs.Double.Nearest

set_option autoImplicit false

namespace PocketCalculator.Double

def exactLimit : Nat := 2 ^ 53

def IsWhole (x : Double) (i : Int) : Prop :=
  ∃ negative units representable, x = .finite negative units representable ∧ signedUnits negative units = i * unitsPerOne

theorem whole_representable (count : Nat) (small : count ≤ exactLimit) : Representable (count * unitsPerOne) := by
  have most : exactLimit * unitsPerOne = 2 ^ 1127 := by rw [exactLimit, unitsPerOne, two_pow_sum 53 1074 1127 rfl]
  have inside : 2 ^ 1127 < limit := by
    rw [limit, Nat.pow_lt_pow_iff_right (by decide)]
    decide
  refine ⟨Nat.lt_of_le_of_lt (Nat.mul_le_mul_right _ small) (most ▸ inside), ?_⟩
  rw [Nat.mul_comm, unitsPerOne]
  exact pow_log2_dvd 1074 count small

theorem signed_units_abs (negative : Bool) (units : Nat) : (signedUnits negative units).natAbs = units := by
  cases negative with
  | false => exact Int.natAbs_natCast units
  | true => exact (Int.natAbs_neg _).trans (Int.natAbs_natCast units)

theorem whole_units (negative : Bool) (units : Nat) (i : Int) (whole : signedUnits negative units = i * unitsPerOne) :
    units = i.natAbs * unitsPerOne := by
  rw [← signed_units_abs negative units, whole, Int.natAbs_mul, Int.natAbs_natCast]

theorem whole_sign (negative : Bool) (units : Nat) (i : Int) (whole : signedUnits negative units = i * unitsPerOne) :
    (negative && i ≠ 0) = decide (i < 0) := by
  have one : (0 : Int) < unitsPerOne := Int.natCast_pos.mpr units_per_one_pos
  generalize (unitsPerOne : Int) = scale at whole one
  cases negative with
  | false =>
      have above : 0 ≤ i := by
        apply Int.le_of_mul_le_mul_right _ one
        rw [Int.zero_mul, ← whole]
        exact Int.natCast_nonneg units
      rw [Bool.false_and, eq_comm, decide_eq_false_iff_not]
      omega
  | true =>
      have below : i ≤ 0 := by
        apply Int.le_of_mul_le_mul_right _ one
        rw [Int.zero_mul, ← whole]
        exact Int.neg_nonpos_of_nonneg (Int.natCast_nonneg units)
      rw [Bool.true_and, decide_eq_decide]
      omega

theorem signed_units_product (s t : Bool) (u v : Nat) :
    signedUnits (s != t) (u * v) = signedUnits s u * signedUnits t v := by
  have product : ((u * v : Nat) : Int) = u * v := Int.natCast_mul u v
  cases s with
  | false =>
      cases t with
      | false => exact product
      | true => exact (congrArg Neg.neg product).trans (Int.mul_neg _ _).symm
  | true =>
      cases t with
      | false => exact (congrArg Neg.neg product).trans (Int.neg_mul _ _).symm
      | true => exact product.trans (Int.neg_mul_neg _ _).symm

theorem signed_units_of_abs (total : Int) : signedUnits (total < 0) total.natAbs = total := by
  rw [signedUnits]
  split <;> rename_i negative <;> simp only [decide_eq_true_eq] at negative <;> omega

theorem of_quotient_whole (negative : Bool) (i : Int) (den : Nat) (positive : 0 < den) (small : i.natAbs ≤ exactLimit)
    (sign : signedUnits negative (i.natAbs * unitsPerOne) = i * unitsPerOne) :
    (ofQuotient negative (i.natAbs * unitsPerOne * den) den).IsWhole i :=
  ⟨negative, _, whole_representable i.natAbs small, of_quotient_exact negative _ den positive _, sign⟩

theorem add_whole (x y : Double) (i j : Int) (left : x.IsWhole i) (right : y.IsWhole j)
    (small : (i + j).natAbs ≤ exactLimit) : (add x y).IsWhole (i + j) := by
  obtain ⟨s, u, _, rfl, first⟩ := left
  obtain ⟨t, v, _, rfl, second⟩ := right
  have total : signedUnits s u + signedUnits t v = (i + j) * unitsPerOne := by rw [first, second, Int.add_mul]
  rw [add, total]
  split
  · rename_i none
    exact ⟨_, 0, representable_zero, rfl, by rw [none]; cases s && t <;> rfl⟩
  · have magnitude : ((i + j) * unitsPerOne).natAbs = (i + j).natAbs * unitsPerOne := by
      rw [Int.natAbs_mul, Int.natAbs_natCast]
    have whole := of_quotient_whole ((i + j) * unitsPerOne < 0) (i + j) 1 Nat.one_pos small
    rw [← magnitude, signed_units_of_abs, Nat.mul_one] at whole
    exact whole rfl

theorem negated_whole (x : Double) (i : Int) (whole : x.IsWhole i) : (negated x).IsWhole (-i) := by
  obtain ⟨negative, units, representable, rfl, same⟩ := whole
  refine ⟨!negative, units, representable, rfl, ?_⟩
  rw [Int.neg_mul, ← same]
  cases negative <;> simp [signedUnits]

theorem subtract_whole (x y : Double) (i j : Int) (left : x.IsWhole i) (right : y.IsWhole j)
    (small : (i - j).natAbs ≤ exactLimit) : (subtract x y).IsWhole (i - j) := by
  rw [Int.sub_eq_add_neg] at small ⊢
  exact add_whole x (negated y) i (-j) left (negated_whole y j right) small

theorem multiply_whole (x y : Double) (i j : Int) (left : x.IsWhole i) (right : y.IsWhole j)
    (small : (i * j).natAbs ≤ exactLimit) : (multiply x y).IsWhole (i * j) := by
  obtain ⟨s, u, _, rfl, first⟩ := left
  obtain ⟨t, v, _, rfl, second⟩ := right
  have product : u * v = (i * j).natAbs * unitsPerOne * unitsPerOne := by
    rw [whole_units s u i first, whole_units t v j second, Int.natAbs_mul]
    grind
  have signed : signedUnits (s != t) (u * v) = i * unitsPerOne * (j * unitsPerOne) := by
    rw [signed_units_product, first, second]
  have scaled := signed_units_product (s != t) false ((i * j).natAbs * unitsPerOne) unitsPerOne
  rw [← product, Bool.bne_false, signed] at scaled
  rw [multiply, product]
  apply of_quotient_whole _ _ _ units_per_one_pos small
  apply Int.eq_of_mul_eq_mul_right (Int.natCast_ne_zero_iff_pos.mpr units_per_one_pos)
  calc signedUnits (s != t) ((i * j).natAbs * unitsPerOne) * unitsPerOne
      = i * unitsPerOne * (j * unitsPerOne) := scaled.symm
    _ = i * j * unitsPerOne * unitsPerOne := by grind

end PocketCalculator.Double
