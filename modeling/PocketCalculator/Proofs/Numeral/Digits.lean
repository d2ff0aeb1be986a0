import PocketCalculator.Double.Basic
import PocketCalculator.Text.DecimalDigit

set_option autoImplicit false

namespace PocketCalculator.DecimalDigit

@[simp] theorem point_no_digit : isDecimal '.' = false := by decide

@[simp] theorem minus_no_digit : isDecimal '-' = false := by decide

theorem value_of_snoc (digits : Text) (c : Char) :
    valueOf (digits ++ [c]) = 10 * valueOf digits + (value? c).getD 0 := by
  rw [valueOf, List.foldl_append]
  rfl

theorem value_of_append (left right : Text) :
    valueOf (left ++ right) = valueOf left * 10 ^ right.length + valueOf right := by
  induction right generalizing left with
  | nil => simp [valueOf]
  | cons c right ih =>
      rw [List.append_cons, ih, value_of_snoc, ← List.singleton_append, ih, List.length_append, List.length_singleton,
        Nat.add_comm 1, Nat.pow_succ]
      simp only [valueOf, List.foldl_cons, List.foldl_nil]
      grind

@[simp] theorem value_of_zeros (count : Nat) : valueOf (Text.zeros count) = 0 := by
  induction count with
  | zero => rfl
  | succ count ih =>
      rw [Text.zeros_snoc, value_of_snoc, ih]
      rfl

@[simp] theorem zeros_ascii (count : Nat) : (Text.zeros count).all Char.isDigit = true := by
  rw [List.all_eq_true]
  intro c member
  rw [List.eq_of_mem_replicate member]
  decide

theorem value_of_ascii (c : Char) (digit : c.isDigit = true) : value? c = some (c.toNat - 48) := by
  have inside : 48 ≤ c.toNat ∧ c.toNat < 48 + 10 := by
    simp only [Char.isDigit, Bool.and_eq_true, decide_eq_true_eq, UInt32.le_iff_toNat_le] at digit
    have lower : 48 ≤ c.val.toNat := digit.1
    have upper : c.val.toNat ≤ 57 := digit.2
    exact ⟨lower, Nat.lt_succ_of_le upper⟩
  rw [value?, zeros, List.find?_cons_of_pos (by simpa using inside)]
  rfl

theorem ascii_decimal (digits : Text) (ascii : digits.all Char.isDigit = true) : digits.all isDecimal = true := by
  rw [List.all_eq_true] at ascii ⊢
  intro c member
  rw [isDecimal, value_of_ascii c (ascii c member)]
  rfl

@[simp] theorem zeros_decimal (count : Nat) : (Text.zeros count).all isDecimal = true := ascii_decimal _ (zeros_ascii count)

@[simp] theorem decimal_text_ascii (n : Nat) : (decimalText n).all Char.isDigit = true := by
  rw [List.all_eq_true]
  exact fun c member => Nat.isDigit_of_mem_toDigits (by decide) (by decide) member

@[simp] theorem decimal_text_digits (n : Nat) : (decimalText n).all isDecimal = true := ascii_decimal _ (decimal_text_ascii n)

theorem value_of_digit (n : Nat) (small : n < 10) : value? n.digitChar = some n := by
  have digit : n.digitChar.isDigit = true := by rw [Nat.isDigit_digitChar, decide_eq_true small]
  rw [value_of_ascii _ digit, Nat.toNat_digitChar_sub_48_of_lt_ten small]

@[simp] theorem value_of_decimal_text (n : Nat) : valueOf (decimalText n) = n := by
  induction n using Nat.strongRecOn with
  | ind n ih =>
      rw [decimalText]
      by_cases small : n < 10
      · rw [Nat.toDigits_of_lt_base small, valueOf, List.foldl_cons, List.foldl_nil, value_of_digit n small]
        simp
      · have last := value_of_digit (n % 10) (Nat.mod_lt _ (by decide))
        have front : valueOf (Nat.toDigits 10 (n / 10)) = n / 10 := ih (n / 10) (by omega)
        rw [Nat.toDigits_of_base_le (by decide) (by omega), value_of_snoc, front, last]
        simp only [Option.getD_some]
        omega

theorem decimal_text_nonempty (n : Nat) : decimalText n ≠ [] := Nat.toDigits_ne_nil

theorem decimal_text_lead (n : Nat) (zero : (decimalText n).head? = some '0') : n = 0 := by
  induction n using Nat.strongRecOn with
  | ind n ih =>
      rw [decimalText] at zero
      by_cases small : n < 10
      · rw [Nat.toDigits_of_lt_base small] at zero
        simpa using zero
      · obtain ⟨c, rest, front⟩ := List.exists_cons_of_ne_nil (decimal_text_nonempty (n / 10))
        have same : (decimalText (n / 10)).head? = some '0' := by
          rw [decimalText] at front ⊢
          rw [Nat.toDigits_of_base_le (by decide) (by omega), front] at zero
          rw [front]
          exact zero
        have none := ih (n / 10) (by omega) same
        omega

theorem value_of_cons (c : Char) (rest : Text) :
    valueOf (c :: rest) = (value? c).getD 0 * 10 ^ rest.length + valueOf rest := by
  have alone : valueOf [c] = (value? c).getD 0 := by rw [valueOf, List.foldl_cons, List.foldl_nil, Nat.mul_zero, Nat.zero_add]
  rw [← List.singleton_append, value_of_append, alone]

theorem value_below (digits : Text) : valueOf digits < 10 ^ digits.length := by
  induction digits with
  | nil => decide
  | cons c rest ih =>
      have small : (value? c).getD 0 < 10 := by
        cases known : value? c with
        | none => decide
        | some d => exact value_lt_ten c d known
      have scaled := Nat.mul_le_mul_right (10 ^ rest.length) (Nat.le_sub_one_of_lt small)
      rw [value_of_cons, List.length_cons, Nat.pow_succ]
      omega

theorem ascii_digit_unique (c d : Char) (first : c.isDigit = true) (second : d.isDigit = true)
    (same : (value? c).getD 0 = (value? d).getD 0) : c = d := by
  rw [value_of_ascii c first, value_of_ascii d second, Option.getD_some, Option.getD_some] at same
  have above : ∀ e : Char, e.isDigit = true → 48 ≤ e.toNat := by
    intro e digit
    simp only [Char.isDigit, Bool.and_eq_true, decide_eq_true_eq, UInt32.le_iff_toNat_le] at digit
    exact digit.1
  have lower := above c first
  have upper := above d second
  exact Char.toNat_inj.mp (by omega)

theorem split_unique (base high low high' low' : Nat) (small : low < base) (small' : low' < base)
    (same : high * base + low = high' * base + low') : high = high' ∧ low = low' := by
  have parts : ∀ high low, low < base → (high * base + low) / base = high ∧ (high * base + low) % base = low := by
    intro high low small
    apply (Nat.div_mod_unique (Nat.zero_lt_of_lt small)).mpr
    exact ⟨by rw [Nat.mul_comm, Nat.add_comm], small⟩
  obtain ⟨quotient, remainder⟩ := parts high low small
  rw [same] at quotient remainder
  exact ⟨quotient.symm.trans (parts high' low' small').1, remainder.symm.trans (parts high' low' small').2⟩

theorem ascii_digits_unique (one other : Text) (first : one.all Char.isDigit = true) (second : other.all Char.isDigit = true)
    (length : one.length = other.length) (value : valueOf one = valueOf other) : one = other := by
  induction one generalizing other with
  | nil => exact (List.eq_nil_of_length_eq_zero length.symm).symm
  | cons c rest ih =>
      cases other with
      | nil => cases length
      | cons d others =>
          rw [List.all_cons, Bool.and_eq_true] at first second
          rw [List.length_cons, List.length_cons, Nat.succ.injEq] at length
          have small := value_below others
          rw [value_of_cons, value_of_cons, ← length] at value
          rw [← length] at small
          obtain ⟨head, tail⟩ := split_unique _ _ _ _ _ (value_below rest) small value
          rw [ascii_digit_unique c d first.1 second.1 head, ih others first.2 second.2 length tail]

end PocketCalculator.DecimalDigit
