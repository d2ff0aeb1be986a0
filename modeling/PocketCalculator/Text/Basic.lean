set_option autoImplicit false

namespace PocketCalculator

abbrev Text := List Char

namespace Text

def joined (separator : Text) : List Text → Text
  | [] => []
  | [last] => last
  | first :: rest => first ++ separator ++ joined separator rest

theorem joined_cons_cons (separator first second : Text) (rest : List Text) :
    joined separator (first :: second :: rest) = first ++ separator ++ joined separator (second :: rest) := rfl

def zeros (count : Nat) : Text := List.replicate count '0'

@[simp] theorem zeros_none : zeros 0 = [] := rfl

@[simp] theorem zeros_of_length (count : Nat) : (zeros count).length = count := List.length_replicate

theorem zeros_succ (count : Nat) : zeros (count + 1) = '0' :: zeros count := rfl

theorem zeros_snoc (count : Nat) : zeros (count + 1) = zeros count ++ ['0'] := List.replicate_succ'

theorem zeros_add (few more : Nat) : zeros (few + more) = zeros few ++ zeros more := by
  simp [zeros, List.replicate_append_replicate]

def paddedLeft (width : Nat) (t : Text) : Text := zeros (width - t.length) ++ t

def paddedRight (width : Nat) (t : Text) : Text := t ++ zeros (width - t.length)

def withoutTrailingZeros (t : Text) : Text := (t.reverse.dropWhile (· = '0')).reverse

@[simp] theorem padded_left_length (width : Nat) (t : Text) : (paddedLeft width t).length = max width t.length := by
  simp [paddedLeft]
  omega

@[simp] theorem padded_right_length (width : Nat) (t : Text) : (paddedRight width t).length = max width t.length := by
  simp [paddedRight]
  omega

theorem without_trailing_zeros_split (t : Text) : ∃ count, t = withoutTrailingZeros t ++ zeros count := by
  refine ⟨(t.reverse.takeWhile (· = '0')).length, ?_⟩
  have split := List.takeWhile_append_dropWhile (p := (· = '0')) (l := t.reverse)
  have run : t.reverse.takeWhile (· = '0') = zeros (t.reverse.takeWhile (· = '0')).length := by
    have all := List.all_eq_true.mp (List.all_takeWhile (p := (· = '0')) (l := t.reverse))
    exact List.eq_replicate_of_mem fun c member => of_decide_eq_true (all c member)
  have whole := congrArg List.reverse split
  rw [List.reverse_append, List.reverse_reverse] at whole
  rw [run, zeros, List.reverse_replicate] at whole
  exact whole.symm

end Text

def decimalText (n : Nat) : Text := Nat.toDigits 10 n

def signedText (n : Int) : Text :=
  if n < 0 then '-' :: decimalText n.natAbs else decimalText n.natAbs

def hexadecimalText (width n : Nat) : Text := Text.paddedLeft width (Nat.toDigits 16 n)

end PocketCalculator
