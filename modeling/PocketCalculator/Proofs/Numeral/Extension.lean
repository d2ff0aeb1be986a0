import PocketCalculator.Proofs.Numeral.Proper

set_option autoImplicit false

namespace PocketCalculator.Numeral

open DecimalDigit

theorem drop_zeros_head (t : Text) (c : Char) (other : isDecimal c = false) (found : (dropZeros t).head? = some c) :
    t.head? = some c := by
  induction t with
  | nil => cases found
  | cons d rest ih =>
      rw [dropZeros] at found
      split at found
      · rename_i dropped
        rw [ih found] at dropped
        simp [other] at dropped
      · exact found

theorem drop_zeros_front (t : Text) (c : Char) (other : isDecimal c = false) (some_char : t ≠ [])
    (absent : t.head? ≠ some c) : ∃ d rest, dropZeros t = d :: rest ∧ d ≠ c := by
  obtain ⟨d, rest, kept⟩ := List.exists_cons_of_ne_nil (drop_zeros_nonempty t some_char)
  refine ⟨d, rest, kept, ?_⟩
  rintro rfl
  exact absent (drop_zeros_head t d other (by rw [kept]; rfl))

theorem drop_zeros_more (t more : Text) : dropZeros (dropZeros t ++ more) = dropZeros (t ++ more) := by
  induction t with
  | nil => rfl
  | cons c rest ih =>
      by_cases dropped : (c = '0' && rest.head?.any isDecimal) = true
      · have still : (c = '0' && (rest ++ more).head?.any isDecimal) = true := by
          cases rest with
          | nil => simp at dropped
          | cons d rest => exact dropped
        rw [dropZeros, if_pos dropped, ih, List.cons_append, dropZeros, if_pos still]
      · rw [dropZeros, if_neg dropped]

theorem unsigned_zeros (t : Text) (unsigned : t.head? ≠ some '-') : withoutLeadingZeros t = dropZeros t := by
  unfold withoutLeadingZeros
  split
  · exact absurd rfl unsigned
  · rfl

theorem without_zeros_front (t : Text) (some_char : t ≠ []) (no_point : t.head? ≠ some '.') :
    ∃ d rest, withoutLeadingZeros t = d :: rest ∧ d ≠ '.' := by
  unfold withoutLeadingZeros
  split
  · exact ⟨_, _, rfl, by decide⟩
  · exact drop_zeros_front t '.' point_no_digit some_char no_point

theorem without_zeros_more (t more : Text) (some_char : t ≠ []) :
    withoutLeadingZeros (withoutLeadingZeros t ++ more) = withoutLeadingZeros (t ++ more) := by
  obtain ⟨c, rest, rfl⟩ := List.exists_cons_of_ne_nil some_char
  by_cases minus : c = '-'
  · subst minus
    exact congrArg ('-' :: ·) (drop_zeros_more rest more)
  · have unsigned : ∀ tail, (c :: tail).head? ≠ some '-' := fun _ same => minus (Option.some.inj same)
    obtain ⟨d, tail, kept, other⟩ := drop_zeros_front (c :: rest) '-' minus_no_digit some_char (unsigned rest)
    have front : (dropZeros (c :: rest) ++ more).head? ≠ some '-' := by
      rw [kept]
      exact fun same => other (Option.some.inj same)
    rw [unsigned_zeros _ (unsigned rest), unsigned_zeros _ front, drop_zeros_more, List.cons_append,
      unsigned_zeros _ (unsigned (rest ++ more))]

theorem pointless_zero (t : Text) (no_point : t.head? ≠ some '.') : withLeadingZero t = t := by
  unfold withLeadingZero
  split
  · exact absurd rfl no_point
  · rfl

def tidied (t : Text) : Text := withoutLeadingZeros (withLeadingZero t)

theorem extend_text (n : Numeral) (typed : Text) : (n.extend typed).text = tidied (n.text ++ typed) := rfl

theorem tidied_zero (rest : Text) : tidied ('0' :: '.' :: rest) = '0' :: '.' :: rest := by
  simp [tidied, withLeadingZero, withoutLeadingZeros, dropZeros, point_no_digit]

theorem tidied_point (rest : Text) : tidied ('.' :: rest) = '0' :: '.' :: rest := tidied_zero rest

-- What is tidy stays so when more comes behind it, so that only the whole of what was typed counts.
theorem tidied_more (t more : Text) : tidied (tidied t ++ more) = tidied (t ++ more) := by
  cases t with
  | nil => rfl
  | cons c rest =>
      by_cases point : c = '.'
      · -- A zero in front of a point stays there.
        subst point
        rw [tidied_point, List.cons_append, List.cons_append, tidied_point, tidied_zero]
      · have no_point : ∀ tail, (c :: tail).head? ≠ some '.' := fun _ same => point (Option.some.inj same)
        obtain ⟨d, tail, kept, other⟩ := without_zeros_front (c :: rest) (List.cons_ne_nil _ _) (no_point rest)
        have front : (withoutLeadingZeros (c :: rest) ++ more).head? ≠ some '.' := by
          rw [kept]
          exact fun same => other (Option.some.inj same)
        rw [tidied, tidied, pointless_zero _ (no_point rest), pointless_zero _ front,
          without_zeros_more _ _ (List.cons_ne_nil _ _), List.cons_append, tidied,
          pointless_zero _ (no_point (rest ++ more))]

theorem extend_extend (n : Numeral) (first second : Text) :
    (n.extend first).extend second = n.extend (first ++ second) := by
  apply congrArg Numeral.mk
  change tidied (tidied (n.text ++ first) ++ second) = tidied (n.text ++ (first ++ second))
  rw [tidied_more, List.append_assoc]

theorem mem_drop_zeros (t : Text) (c : Char) (other : c ≠ '0') : c ∈ dropZeros t ↔ c ∈ t := by
  induction t with
  | nil => rfl
  | cons d rest ih =>
      rw [dropZeros]
      split
      · rename_i dropped
        rw [Bool.and_eq_true, decide_eq_true_eq] at dropped
        simp [ih, dropped.1, other]
      · rfl

theorem mem_tidied (t : Text) (c : Char) (other : c ≠ '0') : c ∈ tidied t ↔ c ∈ t := by
  have zero_in_front : c ∈ withLeadingZero t ↔ c ∈ t := by
    unfold withLeadingZero
    split <;> simp [other]
  have without : ∀ t : Text, c ∈ withoutLeadingZeros t ↔ c ∈ t := by
    intro t
    unfold withoutLeadingZeros
    split <;> simp [mem_drop_zeros, other]
  exact (without _).trans zero_in_front

theorem extend_has_point (n : Numeral) (typed : Text) :
    (n.extend typed).hasPoint = (n.hasPoint || typed.contains '.') := by
  rw [hasPoint, hasPoint, extend_text, Bool.eq_iff_iff]
  simp [mem_tidied]

-- What is left of a text when a leading point gets a zero and every leading zero in front of a digit goes.
def Tidies (t : Text) (n : Numeral) : Prop :=
  ∃ count, withLeadingZero t = Text.zeros count ++ n.text ∧ (0 < count → n.text.head?.any isDecimal = true) ∧
    ∀ d rest, n.text = '0' :: d :: rest → isDecimal d = false

theorem drop_zeros_split (t : Text) :
    ∃ count, t = Text.zeros count ++ dropZeros t ∧ (0 < count → (dropZeros t).head?.any isDecimal = true) := by
  induction t with
  | nil => exact ⟨0, rfl, fun some_zero => absurd some_zero (Nat.lt_irrefl 0)⟩
  | cons c rest ih =>
      rw [dropZeros]
      split
      · rename_i dropped
        obtain ⟨zero, digit⟩ := Bool.and_eq_true_iff.mp dropped
        obtain ⟨count, split, behind⟩ := ih
        refine ⟨count + 1, ?_, fun _ => ?_⟩
        · rw [of_decide_eq_true zero, Text.zeros_succ, List.cons_append, ← split]
        · cases count with
          | zero =>
              rw [Text.zeros_none, List.nil_append] at split
              rw [← split, digit]
          | succ count => exact behind (Nat.succ_pos count)
      · exact ⟨0, rfl, fun some_zero => absurd some_zero (Nat.lt_irrefl 0)⟩

theorem drop_zeros_tidy (t : Text) (d : Char) (rest : Text) (kept : dropZeros t = '0' :: d :: rest) :
    isDecimal d = false := by
  induction t with
  | nil => cases kept
  | cons c tail ih =>
      rw [dropZeros] at kept
      split at kept
      · exact ih kept
      · rename_i stays
        cases kept
        simpa using stays

theorem zeros_digit (count : Nat) (t : Text) (digit : t.head?.any isDecimal = true) :
    (Text.zeros count ++ t).head?.any isDecimal = true := by
  cases count with
  | zero => exact digit
  | succ count => rfl

-- With fewer zeros gone there would be one left in front of a digit.
theorem tidy_shortest (few many : Nat) (long short : Text) (fewer : few ≤ many)
    (same : Text.zeros few ++ long = Text.zeros many ++ short) (digit : 0 < many → short.head?.any isDecimal = true)
    (tidy : ∀ d rest, long = '0' :: d :: rest → isDecimal d = false) : long = short := by
  obtain ⟨more, rfl⟩ := Nat.exists_eq_add_of_le fewer
  have left : long = Text.zeros more ++ short := by
    rw [Text.zeros_add, List.append_assoc] at same
    exact List.append_cancel_left same
  cases more with
  | zero => exact left
  | succ more =>
      have behind := zeros_digit more short (digit (Nat.succ_pos _))
      have zero : long = '0' :: (Text.zeros more ++ short) := left
      cases shape : Text.zeros more ++ short with
      | nil =>
          rw [shape] at behind
          cases behind
      | cons d rest =>
          rw [shape] at behind zero
          exact absurd behind (Bool.eq_false_iff.mp (tidy d rest zero))

theorem tidies_unique (t : Text) (n m : Numeral) (one : Tidies t n) (other : Tidies t m) : n = m := by
  obtain ⟨first, split, digit, tidy⟩ := one
  obtain ⟨second, also_split, also_digit, also_tidy⟩ := other
  have same : Text.zeros first ++ n.text = Text.zeros second ++ m.text := split.symm.trans also_split
  apply congrArg Numeral.mk
  rcases Nat.le_total first second with fewer | fewer
  · exact tidy_shortest first second n.text m.text fewer same also_digit tidy
  · exact (tidy_shortest second first m.text n.text fewer same.symm digit also_tidy).symm

theorem extend_tidies (typed : Text) (unsigned : ∀ c ∈ typed, c ≠ '-') : Tidies typed (empty.extend typed) := by
  have front : (withLeadingZero typed).head? ≠ some '-' := by
    unfold withLeadingZero
    split
    · exact fun minus => absurd (Option.some.inj minus) (by decide)
    · exact fun minus => unsigned '-' (List.mem_of_mem_head? minus) rfl
  have text : (empty.extend typed).text = dropZeros (withLeadingZero typed) := by
    rw [extend_text, ← unsigned_zeros _ front]
    rfl
  obtain ⟨count, split, digit⟩ := drop_zeros_split (withLeadingZero typed)
  rw [Tidies, text]
  exact ⟨count, split, digit, drop_zeros_tidy _⟩

theorem shown_unsigned (c : Char) (shown : IsShown c) : c ≠ '-' := by
  rintro rfl
  exact operators_not_shown .subtraction shown

theorem zero_extend (text : Text) (some_char : text ≠ []) (input : Input.isNumeralInput text = true) :
    zero.extend text = empty.extend text := by
  obtain ⟨c, rest, rfl⟩ := List.exists_cons_of_ne_nil some_char
  apply congrArg Numeral.mk
  change tidied ('0' :: c :: rest) = tidied (c :: rest)
  rcases input_shown _ input c (List.mem_cons_self ..) with digit | rfl
  · have no_point : c ≠ '.' := by
      rintro rfl
      rw [point_no_digit] at digit
      cases digit
    have no_minus : c ≠ '-' := shown_unsigned c (.inl digit)
    simp [tidied, withLeadingZero, withoutLeadingZeros, no_point, no_minus, dropZeros, digit]
  · rw [tidied_zero, tidied_point]

theorem input_append (first second : Text) (left : Input.isNumeralInput first = true)
    (right : Input.isNumeralInput second = true) (one_point : ¬ (first.contains '.' && second.contains '.') = true) :
    Input.isNumeralInput (first ++ second) = true := by
  obtain ⟨front, back, rfl, digits, form⟩ := input_parts first left
  have every : ∀ c ∈ front, isDecimal c = true := List.all_eq_true.mp digits
  rcases form with rfl | ⟨behind, rfl, decimal⟩
  · rw [List.append_nil, Input.isNumeralInput, List.dropWhile_append_of_pos every]
    exact right
  · obtain ⟨more, rest, rfl, also, _ | ⟨other, rfl, _⟩⟩ := input_parts second right
    · rename_i none
      subst none
      rw [List.append_assoc, Input.isNumeralInput, List.dropWhile_append_of_pos every]
      simp [point_no_digit, decimal, also]
    · simp at one_point

theorem drop_zeros_all (count : Nat) : dropZeros ('0' :: Text.zeros count) = ['0'] := by
  induction count with
  | zero => rfl
  | succ count ih =>
      have next : (Text.zeros (count + 1)).head?.any isDecimal = true := rfl
      rw [dropZeros, next, if_pos (by decide)]
      exact ih

-- As many zeros are gone as there are characters more, so that the front is zeros up to the last digit of all.
theorem drop_zeros_absorbs (t more : Text) (some_char : more ≠ []) :
    dropZeros (t ++ more) = t ↔ t = ['0'] ∧ more = Text.zeros more.length := by
  constructor
  · intro same
    obtain ⟨count, split, digit⟩ := drop_zeros_split (t ++ more)
    rw [same] at split digit
    have length := congrArg List.length split
    rw [List.length_append, List.length_append, Text.zeros_of_length] at length
    obtain ⟨gone, rfl⟩ : ∃ gone, count = gone + 1 :=
      ⟨count - 1, by have := List.length_pos_iff.mpr some_char; omega⟩
    obtain ⟨c, rest, rfl⟩ : ∃ c rest, t = c :: rest := by
      apply List.exists_cons_of_ne_nil
      rintro rfl
      exact absurd (digit (Nat.succ_pos gone)) (by decide)
    rw [Text.zeros_succ, List.cons_append, List.cons_append, List.cons.injEq] at split
    obtain ⟨rfl, behind⟩ := split
    cases rest with
    | nil =>
        have zeros : more = Text.zeros (gone + 1) := by
          rw [List.nil_append] at behind
          rw [behind, Text.zeros_snoc]
        rw [zeros, Text.zeros_of_length]
        exact ⟨rfl, rfl⟩
    | cons d rest =>
        have second : isDecimal d = false := drop_zeros_tidy _ d rest same
        have zero : d = '0' := by
          cases gone with
          | zero => exact (List.cons.inj behind).1
          | succ gone => exact (List.cons.inj behind).1
        rw [zero] at second
        exact absurd second (by decide)
  · rintro ⟨rfl, zeros⟩
    rw [zeros]
    exact drop_zeros_all more.length

theorem all_zeros (t : Text) : t = Text.zeros t.length ↔ ∀ c ∈ t, c = '0' := by
  rw [Text.zeros, List.eq_replicate_iff]
  exact ⟨fun zeros => zeros.2, fun zeros => ⟨rfl, zeros⟩⟩

theorem tidied_nonempty (t : Text) (some_char : t ≠ []) : tidied t ≠ [] := by
  obtain ⟨c, rest, rfl⟩ := List.exists_cons_of_ne_nil some_char
  by_cases point : c = '.'
  · subst point
    rw [tidied_point]
    exact List.cons_ne_nil _ _
  · have no_point : (c :: rest).head? ≠ some '.' := fun same => point (Option.some.inj same)
    obtain ⟨d, tail, kept, _⟩ := without_zeros_front (c :: rest) (List.cons_ne_nil _ _) no_point
    rw [tidied, pointless_zero _ no_point, kept]
    exact List.cons_ne_nil _ _

theorem tidied_absorbs (t more : Text) (some_char : more ≠ []) :
    tidied (t ++ more) = t ↔ (t = ['0'] ∨ t = ['-', '0']) ∧ more = Text.zeros more.length := by
  cases t with
  | nil => exact ⟨fun same => absurd same (tidied_nonempty more some_char), by simp⟩
  | cons c rest =>
      by_cases point : c = '.'
      · subst point
        rw [List.cons_append, tidied_point]
        simp
      · have no_point : (c :: rest ++ more).head? ≠ some '.' := fun same => point (Option.some.inj same)
        rw [tidied, pointless_zero _ no_point]
        by_cases minus : c = '-'
        · subst minus
          rw [List.cons_append, withoutLeadingZeros, List.cons.injEq, drop_zeros_absorbs rest more some_char]
          simp
        · have unsigned : (c :: rest ++ more).head? ≠ some '-' := fun same => minus (Option.some.inj same)
          rw [unsigned_zeros _ unsigned, drop_zeros_absorbs (c :: rest) more some_char]
          simp [minus]

theorem extend_same_iff (n : Numeral) (typed : Text) (some_char : typed ≠ []) :
    n.extend typed = n ↔ (n.text = ['0'] ∨ n.text = ['-', '0']) ∧ ∀ c ∈ typed, c = '0' := by
  have same : n.extend typed = n ↔ tidied (n.text ++ typed) = n.text :=
    ⟨congrArg Numeral.text, fun text => congrArg Numeral.mk text⟩
  rw [same, tidied_absorbs n.text typed some_char, all_zeros]

end PocketCalculator.Numeral
