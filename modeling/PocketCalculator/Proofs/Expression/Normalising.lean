import PocketCalculator.Proofs.Text.Words

set_option autoImplicit false

namespace PocketCalculator

theorem Operator.of_text_none (t : Text) : ofText? t = none ↔ t ∉ [['+'], ['-'], ['*'], ['/']] := by
  have every : ∀ operator : Operator, operator ∈ all := fun operator => by cases operator <;> decide
  have symbols : [['+'], ['-'], ['*'], ['/']] = all.map text := rfl
  rw [symbols, ofText?, List.find?_eq_none, List.mem_map]
  simp [every, eq_comm]

theorem Numeral.proper_iff (n : Numeral) : n.IsProper ↔
    n.text ≠ [] ∧ (∀ c ∈ n.text, Blank.isSeparator c = false) ∧ n.text ∉ [['+'], ['-'], ['*'], ['/']] := by
  rw [IsProper, Words.isWord, Operator.of_text_none, and_assoc]

namespace Expression

theorem of_text_words (t : Text) : (ofText t).map Token.text = Words.words t := by
  have same : Token.text ∘ Token.ofWord = id := funext Token.text_of_word
  rw [ofText, List.map_map, same, List.map_id]

theorem rendered_words (t : Text) : (ofText t).rendered = Text.joined [' '] (Words.words t) := by
  rw [rendered, of_text_words]

theorem restored_iff (tokens : Expression) : ofText tokens.rendered = tokens ↔ tokens.IsProper := by
  refine ⟨fun restored => ?_, of_text_rendered tokens⟩
  rw [← restored]
  exact of_text_proper tokens.rendered

theorem rendering_normalises :
    (∀ tokens : Expression, ofText tokens.rendered = tokens ↔ ∀ n, .numeral n ∈ tokens →
      n.text ≠ [] ∧ (∀ c ∈ n.text, Blank.isSeparator c = false) ∧ n.text ∉ [['+'], ['-'], ['*'], ['/']]) ∧
    ∀ t : Text,
      (∀ n, .numeral n ∈ ofText t →
        n.text ≠ [] ∧ (∀ c ∈ n.text, Blank.isSeparator c = false) ∧ n.text ∉ [['+'], ['-'], ['*'], ['/']]) ∧
      ofText (ofText t).rendered = ofText t ∧ (ofText (ofText t).rendered).rendered = (ofText t).rendered ∧
      Words.SinglySpaced (ofText t).rendered ∧
      ∃ texts, (∀ others, Words.Divides others t ↔ others = texts) ∧ (ofText t).rendered = Text.joined [' '] texts ∧
        ∀ others, Words.Divides others (ofText t).rendered ↔ others = texts := by
  have restored : ∀ t, ofText (ofText t).rendered = ofText t := fun t => of_text_rendered _ (of_text_proper t)
  have same_words : ∀ t, Words.words (ofText t).rendered = Words.words t := by
    intro t
    rw [rendered_words, Words.words_joined _ (Words.words_are_words t)]
  refine ⟨fun tokens => ?_, fun t => ⟨fun n member => ?_, restored t, by rw [restored], ?_, ?_⟩⟩
  · simp only [restored_iff, IsProper, Numeral.proper_iff]
  · exact n.proper_iff.mp (of_text_proper t n member)
  · rw [rendered_words]
    exact Words.joined_spaced _ (Words.words_are_words t)
  · refine ⟨Words.words t, fun others => ?_, rendered_words t, fun others => ?_⟩
    · rw [Words.divides_iff, eq_comm]
    · rw [Words.divides_iff, same_words, eq_comm]

example : (ofText "\t 4\n\u2003+ \u00a0x1 ".toList).rendered = "4 + x1".toList := by decide +kernel

end Expression

end PocketCalculator
