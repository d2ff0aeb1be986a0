import PocketCalculator.Expression.Basic

set_option autoImplicit false

namespace PocketCalculator

namespace Words

open Blank

theorem words_of_word (word rest : Text) (solid : isWord word) (ends : startsWord rest = false) :
    words (word ++ rest) = word :: words rest := by
  obtain ⟨some_char, solid⟩ := solid
  induction word with
  | nil => exact absurd rfl some_char
  | cons c word ih =>
      have here : isSeparator c = false := solid c (by simp)
      cases word with
      | nil => simp [words, here, ends]
      | cons d word =>
          have next : isSeparator d = false := solid d (by simp)
          have later := ih (List.cons_ne_nil _ _) fun e member => solid e (List.mem_cons_of_mem _ member)
          have starts : startsWord (d :: word ++ rest) = true := by simp [startsWord, next]
          rw [List.cons_append, words, here, if_neg Bool.false_ne_true, if_pos starts, later, lengthenFirst]

theorem words_joined (texts : List Text) (solid : ∀ t ∈ texts, isWord t) : words (Text.joined [' '] texts) = texts := by
  induction texts with
  | nil => rfl
  | cons first texts ih =>
      have word := solid first (by simp)
      cases texts with
      | nil => simpa [Text.joined, words] using words_of_word first [] word rfl
      | cons second texts =>
          have later := ih fun t member => solid t (List.mem_cons_of_mem _ member)
          rw [Text.joined_cons_cons, List.append_assoc, words_of_word first _ word rfl, List.singleton_append,
            words_of_separator ' ' _ rfl, later]

end Words

def Numeral.IsProper (n : Numeral) : Prop := Words.isWord n.text ∧ Operator.ofText? n.text = none

theorem Token.operator_is_word (o : Operator) : Words.isWord o.text := by
  have solid : Blank.isSeparator o.symbol = false := by cases o <;> decide
  exact ⟨List.cons_ne_nil _ _, List.forall_mem_singleton.mpr solid⟩

theorem Token.of_word_operator (o : Operator) : ofWord o.text = .operator o := by
  rw [ofWord, Operator.of_text_text]

theorem Token.of_word_proper (n : Numeral) (proper : n.IsProper) : ofWord n.text = .numeral n := by
  rw [ofWord, proper.2]

namespace Expression

def IsProper (tokens : Expression) : Prop := ∀ n, .numeral n ∈ tokens → n.IsProper

theorem of_text_rendered (tokens : Expression) (proper : tokens.IsProper) : ofText tokens.rendered = tokens := by
  have solid : ∀ t ∈ tokens.map Token.text, Words.isWord t := by
    intro t member
    obtain ⟨token, inside, rfl⟩ := List.mem_map.mp member
    cases token with
    | numeral n => exact (proper n inside).1
    | operator o => exact Token.operator_is_word o
  have restored : ∀ token ∈ tokens, Token.ofWord token.text = token := by
    intro token inside
    cases token with
    | numeral n => exact Token.of_word_proper n (proper n inside)
    | operator o => exact Token.of_word_operator o
  rw [ofText, rendered, Words.words_joined _ solid, List.map_map]
  exact (List.map_congr_left restored).trans (List.map_id tokens)

theorem of_text_proper (t : Text) : (ofText t).IsProper := by
  intro n member
  obtain ⟨word, found, same⟩ := List.mem_map.mp member
  rw [Token.ofWord] at same
  cases known : Operator.ofText? word with
  | some o => simp [known] at same
  | none =>
      simp only [known, Token.numeral.injEq] at same
      subst same
      exact ⟨Words.words_are_words t word found, known⟩

end Expression

end PocketCalculator
