import PocketCalculator.Proofs.Expression.Rendering
import Mathlib.Data.List.Chain

set_option autoImplicit false

namespace PocketCalculator.Words

open Blank

inductive Divides : List Text → Text → Prop where
  | blank (t : Text) (blank : ∀ c ∈ t, isSeparator c = true) : Divides [] t
  | word (before word after : Text) (rest : List Text) (blank : ∀ c ∈ before, isSeparator c = true)
      (solid : isWord word) (ends : startsWord after = false) (others : Divides rest after) :
      Divides (word :: rest) (before ++ word ++ after)

theorem divides_behind (texts : List Text) (t : Text) (c : Char) (blank : isSeparator c = true)
    (divides : Divides texts t) : Divides texts (c :: t) := by
  cases divides with
  | blank _ blanks => exact .blank _ (List.forall_mem_cons.mpr ⟨blank, blanks⟩)
  | word before word after rest blanks solid ends others =>
      exact .word (c :: before) word after rest (List.forall_mem_cons.mpr ⟨blank, blanks⟩) solid ends others

theorem divides_lengthened (texts : List Text) (t : Text) (c : Char) (solid : isSeparator c = false)
    (starts : startsWord t = true) (divides : Divides texts t) : Divides (lengthenFirst c texts) (c :: t) := by
  have front : ∀ d rest, t = d :: rest → ¬ isSeparator d = true := by
    rintro d rest rfl
    simpa [startsWord] using starts
  cases divides with
  | blank _ blanks =>
      cases t with
      | nil => cases starts
      | cons d rest => exact absurd (blanks d List.mem_cons_self) (front d rest rfl)
  | word before word after rest blanks characters ends others =>
      cases before with
      | nil =>
          have lengthened : isWord (c :: word) :=
            ⟨List.cons_ne_nil _ _, List.forall_mem_cons.mpr ⟨solid, characters.2⟩⟩
          exact .word [] (c :: word) after rest blanks lengthened ends others
      | cons d before => exact absurd (blanks d List.mem_cons_self) (front d _ rfl)

theorem words_divide (t : Text) : Divides (words t) t := by
  induction t with
  | nil => exact .blank [] (List.forall_mem_nil _)
  | cons c rest ih =>
      by_cases blank : isSeparator c = true
      · rw [words_of_separator c rest blank]
        exact divides_behind _ rest c blank ih
      · have solid : isSeparator c = false := by simpa using blank
        rw [words, if_neg blank]
        by_cases starts : startsWord rest = true
        · rw [if_pos starts]
          exact divides_lengthened _ rest c solid starts ih
        · have alone : isWord [c] := ⟨List.cons_ne_nil _ _, List.forall_mem_singleton.mpr solid⟩
          rw [if_neg starts]
          exact .word [] [c] rest _ (List.forall_mem_nil _) alone (by simpa using starts) ih

theorem words_behind (before t : Text) (blank : ∀ c ∈ before, isSeparator c = true) : words (before ++ t) = words t := by
  induction before with
  | nil => rfl
  | cons c before ih =>
      obtain ⟨here, there⟩ := List.forall_mem_cons.mp blank
      rw [List.cons_append, words_of_separator c _ here, ih there]

theorem divides_words (texts : List Text) (t : Text) (divides : Divides texts t) : words t = texts := by
  induction divides with
  | blank t blank => simpa [words] using words_behind t [] blank
  | word before word after rest blank solid ends _ ih =>
      rw [List.append_assoc, words_behind before _ blank, words_of_word word after solid ends, ih]

theorem divides_iff (texts : List Text) (t : Text) : Divides texts t ↔ words t = texts :=
  ⟨divides_words texts t, fun same => same ▸ words_divide t⟩

-- Separators stand one by one between words, and are spaces.
structure SinglySpaced (t : Text) : Prop where
  front : ∀ c ∈ t.head?, isSeparator c = false
  back : ∀ c ∈ t.getLast?, isSeparator c = false
  between : t.IsChain fun c d => isSeparator c = true → c = ' ' ∧ isSeparator d = false

theorem word_spaced (word : Text) (solid : isWord word) : SinglySpaced word where
  front c found := solid.2 c (List.mem_of_mem_head? found)
  back c found := solid.2 c (List.mem_of_mem_getLast? found)
  between := List.isChain_iff_forall_rel_of_append_cons_cons.mpr fun c d before after split blank => by
    have inside : c ∈ word := by simp [split]
    rw [solid.2 c inside] at blank
    cases blank

theorem spaced_append (word rest : Text) (solid : isWord word) (some_char : rest ≠ []) (spaced : SinglySpaced rest) :
    SinglySpaced (word ++ ' ' :: rest) := by
  have alone := word_spaced word solid
  have behind : (' ' :: rest).IsChain fun c d => isSeparator c = true → c = ' ' ∧ isSeparator d = false :=
    spaced.between.cons fun d found _ => ⟨rfl, spaced.front d found⟩
  refine ⟨fun c found => ?_, fun c found => ?_, alone.between.append behind fun c found d _ blank => ?_⟩
  · rw [List.head?_append_of_ne_nil _ solid.1] at found
    exact alone.front c found
  · rw [List.getLast?_append_of_ne_nil _ (List.cons_ne_nil _ _), List.getLast?_cons_of_ne_nil some_char] at found
    exact spaced.back c found
  · rw [alone.back c found] at blank
    cases blank

theorem joined_spaced (texts : List Text) (solid : ∀ t ∈ texts, isWord t) : SinglySpaced (Text.joined [' '] texts) := by
  induction texts with
  | nil => exact ⟨fun _ found => (by cases found), fun _ found => (by cases found), .nil⟩
  | cons first texts ih =>
      obtain ⟨word, others⟩ := List.forall_mem_cons.mp solid
      cases texts with
      | nil => exact word_spaced first word
      | cons second texts =>
          have some_char : Text.joined [' '] (second :: texts) ≠ [] := by
            intro none
            have found := words_joined (second :: texts) others
            rw [none] at found
            cases found
          rw [Text.joined_cons_cons, List.append_assoc]
          exact spaced_append first _ word some_char (ih others)

end PocketCalculator.Words
