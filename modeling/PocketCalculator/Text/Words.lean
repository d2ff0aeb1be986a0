import PocketCalculator.Text.Blank

set_option autoImplicit false

namespace PocketCalculator.Words

open Blank

def startsWord : Text → Bool
  | [] => false
  | c :: _ => !isSeparator c

def lengthenFirst (c : Char) : List Text → List Text
  | [] => [[c]]
  | word :: rest => (c :: word) :: rest

def words : Text → List Text
  | [] => []
  | c :: rest =>
      if isSeparator c then words rest
      else if startsWord rest then lengthenFirst c (words rest)
      else [c] :: words rest

def isWord (t : Text) : Prop := t ≠ [] ∧ ∀ c ∈ t, isSeparator c = false

theorem words_of_separator (c : Char) (rest : Text) (blank : isSeparator c = true) :
    words (c :: rest) = words rest := by
  simp [words, blank]

theorem words_are_words (t : Text) : ∀ word ∈ words t, isWord word := by
  induction t with
  | nil => simp [words]
  | cons c rest ih =>
      by_cases blank : isSeparator c = true
      · simpa [words_of_separator c rest blank] using ih
      · have solid : isSeparator c = false := by simpa using blank
        have alone : isWord [c] := ⟨by simp, by simp [solid]⟩
        simp only [words, solid, Bool.false_eq_true, if_false]
        cases startsWord rest with
        | false =>
            intro word member
            rcases List.mem_cons.mp member with rfl | later
            · exact alone
            · exact ih word later
        | true =>
            generalize words rest = found at ih
            cases found with
            | nil => simpa [lengthenFirst] using alone
            | cons first others =>
                intro word member
                have firstWord := ih first (by simp)
                rcases List.mem_cons.mp member with rfl | later
                · refine ⟨by simp, ?_⟩
                  intro d inside
                  rcases List.mem_cons.mp inside with rfl | tail
                  · exact solid
                  · exact firstWord.2 d tail
                · exact ih word (List.mem_cons_of_mem _ later)

end PocketCalculator.Words
