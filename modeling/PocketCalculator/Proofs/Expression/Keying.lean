import PocketCalculator.Expression.Keying
import PocketCalculator.Proofs.Expression.Entry
import PocketCalculator.Proofs.Numeral.Extension

set_option autoImplicit false

namespace PocketCalculator

namespace Expression

theorem typed_numeral (front : Expression) (n : Numeral) (text : Text) :
    typed (front ++ [.numeral n]) text =
      if n.hasPoint && text.contains '.' then .error n else .ok (front ++ [.numeral (n.extend text)]) := by
  rw [typed, List.getLast?_concat, List.dropLast_concat]

-- Input goes on with a numeral, which is the empty one where none is being typed.
theorem typed_goes_on (tokens : Expression) : ∃ (front : Expression) (n : Numeral), ∀ (text : Text) (next : Expression),
    tokens.typed text = .ok next ↔
      ¬ (n.hasPoint && text.contains '.') = true ∧ next = front ++ [.numeral (n.extend text)] := by
  have new : (∀ text, tokens.typed text = .ok (tokens ++ [.numeral (Numeral.empty.extend text)])) →
      ∃ (front : Expression) (n : Numeral), ∀ (text : Text) (next : Expression), tokens.typed text = .ok next ↔
        ¬ (n.hasPoint && text.contains '.') = true ∧ next = front ++ [.numeral (n.extend text)] := by
    intro taken
    refine ⟨tokens, Numeral.empty, fun text next => ?_⟩
    rw [taken text, Except.ok.injEq, eq_comm]
    exact ⟨fun same => ⟨Bool.false_ne_true, same⟩, And.right⟩
  rcases List.eq_nil_or_concat tokens with rfl | ⟨front, last, rfl⟩
  · exact new fun _ => rfl
  · rw [List.concat_eq_append] at new ⊢
    cases last with
    | operator o => exact new fun text => by rw [typed, List.getLast?_concat]
    | numeral n =>
        refine ⟨front, n, fun text next => ?_⟩
        rw [typed_numeral]
        split
        · rename_i two_points
          exact ⟨fun taken => (by cases taken), fun taken => absurd two_points taken.1⟩
        · rename_i one_point
          rw [Except.ok.injEq, eq_comm]
          exact ⟨fun same => ⟨one_point, same⟩, And.right⟩

theorem typed_typed (tokens middle next : Expression) (first second : Text) (taken : tokens.typed first = .ok middle)
    (going_on : middle.typed second = .ok next) :
    tokens.typed (first ++ second) = .ok next ∧ ¬ (first.contains '.' && second.contains '.') = true := by
  obtain ⟨front, n, typed⟩ := typed_goes_on tokens
  obtain ⟨one_point, rfl⟩ := (typed first middle).mp taken
  rw [typed_numeral, Numeral.extend_has_point] at going_on
  split at going_on
  · cases going_on
  · rename_i still
    cases going_on
    rw [typed, Numeral.extend_extend, List.contains_append]
    revert one_point still
    cases n.hasPoint <;> cases first.contains '.' <;> cases second.contains '.' <;> simp

end Expression

namespace Key

theorem kept_snoc (pointed : Bool) (run : List Text) (t : Text) :
    kept pointed (run ++ [t]) =
      kept pointed run ++ if (pointed || run.any (·.contains '.')) && t.contains '.' then [] else [t] := by
  induction run generalizing pointed with
  | nil => simp [kept]
  | cons first run ih =>
      rw [List.cons_append, kept, kept]
      by_cases dropped : (pointed && first.contains '.') = true
      · have already : pointed = true := (Bool.and_eq_true_iff.mp dropped).1
        rw [if_pos dropped, if_pos dropped, ih, already, Bool.true_or, Bool.true_or]
      · rw [if_neg dropped, if_neg dropped, ih, List.cons_append, List.any_cons, Bool.or_assoc]

theorem kept_points (pointed : Bool) (run : List Text) :
    (kept pointed run).any (·.contains '.') = (!pointed && run.any (·.contains '.')) := by
  induction run generalizing pointed with
  | nil => cases pointed <;> rfl
  | cons first run ih =>
      rw [kept, List.any_cons]
      cases points : first.contains '.' with
      | false =>
          rw [Bool.and_false, if_neg Bool.false_ne_true, List.any_cons, points, ih, Bool.or_false, Bool.false_or,
            Bool.false_or]
      | true =>
          cases pointed with
          | false =>
              rw [Bool.false_and, if_neg Bool.false_ne_true, List.any_cons, points, Bool.true_or, Bool.true_or]
              rfl
          | true => exact ih true

theorem kept_sublist (pointed : Bool) (run : List Text) : (kept pointed run).Sublist run := by
  induction run generalizing pointed with
  | nil => exact .slnil
  | cons first run ih =>
      rw [kept]
      split
      · exact (ih pointed).cons first
      · exact (ih _).cons_cons first

-- The numeral of a run is all that is kept of it, tidied once.
theorem numeral_tidies (run : List Text) (input : ∀ t ∈ run, Input.isNumeralInput t = true) (n : Numeral) :
    Numeral.Tidies (kept false run).flatten n ↔ n = numeralOf run := by
  have unsigned : ∀ c ∈ (kept false run).flatten, c ≠ '-' := by
    intro c member
    obtain ⟨t, within, inside⟩ := List.mem_flatten.mp member
    exact Numeral.shown_unsigned c (Numeral.input_shown t (input t ((kept_sublist false run).subset within)) c inside)
  have tidies := Numeral.extend_tidies _ unsigned
  constructor
  · intro other
    exact Numeral.tidies_unique _ n _ other tidies
  · rintro rfl
    exact tidies

theorem runs_pressed (keys : List Key) (run : List Text)
    (cut : run = (runs keys).first ∨ run ∈ (runs keys).rest.map Prod.snd) : ∀ t ∈ run, .input t ∈ keys := by
  induction keys generalizing run with
  | nil => simp_all [runs]
  | cons key keys ih =>
      intro t inside
      cases key with
      | input first =>
          rcases cut with rfl | later
          · rcases List.mem_cons.mp inside with rfl | behind
            · exact List.mem_cons_self
            · exact List.mem_cons_of_mem _ (ih _ (.inl rfl) t behind)
          · exact List.mem_cons_of_mem _ (ih run (.inr later) t inside)
      | operator o =>
          rcases cut with rfl | later
          · cases inside
          · rcases List.mem_cons.mp later with rfl | behind
            · exact List.mem_cons_of_mem _ (ih _ (.inl rfl) t inside)
            · exact List.mem_cons_of_mem _ (ih run (.inr behind) t inside)

theorem flatten_has_point (texts : List Text) : texts.flatten.contains '.' = texts.any (·.contains '.') := by
  rw [Bool.eq_iff_iff]
  simp [List.mem_flatten]

theorem run_has_point (run : List Text) : (numeralOf run).hasPoint = run.any (·.contains '.') := by
  rw [numeralOf, Numeral.extend_has_point, flatten_has_point, kept_points]
  rfl

theorem run_snoc (run : List Text) (t : Text) :
    numeralOf (run ++ [t]) =
      if (numeralOf run).hasPoint && t.contains '.' then numeralOf run else (numeralOf run).extend t := by
  rw [run_has_point, numeralOf, kept_snoc, Bool.false_or]
  split
  · rw [List.append_nil, numeralOf]
  · rw [List.flatten_append, List.flatten_singleton, ← Numeral.extend_extend, numeralOf]

theorem tokens_of_run (o : Operator) (run : List Text) (rest : List (Operator × List Text)) (some_run : run ≠ []) :
    tokensOf ((o, run) :: rest) = .operator o :: .numeral (numeralOf run) :: tokensOf rest := by
  have input : run.isEmpty = false := by simpa using some_run
  cases rest <;> simp [tokensOf, input]

variable (lead : Chain.Lead)

theorem pressed_input (run : List Text) (t : Text) :
    pressed (⟨lead, some (numeralOf run)⟩ : Entry).tokens (.input t) =
      (⟨lead, some (numeralOf (run ++ [t]))⟩ : Entry).tokens := by
  rw [pressed, Entry.typed_tokens, Entry.typed, run_snoc]
  dsimp only
  split <;> rfl

theorem pressed_first_input (t : Text) :
    pressed (⟨lead, none⟩ : Entry).tokens (.input t) = (⟨lead, some (numeralOf [t])⟩ : Entry).tokens := by
  have alone : numeralOf [t] = Numeral.empty.extend t := by simp [numeralOf, kept]
  rw [pressed, Entry.typed_tokens, alone]
  rfl

theorem pressed_operator (entry : Entry) (o : Operator) :
    pressed entry.tokens (.operator o) = (entry.withOperator o).tokens := Entry.with_operator_tokens entry o

-- Both states of an entry go on together: input begins a run, and an operator ends it.
theorem all_pressed (keys : List Key) :
    (∀ lead run, run ≠ [] → keys.foldl pressed (⟨lead, some (numeralOf run)⟩ : Entry).tokens =
        Chain.leadTokens lead ++ .numeral (numeralOf (run ++ (runs keys).first)) :: tokensOf (runs keys).rest) ∧
      ∀ lead n o, keys.foldl pressed (⟨lead ++ [(n, o)], none⟩ : Entry).tokens =
        Chain.leadTokens lead ++ .numeral n :: tokensOf ((o, (runs keys).first) :: (runs keys).rest) := by
  induction keys with
  | nil =>
      constructor
      · intro lead run _
        simp [runs, tokensOf, Entry.tokens]
      · intro lead n o
        simp [runs, tokensOf]
  | cons key keys ih =>
      obtain ⟨going_on, waiting⟩ := ih
      cases key with
      | input t =>
          constructor
          · intro lead run some_run
            rw [List.foldl_cons, pressed_input, going_on lead (run ++ [t]) (by simp), List.append_assoc]
            rfl
          · intro lead n o
            rw [List.foldl_cons, pressed_first_input, going_on _ [t] (by simp), Entry.lead_tokens_snoc,
              runs, tokens_of_run o _ _ (List.cons_ne_nil _ _), List.append_assoc]
            rfl
      | operator p =>
          constructor
          · intro lead run some_run
            rw [List.foldl_cons, pressed_operator, Entry.withOperator, waiting, runs, List.append_nil]
          · intro lead n o
            rw [List.foldl_cons, pressed_operator, Entry.withOperator, List.getLast?_concat, List.dropLast_concat]
            exact waiting lead n p

theorem pressed_normal_form (keys : List Key) : keys.foldl pressed Expression.initial = normalForm keys := by
  have zero : Numeral.zero = numeralOf [['0']] := by decide
  have entry : Expression.initial = (⟨[], some (numeralOf [['0']])⟩ : Entry).tokens := by
    rw [← zero]
    rfl
  rw [entry, (all_pressed keys).1 [] [['0']] (List.cons_ne_nil _ _), normalForm]
  rfl

end Key

end PocketCalculator
