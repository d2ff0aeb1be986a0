import PocketCalculator.Expression.Editing
import PocketCalculator.Proofs.Expression.Lead
import PocketCalculator.Proofs.Numeral.Layout

set_option autoImplicit false

namespace PocketCalculator

-- Numerals at the even places and operators at the odd ones.
def Expression.alternates : Expression → Bool
  | [] => true
  | [.numeral _] => true
  | .numeral _ :: .operator _ :: rest => alternates rest
  | _ => false

namespace Numeral

-- Only the first of them may be anything else than typed.
structure FrontObtained (obtained : Numeral → Prop) (numerals : List Numeral) : Prop where
  front : ∀ n, numerals.head? = some n → n.Entered ∨ n.Displayed ∧ obtained n
  later : ∀ n ∈ numerals.tail, n.Entered

variable {obtained : Numeral → Prop}

theorem front_obtained_nil : FrontObtained obtained [] where
  front := fun _ found => by cases found
  later := fun _ member => by cases member

theorem front_obtained_alone (n : Numeral) (displayed : n.Displayed) (result : obtained n) :
    FrontObtained obtained [n] where
  front := by
    intro m found
    cases found
    exact .inr ⟨displayed, result⟩
  later := fun _ member => by cases member

theorem front_obtained_snoc (numerals : List Numeral) (n : Numeral) (before : FrontObtained obtained numerals)
    (entered : n.Entered) : FrontObtained obtained (numerals ++ [n]) := by
  cases numerals with
  | nil =>
      constructor
      · intro m found
        cases found
        exact .inl entered
      · intro m member
        cases member
  | cons first rest =>
      constructor
      · exact before.front
      · intro m member
        rcases List.mem_append.mp member with earlier | last
        · exact before.later m earlier
        · rw [List.mem_singleton.mp last]
          exact entered

theorem front_obtained_left (numerals more : List Numeral) (all : FrontObtained obtained (numerals ++ more)) :
    FrontObtained obtained numerals := by
  cases numerals with
  | nil => exact front_obtained_nil
  | cons first rest => exact ⟨all.front, fun m member => all.later m (List.mem_append_left _ member)⟩

theorem front_obtained_mono {wider : Numeral → Prop} (numerals : List Numeral)
    (before : FrontObtained obtained numerals) (more : ∀ n, obtained n → wider n) : FrontObtained wider numerals where
  front := fun n found => (before.front n found).imp_right (And.imp_right (more n))
  later := before.later

theorem front_obtained_displayed (numerals : List Numeral) (all : FrontObtained obtained numerals) :
    ∀ n ∈ numerals, n.Displayed := by
  intro n member
  cases numerals with
  | nil => cases member
  | cons first rest =>
      rcases List.mem_cons.mp member with rfl | later
      · exact (all.front n rfl).elim (entered_displayed n) And.left
      · exact entered_displayed n (all.later n later)

end Numeral

structure Entry where
  lead : Chain.Lead
  last : Option Numeral

namespace Entry

def tokens (entry : Entry) : Expression := Chain.leadTokens entry.lead ++ (entry.last.map Token.numeral).toList

def numerals (entry : Entry) : List Numeral := entry.lead.map Prod.fst ++ entry.last.toList

def Open (entry : Entry) : Prop := ∀ n, entry.last = some n → n.Entered

def typed (entry : Entry) (text : Text) : Except Numeral Entry :=
  match entry.last with
  | some n =>
      if n.hasPoint && text.contains '.' then .error n else .ok { entry with last := some (n.extend text) }
  | none => .ok { entry with last := some (Numeral.empty.extend text) }

def withOperator (entry : Entry) (o : Operator) : Entry :=
  match entry.last, entry.lead.getLast? with
  | some n, _ => ⟨entry.lead ++ [(n, o)], none⟩
  | none, some (n, _) => ⟨entry.lead.dropLast ++ [(n, o)], none⟩
  | none, none => ⟨[], some .zero⟩

theorem lead_cases (lead : Chain.Lead) : lead = [] ∨ ∃ front n o, lead = front ++ [(n, o)] := by
  rcases List.eq_nil_or_concat lead with none | ⟨front, ⟨n, o⟩, some_lead⟩
  · exact .inl none
  · exact .inr ⟨front, n, o, some_lead.trans List.concat_eq_append⟩

@[simp] theorem lead_tokens_snoc (lead : Chain.Lead) (n : Numeral) (o : Operator) :
    Chain.leadTokens (lead ++ [(n, o)]) = Chain.leadTokens lead ++ [.numeral n, .operator o] := by
  induction lead with
  | nil => rfl
  | cons head lead ih => simp only [List.cons_append, Chain.leadTokens, ih]

@[simp] theorem mem_lead_tokens (lead : Chain.Lead) (n : Numeral) :
    .numeral n ∈ Chain.leadTokens lead ↔ n ∈ lead.map Prod.fst := by
  induction lead with
  | nil => simp [Chain.leadTokens]
  | cons head lead ih => simp [Chain.leadTokens, ih]

@[simp] theorem tokens_some (lead : Chain.Lead) (n : Numeral) :
    (⟨lead, some n⟩ : Entry).tokens = Chain.leadTokens lead ++ [.numeral n] := rfl

@[simp] theorem tokens_none (lead : Chain.Lead) : (⟨lead, none⟩ : Entry).tokens = Chain.leadTokens lead := List.append_nil _

@[simp] theorem mem_tokens (entry : Entry) (n : Numeral) : .numeral n ∈ entry.tokens ↔ n ∈ entry.numerals := by
  simp [tokens, numerals]

theorem tokens_alternate (entry : Entry) : entry.tokens.alternates = true := by
  obtain ⟨lead, last⟩ := entry
  rw [tokens]
  induction lead with
  | nil => cases last <;> rfl
  | cons head lead ih => exact ih

theorem mem_tokens_tail (entry : Entry) (n : Numeral) (member : .numeral n ∈ entry.tokens.tail) :
    n ∈ entry.numerals.tail := by
  obtain ⟨lead, last⟩ := entry
  cases lead with
  | nil => cases last <;> cases member
  | cons head lead =>
      have later : .numeral n ∈ (⟨lead, last⟩ : Entry).tokens := by
        simpa [tokens, Chain.leadTokens] using member
      exact (mem_tokens ⟨lead, last⟩ n).mp later

theorem head_tokens (entry : Entry) (n : Numeral) (first : entry.tokens.head? = some (.numeral n)) :
    entry.numerals.head? = some n := by
  obtain ⟨lead, last⟩ := entry
  cases lead with
  | nil =>
      cases last with
      | none => cases first
      | some m =>
          cases first
          rfl
  | cons head lead =>
      cases first
      rfl

theorem typed_tokens (entry : Entry) (text : Text) : entry.tokens.typed text = (entry.typed text).map tokens := by
  obtain ⟨lead, last⟩ := entry
  cases last with
  | some n =>
      rw [tokens_some, Expression.typed, List.getLast?_concat, List.dropLast_concat, typed]
      dsimp only
      split <;> rfl
  | none =>
      rw [tokens_none, Expression.typed]
      rcases lead_cases lead with rfl | ⟨front, n, o, rfl⟩
      · rfl
      · rw [typed, Except.map, tokens_some, lead_tokens_snoc, List.getLast?_append]
        rfl

theorem with_operator_tokens (entry : Entry) (o : Operator) :
    entry.tokens.withOperator o = (entry.withOperator o).tokens := by
  have starts : ∀ (front : Chain.Lead) (n : Numeral) (rest : Expression),
      Expression.startsWithOperator (Chain.leadTokens front ++ .numeral n :: rest) = false := by
    intro front n rest
    cases front <;> rfl
  obtain ⟨lead, last⟩ := entry
  cases last with
  | some n =>
      have kept : Expression.withoutTrailingOperator (Chain.leadTokens lead ++ [.numeral n]) =
          Chain.leadTokens lead ++ [.numeral n] := by
        simp [Expression.withoutTrailingOperator, Expression.endsInOperator, Token.isOperator]
      rw [tokens_some, Expression.withOperator, kept, List.append_assoc, List.singleton_append, starts,
        if_neg Bool.false_ne_true, withOperator, tokens_none, lead_tokens_snoc]
  | none =>
      rcases lead_cases lead with rfl | ⟨front, n, p, rfl⟩
      · rfl
      · have dropped : Expression.withoutTrailingOperator (Chain.leadTokens front ++ [.numeral n, .operator p]) =
            Chain.leadTokens front ++ [.numeral n] := by
          simp [Expression.withoutTrailingOperator, Expression.endsInOperator, Token.isOperator]
        rw [tokens_none, lead_tokens_snoc, Expression.withOperator, dropped, List.append_assoc, List.singleton_append,
          starts, if_neg Bool.false_ne_true, withOperator, List.getLast?_concat, List.dropLast_concat, tokens_none,
          lead_tokens_snoc]

theorem complete_chain (entry : Entry) (long : ¬ entry.tokens.length < 3) (ends : entry.tokens.endsInOperator = false) :
    ∃ chain : Chain, entry.tokens = chain.tokens ∧ chain.rest ≠ [] ∧ chain.numerals = entry.numerals := by
  obtain ⟨lead, last⟩ := entry
  cases last with
  | none =>
      rcases lead_cases lead with rfl | ⟨front, n, o, rfl⟩
      · exact absurd (by decide) long
      · simp [Expression.endsInOperator, Token.isOperator] at ends
  | some n =>
      have tokens : (⟨lead, some n⟩ : Entry).tokens = ((⟨n, []⟩ : Chain).behind lead).tokens := by
        rw [Chain.behind_tokens]
        rfl
      refine ⟨(⟨n, []⟩ : Chain).behind lead, tokens, ?_, Chain.behind_numerals ⟨n, []⟩ lead⟩
      intro none
      rw [tokens, Chain.tokens_odd, none] at long
      exact absurd (by decide) long

variable {obtained : Numeral → Prop}

theorem typed_fits (entry next : Entry) (text : Text) (fits : Numeral.FrontObtained obtained entry.numerals)
    (gone_on : entry.Open) (some_char : text ≠ []) (input : Input.isNumeralInput text = true)
    (taken : entry.typed text = .ok next) : Numeral.FrontObtained obtained next.numerals ∧ next.Open := by
  obtain ⟨lead, last⟩ := entry
  have front := Numeral.front_obtained_left _ _ fits
  have placed : ∀ n : Numeral, n.Entered → Numeral.FrontObtained obtained (⟨lead, some n⟩ : Entry).numerals ∧
      (⟨lead, some n⟩ : Entry).Open := by
    intro n entered
    refine ⟨Numeral.front_obtained_snoc _ n front entered, fun m same => ?_⟩
    cases same
    exact entered
  rw [typed] at taken
  cases last with
  | none =>
      cases taken
      exact placed _ (Numeral.begun_entered text some_char input)
  | some n =>
      dsimp only at taken
      split at taken
      · cases taken
      · rename_i one_point
        cases taken
        exact placed _ (n.extended_entered text (gone_on n rfl) input one_point)

theorem with_operator_fits (entry : Entry) (o : Operator) (fits : Numeral.FrontObtained obtained entry.numerals) :
    Numeral.FrontObtained obtained (entry.withOperator o).numerals ∧ (entry.withOperator o).Open := by
  obtain ⟨lead, last⟩ := entry
  cases last with
  | some n =>
      refine ⟨?_, fun m same => by cases same⟩
      simpa [withOperator, numerals] using fits
  | none =>
      rcases lead_cases lead with rfl | ⟨front, n, p, rfl⟩
      · refine ⟨Numeral.front_obtained_snoc [] _ fits Numeral.zero_entered, fun m same => ?_⟩
        cases same
        exact Numeral.zero_entered
      · refine ⟨?_, fun m same => ?_⟩
        · simpa [withOperator, numerals] using fits
        · simp [withOperator] at same

end Entry

end PocketCalculator
