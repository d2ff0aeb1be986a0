import PocketCalculator.Settings.Basic
import Mathlib.Data.List.Nodup

set_option autoImplicit false

namespace PocketCalculator.Settings

inductive Wins (library : Library) (arguments : Arguments) (environment : Environment) (field : Field) :
    Value → Prop where
  | argument (name : Text) (value : Value) (given : (name, value) ∈ arguments) (named : library.Names name field) :
      Wins library arguments environment field value
  | environment (name t : Text) (ungiven : ¬ library.Given arguments field) (set : (name, t) ∈ environment)
      (named : lowered name = lowered field.variableName) (filled : t ≠ []) :
      Wins library arguments environment field (.text t)
  | initial (ungiven : ¬ library.Given arguments field)
      (unset : ∀ entry ∈ environment, lowered entry.1 = lowered field.variableName → entry.2 = []) :
      Wins library arguments environment field field.default

def GivenOnce (library : Library) (arguments : Arguments) (field : Field) : Prop :=
  ∀ entry ∈ arguments, ∀ other ∈ arguments, library.Names entry.1 field → library.Names other.1 field → entry = other

-- A variable that an argument overrules, an empty one, or one of another name.
def Loses (library : Library) (arguments : Arguments) (entry : Text × Text) (field : Field) : Prop :=
  library.Given arguments field ∨ entry.2 = [] ∨ lowered entry.1 ≠ lowered field.variableName

section

variable (library : Library) (documented : library.Documented) (arguments : Arguments)
  (forSettings : library.ForSettings arguments)

include documented forSettings

theorem source_argument (environment : Environment) (field : Field) (given : library.Given arguments field) :
    ∃ entry ∈ arguments, library.Names entry.1 field ∧ source library arguments environment field = entry.2 := by
  obtain ⟨entry, member, named, gathered⟩ := documented.argument_first arguments field forSettings given
  exact ⟨entry, member, named, by simp [source, gathered environment]⟩

theorem source_variable (environment : Environment) (once : SpelledOnce environment) (field : Field)
    (ungiven : ¬ library.Given arguments field) (name t : Text) (set : (name, t) ∈ environment)
    (named : lowered name = lowered field.variableName) (filled : t ≠ []) :
    source library arguments environment field = .text t := by
  have gathered := documented.variable_second arguments environment field name t forSettings once ungiven set named filled
  simp [source, gathered]

theorem source_initial (environment : Environment) (field : Field) (ungiven : ¬ library.Given arguments field)
    (unset : ∀ entry ∈ environment, lowered entry.1 = lowered field.variableName → entry.2 = []) :
    source library arguments environment field = field.default := by
  have gathered := documented.default_last arguments environment field forSettings ungiven unset
  simp [source, gathered]

theorem source_wins (environment : Environment) (once : SpelledOnce environment) (field : Field) :
    Wins library arguments environment field (source library arguments environment field) := by
  by_cases given : library.Given arguments field
  · obtain ⟨entry, member, named, same⟩ := source_argument library documented arguments forSettings environment field given
    rw [same]
    exact .argument entry.1 entry.2 member named
  · by_cases unset : ∀ entry ∈ environment, lowered entry.1 = lowered field.variableName → entry.2 = []
    · rw [source_initial library documented arguments forSettings environment field given unset]
      exact .initial given unset
    · push Not at unset
      obtain ⟨⟨name, t⟩, set, named, filled⟩ := unset
      rw [source_variable library documented arguments forSettings environment once field given name t set named filled]
      exact .environment name t given set named filled

theorem winner_source (environment : Environment) (once : SpelledOnce environment) (field : Field)
    (givenOnce : GivenOnce library arguments field) (value : Value)
    (wins : Wins library arguments environment field value) :
    value = source library arguments environment field := by
  cases wins with
  | argument name _ given named =>
      obtain ⟨entry, member, other, same⟩ :=
        source_argument library documented arguments forSettings environment field ⟨(name, value), given, named⟩
      rw [same, ← givenOnce _ given entry member named other]
  | environment name t ungiven set named filled =>
      rw [source_variable library documented arguments forSettings environment once field ungiven name t set named filled]
  | initial ungiven unset => rw [source_initial library documented arguments forSettings environment field ungiven unset]

theorem variable_overlooked (before after : Environment) (entry : Text × Text) (field : Field)
    (once : SpelledOnce (before ++ entry :: after)) (loses : Loses library arguments entry field) :
    source library arguments (before ++ entry :: after) field = source library arguments (before ++ after) field := by
  by_cases given : library.Given arguments field
  · obtain ⟨found, _, _, gathered⟩ := documented.argument_first arguments field forSettings given
    simp [source, gathered]
  · have lost : lowered entry.1 = lowered field.variableName → entry.2 = [] := by
      rcases loses with overruled | empty | other
      · exact absurd overruled given
      · exact fun _ => empty
      · exact fun named => absurd named other
    have fewer : (before ++ after).Sublist (before ++ entry :: after) :=
      (List.Sublist.refl before).append (List.sublist_cons_self entry after)
    have wins := source_wins library documented arguments forSettings (before ++ after)
      (once.sublist (fewer.map _)) field
    generalize source library arguments (before ++ after) field = value at wins ⊢
    cases wins with
    | argument name value member named => exact absurd ⟨(name, value), member, named⟩ given
    | environment name t ungiven set named filled =>
        exact source_variable library documented arguments forSettings _ once field given name t (fewer.subset set) named filled
    | initial ungiven unset =>
        apply source_initial library documented arguments forSettings _ field given
        intro other member
        rcases List.mem_append.mp member with first | later
        · exact unset other (List.mem_append_left _ first)
        · rcases List.mem_cons.mp later with rfl | last
          · exact lost
          · exact unset other (List.mem_append_right _ last)

end

theorem argument_overlooked (library : Library) (documented : library.Documented) (before after : Arguments)
    (entry : Text × Value) (forSettings : library.ForSettings (before ++ entry :: after))
    (unknown : ∀ field, ¬ library.Names entry.1 field) (environment : Environment) (field : Field) :
    source library (before ++ entry :: after) environment field = source library (before ++ after) environment field := by
  rw [source, documented.extra_ignored before entry after environment field forSettings unknown, source]

def Field.all : List Field := [.minimum, .maximum]

def digits (settings : Settings) : Field → Nat
  | .minimum => settings.minDigits
  | .maximum => settings.maxDigits

def Reads (library : Library) (value : Value) (count : Nat) : Prop := library.whole value = .ok (count : Int)

def complaint? (library : Library) (value : Value) : Option Complaint :=
  match library.whole value with
  | .error complaint => some complaint
  | .ok n => if n < 0 then some (library.below 0) else none

def complaints (library : Library) (winner : Field → Value) : List Problem :=
  Field.all.filterMap fun field => (complaint? library (winner field)).map field.problem

structure Reversed (library : Library) (winner : Field → Value) (problems : List Problem) : Prop where
  read : ∃ least greatest,
    Reads library (winner .minimum) least ∧ Reads library (winner .maximum) greatest ∧ greatest < least
  only : problems = [reversed library]
  unlocated : problems.map Problem.location = [[]]

section

variable (library : Library)

theorem digit_count_reads (value : Value) (count : Nat) :
    digitCount library value = .ok count ↔ Reads library value count := by
  rw [digitCount, Reads]
  cases library.whole value with
  | error complaint => simp [bind, Except.bind]
  | ok n =>
      simp only [bind, Except.bind]
      split
      · simp only [reduceCtorEq, Except.ok.injEq, false_iff]
        omega
      · simp only [Except.ok.injEq]
        omega

theorem digit_count_complains (value : Value) (complaint : Complaint) :
    digitCount library value = .error complaint ↔ complaint? library value = some complaint := by
  rw [digitCount, complaint?]
  cases library.whole value with
  | error found => simp [bind, Except.bind]
  | ok n =>
      simp only [bind, Except.bind]
      split <;> simp

theorem unread (value : Value) (complaint : Complaint) (complains : complaint? library value = some complaint)
    (count : Nat) : ¬ Reads library value count := by
  intro reads
  rw [← digit_count_reads, (digit_count_complains library value complaint).mpr complains] at reads
  cases reads

theorem reads_once (value : Value) (one other : Nat) (first : Reads library value one)
    (second : Reads library value other) : one = other := by
  rw [Reads] at first second
  rw [first, Except.ok.injEq] at second
  exact Int.ofNat.inj second

theorem of_digits_ok (least greatest : Nat) (settings : Settings) :
    ofDigits library least greatest = .ok settings ↔ least = settings.minDigits ∧ greatest = settings.maxDigits := by
  rw [ofDigits]
  constructor
  · intro loaded
    split at loaded
    · cases loaded
      exact ⟨rfl, rfl⟩
    · cases loaded
  · rintro ⟨rfl, rfl⟩
    rw [dif_pos settings.ordered]

theorem of_digits_error (least greatest : Nat) (problems : List Problem) :
    ofDigits library least greatest = .error problems ↔ greatest < least ∧ problems = [reversed library] := by
  rw [ofDigits]
  split
  · rename_i ordered
    simp [Nat.not_lt.mpr ordered]
  · rename_i reversed
    simp [Nat.lt_of_not_le reversed, eq_comm]

theorem load_cases (arguments : Arguments) (environment : Environment) :
    (∃ least greatest, Reads library (source library arguments environment .minimum) least ∧
      Reads library (source library arguments environment .maximum) greatest ∧
      load library arguments environment = ofDigits library least greatest) ∨
    (∃ field, ∀ count, ¬ Reads library (source library arguments environment field) count) ∧
      load library arguments environment = .error (complaints library (source library arguments environment)) := by
  have reported : ∀ value field, (complaint? library value).map (Field.problem field) =
      match digitCount library value with
      | .ok _ => none
      | .error complaint => some (field.problem complaint) := by
    intro value field
    cases count : digitCount library value with
    | ok n =>
        cases complains : complaint? library value with
        | none => rfl
        | some complaint => exact absurd ((digit_count_reads library _ _).mp count) (unread library _ _ complains n)
    | error complaint => rw [(digit_count_complains library _ _).mp count]; rfl
  rw [load, complaints, Field.all, List.filterMap_cons, List.filterMap_cons, List.filterMap_nil, reported, reported]
  cases least : digitCount library (source library arguments environment .minimum) with
  | error first =>
      refine .inr ⟨⟨.minimum, unread library _ first ((digit_count_complains library _ _).mp least)⟩, ?_⟩
      cases digitCount library (source library arguments environment .maximum) <;> rfl
  | ok m =>
      cases greatest : digitCount library (source library arguments environment .maximum) with
      | error second =>
          exact .inr ⟨⟨.maximum, unread library _ second ((digit_count_complains library _ _).mp greatest)⟩, rfl⟩
      | ok n =>
          exact .inl ⟨m, n, (digit_count_reads library _ _).mp least, (digit_count_reads library _ _).mp greatest, rfl⟩

theorem load_ok_iff (arguments : Arguments) (environment : Environment) (settings : Settings) :
    load library arguments environment = .ok settings ↔
      ∀ field, Reads library (source library arguments environment field) (settings.digits field) := by
  rcases load_cases library arguments environment with ⟨least, greatest, first, second, same⟩ | ⟨⟨field, none⟩, same⟩
  · rw [same, of_digits_ok]
    constructor
    · rintro ⟨rfl, rfl⟩ field
      cases field with
      | minimum => exact first
      | maximum => exact second
    · intro reads
      exact ⟨reads_once library _ _ _ first (reads .minimum), reads_once library _ _ _ second (reads .maximum)⟩
  · rw [same]
    constructor
    · intro impossible
      cases impossible
    · intro reads
      exact absurd (reads field) (none _)

theorem load_error_iff (arguments : Arguments) (environment : Environment) (problems : List Problem) :
    load library arguments environment = .error problems ↔
      (∃ field, ∀ count, ¬ Reads library (source library arguments environment field) count) ∧
          problems = complaints library (source library arguments environment) ∨
        Reversed library (source library arguments environment) problems := by
  rcases load_cases library arguments environment with ⟨least, greatest, first, second, same⟩ | ⟨unread, same⟩
  · rw [same, of_digits_error]
    constructor
    · rintro ⟨less, rfl⟩
      exact .inr ⟨⟨least, greatest, first, second, less⟩, rfl, rfl⟩
    · rintro (⟨⟨field, none⟩, _⟩ | ⟨⟨m, n, one, other, less⟩, only, _⟩)
      · cases field with
        | minimum => exact absurd first (none _)
        | maximum => exact absurd second (none _)
      · rw [reads_once library _ _ _ first one, reads_once library _ _ _ second other]
        exact ⟨less, only⟩
  · rw [same]
    constructor
    · intro failed
      cases failed
      exact .inl ⟨unread, rfl⟩
    · rintro (⟨_, rfl⟩ | ⟨⟨m, n, one, other, _⟩, _, _⟩)
      · rfl
      · obtain ⟨field, none⟩ := unread
        cases field with
        | minimum => exact absurd one (none _)
        | maximum => exact absurd other (none _)

theorem load_from_sources (arguments others : Arguments) (environment elsewhere : Environment)
    (same : ∀ field, source library arguments environment field = source library others elsewhere field) :
    load library arguments environment = load library others elsewhere := by
  rw [load, same .minimum, same .maximum]
  rfl

end

def isNamed (field : Field) (entry : Text × Value) : Bool := entry.1 = field.name

def isSet (field : Field) (entry : Text × Text) : Bool :=
  lowered entry.1 = lowered field.variableName && !entry.2.isEmpty

theorem is_set_iff (field : Field) (entry : Text × Text) :
    isSet field entry = true ↔ lowered entry.1 = lowered field.variableName ∧ entry.2 ≠ [] := by
  simp [isSet]

namespace Library

def wholePlain : Value → Except Complaint Int
  | .number (.whole n) => .ok n
  | .text t =>
      if t ≠ [] ∧ t.all Char.isDigit then .ok (t.foldl (fun total c => 10 * total + (c.toNat - 0x30)) 0 : Nat)
      else .error ⟨"int_parsing".toList,
        "Input should be a valid integer, unable to parse string as an integer".toList⟩
  | _ => .error ⟨"int_type".toList, "Input should be a valid integer".toList⟩

def gatheredPlain (arguments : Arguments) (environment : Environment) (field : Field) : Option Value :=
  match arguments.find? (isNamed field) with
  | some entry => some entry.2
  | none => (environment.find? (isSet field)).map (.text ·.2)

-- Reads integers and plain digits, and knows no names but the fields' own.
def plain : Library where
  whole := wholePlain
  below _ := ⟨"greater_than_equal".toList, "Input should be greater than or equal to 0".toList⟩
  refused message := ⟨"value_error".toList, "Value error, ".toList ++ message⟩
  keyword name := name.head? = some '_'
  standsFor _ _ := false
  gathered := gatheredPlain

theorem plain_names (entry : Text × Value) (field : Field) :
    plain.Names entry.1 field ↔ isNamed field entry = true := by
  simp [Names, plain, isNamed]

theorem plain_ungiven (arguments : Arguments) (field : Field) :
    arguments.find? (isNamed field) = none ↔ ¬ plain.Given arguments field := by
  simp only [List.find?_eq_none, Given, plain_names, not_exists, not_and]

theorem plain_given_once (arguments : Arguments) (field : Field) (distinct : (arguments.map Prod.fst).Nodup) :
    GivenOnce plain arguments field := by
  intro entry member other member' named named'
  rw [plain_names, isNamed, decide_eq_true_eq] at named named'
  exact List.inj_on_of_nodup_map distinct member member' (named.trans named'.symm)

theorem gathered_environment (arguments : Arguments) (environment : Environment) (field : Field)
    (ungiven : ¬ plain.Given arguments field) :
    gatheredPlain arguments environment field = (environment.find? (isSet field)).map (.text ·.2) := by
  rw [gatheredPlain, (plain_ungiven arguments field).mpr ungiven]

theorem plain_documented : plain.Documented where
  whole_kept n := rfl
  argument_first arguments field _ given := by
    cases found : arguments.find? (isNamed field) with
    | none => exact absurd given ((plain_ungiven arguments field).mp found)
    | some entry =>
        refine ⟨entry, List.mem_of_find?_eq_some found, (plain_names _ _).mpr (List.find?_some found), ?_⟩
        intro environment
        change gatheredPlain arguments environment field = _
        rw [gatheredPlain, found]
  variable_second arguments environment field name t _ once ungiven set named filled := by
    change gatheredPlain arguments environment field = _
    rw [gathered_environment arguments environment field ungiven]
    cases found : environment.find? (isSet field) with
    | none => exact absurd ((is_set_iff field (name, t)).mpr ⟨named, filled⟩) (List.find?_eq_none.mp found _ set)
    | some entry =>
        have own := (is_set_iff field entry).mp (List.find?_some found)
        have same := List.inj_on_of_nodup_map once (List.mem_of_find?_eq_some found) set (own.1.trans named.symm)
        rw [same]
        rfl
  default_last arguments environment field _ ungiven unset := by
    change gatheredPlain arguments environment field = _
    have none : environment.find? (isSet field) = none := by
      rw [List.find?_eq_none]
      intro entry member set
      obtain ⟨named, filled⟩ := (is_set_iff field entry).mp set
      exact filled (unset entry member named)
    rw [gathered_environment arguments environment field ungiven, none]
    rfl
  extra_ignored before entry after environment field _ unknown := by
    change gatheredPlain _ environment field = gatheredPlain _ environment field
    have other : ¬ isNamed field entry = true := fun named => unknown field ((plain_names _ _).mpr named)
    rw [gatheredPlain, gatheredPlain, List.find?_append, List.find?_append, List.find?_cons_of_neg other]

end Library

end PocketCalculator.Settings
