import PocketCalculator.Value

/- The library that the settings are declared with, as far as they rest on it: how it reads a whole number,
   what it reports, and where it finds the value of a field. `Documented` is what its manual says of that. -/
set_option autoImplicit false

namespace PocketCalculator.Settings

inductive Field where
  | minimum
  | maximum
deriving DecidableEq

namespace Field

def name : Field → Text
  | .minimum => "min_fraction_digits".toList
  | .maximum => "max_fraction_digits".toList

def initial : Field → Nat
  | .minimum => 0
  | .maximum => 5

def default (field : Field) : Value := .number (.whole field.initial)

def variableName (field : Field) : Text := "COUNTONME_".toList ++ field.name

end Field

structure Complaint where
  code : Text
  message : Text
deriving DecidableEq

abbrev Arguments := List (Text × Value)
abbrev Environment := List (Text × Text)

structure Library where
  whole : Value → Except Complaint Int
  below : Int → Complaint
  refused : Text → Complaint
  -- Arguments by such names are not for the settings but for the library.
  keyword : Text → Bool
  -- Which names besides its own stand for a field in arguments.
  standsFor : Text → Field → Bool
  gathered : Arguments → Environment → Field → Option Value

def lowered (t : Text) : Text := t.map Char.toLower

-- No two variables have names that differ in case only.
def SpelledOnce (environment : Environment) : Prop := (environment.map fun entry => lowered entry.1).Nodup

namespace Library

variable (library : Library)

def Names (name : Text) (field : Field) : Prop := name = field.name ∨ library.standsFor name field = true

def Given (arguments : Arguments) (field : Field) : Prop := ∃ entry ∈ arguments, library.Names entry.1 field

def ForSettings (arguments : Arguments) : Prop := ∀ entry ∈ arguments, library.keyword entry.1 = false

structure Documented : Prop where
  whole_kept : ∀ n, library.whole (.number (.whole n)) = .ok n
  argument_first : ∀ arguments field, library.ForSettings arguments → library.Given arguments field →
    ∃ entry ∈ arguments, library.Names entry.1 field ∧
      ∀ environment, library.gathered arguments environment field = some entry.2
  variable_second : ∀ arguments environment field name t, library.ForSettings arguments → SpelledOnce environment →
    ¬ library.Given arguments field → (name, t) ∈ environment → lowered name = lowered field.variableName → t ≠ [] →
    library.gathered arguments environment field = some (.text t)
  default_last : ∀ arguments environment field, library.ForSettings arguments → ¬ library.Given arguments field →
    (∀ entry ∈ environment, lowered entry.1 = lowered field.variableName → entry.2 = []) →
    library.gathered arguments environment field = none
  extra_ignored : ∀ before entry after environment field, library.ForSettings (before ++ entry :: after) →
    (∀ known, ¬ library.Names entry.1 known) →
    library.gathered (before ++ entry :: after) environment field = library.gathered (before ++ after) environment field

end Library

end PocketCalculator.Settings
