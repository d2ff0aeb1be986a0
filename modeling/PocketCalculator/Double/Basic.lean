/- Binary64 numbers. A finite double is a sign and a magnitude counted in units of the least positive
   double, 2^-1074. Below 2^53 units every magnitude is a double; above, the doubles of one binade are
   the multiples of its spacing. The magnitudes end before 2^1024, which is 2^2098 units. -/
set_option autoImplicit false

namespace PocketCalculator

-- Powers of naturals are those of `Nat`, whichever other structure gives them too.
scoped instance (priority := high) natPowers : Pow Nat Nat := instPowNat

namespace Double

def unitsPerOne : Nat := 2 ^ (1074 : Nat)

def limit : Nat := 2 ^ (2098 : Nat)

def spacing (units : Nat) : Nat := 2 ^ (units.log2 - 52)

def Representable (units : Nat) : Prop := units < limit ∧ spacing units ∣ units

instance (units : Nat) : Decidable (Representable units) := by
  unfold Representable
  infer_instance

theorem spacing_pos (units : Nat) : 0 < spacing units := Nat.two_pow_pos _

theorem limit_pos : 0 < limit := by
  rw [limit]
  apply Nat.two_pow_pos

theorem representable_zero : Representable 0 := ⟨limit_pos, Nat.dvd_zero _⟩

end Double

inductive Double where
  | undefined
  | infinite (negative : Bool)
  | finite (negative : Bool) (units : Nat) (representable : Double.Representable units)
deriving DecidableEq

namespace Double

def zero (negative : Bool) : Double := .finite negative 0 representable_zero

def isInfinite : Double → Bool
  | .infinite _ => true
  | _ => false

def isZero : Double → Bool
  | .finite _ units _ => units = 0
  | _ => false

def signedUnits (negative : Bool) (units : Nat) : Int :=
  if negative then -(units : Int) else units

end Double

end PocketCalculator
