import PocketCalculator.Double.Shortest

set_option autoImplicit false

namespace PocketCalculator

structure DecimalLayout where
  leastPositional : Int
  mostPositional : Int
  exponentMark : Char
  exponentWidth : Nat

namespace DecimalLayout

def standard : DecimalLayout := ⟨-4, 15, 'e', 2⟩

def positional (digits : Text) (leading : Int) : Text :=
  if leading < 0 then
    '0' :: '.' :: Text.zeros (leading.natAbs - 1) ++ digits
  else
    let whole := leading.natAbs + 1
    if digits.length ≤ whole then
      Text.paddedRight whole digits ++ ['.', '0']
    else digits.take whole ++ '.' :: digits.drop whole

def scientific (layout : DecimalLayout) (digits : Text) (leading : Int) : Text :=
  let fraction := if digits.length ≤ 1 then [] else '.' :: digits.drop 1
  let sign := if leading < 0 then '-' else '+'
  digits.take 1 ++ fraction ++
    layout.exponentMark :: sign :: Text.paddedLeft layout.exponentWidth (decimalText leading.natAbs)

def written (layout : DecimalLayout) (value : Decimal) : Text :=
  let all := decimalText value.digits
  let leading := value.exponent + (all.length - 1 : Nat)
  let digits := Text.withoutTrailingZeros all
  if layout.leastPositional ≤ leading && leading ≤ layout.mostPositional then positional digits leading
  else layout.scientific digits leading

end DecimalLayout

namespace Double

def signText (negative : Bool) : Text := if negative then ['-'] else []

def written : Double → Text
  | .undefined => "nan".toList
  | .infinite negative => signText negative ++ "inf".toList
  | .finite negative units _ =>
      signText negative ++
        if units = 0 then "0.0".toList else DecimalLayout.standard.written (shortest units)

end Double

end PocketCalculator
