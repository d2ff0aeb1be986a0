import PocketCalculator.Text.Basic
import PocketCalculator.Text.Printable

set_option autoImplicit false

namespace PocketCalculator.Quoted

open Printable

def apostrophe : Char := Char.ofNat 0x27
def doubleMark : Char := Char.ofNat 0x22
def backslash : Char := Char.ofNat 0x5c

def markFor (t : Text) : Char :=
  if t.contains apostrophe && !t.contains doubleMark then doubleMark else apostrophe

def code (c : Char) : Text :=
  if c.toNat ≤ 0xff then 'x' :: hexadecimalText 2 c.toNat
  else if c.toNat ≤ 0xffff then 'u' :: hexadecimalText 4 c.toNat
  else 'U' :: hexadecimalText 8 c.toNat

def escaped (mark c : Char) : Text :=
  if c = mark || c = backslash then [backslash, c]
  else if c = '\t' then [backslash, 't']
  else if c = '\n' then [backslash, 'n']
  else if c = '\r' then [backslash, 'r']
  else if isPrintable c then [c]
  else backslash :: code c

def quoted (t : Text) : Text :=
  let mark := markFor t
  mark :: t.flatMap (escaped mark) ++ [mark]

end PocketCalculator.Quoted
