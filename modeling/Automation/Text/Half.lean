/-!
# Halves of pairs

In units of sixteen bits a character above `U+FFFF` is a pair, a high half and a low half.  A half
that stands alone is no character, and a text with one in it has no UTF-8 form.  Some formats let
it through all the same.  It is then kept as a stand-in, a character of a private plane, which tells
the half (`half?`).

Texts are made of characters here, and there is none to spare for the halves.  So a text that has
one of these characters of its own is not told apart from the text with the half, and what is said
of texts with stand-ins has to leave open which of both they are.

`charsOfUnits` joins the pairs of a list of units.
-/

namespace Automation.Text

/-- The first half of a pair. -/
def isHighHalf (n : Nat) : Bool := 0xD800 ≤ n && n < 0xDC00

/-- The second half of a pair. -/
def isLowHalf (n : Nat) : Bool := 0xDC00 ≤ n && n < 0xE000

/-- The code point of a pair. -/
def joinHalves (high low : Nat) : Nat := 0x10000 + (high - 0xD800) * 0x400 + (low - 0xDC00)

/-- How far a half and its stand-in are apart. -/
def standInOffset : Nat := 0xF5000 - 0xD800

/-- The character of a unit, a stand-in for a half. -/
def charOfUnit (n : Nat) : Char :=
  Char.ofNat (if isHighHalf n || isLowHalf n then n + standInOffset else n)

/-- The half that a character stands for. -/
def half? (c : Char) : Option Nat :=
  let n := c.toNat - standInOffset
  if isHighHalf n || isLowHalf n then some n else none

/-- The characters of units, pairs joined; a number above sixteen bits is a code point. -/
def charsOfUnits : List Nat → List Char
  | [] => []
  | [n] => [charOfUnit n]
  | n :: m :: rest =>
    if isHighHalf n && isLowHalf m then Char.ofNat (joinHalves n m) :: charsOfUnits rest
    else charOfUnit n :: charsOfUnits (m :: rest)

example : charsOfUnits [0xD83D, 0xDE00] = ['😀'] := by decide
example : (charsOfUnits [0xDE00, 0x41]).map half? = [some 0xDE00, none] := by decide

end Automation.Text
