import Automation.Text.LabelTable
import Automation.Text.Punycode
import Automation.Text.Split

/-!
# Domain names

The labels of a domain name are written in ASCII: a label with characters beyond it goes by its
Punycode behind `xn--` (`Domain.toAscii?`).  Such a label has to keep the rules for labels
(`Domain.isLabel`): only characters of labels, in their usual spelling, no hyphen at an end and no
two at the third place, no mark at the start, joiners and some signs only in their context, and no
mixture of directions.
-/

namespace Automation.Http.Domain

open Automation.Text

/-! ## Context -/

/-- The characters of a label before and after a place, the nearest first. -/
abbrev Around := List Char × List Char

/-- Whether a character lies between two code points. -/
def within (low high : Nat) (c : Char) : Bool := low ≤ c.toNat && c.toNat ≤ high

/-- The Arabic letters that join only the letter before them. -/
def rightJoiningRanges : List (Nat × Nat) :=
  [(0x0622, 0x0625), (0x0627, 0x0627), (0x0629, 0x0629), (0x062F, 0x0632), (0x0648, 0x0648),
    (0x0671, 0x0673), (0x0675, 0x0677), (0x0688, 0x0699), (0x06C0, 0x06C0), (0x06C3, 0x06CB),
    (0x06CD, 0x06CD), (0x06CF, 0x06CF), (0x06D2, 0x06D3), (0x06D5, 0x06D5), (0x06EE, 0x06EF)]

/-- Whether a letter joins the one before it. -/
def joinsBefore (c : Char) : Bool :=
  within 0x0620 0x06FF c && isRightToLeft c && c.toNat != 0x0621 && c.toNat != 0x0674

/-- Whether a letter joins the one after it. -/
def joinsAfter (c : Char) : Bool := joinsBefore c && !inRanges rightJoiningRanges c

/-- Whether a joiner or non-joiner may stand here. -/
def joinerFits (isJoiner : Bool) (a : Around) : Bool :=
  a.1.head?.any isVirama
    || (!isJoiner && (a.1.dropWhile isMark).head?.any joinsAfter
      && (a.2.dropWhile isMark).head?.any joinsBefore)

/-- Whether a letter is Greek. -/
def isGreek (c : Char) : Bool := within 0x0370 0x03FF c || within 0x1F00 0x1FFF c

/-- Whether a letter is Hebrew. -/
def isHebrew (c : Char) : Bool := within 0x0591 0x05F4 c

/-- Whether a character is Japanese or Chinese. -/
def isKanaOrHan (c : Char) : Bool :=
  (within 0x3005 0x3007 c || within 0x3041 0x30FF c || within 0x31F0 0x31FF c
    || within 0x3400 0x9FFF c || within 0x20000 0x3FFFF c) && c.toNat != 0x30FB

/-- The digits of Arabic. -/
def isArabicDigit : Char → Bool := within 0x0660 0x0669

/-- The digits of the East of Arabic. -/
def isEasternDigit : Char → Bool := within 0x06F0 0x06F9

/-- Whether a sign that is allowed only in a context may stand here in a label. -/
def signFits (label : List Char) (c : Char) (a : Around) : Bool :=
  if c.toNat = 0x00B7 then a.1.head? == some 'l' && a.2.head? == some 'l'
  else if c.toNat = 0x0375 then a.2.head?.any isGreek
  else if c.toNat = 0x05F3 || c.toNat = 0x05F4 then a.1.head?.any isHebrew
  else if c.toNat = 0x30FB then label.any isKanaOrHan
  else if isArabicDigit c then !label.any isEasternDigit
  else isEasternDigit c && !label.any isArabicDigit

/-- Whether a character may stand here in a label. -/
def charFits (label : List Char) (c : Char) (a : Around) : Bool :=
  isLabelChar c || (c.toNat = 0x200C && joinerFits false a)
    || (c.toNat = 0x200D && joinerFits true a) || signFits label c a

/-- Whether all characters from here on may stand in a label, `before` being those before. -/
def allFit (label : List Char) : (before rest : List Char) → Bool
  | _, [] => true
  | before, c :: rest => charFits label c (before, rest) && allFit label (c :: before) rest

/-! ## Direction -/

/-- Whether a digit is of the Arabic sort. -/
def isArabicNumber (c : Char) : Bool := isArabicDigit c || within 0x10D30 0x10D39 c

/-- Whether a digit is of the European sort. -/
def isEuropeanNumber (c : Char) : Bool := c.isDigit || isEasternDigit c

/-- Whether a character is written from right to left, in a label of that direction. -/
def isRight (c : Char) : Bool := isRightToLeft c || within 0x05F3 0x05F4 c

/-- Whether a character has no direction of its own. -/
def isNeutral (c : Char) : Bool :=
  isMark c || c == '-' || [0x00B7, 0x0375, 0x200C, 0x200D, 0x30FB].contains c.toNat

/-- Whether the directions of the characters of a label go together: one with any from right to left
starts and ends with such, and has no others. -/
def directionsFit (label : List Char) : Bool :=
  !(label.any fun c => isRight c || isArabicNumber c)
    || (label.head?.any isRight
      && (label.all fun c => isRight c || isNeutral c || isArabicNumber c || isEuropeanNumber c)
      && ((label.reverse.dropWhile isMark).head?.any fun c =>
          isRight c || isArabicNumber c || isEuropeanNumber c)
      && !(label.any isArabicNumber && label.any isEuropeanNumber))

/-! ## Labels -/

/-- Whether a label is in its usual spelling: no character is followed by a mark that it makes a
single character with. -/
def isComposed (label : List Char) : Bool :=
  !((label.zip (label.drop 1)).any fun p => composes p.1 p.2)

/-- Whether the rules for labels are kept. -/
def isLabel (label : List Char) : Bool :=
  !label.isEmpty && isComposed label && (label.drop 2).take 2 != ['-', '-']
    && label.head? != some '-' && label.getLast? != some '-' && !label.head?.any isMark
    && allFit label [] label && directionsFit label

/-- What stands in front of a label in Punycode. -/
def punycodeMark : List Char := ['x', 'n', '-', '-']

/-- The most characters of a label. -/
def labelLimit : Nat := 63

/-- The most characters of a domain name. -/
def nameLimit : Nat := 253

/-- A label of ASCII as it is, if it keeps the rules or stands for a label that does. -/
def basicLabel? (label : List Char) : Option (List Char) :=
  let meant :=
    if label.take 4 = punycodeMark then
      if label.getLast? = some '-' then none else Punycode.decode? (label.drop 4)
    else some label
  if meant.any isLabel then some label else none

/-- A label in ASCII. -/
def label? (label : List Char) : Option (List Char) := do
  let written ←
    if label.all fun c => c.toNat < 0x80 then basicLabel? label
    else if isLabel label then some (punycodeMark ++ Punycode.encode label)
    else none
  if written.length ≤ labelLimit then some written else none

/-- The points between labels: the full stop, and those of East Asia. -/
def isPoint (c : Char) : Bool := [0x002E, 0x3002, 0xFF0E, 0xFF61].contains c.toNat

/-- Labels with a full stop between them. -/
def joinLabels : List (List Char) → List Char
  | [] => []
  | [l] => l
  | l :: ls => l ++ '.' :: joinLabels ls

/-- A domain name in small letters written in ASCII.  A point may stand at its end. -/
def toAscii? (name : List Char) : Option (List Char) := do
  let labels := splitOn '.' (name.map fun c => if isPoint c then '.' else c)
  let isRooted := labels.getLast? == some [] && labels.length != 1
  let labels ← (if isRooted then labels.dropLast else labels).mapM label?
  let written := joinLabels (if isRooted then labels ++ [[]] else labels)
  if written.length ≤ nameLimit + (if isRooted then 1 else 0) then some written else none

example : toAscii? "日本.jp".toList = some "xn--wgv71a.jp".toList := by decide +kernel

end Automation.Http.Domain
