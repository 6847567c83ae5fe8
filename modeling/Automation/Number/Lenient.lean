import Automation.Number.Numeral
import Automation.Text.Blank

/-!
# Numbers in settings and queries

Settings and queries spell numbers more freely than a program does.  An integer
(`lenientInteger`) may have zeros in front, underscores among its digits and a fraction of zeros;
what is left must be an integer as JSON has it, of limited length.  A double
(`lenientDouble?`) may have white space around it, or else underscores inside.
-/

namespace Automation

/-- The text without its underscores, unless one stands at an end or two stand side by side; nothing
if there is none to be left out. -/
def withoutInnerUnderscores? (cs : List Char) : Option (List Char) :=
  let doubled := (cs.zip (cs.drop 1)).any fun p => p.1 == '_' && p.2 == '_'
  if !cs.contains '_' || cs.head? == some '_' || cs.getLast? == some '_' || doubled then none
  else some (cs.filter (· != '_'))

/-- The double of a text. -/
def lenientDouble? (s : String) : Option Double :=
  let cs := s.toList
  (plainDouble? (Text.trimWhere Text.isSpace cs)).or
    ((withoutInnerUnderscores? cs).bind plainDouble?)

/-- Why a text is not an integer. -/
inductive IntegerError where
  /-- It does not spell one. -/
  | malformed
  /-- It has too many digits. -/
  | tooLong
deriving DecidableEq, Repr

/-- What follows zeros and underscores, from the first digit or minus on.  In front of a point, and
where nothing follows, the last character before stays. -/
def afterZeros (last : Char) : List Char → Option (List Char)
  | [] => some [last]
  | c :: cs =>
    if c = '0' ∨ c = '_' then afterZeros c cs
    else if c.isDigit ∨ c = '-' then some (c :: cs)
    else if c = '.' then some (last :: c :: cs)
    else none

/-- A numeral without the zeros in front; nothing for a text that starts otherwise than a number. -/
def withoutLeadingZeros? : List Char → Option (List Char)
  | [] => none
  | c :: cs =>
    if c = '0' then afterZeros c cs
    else if c.isDigit ∨ c = '-' then some (c :: cs)
    else none

/-- A numeral without a fraction that consists of zeros. -/
def withoutZeroFraction (cs : List Char) : List Char :=
  let whole := cs.takeWhile (· != '.')
  let fraction := (cs.drop whole.length).drop 1
  if !fraction.isEmpty && fraction.all (· == '0') then whole else cs

/-- The text of an integer without plus, zeros in front, fraction and underscores. -/
def cleanInteger? (cs : List Char) : Option (List Char) := do
  let unsigned := match cs with
    | '+' :: rest => if rest.head? = some '-' then cs else rest
    | cs => cs
  let cs := withoutZeroFraction (← withoutLeadingZeros? unsigned)
  return (withoutInnerUnderscores? cs).getD cs

/-- An integer as JSON has it: no plus, and no zero before another digit.  The sign counts as a
digit. -/
def strictInteger (cs : List Char) : Except IntegerError Int :=
  let negative := cs.head? == some '-'
  let unsigned := if negative then cs.drop 1 else cs
  let digits := unsigned.takeWhile Char.isDigit
  if digits.isEmpty || (digits.head? == some '0' && digits.length != 1) then .error .malformed
  else if integerDigitLimit < digits.length + (if negative then 1 else 0) then .error .tooLong
  else if digits.length != unsigned.length then .error .malformed
  else .ok (signedValue negative digits)

/-- The integer of a text. -/
def lenientInteger (s : String) : Except IntegerError Int :=
  match cleanInteger? (Text.trimWhere Text.isSpace s.toList) with
  | some cs => strictInteger cs
  | none => .error .malformed

end Automation
