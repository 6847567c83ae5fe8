import Automation.Number.Numeral
import Automation.Text.Percent
import Automation.Text.Split

/-!
# Network addresses

A host may be an address instead of a name: four numbers with points between them
(`Address.isQuad`), or eight groups of hexadecimal digits with colons between them, where two colons
stand for a run of zeros (`Address.isGrouped`).
-/

namespace Automation.Http.Address

/-! ## Four numbers -/

/-- The places that a text may have come to, when it is read as four runs of digits with any
character between two runs: `2 * n` before run `n`, `2 * n + 1` inside it. -/
def quadPlaces (places : List Nat) (c : Char) : List Nat :=
  (List.range 8).filter fun p =>
    (c.isDigit && ((p % 2 == 1 && (places.contains p || places.contains (p - 1)))))
      || (p % 2 == 0 && p != 0 && places.contains (p - 1))

/-- Whether a text looks like four numbers, whatever stands between them. -/
def looksLikeQuad (cs : List Char) : Bool := (cs.foldl quadPlaces [0]).contains 7

/-- Whether a text is a number below 256 without zeros in front. -/
def isOctet (cs : List Char) : Bool :=
  !cs.isEmpty && cs.all Char.isDigit && cs.length ≤ 3 && (cs.length == 1 || cs.head? != some '0')
    && numeralValue cs ≤ 255

/-- Whether a text is an address of four numbers. -/
def isQuad (cs : List Char) : Bool :=
  let parts := Text.splitOn '.' cs
  parts.length == 4 && parts.all isOctet

/-! ## Groups -/

/-- Whether a text is a group of hexadecimal digits. -/
def isGroup (cs : List Char) : Bool :=
  !cs.isEmpty && cs.length ≤ 4 && cs.all Text.Percent.isHexDigit

/-- The parts between colons, four numbers at the end being worth two groups. -/
def groupsOf? (cs : List Char) : Option (List (List Char)) :=
  let parts := Text.splitOn ':' cs
  match parts.getLast? with
  | some final =>
    if parts.length < 3 then none
    else if !final.contains '.' then some parts
    else if isQuad final then some (parts.dropLast ++ [['0'], ['0']])
    else none
  | none => none

/-- Whether parts are eight groups, or fewer with one gap.  A gap at an end leaves two empty parts
there. -/
def areGroups (parts : List (List Char)) : Bool :=
  let gaps := ((parts.zipIdx.drop 1).dropLast).filter fun p => p.1.isEmpty
  match gaps with
  | [] => parts.length == 8 && parts.all isGroup
  | [(_, gap)] =>
    let front := parts.take gap
    let back := parts.drop (gap + 1)
    let front := if front == [[]] then [] else front
    let back := if back == [[]] then [] else back
    parts.length ≤ 9 && front.all isGroup && back.all isGroup && front.length + back.length ≤ 7
  | _ => false

/-- Whether a text is an address of groups, perhaps with a zone after a percent sign. -/
def isGrouped (cs : List Char) : Bool :=
  let (address, zone) := Text.cutAt '%' cs
  zone.all (fun z => !z.isEmpty && !z.contains '%') && !cs.contains '/'
    && (groupsOf? address).any areGroups

end Automation.Http.Address
