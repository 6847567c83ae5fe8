import Automation.Text.CaseTable
import Automation.Text.Ranges

/-!
# Upper and lower case

The full case mappings of Unicode: one character may become several, and a capital sigma at the
end of a word becomes a final sigma.  A sigma ends a word if the nearest character before it
that is not case-ignorable is cased and the nearest one after it is not.
-/

namespace Automation.Text

/-- The shift that a table of runs gives a code point. -/
def runShift? (runs : List (Nat × Nat × Nat × Int)) (n : Nat) : Option Int :=
  (runs.find? fun (first, last, step, _) =>
    first ≤ n && n ≤ last && (n - first) % step == 0).map fun (_, _, _, shift) => shift

/-- A character mapped by a table of runs and a table of expansions. -/
def mapCase (runs : List (Nat × Nat × Nat × Int)) (expansions : List (Nat × List Nat)) (c : Char) :
    List Char :=
  match runShift? runs c.toNat with
  | some shift => [Char.ofNat ((c.toNat : Int) + shift).toNat]
  | none =>
    match expansions.find? fun e => e.1 == c.toNat with
    | some e => e.2.map Char.ofNat
    | none => [c]

/-- The upper case of a character. -/
def upperChar (c : Char) : List Char :=
  if c.toNat < 128 then [c.toUpper] else mapCase upperRuns upperExpansions c

/-- The upper case of a text. -/
def upper (s : String) : String := String.ofList (s.toList.flatMap upperChar)

/-- Skipped by the rule of the final sigma. -/
def isCaseIgnorable (c : Char) : Bool := inRanges caseIgnorableRanges c

/-- Cased and not skipped. -/
def isCased (c : Char) : Bool := inRanges casedRanges c

/-- Whether the first character that is not skipped is cased. -/
def startsCased (cs : List Char) : Bool :=
  match cs.dropWhile isCaseIgnorable with
  | c :: _ => isCased c
  | [] => false

/-- The capital sigma. -/
def capitalSigma : Char := Char.ofNat 0x3A3

/-- The lower case of a character other than the capital sigma, or of a sigma inside a word. -/
def lowerChar (c : Char) : List Char :=
  if c.toNat < 128 then [c.toLower] else mapCase lowerRuns lowerExpansions c

/-- The lower case of the characters `rest` that come after the characters `before`, given in
reverse. -/
def lowerAfter (before : List Char) : (rest : List Char) → List Char
  | [] => []
  | c :: rest =>
    (if c = capitalSigma ∧ startsCased before ∧ ¬startsCased rest then [Char.ofNat 0x3C2]
      else lowerChar c) ++ lowerAfter (c :: before) rest

/-- The lower case of the characters of a text. -/
def lowerChars (cs : List Char) : List Char := lowerAfter [] cs

/-- The lower case of a text. -/
def lower (s : String) : String := String.ofList (lowerChars s.toList)

end Automation.Text
