/-!
# Splitting texts

`splitOn` cuts a text at every occurrence of a separator; joining the parts with the separator
gives the text back, so a text has one part more than it has separators.  `occursIn` says whether
one text lies inside another.
-/

namespace Automation.Text

/-- The parts of a text between the occurrences of a separator. -/
def splitOn (separator : Char) : List Char → List (List Char)
  | [] => [[]]
  | c :: cs =>
    if c = separator then [] :: splitOn separator cs
    else
      match splitOn separator cs with
      | [] => [[c]]
      | part :: parts => (c :: part) :: parts

theorem splitOn_ne_nil (separator : Char) (cs : List Char) : splitOn separator cs ≠ [] := by
  cases cs with
  | nil => simp [splitOn]
  | cons c cs =>
    rw [splitOn]
    split
    · simp
    · split <;> simp

/-- Cutting at a separator in the middle cuts both sides on their own. -/
theorem splitOn_append (separator : Char) (p q : List Char) :
    splitOn separator (p ++ separator :: q) = splitOn separator p ++ splitOn separator q := by
  induction p with
  | nil => simp [splitOn]
  | cons c p ih =>
    rw [List.cons_append, splitOn, splitOn, ih]
    split
    · rfl
    · cases h : splitOn separator p with
      | nil => exact absurd h (splitOn_ne_nil separator p)
      | cons part parts => rfl

/-- Whether `needle` is a run of consecutive characters of a text. -/
def occursIn (needle : List Char) : List Char → Bool
  | [] => needle.isEmpty
  | c :: cs => needle.isPrefixOf (c :: cs) || occursIn needle cs

theorem occursIn_eq_true_iff {needle cs : List Char} :
    occursIn needle cs = true ↔ needle <:+: cs := by
  induction cs with
  | nil => simp [occursIn]
  | cons c cs ih => simp [occursIn, ih, List.infix_cons_iff]

/-- The text before the first occurrence of a separator, and the text after it if there is one. -/
def cutAt (separator : Char) : List Char → List Char × Option (List Char)
  | [] => ([], none)
  | c :: cs =>
    if c = separator then ([], some cs)
    else ((c :: (cutAt separator cs).1), (cutAt separator cs).2)

/-- A text without one character at its end, repeated. -/
def trimEnd (closing : Char) (cs : List Char) : List Char :=
  (cs.reverse.dropWhile (· == closing)).reverse

end Automation.Text
