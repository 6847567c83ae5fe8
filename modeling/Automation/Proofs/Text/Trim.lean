import Automation.Text.Blank
import Mathlib.Data.List.DropRight

/-!
# Trimmed text

Trimming a text twice is trimming it once (`trim_trim`), and only a blank text is trimmed to the
empty one (`trim_eq_empty_iff`).  Names and paths are kept in the form that this gives them: a text
is *proper* if trimming leaves it as it is and it is not empty.  A text that is not blank has a
proper form (`proper_trim`), and a proper text is not blank (`Proper.blank_eq_false`), so it passes
the same check again.
-/

namespace Automation.Text

/-! ## On lists of characters -/

theorem trimWhere_eq_rdropWhile (outer : Char → Bool) (cs : List Char) :
    trimWhere outer cs = (cs.dropWhile outer).rdropWhile outer := rfl

/-- Nothing is left exactly if all characters are of the class. -/
theorem trimWhere_eq_nil_iff {outer : Char → Bool} {cs : List Char} :
    trimWhere outer cs = [] ↔ ∀ c ∈ cs, outer c = true := by
  rw [trimWhere_eq_rdropWhile, List.rdropWhile_eq_nil_iff]
  constructor
  · intro h c hc
    rw [← List.takeWhile_append_dropWhile (p := outer) (l := cs), List.mem_append] at hc
    rcases hc with hc | hc
    · exact List.mem_takeWhile_imp hc
    · exact h c hc
  · intro h c hc
    exact h c ((List.dropWhile_suffix outer).mem hc)

/-- The first character that is left is not of the class. -/
theorem dropWhile_trimWhere (outer : Char → Bool) (cs : List Char) :
    (trimWhere outer cs).dropWhile outer = trimWhere outer cs := by
  rw [List.dropWhile_eq_self_iff]
  intro hpos
  -- What is cut off at the end leaves the first character where it was.
  have hprefix : trimWhere outer cs <+: cs.dropWhile outer := List.rdropWhile_prefix outer _
  have hlong : 0 < (cs.dropWhile outer).length := hpos.trans_le hprefix.length_le
  have hhead : (trimWhere outer cs)[0] = (cs.dropWhile outer)[0] := hprefix.getElem hpos
  rw [hhead]
  exact List.dropWhile_get_zero_not outer cs _

theorem trimWhere_trimWhere (outer : Char → Bool) (cs : List Char) :
    trimWhere outer (trimWhere outer cs) = trimWhere outer cs := by
  rw [trimWhere_eq_rdropWhile outer (trimWhere outer cs), dropWhile_trimWhere,
    trimWhere_eq_rdropWhile, List.rdropWhile_idempotent]

/-! ## On texts -/

@[simp] theorem trim_trim (s : String) : trim (trim s) = trim s := by
  simp [trim, trimChars, trimWhere_trimWhere]

theorem trim_eq_empty_iff {s : String} : trim s = "" ↔ blank s = true := by
  rw [trim, String.ofList_eq_empty_iff, trimChars, trimWhere_eq_nil_iff, blank, List.all_eq_true]

/-- Without blanks around it, and not empty. -/
structure Proper (s : String) : Prop where
  trim_eq : trim s = s
  ne_empty : s ≠ ""

theorem proper_trim {s : String} (h : blank s = false) : Proper (trim s) where
  trim_eq := trim_trim s
  ne_empty := by
    intro he
    rw [trim_eq_empty_iff, h] at he
    cases he

theorem Proper.blank_eq_false {s : String} (hs : Proper s) : blank s = false := by
  cases hb : blank s with
  | false => rfl
  | true =>
    have he : trim s = "" := trim_eq_empty_iff.2 hb
    rw [hs.trim_eq] at he
    exact absurd he hs.ne_empty

end Automation.Text
