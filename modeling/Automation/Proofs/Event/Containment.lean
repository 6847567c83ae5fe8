import Automation.Proofs.Event.Places
import Automation.Proofs.Text.Lower

/-!
# Texts inside texts

A text contains another if the lower case of the other occurs in its own.  Both are taken to lower
case on their own, so a text need not contain what occurs in it: a capital sigma that ends a word in
the one may stand inside a word in the other, and then the two have different small letters
(`contains_not_occurring`).

It does contain what occurs in it at a place where the same capital sigmas end words as in the
occurring text alone (`Text.KeepsEnds`).  The texts that are contained wherever they occur are those
whose capital sigmas are firm (`contains_occurring`); among them are all texts without a capital
sigma (`Text.firmSigmas_of_not_mem`).
-/

namespace Automation

namespace Condition

variable {context field : Value} {s t : String}

/-- A text contains those whose lower case occurs in its own. -/
theorem holds_contains_text_iff (h : context.Leads field (.text s)) :
    (comparing field .contains (.text t)).holds context = true ↔
      Text.lowerChars t.toList <:+: Text.lowerChars s.toList := by
  rw [holds_comparing_of_leads h, ← Text.occursIn_eq_true_iff]
  rfl

/-- A text that occurs between two others is contained if its lower case occurs in theirs. -/
theorem holds_contains_between_iff {before after : String}
    (h : context.Leads field (.text (before ++ t ++ after))) :
    (comparing field .contains (.text t)).holds context = true ↔
      Text.lowerChars t.toList <:+:
        Text.lowerChars (before.toList ++ t.toList ++ after.toList) := by
  rw [holds_contains_text_iff h, String.toList_append, String.toList_append]

end Condition

/-- An event with a text. -/
def textEvent (s : String) : Value := .mapping [("text", .text s)]

theorem textEvent_leads (s : String) : (textEvent s).Leads (.text "text") (.text s) :=
  Value.resolveAt_eq_some_iff.1 rfl

/-- A text contains another one that occurs in it, if the capital sigmas of the other end words at
that place exactly if they do so in the other alone.  A text is contained in all texts in which it
occurs exactly if its capital sigmas are firm. -/
theorem contains_occurring (t : String) :
    (∀ (context field : Value) (before after : String),
      context.Leads field (.text (before ++ t ++ after)) →
        Text.KeepsEnds before.toList t.toList after.toList →
          (Condition.comparing field .contains (.text t)).holds context = true) ∧
    ((∀ (context field : Value) (before after : String),
        context.Leads field (.text (before ++ t ++ after)) →
          (Condition.comparing field .contains (.text t)).holds context = true) ↔
      Text.FirmSigmas t.toList) := by
  refine ⟨fun _ _ _ _ h hends => ?_, fun h => ?_, fun h _ _ before after hplace => ?_⟩
  · exact (Condition.holds_contains_between_iff h).2 (Text.lower_occurs hends)
  · refine Text.lower_occurs_everywhere_iff.1 fun before after => ?_
    have hplace := textEvent_leads (String.ofList before ++ t ++ String.ofList after)
    have hoccurs := (Condition.holds_contains_between_iff hplace).1 (h _ _ _ _ hplace)
    rwa [String.toList_ofList, String.toList_ofList] at hoccurs
  · exact (Condition.holds_contains_between_iff hplace).2
      (Text.lower_occurs_everywhere_iff.2 h before.toList after.toList)

/-- The sigma that ends the one text ends the other too; both sigmas of a part of a name stand
before a letter of that part. -/
theorem contains_occurring_inside :
    (Condition.comparing (.text "text") .contains (.text "ΑΣ")).holds (textEvent "ΑΤΛΑΣ") = true ∧
    (Condition.comparing (.text "text") .contains (.text "ΣΣΕ")).holds (textEvent "ΟΔΥΣΣΕΥΣ") =
      true := by
  have hends : Text.KeepsEnds "ΑΤΛ".toList "ΑΣ".toList "".toList := by decide +kernel
  have hfirm : Text.FirmSigmas "ΣΣΕ".toList := by decide +kernel
  exact ⟨(contains_occurring "ΑΣ").1 _ _ "ΑΤΛ" "" (textEvent_leads _) hends,
    (contains_occurring "ΣΣΕ").2.2 hfirm _ _ "ΟΔΥ" "ΥΣ" (textEvent_leads _)⟩

/-- The sigma ends a word in the text that occurs, and stands inside one in the text in which it
occurs. -/
theorem contains_not_occurring :
    "ΑΣ".toList <:+: "ΑΣΑ".toList ∧
      (Condition.comparing (.text "text") .contains (.text "ΑΣ")).holds (textEvent "ΑΣΑ") =
        false := by
  decide +kernel

end Automation
