import Automation.Proofs.Event.Places

/-!
# Joined paths

Two paths with a point between them are one path, whose segments are those of both
(`pathSegments_join`).  To look up such a path is to look up the second one in what the first one
finds (`resolve_joined`).  What is missing at the first is missing at the whole, whatever the second
is, and where the first stumbles the whole stumbles in the same way.

So the places that a joined path leads to are those that the second one leads to from the places of
the first (`Value.leads_join_iff`), and a condition on a joined path is the condition on the second
path, asked of the value at the first (`Condition.holds_join`).
-/

namespace Automation

/-- What a path finds below what was found so far. -/
def Lookup.resolve (found : Lookup) (path : String) : Lookup :=
  found.walk (pathSegments path.toList)

theorem pathSegments_join (p q : String) :
    pathSegments (p ++ "." ++ q).toList = pathSegments p.toList ++ pathSegments q.toList := by
  have hchars : (p ++ "." ++ q).toList = p.toList ++ '.' :: q.toList := by simp
  rw [hchars, pathSegments, Text.splitOn_append]
  rfl

namespace Value

theorem resolve_join (context : Value) (p q : String) :
    context.resolve (p ++ "." ++ q) = (context.resolve p).resolve q := by
  rw [resolve, pathSegments_join, Lookup.walk_append]
  rfl

/-- A joined path leads where the second path leads from a place of the first. -/
theorem leads_join_iff {context v : Value} {p q : String} :
    context.Leads (.text (p ++ "." ++ q)) v ↔
      ∃ part, context.Leads (.text p) part ∧ part.Leads (.text q) v := by
  simp only [← resolveAt_eq_some_iff, resolveAt_text, resolve_join]
  cases context.resolve p with
  | error e => simp [Lookup.resolve, Lookup.walk_error]
  | ok found =>
    cases found with
    | none => simp [Lookup.resolve, Lookup.walk_missing]
    | some part => simp [Lookup.resolve, resolve]

/-- A joined path stumbles where the first path does, or where the second does from a place of the
first. -/
theorem leadsAstray_join_iff {context : Value} {p q : String} {e : IndexError} :
    context.LeadsAstray (.text (p ++ "." ++ q)) e ↔
      context.LeadsAstray (.text p) e ∨
        ∃ part, context.Leads (.text p) part ∧ part.LeadsAstray (.text q) e := by
  simp only [← resolveAt_eq_error_iff, ← resolveAt_eq_some_iff, resolveAt_text, resolve_join]
  cases context.resolve p with
  | error e => simp [Lookup.resolve, Lookup.walk_error]
  | ok found =>
    cases found with
    | none => simp [Lookup.resolve, Lookup.walk_missing]
    | some part => simp [Lookup.resolve, resolve]

end Value

/-- A condition on a joined path is the condition on the second path, asked of the value at the
first. -/
theorem Condition.holds_join {context part literal : Value} {p q : String} {op : Operator}
    (h : context.Leads (.text p) part) :
    (comparing (.text (p ++ "." ++ q)) op literal).holds context =
      (comparing (.text q) op literal).holds part := by
  have hpart : context.resolve p = .ok (some part) := Value.resolveAt_eq_some_iff.2 h
  rw [Bool.eq_iff_iff, holds_comparing, holds_comparing, Value.resolveAt_text,
    Value.resolveAt_text, Value.resolve_join, hpart]
  rfl

/-- To look up two joined paths is to look up the second in what the first finds: in a value that is
found there, nowhere if it is missing, and not at all if the first path stumbles. -/
theorem resolve_joined (context : Value) (p q : String) :
    context.resolve (p ++ "." ++ q) = (context.resolve p).resolve q ∧
    (context.resolve p).resolve q =
      match context.resolve p with
      | .ok (some part) => part.resolve q
      | .ok none => .ok none
      | .error e => .error e := by
  refine ⟨context.resolve_join p q, ?_⟩
  match context.resolve p with
  | .ok (some part) => rfl
  | .ok none => exact Lookup.walk_missing _
  | .error e => exact Lookup.walk_error e _

/-- A path that ends with a point goes on with the empty path, at which nothing stands. -/
example : (Value.mapping [("items", .list [.text "mat"])]).resolve "items.0" =
      .ok (some (.text "mat")) ∧
    (Value.mapping [("items", .list [.text "mat"])]).resolve "items." = .ok none :=
  ⟨rfl, rfl⟩

end Automation
