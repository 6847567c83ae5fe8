import Automation.Text.Digit
import Automation.Text.Quoted
import Automation.Text.Split
import Automation.Value

/-!
# Paths into event data

A path names a place in an event by its segments, written with points between them:
`payment.amount`, `items.0.sku`.  A segment selects an entry of a mapping by its key, or an item
of a list or tuple by its index.  A place that does not exist is *missing*, which is not the same
as null: an empty segment, an absent key, an index that is out of range or no index at all, and
any segment below a value without parts are missing.

`Value.select` takes one step, `Lookup.walk` takes several, and `Value.resolve` reads the path of
a text.  A lookup has a third outcome besides a value and missing: a segment all of whose
characters are digits, but which is not the text of a usable number, raises an `IndexError`.

`Lookup.walk_append` says that the steps of two paths compose.
-/

namespace Automation

/-- Why the text of an index is not a usable number. -/
inductive IndexError where
  /-- Some digit is not a decimal digit. -/
  | notDecimal (segment : String)
  /-- More digits than an integer may have. -/
  | tooLong (digits : Nat)
deriving Repr, DecidableEq

namespace IndexError

/-- The most digits the text of an index may have. -/
def digitLimit : Nat := 4300

/-- The most characters of an index that its message repeats. -/
def shownLength : Nat := 200

/-- The message of the error. -/
def message : IndexError → String
  | .notDecimal segment =>
    "invalid literal for int() with base 10: "
      ++ String.ofList ((Text.quoted segment).toList.take shownLength)
  | .tooLong digits =>
    s!"Exceeds the limit ({digitLimit} digits) for integer string conversion: value has "
      ++ s!"{digits} digits; use sys.set_int_max_str_digits() to increase the limit"

end IndexError

/-- What a lookup finds: a value, nothing, or an error. -/
abbrev Lookup := Except IndexError (Option Value)

/-- The index that a segment spells; nothing if it is not made of digits. -/
def indexOf? (segment : List Char) : Except IndexError (Option Nat) :=
  if segment.isEmpty || !segment.all Text.isDigit then .ok none
  else
    let decimals := (segment.takeWhile fun c => (Text.digitValue? c).isSome).length
    if IndexError.digitLimit < decimals then .error (.tooLong decimals)
    else
      match Text.digitsValue? segment with
      | some n => .ok (some n)
      | none => .error (.notDecimal (String.ofList segment))

/-- The part of a value that one segment selects. -/
def Value.select (segment : List Char) : Value → Lookup
  | .mapping m => .ok (if segment.isEmpty then none else Mapping.find? (String.ofList segment) m)
  | .list xs => (indexOf? segment).map fun i => i.bind (xs[·]?)
  | .tuple xs => (indexOf? segment).map fun i => i.bind (xs[·]?)
  | _ => .ok none

/-- One segment after what was found so far: missing stays missing. -/
def Lookup.select (segment : List Char) : Lookup → Lookup
  | .ok (some v) => v.select segment
  | other => other

/-- The segments taken one after the other. -/
def Lookup.walk (found : Lookup) (segments : List (List Char)) : Lookup :=
  segments.foldl (fun found segment => Lookup.select segment found) found

/-- The segments of a path. -/
def pathSegments (path : List Char) : List (List Char) := Text.splitOn '.' path

/-- The value at a path. -/
def Value.resolve (context : Value) (path : String) : Lookup :=
  Lookup.walk (.ok (some context)) (pathSegments path.toList)

/-- The value at a path given as a value: only a text is a path. -/
def Value.resolveAt (context path : Value) : Lookup :=
  match path with
  | .text s => context.resolve s
  | _ => .ok none

theorem Lookup.walk_append (found : Lookup) (ss ts : List (List Char)) :
    found.walk (ss ++ ts) = (found.walk ss).walk ts := by
  simp [Lookup.walk]

/-- Nothing lies below what is missing. -/
theorem Lookup.walk_missing (ss : List (List Char)) : Lookup.walk (.ok none) ss = .ok none := by
  induction ss with
  | nil => rfl
  | cons s ss ih => exact ih

/-- An error stays. -/
theorem Lookup.walk_error (e : IndexError) (ss : List (List Char)) :
    Lookup.walk (.error e) ss = .error e := by
  induction ss with
  | nil => rfl
  | cons s ss ih => exact ih

end Automation
