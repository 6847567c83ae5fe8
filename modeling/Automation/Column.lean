import Automation.Failure
import Automation.Json.Writer
import Automation.Time.Timestamp

/-!
# Columns of the database

The database keeps rows, and what a column gives back is not always what was put into it.

* A column of JSON takes mappings that have a JSON text.  Tuples in them become lists and keys
  become texts.  Bytes have no JSON text, and neither have integers of too many digits.
* A column of times keeps the clock and not the offset.
* A column of doubles keeps no sign of zero, and it does not take not-a-number.
* Names, flags and texts are kept as they are.
-/

namespace Automation

/-- The fault of what the database has no form for. -/
def formFault : Fault :=
  .withText .statement "(builtins.TypeError) Object of type bytes is not JSON serializable"

/-- The fault of a name in a row that no member of an enumeration has. -/
def nameFault (enumeration name : String) : Fault :=
  .withText .value (Text.quoted name ++ " is not a valid " ++ enumeration)

/-! ## JSON -/

/-- A key as a column of JSON gives it back. -/
def Key.flatten (k : Key) : Key := .text (Json.keyText k)

/-- Entries whose keys became texts: of those that became equal the last one gives the value. -/
def joinEntries (m flat : Mapping) : Mapping :=
  if m.all fun e => e.1.text?.isSome then flat else Mapping.override [] flat

mutual

/-- A value as a column of JSON gives it back: tuples are lists, keys are texts. -/
def Value.flatten : Value → Value
  | .list xs => .list (flattenItems xs)
  | .tuple xs => .list (flattenItems xs)
  | .mapping m => .mapping (joinEntries m (flattenEntries m))
  | v => v

/-- The items of a sequence as they come back. -/
def flattenItems : List Value → List Value
  | [] => []
  | v :: rest => v.flatten :: flattenItems rest

/-- The entries of a mapping with their keys and values as they come back. -/
def flattenEntries : List (Key × Value) → List (Key × Value)
  | [] => []
  | (k, v) :: rest => (k.flatten, v.flatten) :: flattenEntries rest

end

/-- A mapping as a column of JSON gives it back. -/
def Mapping.flatten (m : Mapping) : Mapping := joinEntries m (flattenEntries m)

/-- Whether a key has a JSON text. -/
def Key.isStorable : Key → Bool
  | .bytes _ | .tuple _ => false
  | .int n => isShort n
  | _ => true

mutual

/-- Whether a value has a JSON text: there are no bytes and no integers of too many digits in it. -/
def Value.isStorable : Value → Bool
  | .bytes _ => false
  | .int n => isShort n
  | .list xs => itemsStorable xs
  | .tuple xs => itemsStorable xs
  | .mapping m => entriesStorable m
  | _ => true

/-- Whether the items of a sequence have JSON texts. -/
def itemsStorable : List Value → Bool
  | [] => true
  | v :: rest => v.isStorable && itemsStorable rest

/-- Whether the keys and values of a mapping have JSON texts. -/
def entriesStorable : List (Key × Value) → Bool
  | [] => true
  | (k, v) :: rest => k.isStorable && v.isStorable && entriesStorable rest

end

/-- Mappings as a column of JSON gives them back. -/
def jsonColumn (ms : List Mapping) : Except Fault (List Mapping) :=
  if ms.all entriesStorable then .ok (ms.map Mapping.flatten) else .error formFault

/-! ## Times and numbers -/

/-- A timestamp as a column of times gives it back. -/
def Timestamp.column (t : Timestamp) : Timestamp := ⟨t.clock, none⟩

/-- A double as a column of doubles gives it back. -/
def Double.flatten (x : Double) : Double := if x.isZero then .zero else x

/-- A number as a column of doubles gives it back. -/
def Number.column (x : Number) : Except Fault Double :=
  match x.toDouble? with
  | none => .error formFault
  | some y => if y == .nan then .error ⟨.integrity, []⟩ else .ok y.flatten

end Automation
