import Automation.Failure
import Automation.Number.Numeral
import Automation.Text.Blank
import Automation.Text.Digit

/-!
# Conversions of values

`Mapping.ofValue` makes a mapping of any value that can be read as one: a mapping itself, or a
sequence of pairs.  `Double.ofValue` makes a double of a number, a truth value or the text of a
number.  What cannot be converted gives a fault that says why.
-/

namespace Automation

/-- The name of the sort of a value. -/
def Value.sortName : Value → String
  | .null => "NoneType"
  | .bool _ => "bool"
  | .int _ => "int"
  | .float _ => "float"
  | .text _ => "str"
  | .bytes _ => "bytes"
  | .list _ => "list"
  | .tuple _ => "tuple"
  | .mapping _ => "dict"

/-- The members of a value that has members: items, characters, octets or keys. -/
def Value.members? : Value → Option (List Value)
  | .list xs => some xs
  | .tuple xs => some xs
  | .text s => some (s.toList.map fun c => .text (String.ofList [c]))
  | .bytes s => some ((Text.octets s).map fun c => .int c.toNat)
  | .mapping m => some (m.map fun e => e.1.value)
  | _ => none

/-- The fault of a value that makes no key. -/
def keyFault (v : Value) : Fault := .withText .type s!"unhashable type: '{v.sortName}'"

mutual

/-- The key that a value makes; lists and mappings make none. -/
def Value.key : Value → Except Fault Key
  | .null => .ok .null
  | .bool b => .ok (.bool b)
  | .int n => .ok (.int n)
  | .float x => .ok (.float x)
  | .text s => .ok (.text s)
  | .bytes s => .ok (.bytes s)
  | .tuple xs => do return .tuple (← itemKeys xs)
  | .list xs => .error (keyFault (.list xs))
  | .mapping m => .error (keyFault (.mapping m))

/-- The keys that the items of a tuple make. -/
def itemKeys : List Value → Except Fault (List Key)
  | [] => .ok []
  | v :: rest => do
    let k ← v.key
    let ks ← itemKeys rest
    return k :: ks

end

namespace Mapping

/-- The entries that follow those `taken`, the next one being number `index`. -/
def ofMembers (taken : Mapping) (index : Nat) : List Value → Except Fault Mapping
  | [] => .ok taken
  | v :: rest =>
    match v.members? with
    | none => .error <| .withText .type
        s!"cannot convert dictionary update sequence element #{index} to a sequence"
    | some [key, value] =>
      match key.key with
      | .ok k => ofMembers (taken.insert k value) (index + 1) rest
      | .error f => .error f
    | some parts => .error <| .withText .value
        (s!"dictionary update sequence element #{index} has length {parts.length}; "
          ++ "2 is required")

/-- The mapping that a value is or describes. -/
def ofValue (v : Value) : Except Fault Mapping :=
  match v with
  | .mapping m => .ok m
  | v =>
    match v.members? with
    | some members => ofMembers [] 0 members
    | none => .error (.withText .type s!"'{v.sortName}' object is not iterable")

/-- The mapping that a value describes, empty if the value does not count as present. -/
def ofOptional (v : Value) : Except Fault Mapping :=
  if v.truthy then ofValue v else .ok []

end Mapping

/-- A text with its decimal digits brought to ASCII. -/
def asciiDigits (cs : List Char) : List Char :=
  cs.map fun c =>
    match Text.digitValue? c with
    | some n => Char.ofNat (48 + n)
    | none => c

/-- The double that the text of a number spells, with digits of any script. -/
def doubleOfText? (s : String) : Option Double :=
  doubleNumeral? (asciiDigits (Text.trimWhere Text.isSpace s.toList))

/-- The double that the octets of a text spell; only those of ASCII count. -/
def doubleOfOctets? (s : String) : Option Double :=
  doubleNumeral? (Text.trimWhere (fun c => Text.isSpace c && c.toNat < 0x80) s.toList)

/-- The fault of a text or octets that spell no number. -/
def numeralFault (v : Value) : Fault :=
  .withText .value ("could not convert string to float: " ++ v.inspect)

/-- The double of a number, a truth value or the text of a number. -/
def Double.ofValue (v : Value) : Except Fault Double :=
  match v with
  | .bool b => .ok (.ofInt (if b then 1 else 0))
  | .int n =>
    match (Number.int n).toDouble? with
    | some x => .ok x
    | none => .error (.withText .overflow "int too large to convert to float")
  | .float x => .ok x
  | .text s =>
    match doubleOfText? s with
    | some x => .ok x
    | none => .error (numeralFault v)
  | .bytes s =>
    match doubleOfOctets? s with
    | some x => .ok x
    | none => .error (numeralFault v)
  | v => .error <| .withText .type
      s!"float() argument must be a string or a real number, not '{v.sortName}'"

end Automation
