import Automation.Sorting

/-!
# Writing JSON

`Json.Layout` says how a JSON text is laid out: the separators, whether the keys of a mapping are
sorted, whether characters above ASCII are escaped.  `Json.sortedLayout` is what a mapping or
list becomes inside a rendered text; where keys are sorted in one way only, its result does not
depend on the order in which they were written.  `Json.compactLayout` is what goes over the wire.

Keys are sorted as they are, and become texts afterwards.  Bytes have no JSON form, and neither have
not-a-number and the infinities.  A lenient layout writes bytes as the text that displays them, and
these numbers by their names, which readers of JSON extended by them understand.

Not every value has a JSON text.  `Json.check` goes through a value in the order of its text and
finds the first reason why it has none; `Json.write` writes a value that passes, and `Json.text`
does both.
-/

namespace Automation.Json

/-- How a JSON text is laid out. -/
structure Layout where
  /-- Between two items. -/
  itemSeparator : String
  /-- Between a key and its value. -/
  keySeparator : String
  /-- Entries in the order of their keys, not in their own. -/
  sortKeys : Bool
  /-- Characters above ASCII as escapes. -/
  asciiOnly : Bool
  /-- How doubles are written. -/
  doubles : Double.Style
  /-- What has no JSON form is written as a text. -/
  lenient : Bool

/-- Sorted keys, a blank after each separator, ASCII only; what has no JSON form as a text. -/
def sortedLayout : Layout := ⟨", ", ": ", true, true, Double.jsonStyle, true⟩

/-- Keys as they come, no blanks, every character as itself. -/
def compactLayout : Layout := ⟨",", ":", false, false, Double.jsonStyle, false⟩

/-- As `compactLayout`, with short exponents. -/
def briefLayout : Layout := { compactLayout with doubles := Double.briefStyle }

/-- A unit of sixteen bits as an escape. -/
def unitEscape (n : Nat) : List Char := '\\' :: 'u' :: Text.hexDigits 4 n

/-- A code point as one escape, or as a pair above sixteen bits. -/
def codePointEscape (n : Nat) : List Char :=
  if n < 0x10000 then unitEscape n
  else unitEscape (0xD800 + (n - 0x10000) / 0x400) ++ unitEscape (0xDC00 + (n - 0x10000) % 0x400)

/-- A character inside a JSON string. -/
def escapedChar (asciiOnly : Bool) (c : Char) : List Char :=
  if c = '"' then ['\\', '"']
  else if c = '\\' then ['\\', '\\']
  else if c = '\n' then ['\\', 'n']
  else if c = '\r' then ['\\', 'r']
  else if c = '\t' then ['\\', 't']
  else if c = Char.ofNat 8 then ['\\', 'b']
  else if c = Char.ofNat 12 then ['\\', 'f']
  else if c.toNat < 32 || (asciiOnly && 126 < c.toNat) then
    codePointEscape ((Text.half? c).getD c.toNat)
  else [c]

/-- A JSON string. -/
def string (asciiOnly : Bool) (s : String) : String :=
  String.ofList ('"' :: s.toList.flatMap (escapedChar asciiOnly) ++ ['"'])

/-- The entries of a mapping as a layout has them. -/
def arrange {α : Type} (layout : Layout) (es : List (Key × α)) :
    Except FormatError (List (Key × α)) :=
  if layout.sortKeys then sortEntries es else .ok es

/-! ## The text -/

/-- The text that a key becomes. -/
def keyText : Key → String
  | .text s => s
  | .null => "null"
  | .bool b => if b then "true" else "false"
  | .int n => toString n
  | .float x => x.text Double.jsonStyle
  | k => k.inspect

mutual

/-- The JSON text of a value. -/
def write (layout : Layout) : Value → String
  | .null => "null"
  | .bool b => if b then "true" else "false"
  | .int n => toString n
  | .float x => x.text layout.doubles
  | .text s => string layout.asciiOnly s
  | .bytes s => string layout.asciiOnly (Text.quotedBytes s)
  | .list xs => bracketed "[" "]" (joined layout.itemSeparator (writeItems layout xs))
  | .tuple xs => bracketed "[" "]" (joined layout.itemSeparator (writeItems layout xs))
  | .mapping m =>
    let entries := writeEntries layout m
    let entries := (arrange layout entries).toOption.getD entries
    bracketed "\x7b" "\x7d" <| joined layout.itemSeparator <|
      entries.map fun e => string layout.asciiOnly (keyText e.1) ++ layout.keySeparator ++ e.2

/-- The JSON texts of the items of a sequence. -/
def writeItems (layout : Layout) : List Value → List String
  | [] => []
  | v :: rest => write layout v :: writeItems layout rest

/-- The keys of a mapping with the JSON texts of their values. -/
def writeEntries (layout : Layout) : List (Key × Value) → List (Key × String)
  | [] => []
  | (k, v) :: rest => (k, write layout v) :: writeEntries layout rest

end

/-! ## Values without a text -/

/-- An integer that can be written. -/
def checkInt (n : Int) : Except FormatError Unit := if isShort n then .ok () else .error .tooLong

/-- A double that can be written. -/
def checkDouble (layout : Layout) (x : Double) : Except FormatError Unit :=
  if x.isFinite || layout.lenient then .ok () else .error .noDigits

/-- A key that can be written. -/
def checkKey (layout : Layout) : Key → Except FormatError Unit
  | .int n => checkInt n
  | .float x => checkDouble layout x
  | .bytes _ => .error (.badKey "bytes")
  | .tuple _ => .error (.badKey "tuple")
  | _ => .ok ()

/-- Entries that can be written, given what came of checking their values. -/
def checkArranged (layout : Layout) : List (Key × Except FormatError Unit) →
    Except FormatError Unit
  | [] => .ok ()
  | (k, checked) :: rest => do
    checkKey layout k
    checked
    checkArranged layout rest

mutual

/-- A value that can be written; keys that should be sorted are sorted before anything in their
mapping is written. -/
def check (layout : Layout) : Value → Except FormatError Unit
  | .int n => checkInt n
  | .float x => checkDouble layout x
  | .bytes _ => if layout.lenient then .ok () else .error (.noForm "bytes")
  | .list xs => checkItems layout xs
  | .tuple xs => checkItems layout xs
  | .mapping m => do checkArranged layout (← arrange layout (checkEntries layout m))
  | _ => .ok ()

/-- Items that can be written. -/
def checkItems (layout : Layout) : List Value → Except FormatError Unit
  | [] => .ok ()
  | v :: rest => do
    check layout v
    checkItems layout rest

/-- The keys of a mapping with what comes of checking their values. -/
def checkEntries (layout : Layout) :
    List (Key × Value) → List (Key × Except FormatError Unit)
  | [] => []
  | (k, v) :: rest => (k, check layout v) :: checkEntries layout rest

end

/-- The JSON text of a value that has one. -/
def text (layout : Layout) (v : Value) : Except FormatError String := do
  check layout v
  return write layout v

example : write sortedLayout (.mapping [("b", .list [.bool true, .null]), ("a", .int 1)])
    = "\x7b\"a\": 1, \"b\": [true, null]\x7d" := by cbv
example : check sortedLayout (.list [.mapping [(.null, .null), ("a", .null)]]) =
    .error (.unordered "str" "NoneType") := by rfl

end Automation.Json
