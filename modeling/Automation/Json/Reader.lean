import Automation.Text.Half
import Automation.Value.Display

/-!
# Reading JSON

`Json.read` reads one JSON text.  A number with a fraction or an exponent is a double, every
other number an integer; the names `NaN`, `Infinity` and `-Infinity` are doubles too.  Entries
keep the order of the text, and of two entries with one key the later gives the value.

A text that is not JSON is refused at a position, counted in characters (`ReadError.malformed`).
An integer of more digits than `digitLimit` is refused for its length, and a value that nests deeper
than the levels that are allowed for its depth, whatever comes after it.

A `Cursor` is the unread part of the text with its position.  Strings and numbers are read by
recursion on the unread part; nesting takes one unit of fuel for each value, and the length of the
text is enough.
-/

namespace Automation.Json

/-- In what way a text is not JSON. -/
inductive Malformation where
  /-- A value is expected. -/
  | value
  /-- A key is expected. -/
  | key
  /-- A colon is expected. -/
  | colon
  /-- A comma is expected. -/
  | comma
  /-- Nothing more is expected. -/
  | extra
  /-- A string does not end. -/
  | unterminated
  /-- A control character stands in a string. -/
  | control
  /-- An escape of one letter is unknown. -/
  | escape
  /-- An escape is no four hexadecimal digits. -/
  | unit
deriving Repr, DecidableEq

/-- What is said of it. -/
def Malformation.message : Malformation → String
  | .value => "Expecting value"
  | .key => "Expecting property name enclosed in double quotes"
  | .colon => "Expecting ':' delimiter"
  | .comma => "Expecting ',' delimiter"
  | .extra => "Extra data"
  | .unterminated => "Unterminated string starting at"
  | .control => "Invalid control character at"
  | .escape => "Invalid \\escape"
  | .unit => "Invalid \\uXXXX escape"

/-- Why a text could not be read. -/
inductive ReadError where
  /-- Not JSON from this position on. -/
  | malformed (what : Malformation) (position : Nat)
  /-- An integer with too many digits. -/
  | tooLong
  /-- Lists and mappings nest too deep. -/
  | tooDeep
deriving Repr, DecidableEq

/-- The unread part of a text. -/
structure Cursor where
  /-- The characters to come. -/
  rest : List Char
  /-- How many were read before. -/
  position : Nat

namespace Cursor

/-- Past `n` characters. -/
def skip (c : Cursor) (n : Nat) : Cursor := ⟨c.rest.drop n, c.position + n⟩

/-- White space of JSON. -/
def isSpace (c : Char) : Bool := c == ' ' || c == '\t' || c == '\n' || c == '\r'

/-- Past white space. -/
def skipSpace (c : Cursor) : Cursor := c.skip (c.rest.takeWhile isSpace).length

/-- Whether the unread part starts with a word. -/
def startsWith (c : Cursor) (word : String) : Bool := word.toList.isPrefixOf c.rest

end Cursor

/-! ## Strings -/

/-- The value of a hexadecimal digit. -/
def hexValue? (c : Char) : Option Nat :=
  if c.isDigit then some (c.toNat - 48)
  else if 'a' ≤ c ∧ c ≤ 'f' then some (c.toNat - 87)
  else if 'A' ≤ c ∧ c ≤ 'F' then some (c.toNat - 55)
  else none

/-- The number of four hexadecimal digits. -/
def hexUnit? (a b c d : Char) : Option Nat := do
  return ((← hexValue? a) * 16 + (← hexValue? b)) * 256 + (← hexValue? c) * 16 + (← hexValue? d)

/-- The characters of the escapes of one letter. -/
def letterEscape? : Char → Option Char
  | '"' => some '"'
  | '\\' => some '\\'
  | '/' => some '/'
  | 'b' => some (Char.ofNat 8)
  | 'f' => some (Char.ofNat 12)
  | 'n' => some '\n'
  | 'r' => some '\r'
  | 't' => some '\t'
  | _ => none

/-- The rest of a string whose opening quote stands at `start`.  `taken` holds the units read so
far in reverse: a character above sixteen bits is one unit of its own. -/
def readString (start : Nat) (taken : List Nat) (position : Nat) :
    List Char → Except ReadError (String × Cursor)
  | [] => .error (.malformed .unterminated start)
  | '"' :: rest => .ok (String.ofList (Text.charsOfUnits taken.reverse), ⟨rest, position + 1⟩)
  | ['\\'] => .error (.malformed .unterminated start)
  | '\\' :: 'u' :: a :: b :: c :: d :: rest =>
    if rest.isEmpty then .error (.malformed .unit (position + 1))
    else
      match hexUnit? a b c d with
      | some n => readString start (n :: taken) (position + 6) rest
      | none => .error (.malformed .unit (position + 1))
  | '\\' :: 'u' :: _ => .error (.malformed .unit (position + 1))
  | '\\' :: e :: rest =>
    match letterEscape? e with
    | some c => readString start (c.toNat :: taken) (position + 2) rest
    | none => .error (.malformed .escape position)
  | c :: rest =>
    if c.toNat < 32 then .error (.malformed .control position)
    else readString start (c.toNat :: taken) (position + 1) rest

/-! ## Numbers -/

/-- The number that decimal digits of ASCII spell. -/
def decimalValue (digits : List Char) : Nat :=
  digits.foldl (fun n c => 10 * n + (c.toNat - 48)) 0

/-- The digits after a point, if a point with a digit comes next. -/
def fractionPart (cs : List Char) : List Char :=
  match cs with
  | '.' :: rest => rest.takeWhile Char.isDigit
  | _ => []

/-- The exponent, with the number of characters it takes; nothing if no exponent with a digit
comes next. -/
def exponentPart? (cs : List Char) : Option (Int × Nat) :=
  match cs with
  | e :: rest =>
    if e = 'e' ∨ e = 'E' then
      let (negative, signs, rest) := match rest with
        | '-' :: rest => (true, 1, rest)
        | '+' :: rest => (false, 1, rest)
        | rest => (false, 0, rest)
      let digits := rest.takeWhile Char.isDigit
      if digits.isEmpty then none
      else
        let n : Int := decimalValue digits
        some (if negative then -n else n, 1 + signs + digits.length)
    else none
  | [] => none

/-- A number. -/
def readNumber (c : Cursor) : Except ReadError (Value × Cursor) :=
  let negative := c.startsWith "-"
  let signs := if negative then 1 else 0
  let unsigned := c.rest.drop signs
  let digits := match unsigned with
    | '0' :: _ => ['0']
    | cs => cs.takeWhile Char.isDigit
  if digits.isEmpty then .error (.malformed .value c.position)
  else
    let after := unsigned.drop digits.length
    let fraction := fractionPart after
    let fractionLength := if fraction.isEmpty then 0 else fraction.length + 1
    let exponent := exponentPart? (after.drop fractionLength)
    let length := signs + digits.length + fractionLength
    match fraction, exponent with
    | [], none =>
      if digitLimit < digits.length then .error .tooLong
      else
        let n : Int := decimalValue digits
        .ok (.int (if negative then -n else n), c.skip length)
    | _, _ =>
      let (power, exponentLength) := exponent.getD (0, 0)
      let x := Double.ofDecimal negative (decimalValue (digits ++ fraction))
        (power - (fraction.length : Nat))
      .ok (.float x, c.skip (length + exponentLength))

/-- The values with a name. -/
def namedValues : List (String × Value) :=
  [("null", .null), ("true", .bool true), ("false", .bool false), ("NaN", .float .nan),
    ("Infinity", .float (.infinite false)), ("-Infinity", .float (.infinite true))]

/-! ## Values -/

mutual

/-- A value, without white space in front, that nests no deeper than `levels`. -/
def readValue : (fuel levels : Nat) → Cursor → Except ReadError (Value × Cursor)
  | 0, _, c => .error (.malformed .value c.position)
  | fuel + 1, levels, c =>
    match c.rest, levels with
    | '"' :: _, _ => do
      let (s, c) ← readString c.position [] (c.position + 1) (c.rest.drop 1)
      return (.text s, c)
    | '[' :: _, 0 | '\x7b' :: _, 0 => .error .tooDeep
    | '[' :: _, levels + 1 =>
      let c := (c.skip 1).skipSpace
      if c.startsWith "]" then .ok (.list [], c.skip 1) else readItems fuel levels [] c
    | '\x7b' :: _, levels + 1 =>
      let c := (c.skip 1).skipSpace
      if c.startsWith "\x7d" then .ok (.mapping [], c.skip 1) else readEntries fuel levels [] c
    | _, _ =>
      match namedValues.find? fun e => c.startsWith e.1 with
      | some (name, v) => .ok (v, c.skip name.length)
      | none => readNumber c

/-- The items of a list from the next one on; `taken` holds those before it in reverse. -/
def readItems : (fuel levels : Nat) → List Value → Cursor → Except ReadError (Value × Cursor)
  | 0, _, _, c => .error (.malformed .value c.position)
  | fuel + 1, levels, taken, c => do
    let (v, c) ← readValue fuel levels c
    let c := c.skipSpace
    if c.startsWith "]" then return (.list (v :: taken).reverse, c.skip 1)
    else if c.startsWith "," then readItems fuel levels (v :: taken) (c.skip 1).skipSpace
    else throw (.malformed .comma c.position)

/-- The entries of a mapping from the next one on, after those `taken`. -/
def readEntries : (fuel levels : Nat) → Mapping → Cursor → Except ReadError (Value × Cursor)
  | 0, _, _, c => .error (.malformed .value c.position)
  | fuel + 1, levels, taken, c => do
    if !c.startsWith "\"" then throw (.malformed .key c.position)
    let (key, c) ← readString c.position [] (c.position + 1) (c.rest.drop 1)
    let c := c.skipSpace
    if !c.startsWith ":" then throw (.malformed .colon c.position)
    let (v, c) ← readValue fuel levels (c.skip 1).skipSpace
    let c := c.skipSpace
    let taken := taken.put key v
    if c.startsWith "\x7d" then return (.mapping taken, c.skip 1)
    else if c.startsWith "," then readEntries fuel levels taken (c.skip 1).skipSpace
    else throw (.malformed .comma c.position)

end

/-- The value of a JSON text that nests no deeper than `levels`. -/
def readWithin (levels : Nat) (cs : List Char) : Except ReadError Value := do
  let (v, c) ← readValue (2 * cs.length + 2) levels (Cursor.skipSpace ⟨cs, 0⟩)
  let c := c.skipSpace
  if c.rest.isEmpty then return v else throw (.malformed .extra c.position)

/-- The value of a JSON text. -/
def read (s : String) : Except ReadError Value := readWithin s.toList.length s.toList

end Automation.Json
