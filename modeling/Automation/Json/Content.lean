import Automation.Json.Reader
import Automation.Text.Quoted

/-!
# JSON content

What is sent as JSON is octets, and the octets tell in which form of Unicode they are: the first
characters of a JSON text are below `U+0080`, so zeros among the first octets give away the
sixteen-bit and the thirty-two-bit forms (`Form.ofOctets`).  Without such zeros the form is UTF-8,
where a byte-order mark may stand in front.

Content is given as the text that its octets are in UTF-8, and `readContent` reads it anew in the
form that it has.
-/

namespace Automation.Json

/-- A form of Unicode text. -/
inductive Form where
  /-- Octets. -/
  | utf8
  /-- Units of two octets. -/
  | utf16 (bigEndian : Bool)
  /-- Code points of four octets. -/
  | utf32 (bigEndian : Bool)
deriving DecidableEq, Repr

/-- The form of JSON octets. -/
def Form.ofOctets : List Nat → Form
  | [0, _] => .utf16 true
  | [_, 0] => .utf16 false
  | 0 :: b :: _ :: _ :: _ => if b = 0 then .utf32 true else .utf16 true
  | _ :: 0 :: c :: d :: _ => if c = 0 ∧ d = 0 then .utf32 false else .utf16 false
  | _ => .utf8

/-- Octets in units of two; nothing if one is left. -/
def pairs? (bigEndian : Bool) : List Nat → Option (List Nat)
  | [] => some []
  | [_] => none
  | a :: b :: rest => do
    let units ← pairs? bigEndian rest
    return (if bigEndian then 256 * a + b else 256 * b + a) :: units

/-- Units in code points of two; nothing if one is left or a number is no code point. -/
def codePoints? (bigEndian : Bool) : List Nat → Option (List Nat)
  | [] => some []
  | [_] => none
  | a :: b :: rest => do
    let n := if bigEndian then 65536 * a + b else 65536 * b + a
    if 0x10FFFF < n then none
    else
      let ns ← codePoints? bigEndian rest
      return n :: ns

/-- A text without the byte-order mark in front. -/
def withoutMark : List Char → List Char
  | [] => []
  | c :: cs => if c.toNat = 0xFEFF then cs else c :: cs

/-- The characters of a content in the form that it has; nothing if it breaks off. -/
def contentChars? (content : String) : Option (List Char) :=
  let octets := (Text.octets content).map Char.toNat
  match Form.ofOctets octets with
  | .utf8 => some (withoutMark content.toList)
  | .utf16 bigEndian => (pairs? bigEndian octets).map Text.charsOfUnits
  | .utf32 bigEndian => do
    return (← codePoints? bigEndian (← pairs? bigEndian octets)).map Text.charOfUnit

/-- How deep the values of a content may nest. -/
def levelLimit : Nat := 950

/-- Why a content could not be read. -/
inductive ContentError where
  /-- The octets are no text. -/
  | undecodable
  /-- The text is not read. -/
  | unreadable (e : ReadError)
deriving Repr, DecidableEq

/-- The value of a content. -/
def readContent (content : String) : Except ContentError Value :=
  match contentChars? content with
  | none => .error .undecodable
  | some cs => (readWithin levelLimit cs).mapError .unreadable

end Automation.Json
