import Automation.Text.Quoted

/-!
# Percent-encoding

Octets written as a percent sign and two hexadecimal digits.  `encode` keeps the characters that a
caller names safe and writes the UTF-8 octets of all others; `encodeKeeping` besides leaves alone
what is encoded already.  `decode` reads octets back.
-/

namespace Automation.Text.Percent

/-- The characters that never need an encoding. -/
def isUnreserved (c : Char) : Bool :=
  c.isAlphanum || c == '-' || c == '.' || c == '_' || c == '~'

/-- A hexadecimal digit in upper case. -/
def upperHexDigit (n : Nat) : Char := (Nat.digitChar n).toUpper

/-- An octet encoded. -/
def encodeOctet (b : UInt8) : List Char :=
  ['%', upperHexDigit (b.toNat / 16), upperHexDigit (b.toNat % 16)]

/-- A character as itself if it is safe, otherwise its octets encoded. -/
def encodeChar (safe : Char → Bool) (c : Char) : List Char :=
  if safe c then [c] else (String.utf8EncodeChar c).flatMap encodeOctet

/-- A text with all characters but the safe ones encoded. -/
def encode (safe : Char → Bool) (cs : List Char) : List Char := cs.flatMap (encodeChar safe)

/-- A hexadecimal digit in either case. -/
def isHexDigit (c : Char) : Bool :=
  c.isDigit || ('a' ≤ c && c ≤ 'f') || ('A' ≤ c && c ≤ 'F')

/-- As `encode`, but octets that are encoded already stay. -/
def encodeKeeping (safe : Char → Bool) : List Char → List Char
  | '%' :: a :: b :: cs =>
    if isHexDigit a && isHexDigit b then '%' :: a :: b :: encodeKeeping safe cs
    else encodeChar safe '%' ++ encodeKeeping safe (a :: b :: cs)
  | c :: cs => encodeChar safe c ++ encodeKeeping safe cs
  | [] => []

/-- The value of a hexadecimal digit. -/
def hexDigitValue (c : Char) : Nat :=
  if c.isDigit then c.toNat - 48
  else if 'a' ≤ c then c.toNat - 87
  else c.toNat - 55

/-- The octets of a text, encoded octets read back. -/
def decodeOctets : List Char → List UInt8
  | '%' :: a :: b :: cs =>
    if isHexDigit a && isHexDigit b then
      UInt8.ofNat (hexDigitValue a * 16 + hexDigitValue b) :: decodeOctets cs
    else UInt8.ofNat 37 :: decodeOctets (a :: b :: cs)
  | c :: cs => String.utf8EncodeChar c ++ decodeOctets cs
  | [] => []

/-- A replacement for octets that are not UTF-8. -/
def replacement : Char := Char.ofNat 0xFFFD

/-- The number of octets that continue a character with this first octet, and the bits of the first
octet; nothing if no character starts so. -/
def leadOctet? (b : Nat) : Option (Nat × Nat) :=
  if b < 0x80 then some (0, b)
  else if 0xC2 ≤ b && b < 0xE0 then some (1, b - 0xC0)
  else if 0xE0 ≤ b && b < 0xF0 then some (2, b - 0xE0)
  else if 0xF0 ≤ b && b < 0xF5 then some (3, b - 0xF0)
  else none

/-- Whether an octet may be the next after the octets `lead` of a character. -/
def continues (lead b : Nat) (first : Bool) : Bool :=
  let low := if first && lead == 0xE0 then 0xA0 else if first && lead == 0xF0 then 0x90 else 0x80
  let high := if first && lead == 0xED then 0x9F else if first && lead == 0xF4 then 0x8F else 0xBF
  low ≤ b && b ≤ high

/-- The octets that continue a character, up to `count`. -/
def continuation (lead : Nat) : (count : Nat) → (first : Bool) → List UInt8 → List Nat
  | 0, _, _ => []
  | _, _, [] => []
  | count + 1, first, b :: bs =>
    if continues lead b.toNat first then b.toNat :: continuation lead count false bs else []

/-- The characters of octets after the first `skipped`; every run of octets that starts no
character, or breaks one off, gives one replacement. -/
def charsAfter : (skipped : Nat) → List UInt8 → List Char
  | _, [] => []
  | skipped + 1, _ :: bs => charsAfter skipped bs
  | 0, b :: bs =>
    match leadOctet? b.toNat with
    | none => replacement :: charsAfter 0 bs
    | some (count, bits) =>
      let tail := continuation b.toNat count true bs
      if tail.length = count then
        Char.ofNat (tail.foldl (fun n t => n * 64 + (t - 0x80)) bits) :: charsAfter count bs
      else replacement :: charsAfter tail.length bs

/-- The characters of UTF-8 octets. -/
def utf8Chars (bs : List UInt8) : List Char := charsAfter 0 bs

/-- A text with encoded octets read back. -/
def decode (cs : List Char) : List Char := utf8Chars (decodeOctets cs)

end Automation.Text.Percent
