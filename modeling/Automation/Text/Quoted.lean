import Automation.Text.Half
import Automation.Text.Printable

/-!
# Quoted text

The form in which a text appears inside a message or inside a printed list or mapping: between
single quotes, or between double quotes when it holds a single quote and no double one.  The
quote in use and the backslash get a backslash, the tabulator and the two line ends have short
escapes, and every other character that is not printable is written by its code point in two,
four or eight hexadecimal digits.
-/

namespace Automation.Text

/-- The low `width` hexadecimal digits of a number. -/
def hexDigits (width n : Nat) : List Char :=
  (List.range width).reverse.map fun i => Nat.digitChar (n / Nat.pow 16 i % 16)

/-- A character by its code point. -/
def codePointEscape (n : Nat) : List Char :=
  if n < 0x100 then '\\' :: 'x' :: hexDigits 2 n
  else if n < 0x10000 then '\\' :: 'u' :: hexDigits 4 n
  else '\\' :: 'U' :: hexDigits 8 n

/-- The short escapes of quoted text. -/
def shortEscape? (quote c : Char) : Option (List Char) :=
  if c = quote then some ['\\', c]
  else if c = '\\' then some ['\\', '\\']
  else if c = '\n' then some ['\\', 'n']
  else if c = '\r' then some ['\\', 'r']
  else if c = '\t' then some ['\\', 't']
  else none

/-- The quote that goes round a text with these characters. -/
def quoteFor (cs : List Char) : Char :=
  if cs.contains '\'' && !cs.contains '"' then '"' else '\''

/-- One character of a quoted text. -/
def quotedChar (quote c : Char) : List Char :=
  match shortEscape? quote c with
  | some e => e
  | none => if isPrintable c then [c] else codePointEscape ((half? c).getD c.toNat)

/-- A text between quotes. -/
def quoted (s : String) : String :=
  let quote := quoteFor s.toList
  String.ofList (quote :: s.toList.flatMap (quotedChar quote) ++ [quote])

/-- The octets of the UTF-8 form of a text, each as a character below 256. -/
def octets (s : String) : List Char :=
  (s.toList.flatMap String.utf8EncodeChar).map fun b => Char.ofNat b.toNat

/-- One octet of quoted bytes. -/
def quotedOctet (quote c : Char) : List Char :=
  match shortEscape? quote c with
  | some e => e
  | none => if 32 ≤ c.toNat && c.toNat < 127 then [c] else codePointEscape c.toNat

/-- The UTF-8 form of a text, as bytes between quotes with the letter `b` in front. -/
def quotedBytes (s : String) : String :=
  let quote := quoteFor (octets s)
  String.ofList ('b' :: quote :: (octets s).flatMap (quotedOctet quote) ++ [quote])

example : quoted "it's" = "\"it's\"" := by cbv
example : quoted "a\n" = "'a\\n'" := by cbv

end Automation.Text
