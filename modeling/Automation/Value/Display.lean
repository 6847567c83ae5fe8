import Automation.Number.Shortest
import Automation.Text.Quoted
import Automation.Value

/-!
# The display text of a value

How a value looks where text is wanted and no other format is asked for: in email bodies,
notifications, header values and messages.  A text on its own is shown as it is
(`Value.display`); inside a list, a tuple or a mapping it is quoted (`Value.inspect`).
A tuple of one item keeps a comma after it.

Not every value has a text.  An integer is not written if it has too many digits, and then nothing
is written that it stands in (`Value.hasText`).  `Value.shown` is the display text where there is
one; `Value.display` alone goes into messages, which are made of short values.  A `FormatError` says
why a value has no text, be it a display text or one of JSON.
-/

namespace Automation

/-- Texts with a separator between them. -/
def joined (separator : String) : List String → String
  | [] => ""
  | [s] => s
  | s :: rest => s ++ separator ++ joined separator rest

/-- A text between brackets. -/
def bracketed (opening closing s : String) : String := opening ++ s ++ closing

/-- The word for nothing. -/
def nullWord : String := "None"

/-- The word for a truth value. -/
def truthWord (b : Bool) : String := if b then "True" else "False"

/-- A tuple whose items are shown. -/
def tupleText : List String → String
  | [s] => bracketed "(" ",)" s
  | ss => bracketed "(" ")" (joined ", " ss)

/-! ## Texts -/

mutual

/-- A key as it appears in a mapping. -/
def Key.inspect : Key → String
  | .null => nullWord
  | .bool b => truthWord b
  | .int n => toString n
  | .float x => x.text Double.plainStyle
  | .text s => Text.quoted s
  | .bytes s => Text.quotedBytes s
  | .tuple ks => tupleText (inspectKeys ks)

/-- The items of a tuple of keys. -/
def inspectKeys : List Key → List String
  | [] => []
  | k :: ks => k.inspect :: inspectKeys ks

end

mutual

/-- A value as it appears inside another. -/
def Value.inspect : Value → String
  | .null => nullWord
  | .bool b => truthWord b
  | .int n => toString n
  | .float x => x.text Double.plainStyle
  | .text s => Text.quoted s
  | .bytes s => Text.quotedBytes s
  | .list xs => bracketed "[" "]" (joined ", " (inspectItems xs))
  | .tuple xs => tupleText (inspectItems xs)
  | .mapping m => bracketed "\x7b" "\x7d" (joined ", " (inspectEntries m))

/-- The items of a sequence. -/
def inspectItems : List Value → List String
  | [] => []
  | v :: rest => v.inspect :: inspectItems rest

/-- The entries of a mapping. -/
def inspectEntries : List (Key × Value) → List String
  | [] => []
  | (k, v) :: rest => (k.inspect ++ ": " ++ v.inspect) :: inspectEntries rest

end

/-- A value on its own. -/
def Value.display : Value → String
  | .text s => s
  | v => v.inspect

example : (Value.list [.text "a", .null, .bool true]).display = "['a', None, True]" := by cbv
example : (Value.tuple [.int 1]).display = "(1,)" := by cbv

/-! ## Values without a text -/

/-- Why a value has no text. -/
inductive FormatError where
  /-- An integer has too many digits. -/
  | tooLong
  /-- Keys of these sorts, which are in no order, should be sorted. -/
  | unordered (left right : String)
  /-- A key of a sort that JSON has no form for. -/
  | badKey (sort : String)
  /-- A value of a sort that JSON has no form for. -/
  | noForm (sort : String)
  /-- A number without digits. -/
  | noDigits
deriving Repr, DecidableEq

/-- The most digits that an integer may have to be written. -/
def digitLimit : Nat := 4300

/-- What is wrong. -/
def FormatError.message : FormatError → String
  | .tooLong =>
    s!"Exceeds the limit ({digitLimit} digits) for integer string conversion; "
      ++ "use sys.set_int_max_str_digits() to increase the limit"
  | .unordered left right =>
    "'<' not supported between instances of '" ++ left ++ "' and '" ++ right ++ "'"
  | .badKey sort => "keys must be str, int, float, bool or None, not " ++ sort
  | .noForm sort => "Object of type " ++ sort ++ " is not JSON serializable"
  | .noDigits => "Out of range float values are not JSON compliant"

/-- Whether an integer has few enough digits to be written. -/
def isShort (n : Int) : Bool := (Nat.toDigits 10 n.natAbs).length ≤ digitLimit

mutual

/-- Whether a key has a text: no integer in it is too long. -/
def Key.hasText : Key → Bool
  | .int n => isShort n
  | .tuple ks => keysHaveText ks
  | _ => true

/-- Whether the items of a tuple of keys have texts. -/
def keysHaveText : List Key → Bool
  | [] => true
  | k :: ks => k.hasText && keysHaveText ks

end

mutual

/-- Whether a value has a text: no integer in it is too long. -/
def Value.hasText : Value → Bool
  | .int n => isShort n
  | .list xs => itemsHaveText xs
  | .tuple xs => itemsHaveText xs
  | .mapping m => entriesHaveText m
  | _ => true

/-- Whether the items of a sequence have texts. -/
def itemsHaveText : List Value → Bool
  | [] => true
  | v :: rest => v.hasText && itemsHaveText rest

/-- Whether the keys and values of a mapping have texts. -/
def entriesHaveText : List (Key × Value) → Bool
  | [] => true
  | (k, v) :: rest => k.hasText && v.hasText && entriesHaveText rest

end

/-- The display text of a value that has one. -/
def Value.shown (v : Value) : Except FormatError String :=
  if v.hasText then .ok v.display else .error .tooLong

/-- The display text of a key that has one. -/
def Key.shown (k : Key) : Except FormatError String := k.value.shown

end Automation
