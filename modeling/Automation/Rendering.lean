import Automation.Json.Writer
import Automation.Path
import Automation.Text.Blank

/-!
# Placeholders

A text may hold placeholders: a path between two opening and two closing braces, with blanks
around it if one likes.  Rendering puts the value at the path in the place of the placeholder.
Nothing else changes: braces that belong to no placeholder stay, and the text put in is not looked
at again.  A missing value and null give the empty text.  Rendering fails if a path raises an error,
or the value there has no text (`RenderError`).

`textPieces` cuts a text into plain characters and holes, reading from the left; a hole is a
placeholder's path.  `renderText` fills the holes of one text and `renderValue` those of every text
inside a value.  Keys are left alone and tuples become lists.
-/

namespace Automation

/-- A part of a text with placeholders. -/
inductive Piece where
  /-- A character that stays. -/
  | plain (c : Char)
  /-- A placeholder for the value at a path. -/
  | hole (path : List Char)
deriving Repr, DecidableEq

/-- A character that a placeholder's path may hold. -/
def isPathChar (c : Char) : Bool := c != '\x7b' && c != '\x7d' && !Text.isBlank c

/-- What follows the opening braces of a placeholder: its path and the number of characters up to
the end of the closing braces. -/
def holeBody? (cs : List Char) : Option (List Char × Nat) :=
  let lead := cs.takeWhile Text.isBlank
  let cs := cs.dropWhile Text.isBlank
  let path := cs.takeWhile isPathChar
  let cs := cs.dropWhile isPathChar
  let trail := cs.takeWhile Text.isBlank
  match cs.dropWhile Text.isBlank with
  | '\x7d' :: '\x7d' :: _ =>
    if path.isEmpty then none else some (path, lead.length + path.length + trail.length + 2)
  | _ => none

/-- The path of a placeholder that starts here, with the number of characters after the first. -/
def hole? : List Char → Option (List Char × Nat)
  | '\x7b' :: '\x7b' :: cs => (holeBody? cs).map fun (path, length) => (path, length + 1)
  | _ => none

/-- The pieces of a text after its first `skipped` characters. -/
def piecesAfter : (skipped : Nat) → List Char → List Piece
  | _, [] => []
  | skipped + 1, _ :: cs => piecesAfter skipped cs
  | 0, c :: cs =>
    match hole? (c :: cs) with
    | some (path, length) => .hole path :: piecesAfter length cs
    | none => .plain c :: piecesAfter 0 cs

/-- The pieces of a text. -/
def textPieces (s : String) : List Piece := piecesAfter 0 s.toList

/-- Why a text does not render. -/
inductive RenderError where
  /-- The path of a placeholder raises an error. -/
  | path (e : IndexError)
  /-- The value at the path has no text. -/
  | format (e : FormatError)
deriving Repr, DecidableEq

/-- The message of the error. -/
def RenderError.message : RenderError → String
  | .path e => e.message
  | .format e => e.message

/-- The text of a value in the place of a placeholder. -/
def Value.insertText : Value → Except FormatError String
  | .null => .ok ""
  | .text s => .ok s
  | .bool b => .ok (if b then "true" else "false")
  | .bytes s => .ok (Text.quotedBytes s)
  | .int n => Value.shown (.int n)
  | .float x => .ok (x.text Double.plainStyle)
  | v => Json.text Json.sortedLayout v

/-- What the value at a path leaves in the place of a placeholder. -/
def Value.leaves (context : Value) (path : String) : Except RenderError String := do
  let found ← (context.resolve path).mapError RenderError.path
  (found.getD .null).insertText.mapError RenderError.format

/-- The characters of a piece in an event. -/
def Piece.fill (context : Value) : Piece → Except RenderError (List Char)
  | .plain c => .ok [c]
  | .hole path => do return (← context.leaves (String.ofList path)).toList

/-- The pieces filled from left to right; the first error ends it. -/
def fillPieces (context : Value) : List Piece → Except RenderError (List Char)
  | [] => .ok []
  | p :: ps => do
    let front ← p.fill context
    let back ← fillPieces context ps
    return front ++ back

/-- A text with its placeholders filled. -/
def renderText (context : Value) (s : String) : Except RenderError String := do
  return String.ofList (← fillPieces context (textPieces s))

mutual

/-- A value with the placeholders of its texts filled. -/
def renderValue (context : Value) : Value → Except RenderError Value
  | .text s => do return .text (← renderText context s)
  | .mapping m => do return .mapping (← renderEntries context m)
  | .list xs => do return .list (← renderItems context xs)
  | .tuple xs => do return .list (← renderItems context xs)
  | v => .ok v

/-- The items of a sequence, rendered. -/
def renderItems (context : Value) : List Value → Except RenderError (List Value)
  | [] => .ok []
  | v :: rest => do
    let v ← renderValue context v
    let rest ← renderItems context rest
    return v :: rest

/-- The entries of a mapping, their values rendered. -/
def renderEntries (context : Value) : List (Key × Value) →
    Except RenderError (List (Key × Value))
  | [] => .ok []
  | (k, v) :: rest => do
    let v ← renderValue context v
    let rest ← renderEntries context rest
    return (k, v) :: rest

end

/-- The paths of the holes among pieces. -/
def Piece.paths (ps : List Piece) : List String :=
  ps.filterMap fun
    | .hole path => some (String.ofList path)
    | .plain _ => none

mutual

/-- The paths of all placeholders inside a value, in the order of reading. -/
def placeholders : Value → List String
  | .text s => Piece.paths (textPieces s)
  | .mapping m => entryPlaceholders m
  | .list xs => itemPlaceholders xs
  | .tuple xs => itemPlaceholders xs
  | _ => []

/-- The paths inside the items of a sequence. -/
def itemPlaceholders : List Value → List String
  | [] => []
  | v :: rest => placeholders v ++ itemPlaceholders rest

/-- The paths inside the values of a mapping. -/
def entryPlaceholders : List (Key × Value) → List String
  | [] => []
  | (_, v) :: rest => placeholders v ++ entryPlaceholders rest

end

/-- A text put into a sorted list without repetition. -/
def insertDistinct (s : String) : List String → List String
  | [] => [s]
  | t :: rest =>
    if s = t then t :: rest else if s < t then s :: t :: rest else t :: insertDistinct s rest

/-- The paths of all placeholders inside a value, sorted, each once. -/
def placeholderSet (v : Value) : List String := (placeholders v).foldr insertDistinct []

end Automation
