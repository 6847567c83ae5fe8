import Automation.Value.Display

/-!
# Sorting

A list is sorted by a comparison that may fail (`sortBy`).  The run that the list begins with is
taken as it is, or turned round if it descends, and every further member is put into its place,
which is found by halving.  So it is settled which members are compared, and in what order.  This
shows where a comparison fails, and where it is not an order, as with keys that are not a number.
A long list may be merged from parts that are sorted in this way.  That comes to the same in an
order, and it fails as well where texts are among numbers.

Keys are compared by `Key.less`, which fails for keys of sorts that are in no order.
-/

namespace Automation

/-! ## Lists -/

section

variable {α ε : Type} (before : α → α → Except ε Bool)

/-- The members that carry on a run after `last`, and the others.  A run that descends does so
strictly. -/
def splitRun (descends : Bool) (last : α) : List α → Except ε (List α × List α)
  | [] => .ok ([], [])
  | x :: rest => do
    if (← before x last) = descends then
      let (run, others) ← splitRun descends x rest
      return (x :: run, others)
    else return ([], x :: rest)

/-- The run that a list begins with, in ascending order, and the other members. -/
def firstRun : List α → Except ε (List α × List α)
  | [] => .ok ([], [])
  | [x] => .ok ([x], [])
  | x :: y :: rest => do
    let descends ← before y x
    let (run, others) ← splitRun before descends y rest
    let run := x :: y :: run
    return (if descends then run.reverse else run, others)

/-- A member put into its place among sorted ones: behind those that it is not before.  As many
halvings as there are sorted members are enough. -/
def insertHalving (x : α) : (halvings : Nat) → List α → Except ε (List α)
  | 0, sorted => .ok (x :: sorted)
  | halvings + 1, sorted =>
    let below := sorted.take (sorted.length / 2)
    match sorted.drop (sorted.length / 2) with
    | [] => .ok [x]
    | middle :: above => do
      if ← before x middle then return (← insertHalving x halvings below) ++ middle :: above
      else return below ++ middle :: (← insertHalving x halvings above)

/-- Members put into their places among sorted ones, one after the other. -/
def insertAll (sorted : List α) : List α → Except ε (List α)
  | [] => .ok sorted
  | x :: rest => do insertAll (← insertHalving before x sorted.length sorted) rest

/-- A list sorted; the first comparison that fails ends it. -/
def sortBy (xs : List α) : Except ε (List α) := do
  let (run, others) ← firstRun before xs
  insertAll before run others

end

/-! ## Keys -/

namespace Key

/-- The name of the sort of a key. -/
def sortName : Key → String
  | .null => "NoneType"
  | .bool _ => "bool"
  | .int _ => "int"
  | .float _ => "float"
  | .text _ => "str"
  | .bytes _ => "bytes"
  | .tuple _ => "tuple"

mutual

/-- The sorts of two keys that are in no order; of two tuples, those of the first items that
differ. -/
def clash : Key → Key → String × String
  | .tuple ks, .tuple ls => itemsClash ks ls
  | k, l => (k.sortName, l.sortName)

/-- The sorts of the first items in which two tuples differ. -/
def itemsClash : List Key → List Key → String × String
  | k :: ks, l :: ls => if k.same l then itemsClash ks ls else clash k l
  | _, _ => (sortName (.tuple []), sortName (.tuple []))

end

/-- Whether a key is before another, which fails if they are in no order. -/
def less (k l : Key) : Except FormatError Bool :=
  match k.before? l with
  | some b => .ok b
  | none => .error (.unordered (k.clash l).1 (k.clash l).2)

/-- Keys in their order. -/
def sorted (ks : List Key) : Except FormatError (List Key) := sortBy less ks

end Key

/-- Entries in the order of their keys. -/
def sortEntries {α : Type} (es : List (Key × α)) : Except FormatError (List (Key × α)) :=
  sortBy (fun e f => e.1.less f.1) es

example :
    Key.sorted [.int 3, .bool true, .float .zero] = .ok [.float .zero, .bool true, .int 3] := by
  rfl
example : Key.sorted [.int 1, .text "a"] = .error (.unordered "str" "int") := by rfl

end Automation
