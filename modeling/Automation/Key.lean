import Automation.Number.Double

/-!
# Keys

The keys of mappings.  Nearly all keys are texts, and only these are found by name.  A mapping that
is made of pairs may have other keys: null, truth values, numbers, bytes, and tuples of keys.

Two keys are the same if they are equal (`Key.same`); numbers are compared by their values, and a
truth value counts as the number one or zero.  Keys of one sort are in an order (`Key.before?`),
keys of different sorts are in none.
-/

namespace Automation

/-- The key of an entry. -/
inductive Key where
  /-- Nothing. -/
  | null
  /-- A truth value. -/
  | bool (b : Bool)
  /-- An integer. -/
  | int (n : Int)
  /-- A double. -/
  | float (x : Double)
  /-- A text. -/
  | text (s : String)
  /-- The bytes that are the UTF-8 form of a text. -/
  | bytes (s : String)
  /-- A tuple. -/
  | tuple (items : List Key)
deriving Repr, Inhabited

/-- A text is a key. -/
instance : Coe String Key := ⟨Key.text⟩

namespace Key

/-- The characters of a text. -/
def text? : Key → Option String
  | .text s => some s
  | _ => none

/-- The number that a key counts as. -/
def number? : Key → Option Number
  | .bool b => some (.int (if b then 1 else 0))
  | .int n => some (.int n)
  | .float x => some (.double x)
  | _ => none

mutual

/-- Whether two keys are the same. -/
def same : Key → Key → Bool
  | .null, .null => true
  | .text s, .text t => s == t
  | .bytes s, .bytes t => s == t
  | .tuple ks, .tuple ls => sameItems ks ls
  | k, l =>
    match k.number?, l.number? with
    | some x, some y => x.eq y
    | _, _ => false

/-- Whether two tuples of keys are the same. -/
def sameItems : List Key → List Key → Bool
  | [], [] => true
  | k :: ks, l :: ls => same k l && sameItems ks ls
  | _, _ => false

end

mutual

/-- Whether a key is before another; nothing if they are in no order. -/
def before? : Key → Key → Option Bool
  | .text s, .text t => some (decide (s < t))
  | .bytes s, .bytes t => some (decide (s < t))
  | .tuple ks, .tuple ls => itemsBefore? ks ls
  | k, l =>
    match k.number?, l.number? with
    | some x, some y => some (x.lt y)
    | _, _ => none

/-- Whether a tuple of keys is before another: the first items that differ decide. -/
def itemsBefore? : List Key → List Key → Option Bool
  | [], ls => some (!ls.isEmpty)
  | _ :: _, [] => some false
  | k :: ks, l :: ls => if same k l then itemsBefore? ks ls else before? k l

end

/-- Whether any two of several keys are in an order. -/
def ordered : List Key → Bool
  | [] => true
  | k :: ks => (ks.all fun l => (k.before? l).isSome) && ordered ks

theorem same_text (s t : String) : same (.text s) (.text t) = (s == t) := by simp [same]

end Key

end Automation
