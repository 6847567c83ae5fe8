import Automation.Key

/-!
# Values

The data that events, conditions and action configurations are made of: JSON values whose
numbers are integers of any size or doubles, and besides them tuples and bytes, which callers
inside the process may pass.  A mapping is a list of entries in the order in which its keys were
first written; entries are found by keys that are texts.

`Mapping.find?` reads a mapping, `Mapping.put` writes one, `Value.truthy` says which values count as
present where a setting may be left out.
-/

namespace Automation

/-- A value of event data. -/
inductive Value where
  /-- Nothing. -/
  | null
  /-- A truth value. -/
  | bool (b : Bool)
  /-- An integer. -/
  | int (n : Int)
  /-- A double. -/
  | float (x : Double)
  /-- A text. -/
  | text (s : String)
  /-- The bytes that are the UTF-8 form of a text. -/
  | bytes (s : String)
  /-- A list. -/
  | list (items : List Value)
  /-- A tuple. -/
  | tuple (items : List Value)
  /-- A mapping from keys to values. -/
  | mapping (entries : List (Key × Value))
deriving Repr, Inhabited

/-- The entries of a mapping, in order. -/
abbrev Mapping := List (Key × Value)

namespace Mapping

/-- The value at a key. -/
def find? (key : String) : Mapping → Option Value
  | [] => none
  | (k, v) :: rest => if k.text? = some key then some v else find? key rest

/-- The value at a key, null if the key is absent. -/
def getD (m : Mapping) (key : String) : Value := (find? key m).getD .null

/-- A value put at any key: in the place of the old value, or at the end. -/
def insert (key : Key) (value : Value) : Mapping → Mapping
  | [] => [(key, value)]
  | (k, v) :: rest =>
    if k.same key then (k, value) :: rest else (k, v) :: insert key value rest

/-- A value put at a key that is a text. -/
def put (key : String) (value : Value) (m : Mapping) : Mapping := insert key value m

/-- The entries of `changes` put into `m` one after the other. -/
def override (m changes : Mapping) : Mapping :=
  changes.foldl (fun acc e => insert e.1 e.2 acc) m

theorem put_nil (key : String) (value : Value) : put key value [] = [(.text key, value)] := rfl

theorem put_cons_self (key : String) (value v : Value) (rest : Mapping) :
    put key value ((.text key, v) :: rest) = (.text key, value) :: rest := by
  simp [put, insert, Key.same_text]

theorem put_cons_of_ne {k : Key} {key : String} (h : k.text? ≠ some key) (value v : Value)
    (rest : Mapping) : put key value ((k, v) :: rest) = (k, v) :: put key value rest := by
  have hk : k.same (.text key) = false := by
    cases k <;> simp_all [Key.same, Key.text?, Key.number?]
  simp [put, insert, hk]

theorem find?_put_self (key : String) (value : Value) :
    ∀ m : Mapping, find? key (put key value m) = some value
  | [] => by simp [put_nil, find?, Key.text?]
  | (k, v) :: rest => by
    by_cases h : k.text? = some key
    · obtain rfl : k = .text key := by cases k <;> simp_all [Key.text?]
      simp [put_cons_self, find?, Key.text?]
    · simp [put_cons_of_ne h, find?, h, find?_put_self key value rest]

theorem find?_put_of_ne {key other : String} (h : other ≠ key) (value : Value) :
    ∀ m : Mapping, find? other (put key value m) = find? other m
  | [] => by simp [put_nil, find?, Key.text?, h.symm]
  | (k, v) :: rest => by
    by_cases hk : k.text? = some key
    · obtain rfl : k = .text key := by cases k <;> simp_all [Key.text?]
      simp [put_cons_self, find?, Key.text?, h.symm]
    · by_cases ho : k.text? = some other
      · simp [put_cons_of_ne hk, find?, ho]
      · simp [put_cons_of_ne hk, find?, ho, find?_put_of_ne h value rest]

end Mapping

mutual

/-- A key as a value. -/
def Key.value : Key → Value
  | .null => .null
  | .bool b => .bool b
  | .int n => .int n
  | .float x => .float x
  | .text s => .text s
  | .bytes s => .bytes s
  | .tuple ks => .tuple (keyValues ks)

/-- The items of a tuple of keys as values. -/
def keyValues : List Key → List Value
  | [] => []
  | k :: ks => k.value :: keyValues ks

end

namespace Value

/-- The entries of a mapping. -/
def entries? : Value → Option Mapping
  | .mapping m => some m
  | _ => none

/-- The items of a list or a tuple. -/
def items? : Value → Option (List Value)
  | .list xs => some xs
  | .tuple xs => some xs
  | _ => none

/-- The characters of a text. -/
def text? : Value → Option String
  | .text s => some s
  | _ => none

/-- The number that a value is; a truth value is not a number. -/
def number? : Value → Option Number
  | .int n => some (.int n)
  | .float x => some (.double x)
  | _ => none

/-- Whether a value counts as present: not null, false, a zero or empty. -/
def truthy : Value → Bool
  | .null => false
  | .bool b => b
  | .int n => n != 0
  | .float x => !x.isZero
  | .text s => !s.isEmpty
  | .bytes s => !s.isEmpty
  | .list xs => !xs.isEmpty
  | .tuple xs => !xs.isEmpty
  | .mapping m => !m.isEmpty

/-- The value, or `other` when it does not count as present. -/
def orElse (v other : Value) : Value := if v.truthy then v else other

/-- Null and the values without parts, bytes apart. -/
def isPrimitive : Value → Bool
  | .null | .bool _ | .int _ | .float _ | .text _ => true
  | _ => false

end Value

end Automation
