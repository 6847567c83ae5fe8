import Automation.Key

/-!
# Grouping

What is counted or collected by keys is gone through once (`gather`).  Each member changes the entry
of its key, and an entry that is missing is made first, at the end.  Counts are gathered this way
(`tally`), and what is not entered counts as zero (`counted`).
-/

namespace Automation

/-- The entry of a key changed.  If there is none, one is made of the initial value first. -/
def adjust {κ β : Type} (same : κ → κ → Bool) (initial : β) (k : κ) (change : β → β) :
    List (κ × β) → List (κ × β)
  | [] => [(k, change initial)]
  | entry :: rest =>
    if same k entry.1 then (entry.1, change entry.2) :: rest
    else entry :: adjust same initial k change rest

/-- The entries after each member of a list has changed the entry of its key. -/
def gather {α κ β : Type} (same : κ → κ → Bool) (initial : β) (key : α → κ) (change : α → β → β)
    (entries : List (κ × β)) (xs : List α) : List (κ × β) :=
  xs.foldl (fun entries x => adjust same initial (key x) (change x) entries) entries

/-- Counts after each of some keys has been counted. -/
def tally {κ : Type} [BEq κ] (counts : List (κ × Nat)) (ks : List κ) : List (κ × Nat) :=
  gather (fun k l => k == l) 0 id (fun _ n => n + 1) counts ks

/-- The count of a key, zero if there is none. -/
def counted {κ : Type} [BEq κ] (counts : List (κ × Nat)) (k : κ) : Nat :=
  (counts.lookup k).getD 0

/-- Entries in the order of their keys; nothing if some keys are in none. -/
def sortByKey? {β : Type} (entries : List (Key × β)) : Option (List (Key × β)) :=
  if Key.ordered (entries.map Prod.fst) then
    some (entries.mergeSort fun d e => !(e.1.before? d.1).getD false)
  else none

end Automation
