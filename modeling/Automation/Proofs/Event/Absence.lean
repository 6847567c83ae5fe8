import Automation.Proofs.Event.Comparison

/-!
# Absent and null

A value is *pruned* by taking away all entries of mappings that are null, at every depth; null items
of sequences stay (`Value.pruned`).  Nothing lies below null, so a path leads to the same in a
pruned event, pruned, if what is missing is read as null (`Value.orNull_resolveAt_pruned`).

Operators read it so, and pruning does not change the outline of a value.  Hence conditions cannot
tell an absent entry from one that is null (`absent_like_null`).
-/

namespace Automation

/-- Whether a value is null. -/
def Value.isNull : Value → Bool
  | .null => true
  | _ => false

mutual

/-- A value without the entries of mappings that are null. -/
def Value.pruned : Value → Value
  | .mapping m => .mapping (prunedEntries m)
  | .list xs => .list (prunedItems xs)
  | .tuple xs => .tuple (prunedItems xs)
  | v => v

/-- The items of a sequence, each of them pruned. -/
def prunedItems : List Value → List Value
  | [] => []
  | v :: rest => v.pruned :: prunedItems rest

/-- The entries of a mapping that are not null, their values pruned. -/
def prunedEntries : List (Key × Value) → List (Key × Value)
  | [] => []
  | (k, v) :: rest =>
    if v.isNull then prunedEntries rest else (k, v.pruned) :: prunedEntries rest

end

theorem Value.isNull_iff {v : Value} : v.isNull = true ↔ v = .null := by
  cases v <;> simp [isNull]

theorem prunedItems_eq_map (xs : List Value) : prunedItems xs = xs.map Value.pruned := by
  induction xs with
  | nil => rfl
  | cons v xs ih => rw [prunedItems, List.map_cons, ih]

theorem map_fst_prunedEntries_subset (m : Mapping) :
    (prunedEntries m).map (·.1) ⊆ m.map (·.1) := by
  induction m with
  | nil => exact List.Subset.refl _
  | cons e m ih =>
    obtain ⟨k, v⟩ := e
    rw [prunedEntries]
    split
    · exact List.subset_cons_of_subset k ih
    · exact List.cons_subset_cons k ih

/-! ## Lookups -/

/-- What a lookup finds, what is missing being read as null. -/
def Lookup.orNull (found : Lookup) : Except IndexError Value := found.map (·.getD .null)

/-- Nothing lies below null. -/
theorem Lookup.orNull_walk (found : Option Value) (segments : List (List Char)) :
    (Lookup.walk (.ok found) segments).orNull =
      (Lookup.walk (.ok (some (found.getD .null))) segments).orNull := by
  cases found with
  | some v => rfl
  | none =>
    cases segments with
    | nil => rfl
    | cons segment segments =>
      show _ = (Lookup.walk (.ok none) segments).orNull
      rw [Lookup.walk_missing, Lookup.walk_missing]

/-- An entry that is taken away was null. -/
theorem getD_find?_prunedEntries {m : Mapping} (hkeys : m.KeysDistinct) (key : String) :
    (Mapping.find? key (prunedEntries m)).getD .null =
      ((Mapping.find? key m).getD .null).pruned := by
  induction m with
  | nil => rfl
  | cons e m ih =>
    obtain ⟨k, v⟩ := e
    obtain ⟨hk, hrest⟩ := List.nodup_cons.1 hkeys
    rw [prunedEntries, Mapping.find?]
    by_cases hkey : k.text? = some key
    · rw [if_pos hkey]
      obtain rfl : k = .text key := by cases k <;> simp_all [Key.text?]
      cases hv : v.isNull with
      | true =>
        obtain rfl := Value.isNull_iff.1 hv
        have hnone : Mapping.find? key (prunedEntries m) = none :=
          Mapping.find?_eq_none_of_not_mem fun hmem => hk (map_fst_prunedEntries_subset m hmem)
        rw [if_pos rfl, hnone]
        rfl
      | false =>
        rw [if_neg Bool.false_ne_true, Mapping.find?, if_pos hkey]
        rfl
    · rw [if_neg hkey, ← ih hrest]
      split
      · rfl
      · rw [Mapping.find?, if_neg hkey]

namespace Value

theorem orNull_select_prunedItems (xs : List Value) (segment : List Char) :
    Lookup.orNull ((indexOf? segment).map fun i => i.bind ((prunedItems xs)[·]?)) =
      (Lookup.orNull ((indexOf? segment).map fun i => i.bind (xs[·]?))).map pruned := by
  rw [prunedItems_eq_map]
  cases indexOf? segment with
  | error e => rfl
  | ok index =>
    cases index with
    | none => rfl
    | some i =>
      show Except.ok ((xs.map pruned)[i]?.getD .null) = Except.ok (xs[i]?.getD .null).pruned
      rw [List.getElem?_map]
      cases xs[i]? <;> rfl

/-- A segment selects the same part, pruned, where what is missing is read as null. -/
theorem orNull_select_pruned {v : Value} (hkeys : v.Throughout Mapping.KeysDistinct)
    (segment : List Char) :
    (v.pruned.select segment).orNull = (v.select segment).orNull.map pruned := by
  cases v with
  | mapping m =>
    show Except.ok _ = Except.ok _
    cases segment.isEmpty with
    | true => rfl
    | false => exact congrArg Except.ok (getD_find?_prunedEntries hkeys.1 _)
  | list xs => exact orNull_select_prunedItems xs segment
  | tuple xs => exact orNull_select_prunedItems xs segment
  | _ => rfl

theorem orNull_walk_pruned {v : Value} (hkeys : v.Throughout Mapping.KeysDistinct)
    (segments : List (List Char)) :
    (Lookup.walk (.ok (some v.pruned)) segments).orNull =
      (Lookup.walk (.ok (some v)) segments).orNull.map pruned := by
  induction segments generalizing v with
  | nil => rfl
  | cons segment segments ih =>
    rw [walk_cons, walk_cons]
    have hselect := orNull_select_pruned hkeys segment
    cases hpart : v.select segment with
    | error e =>
      rw [hpart] at hselect
      cases hpruned : v.pruned.select segment with
      | error e' =>
        rw [hpruned] at hselect
        cases hselect
        rw [Lookup.walk_error]
        rfl
      | ok =>
        rw [hpruned] at hselect
        cases hselect
    | ok found =>
      rw [hpart] at hselect
      cases hpruned : v.pruned.select segment with
      | error e =>
        rw [hpruned] at hselect
        cases hselect
      | ok found' =>
        rw [hpruned] at hselect
        -- Either may be missing where the other is null, so both are read as null before going on.
        have hfound : found'.getD .null = (found.getD .null).pruned := Except.ok.inj hselect
        have hkeys' : (found.getD .null).Throughout Mapping.KeysDistinct := by
          cases found with
          | none => trivial
          | some part => exact (select_eq_some_iff.1 hpart).throughout hkeys
        rw [Lookup.orNull_walk found', Lookup.orNull_walk found, hfound]
        exact ih hkeys'

/-- A path leads to the same in a pruned event, pruned, where what is missing is read as null. -/
theorem orNull_resolveAt_pruned {context : Value} (hkeys : context.Throughout Mapping.KeysDistinct)
    (path : Value) :
    (context.pruned.resolveAt path).orNull = (context.resolveAt path).orNull.map pruned := by
  cases path with
  | text s => exact orNull_walk_pruned hkeys (pathSegments s.toList)
  | _ => rfl

/-! ## Outlines -/

theorem glimpse_pruned (v : Value) : v.pruned.glimpse = v.glimpse := by
  cases v <;> rfl

theorem outline_pruned (v : Value) : v.pruned.outline = v.outline := by
  cases v with
  | list xs | tuple xs =>
    show Value.list ((prunedItems xs).map glimpse) = .list (xs.map glimpse)
    rw [prunedItems_eq_map, List.map_map]
    exact congrArg Value.list (List.map_congr_left fun v _ => v.glimpse_pruned)
  | _ => rfl

end Value

/-! ## Conditions -/

/-- An operator reads what is missing as null. -/
theorem Operator.holds_getD (op : Operator) (found : Option Value) (literal : Value) :
    op.holds (some (found.getD .null)) literal = op.holds found literal := by
  cases found <;> rfl

theorem Condition.holds_pruned {context : Value} (hkeys : context.Throughout Mapping.KeysDistinct)
    (c : Condition) : c.holds context.pruned = c.holds context := by
  have hfield := Value.orNull_resolveAt_pruned hkeys c.field
  rw [holds, holds]
  generalize context.resolveAt c.field = whole,
    context.pruned.resolveAt c.field = pruned at hfield ⊢
  cases Operator.ofValue? c.operator with
  | none => rfl
  | some op =>
    cases whole with
    | error e =>
      cases pruned with
      | error => rfl
      | ok => cases hfield
    | ok found =>
      cases pruned with
      | error => cases hfield
      | ok found' =>
        have hfound : found'.getD .null = (found.getD .null).pruned := Except.ok.inj hfield
        show op.holds found' c.value = op.holds found c.value
        rw [← op.holds_getD found', ← op.holds_getD found, hfound]
        exact Operator.holds_of_outline_eq (Value.outline_pruned _)

/-- An absent entry and one that is null are the same to conditions.

Whether conditions hold, whatever their operators, paths and literals, does not change if all
entries of mappings that are null are taken away from an event, at every depth. -/
theorem absent_like_null {context : Value} (hkeys : context.Throughout Mapping.KeysDistinct)
    (conditions : List Condition) :
    Condition.allHold conditions context = Condition.allHold conditions context.pruned := by
  have hholds : (fun c : Condition => c.holds context.pruned) = fun c => c.holds context :=
    funext fun c => c.holds_pruned hkeys
  rw [Condition.allHold, Condition.allHold, hholds]

/-- An event with a null in a mapping, one below a sequence, and one that is an item. -/
def sparseEvent : Value :=
  .mapping [("note", .null), ("items", .list [.null, .mapping [("sku", .null), ("count", .int 2)]])]

/-- Conditions on the nulls of an event, and on what would lie below one. -/
def sparseConditions : List Condition :=
  [.comparing (.text "note") .equals .null, .comparing (.text "note.length") .notEquals (.int 0),
    .comparing (.text "items.1.sku") .isIn (.list [.text "A1", .null]),
    .comparing (.text "items") .contains .null]

/-- The entries are gone, the null item is not, and the conditions still hold. -/
theorem absent_like_null_sparse :
    sparseEvent.pruned = .mapping [("items", .list [.null, .mapping [("count", .int 2)]])] ∧
    Condition.allHold sparseConditions sparseEvent.pruned = true := by
  have hkeys : sparseEvent.Throughout Mapping.KeysDistinct := by
    simp [sparseEvent, Value.Throughout, EntriesThroughout, ItemsThroughout, Mapping.KeysDistinct]
  refine ⟨rfl, ?_⟩
  rw [← absent_like_null hkeys]
  decide +kernel

end Automation
