import Automation.Proofs.Rendering.Reading
import Automation.Proofs.Value.Sorted

/-!
# The order of keys

Two values are the same up to the order of keys if one becomes the other when entries of mappings,
at any depth, change their places (`Value.Reordered`).  Where keys are distinct, a lookup finds
such values in such values (`Value.Reordered.resolveAt`), and an operator cannot tell them apart
since they have the same outline.

In a JSON text the entries are sorted by their keys.  Keys that are in an order are sorted in one
way only, so such values have the same text, or no text for the same reason
(`Value.Reordered.json_eq`).  Hence neither conditions nor rendering depend on the order in which an
event has its keys (`key_order_irrelevant`).
-/

namespace Automation

/-! ## Values up to the order of keys -/

mutual

/-- Two values are the same up to the order of the keys of mappings. -/
inductive Value.Reordered : Value → Value → Prop where
  | same (v : Value) : Value.Reordered v v
  | list {xs ys : List Value} (items : ItemsReordered xs ys) : Value.Reordered (.list xs) (.list ys)
  | tuple {xs ys : List Value} (items : ItemsReordered xs ys) :
      Value.Reordered (.tuple xs) (.tuple ys)
  | mapping {m n n' : Mapping} (values : EntriesReordered m n) (order : n.Perm n') :
      Value.Reordered (.mapping m) (.mapping n')

/-- The items of two sequences are the same up to the order of keys, one by one. -/
inductive ItemsReordered : List Value → List Value → Prop where
  | nil : ItemsReordered [] []
  | cons {v w : Value} {xs ys : List Value} (first : Value.Reordered v w)
      (rest : ItemsReordered xs ys) : ItemsReordered (v :: xs) (w :: ys)

/-- Two mappings have the same keys in the same order, and their values are the same up to the order
of keys, one by one. -/
inductive EntriesReordered : List (Key × Value) → List (Key × Value) → Prop where
  | nil : EntriesReordered [] []
  | cons (k : Key) {v w : Value} {m n : List (Key × Value)} (first : Value.Reordered v w)
      (rest : EntriesReordered m n) : EntriesReordered ((k, v) :: m) ((k, w) :: n)

end

/-! ## Lookups -/

theorem EntriesReordered.map_keys {m n : Mapping} (h : EntriesReordered m n) :
    m.map (·.1) = n.map (·.1) := by
  induction m generalizing n with
  | nil =>
    cases h
    rfl
  | cons e m ih =>
    cases h with
    | cons k hv hrest => exact congrArg (k :: ·) (ih hrest)

/-- What two lookups find is the same up to the order of keys. -/
inductive Lookup.Reordered : Lookup → Lookup → Prop where
  | error (e : IndexError) : Reordered (.error e) (.error e)
  | missing : Reordered (.ok none) (.ok none)
  | found {v w : Value} (values : v.Reordered w) : Reordered (.ok (some v)) (.ok (some w))

theorem EntriesReordered.find? {m n : Mapping} (h : EntriesReordered m n) (key : String) :
    Lookup.Reordered (.ok (Mapping.find? key m)) (.ok (Mapping.find? key n)) := by
  induction m generalizing n with
  | nil =>
    cases h
    exact .missing
  | cons e m ih =>
    cases h with
    | cons k hv hrest =>
      rw [Mapping.find?, Mapping.find?]
      by_cases hkey : k.text? = some key
      · rw [if_pos hkey, if_pos hkey]
        exact .found hv
      · rw [if_neg hkey, if_neg hkey]
        exact ih hrest

theorem ItemsReordered.getElem? {xs ys : List Value} (h : ItemsReordered xs ys) (i : Nat) :
    Lookup.Reordered (.ok xs[i]?) (.ok ys[i]?) := by
  induction xs generalizing ys i with
  | nil =>
    cases h
    exact .missing
  | cons v xs ih =>
    cases h with
    | cons hv hrest =>
      cases i with
      | zero => exact .found hv
      | succ i => exact ih hrest i

namespace Lookup

theorem Reordered.refl (found : Lookup) : found.Reordered found := by
  cases found with
  | error e => exact .error e
  | ok found =>
    cases found with
    | none => exact .missing
    | some v => exact .found (.same v)

end Lookup

namespace Value

theorem select_reordered_items {xs ys : List Value} (h : ItemsReordered xs ys)
    (segment : List Char) :
    Lookup.Reordered ((indexOf? segment).map fun i => i.bind (xs[·]?))
      ((indexOf? segment).map fun i => i.bind (ys[·]?)) := by
  cases indexOf? segment with
  | error e => exact .error e
  | ok index =>
    cases index with
    | none => exact .missing
    | some i => exact h.getElem? i

/-- A segment selects parts that are the same up to the order of keys. -/
theorem Reordered.select {v w : Value} (h : v.Reordered w)
    (hnames : v.Throughout Mapping.NamesDistinct) (segment : List Char) :
    Lookup.Reordered (v.select segment) (w.select segment) := by
  cases h with
  | same => exact .refl _
  | list hitems => exact select_reordered_items hitems segment
  | tuple hitems => exact select_reordered_items hitems segment
  | @mapping m n n' hvalues horder =>
    have hnames' : n.NamesDistinct := by
      rw [Mapping.NamesDistinct, ← hvalues.map_keys]
      exact hnames.1
    rw [Value.select, Value.select, ← Mapping.find?_perm horder hnames']
    cases segment.isEmpty with
    | true => exact .missing
    | false => exact hvalues.find? _

theorem Reordered.walk {v w : Value} (h : v.Reordered w)
    (hnames : v.Throughout Mapping.NamesDistinct) (segments : List (List Char)) :
    Lookup.Reordered (Lookup.walk (.ok (some v)) segments)
      (Lookup.walk (.ok (some w)) segments) := by
  induction segments generalizing v w with
  | nil => exact .found h
  | cons segment segments ih =>
    rw [walk_cons, walk_cons]
    have hselect := h.select hnames segment
    generalize w.select segment = other at hselect ⊢
    cases hpart : v.select segment with
    | error e =>
      rw [hpart] at hselect
      cases hselect
      exact .refl _
    | ok found =>
      rw [hpart] at hselect
      cases hselect with
      | missing => exact .refl _
      | found hvalues => exact ih hvalues ((select_eq_some_iff.1 hpart).throughout hnames)

theorem Reordered.resolveAt {c d : Value} (h : c.Reordered d)
    (hnames : c.Throughout Mapping.NamesDistinct) (path : Value) :
    Lookup.Reordered (c.resolveAt path) (d.resolveAt path) := by
  cases path with
  | text s => exact h.walk hnames (pathSegments s.toList)
  | _ => exact .missing

end Value

/-! ## Conditions -/

theorem Value.Reordered.glimpse_eq {v w : Value} (h : v.Reordered w) : v.glimpse = w.glimpse := by
  cases h <;> rfl

theorem ItemsReordered.map_glimpse {xs ys : List Value} (h : ItemsReordered xs ys) :
    xs.map Value.glimpse = ys.map Value.glimpse := by
  induction xs generalizing ys with
  | nil =>
    cases h
    rfl
  | cons v xs ih =>
    cases h with
    | cons hv hrest => rw [List.map_cons, List.map_cons, hv.glimpse_eq, ih hrest]

/-- The order of keys is not seen by an operator. -/
theorem Value.Reordered.outline_eq {v w : Value} (h : v.Reordered w) : v.outline = w.outline := by
  cases h with
  | same => rfl
  | list hitems | tuple hitems => exact congrArg Value.list hitems.map_glimpse
  | mapping => rfl

theorem Condition.holds_reordered {c d : Value} (h : c.Reordered d)
    (hnames : c.Throughout Mapping.NamesDistinct) (condition : Condition) :
    condition.holds c = condition.holds d := by
  have hfield := h.resolveAt hnames condition.field
  rw [holds, holds]
  generalize c.resolveAt condition.field = here, d.resolveAt condition.field = there at hfield ⊢
  cases Operator.ofValue? condition.operator with
  | none => rfl
  | some op =>
    cases hfield with
    | error | missing => rfl
    | found hvalues => exact Operator.holds_of_outline_eq hvalues.outline_eq

/-! ## JSON texts -/

namespace Json

theorem writeEntries_eq_map (layout : Layout) (m : Mapping) :
    writeEntries layout m = m.map fun e => (e.1, write layout e.2) := by
  induction m with
  | nil => rfl
  | cons e m ih => rw [writeEntries, List.map_cons, ih]

theorem checkEntries_eq_map (layout : Layout) (m : Mapping) :
    checkEntries layout m = m.map fun e => (e.1, check layout e.2) := by
  induction m with
  | nil => rfl
  | cons e m ih => rw [checkEntries, List.map_cons, ih]

/-- Entries are arranged to the same whatever their order, with anything in the places of their
values. -/
theorem exists_arrange_of_perm {layout : Layout} (hsort : layout.sortKeys = true) {m n : Mapping}
    (h : m.Perm n) (hapart : m.KeysApart) (hsortable : m.Sortable) {α : Type} (f : Value → α) :
    ∃ es, arrange layout (m.map fun e => (e.1, f e.2)) = .ok es ∧
      arrange layout (n.map fun e => (e.1, f e.2)) = .ok es := by
  have hkeys : (m.map fun e => (e.1, f e.2)).map Prod.fst = m.map (·.1) := by
    rw [List.map_map]
    rfl
  rw [arrange, arrange, if_pos hsort, if_pos hsort]
  refine exists_sortEntries_of_perm (h.map _) ?_ ?_
  · rw [hkeys]
    exact hsortable
  · rw [hkeys]
    exact hapart

/-- The text of a mapping is made from its arranged entries. -/
theorem write_mapping_of_arrange {layout : Layout} {m : Mapping} {es : List (Key × String)}
    (h : arrange layout (writeEntries layout m) = .ok es) :
    write layout (.mapping m) = bracketed "\x7b" "\x7d" (joined layout.itemSeparator <|
      es.map fun e => string layout.asciiOnly (keyText e.1) ++ layout.keySeparator ++ e.2) := by
  rw [write, h]
  rfl

theorem check_mapping_of_arrange {layout : Layout} {m : Mapping}
    {es : List (Key × Except FormatError Unit)}
    (h : arrange layout (checkEntries layout m) = .ok es) :
    check layout (.mapping m) = checkArranged layout es := by
  rw [check, h]
  rfl

/-- Two mappings with the same entries in another order have the same text, and none for the same
reason. -/
theorem json_mapping_of_perm {layout : Layout} (hsort : layout.sortKeys = true) {m n : Mapping}
    (h : m.Perm n) (hapart : m.KeysApart) (hsortable : m.Sortable) :
    check layout (.mapping m) = check layout (.mapping n) ∧
      write layout (.mapping m) = write layout (.mapping n) := by
  obtain ⟨es, hm, hn⟩ := exists_arrange_of_perm hsort h hapart hsortable (check layout)
  obtain ⟨fs, hm', hn'⟩ := exists_arrange_of_perm hsort h hapart hsortable (write layout)
  rw [← checkEntries_eq_map] at hm hn
  rw [← writeEntries_eq_map] at hm' hn'
  rw [check_mapping_of_arrange hm, check_mapping_of_arrange hn, write_mapping_of_arrange hm',
    write_mapping_of_arrange hn']
  exact ⟨rfl, rfl⟩

end Json

mutual

/-- With sorted keys the order of keys is not seen in a JSON text, and neither in the reason why
there is none. -/
theorem Value.Reordered.json_eq {layout : Json.Layout} (hsort : layout.sortKeys = true) :
    ∀ {v w : Value}, v.Reordered w → v.Throughout Mapping.KeysApart →
      v.Throughout Mapping.Sortable →
      Json.check layout v = Json.check layout w ∧ Json.write layout v = Json.write layout w
  | _, _, .same _, _, _ => ⟨rfl, rfl⟩
  | _, _, .list hitems, hapart, hsortable | _, _, .tuple hitems, hapart, hsortable => by
    obtain ⟨hcheck, hwrite⟩ := hitems.json_eq hsort hapart hsortable
    simp only [Json.check, Json.write, hcheck, hwrite, and_self]
  | _, _, @Value.Reordered.mapping m n _ hvalues horder, hapart, hsortable => by
    obtain ⟨hcheck, hwrite⟩ := hvalues.json_eq hsort hapart.2 hsortable.2
    have hn : n.KeysApart ∧ n.Sortable := by
      rw [Mapping.KeysApart, Mapping.Sortable, ← hvalues.map_keys]
      exact ⟨hapart.1, hsortable.1⟩
    obtain ⟨hcheck', hwrite'⟩ := Json.json_mapping_of_perm hsort horder hn.1 hn.2
    rw [← hcheck', ← hwrite', Json.check, Json.check, Json.write, Json.write, hcheck, hwrite]
    exact ⟨rfl, rfl⟩

theorem ItemsReordered.json_eq {layout : Json.Layout} (hsort : layout.sortKeys = true) :
    ∀ {xs ys : List Value}, ItemsReordered xs ys → ItemsThroughout Mapping.KeysApart xs →
      ItemsThroughout Mapping.Sortable xs →
      Json.checkItems layout xs = Json.checkItems layout ys ∧
        Json.writeItems layout xs = Json.writeItems layout ys
  | _, _, .nil, _, _ => ⟨rfl, rfl⟩
  | _, _, .cons hv hrest, hapart, hsortable => by
    obtain ⟨hcheck, hwrite⟩ := hv.json_eq hsort hapart.1 hsortable.1
    obtain ⟨hchecks, hwrites⟩ := hrest.json_eq hsort hapart.2 hsortable.2
    simp only [Json.checkItems, Json.writeItems, hcheck, hwrite, hchecks, hwrites, and_self]

theorem EntriesReordered.json_eq {layout : Json.Layout} (hsort : layout.sortKeys = true) :
    ∀ {m n : List (Key × Value)}, EntriesReordered m n →
      EntriesThroughout Mapping.KeysApart m → EntriesThroughout Mapping.Sortable m →
      Json.checkEntries layout m = Json.checkEntries layout n ∧
        Json.writeEntries layout m = Json.writeEntries layout n
  | _, _, .nil, _, _ => ⟨rfl, rfl⟩
  | _, _, .cons k hv hrest, hapart, hsortable => by
    obtain ⟨hcheck, hwrite⟩ := hv.json_eq hsort hapart.1 hsortable.1
    obtain ⟨hchecks, hwrites⟩ := hrest.json_eq hsort hapart.2 hsortable.2
    simp only [Json.checkEntries, Json.writeEntries, hcheck, hwrite, hchecks, hwrites, and_self]

end

/-! ## Rendering -/

namespace Value.Reordered

/-- What a value leaves in the place of a placeholder does not show the order of its keys. -/
theorem insertText_eq {v w : Value} (h : v.Reordered w) (hapart : v.Throughout Mapping.KeysApart)
    (hsortable : v.Throughout Mapping.Sortable) : v.insertText = w.insertText := by
  have hsort : Json.sortedLayout.sortKeys = true := rfl
  have htext : Json.text Json.sortedLayout v = Json.text Json.sortedLayout w := by
    obtain ⟨hcheck, hwrite⟩ := h.json_eq hsort hapart hsortable
    rw [Json.text, Json.text, hcheck, hwrite]
  cases h with
  | same => rfl
  | list | tuple | mapping => exact htext

theorem leaves_eq {c d : Value} (h : c.Reordered d) (hapart : c.Throughout Mapping.KeysApart)
    (hsortable : c.Throughout Mapping.Sortable) (path : String) :
    c.leaves path = d.leaves path := by
  have hnames := hapart.imp fun _ => Mapping.KeysApart.namesDistinct
  have hpath : Lookup.Reordered (c.resolve path) (d.resolve path) :=
    h.walk hnames (pathSegments path.toList)
  rw [leaves, leaves]
  generalize d.resolve path = there at hpath ⊢
  cases hhere : c.resolve path with
  | error e =>
    rw [hhere] at hpath
    cases hpath
    rfl
  | ok found =>
    rw [hhere] at hpath
    cases hpath with
    | missing => rfl
    | @found v w hvalues =>
      have hpart := Value.walk_eq_some_iff.1 hhere
      have htext := hvalues.insertText_eq (hpart.throughout hapart) (hpart.throughout hsortable)
      simp only [Except.mapError, bind, Except.bind, Option.getD_some, htext]

/-- A configuration does not show the order in which an event has its keys. -/
theorem renderValue_eq {c d : Value} (h : c.Reordered d)
    (hapart : c.Throughout Mapping.KeysApart) (hsortable : c.Throughout Mapping.Sortable)
    (config : Value) : renderValue c config = renderValue d config :=
  sameOutcome_id_iff.1 <| SameFills.renderValue fun path _ =>
    sameOutcome_id_iff.2 (h.leaves_eq hapart hsortable path)

end Value.Reordered

/-- The order in which an event has its keys is irrelevant.

In two events that are the same up to the order of keys at any depth, no two keys of a mapping being
the same, the same conditions hold.  If besides the keys of each mapping are in an order, as texts
are, every configuration renders to the same outcome, be it a value or an error.  In particular what
such values leave in the place of a placeholder, for a mapping or a sequence its JSON text, is the
same. -/
theorem key_order_irrelevant {c d : Value} (h : c.Reordered d)
    (hapart : c.Throughout Mapping.KeysApart) :
    (∀ conditions, Condition.allHold conditions c = Condition.allHold conditions d) ∧
    (c.Throughout Mapping.Sortable →
      (∀ config, renderValue c config = renderValue d config) ∧ c.insertText = d.insertText) := by
  have hnames := hapart.imp fun _ => Mapping.KeysApart.namesDistinct
  refine ⟨fun conditions => ?_, fun hsortable => ?_⟩
  · have hholds : (·.holds c) = fun condition : Condition => condition.holds d :=
      funext fun condition => condition.holds_reordered h hnames
    rw [Condition.allHold, Condition.allHold, hholds]
  · exact ⟨h.renderValue_eq hapart hsortable, h.insertText_eq hapart hsortable⟩

/-- An order of one article with a discount. -/
def orderEvent : Value :=
  .mapping [("id", .int 7), ("items", .tuple [
    .mapping [("sku", .text "A1"), ("discount", .mapping [("rate", .int 5), ("code", .null)])]])]

/-- The same order from a producer that writes the keys in another order. -/
def orderEventBackwards : Value :=
  .mapping [("items", .tuple [
    .mapping [("discount", .mapping [("code", .null), ("rate", .int 5)]), ("sku", .text "A1")]]),
    ("id", .int 7)]

/-- Both orders leave the same text, with the keys sorted at every depth. -/
theorem key_order_irrelevant_backwards :
    renderValue orderEventBackwards (.text "\x7b\x7b items.0 \x7d\x7d") =
      renderValue orderEvent (.text "\x7b\x7b items.0 \x7d\x7d") ∧
    orderEventBackwards.insertText =
      .ok ("\x7b\"id\": 7, \"items\": [\x7b\"discount\": \x7b\"code\": null, \"rate\": 5\x7d, "
        ++ "\"sku\": \"A1\"\x7d]\x7d") := by
  have hdiscount : EntriesReordered [("rate", .int 5), ("code", .null)]
      [("rate", .int 5), ("code", .null)] := .cons _ (.same _) (.cons _ (.same _) .nil)
  have hitem := Value.Reordered.mapping
    (.cons "sku" (.same (.text "A1")) (.cons "discount" (.mapping hdiscount (.swap _ _ _)) .nil))
    (.swap _ _ _)
  have hsame : orderEvent.Reordered orderEventBackwards :=
    .mapping (.cons _ (.same _) (.cons _ (.tuple (.cons hitem .nil)) .nil)) (.swap _ _ _)
  have hapart : orderEvent.Throughout Mapping.KeysApart := by
    simp [orderEvent, Value.Throughout, EntriesThroughout, ItemsThroughout, Mapping.KeysApart,
      Key.same_text]
  have htexts : ∀ {m : Mapping}, (∀ k ∈ m.map Prod.fst, ∃ s, k = .text s) → m.Sortable := .texts
  have hsortable : orderEvent.Throughout Mapping.Sortable := by
    exact ⟨htexts (by simp), trivial,
      ⟨⟨htexts (by simp), trivial, ⟨htexts (by simp), trivial, trivial, trivial⟩, trivial⟩,
        trivial⟩,
      trivial⟩
  obtain ⟨hrender, htext⟩ := (key_order_irrelevant hsame hapart).2 hsortable
  refine ⟨(hrender _).symm, ?_⟩
  rw [← htext]
  decide +kernel

end Automation
