import Automation.Proofs.Event.Places

/-!
# The shape of a rendered value

Rendering changes texts and makes lists of tuples; it does nothing else to a value.  So where a
value renders at all, it renders to itself with other texts (`mapTexts_of_renderValue`), and what
that leaves alone is its *skeleton*: keys and their order, the lengths of sequences, and all values
that are no texts.

A lookup looks at keys and lengths only, so it goes the same way through a value whatever its texts
are (`Value.resolveAt_mapTexts`).  What it finds in a rendered value is what it finds in the value
itself, rendered (`rendering_keeps_shape`).
-/

namespace Automation

/-! ## Changing texts -/

mutual

/-- A value with its texts changed and its tuples made lists. -/
def Value.mapTexts (f : String → String) : Value → Value
  | .text s => .text (f s)
  | .mapping m => .mapping (mapEntryTexts f m)
  | .list xs => .list (mapItemTexts f xs)
  | .tuple xs => .list (mapItemTexts f xs)
  | v => v

/-- The items of a sequence with their texts changed. -/
def mapItemTexts (f : String → String) : List Value → List Value
  | [] => []
  | v :: rest => v.mapTexts f :: mapItemTexts f rest

/-- The entries of a mapping with the texts of their values changed. -/
def mapEntryTexts (f : String → String) : List (Key × Value) → List (Key × Value)
  | [] => []
  | (k, v) :: rest => (k, v.mapTexts f) :: mapEntryTexts f rest

end

/-- What a value is apart from its texts, tuples being lists. -/
def Value.skeleton (v : Value) : Value := v.mapTexts fun _ => ""

variable {f g : String → String}

mutual

theorem Value.mapTexts_mapTexts : ∀ v : Value, (v.mapTexts f).mapTexts g = v.mapTexts (g ∘ f)
  | .text _ => rfl
  | .mapping m => congrArg Value.mapping (mapEntryTexts_mapEntryTexts m)
  | .list xs => congrArg Value.list (mapItemTexts_mapItemTexts xs)
  | .tuple xs => congrArg Value.list (mapItemTexts_mapItemTexts xs)
  | .null | .bool _ | .int _ | .float _ | .bytes _ => rfl

theorem mapItemTexts_mapItemTexts : ∀ xs : List Value,
    mapItemTexts g (mapItemTexts f xs) = mapItemTexts (g ∘ f) xs
  | [] => rfl
  | v :: rest => congrArg₂ List.cons v.mapTexts_mapTexts (mapItemTexts_mapItemTexts rest)

theorem mapEntryTexts_mapEntryTexts : ∀ m : List (Key × Value),
    mapEntryTexts g (mapEntryTexts f m) = mapEntryTexts (g ∘ f) m
  | [] => rfl
  | (k, v) :: rest =>
    congrArg₂ (fun w m => (k, w) :: m) v.mapTexts_mapTexts (mapEntryTexts_mapEntryTexts rest)

end

@[simp] theorem Value.skeleton_mapTexts (v : Value) : (v.mapTexts f).skeleton = v.skeleton :=
  v.mapTexts_mapTexts

/-! ## Lookups -/

theorem mapItemTexts_eq_map (xs : List Value) : mapItemTexts f xs = xs.map (·.mapTexts f) := by
  induction xs with
  | nil => rfl
  | cons v rest ih => rw [mapItemTexts, List.map_cons, ih]

theorem find?_mapEntryTexts (key : String) (m : Mapping) :
    Mapping.find? key (mapEntryTexts f m) = (Mapping.find? key m).map (·.mapTexts f) := by
  induction m with
  | nil => rfl
  | cons e rest ih =>
    obtain ⟨k, v⟩ := e
    rw [mapEntryTexts, Mapping.find?, Mapping.find?]
    by_cases hk : k.text? = some key
    · rw [if_pos hk, if_pos hk, Option.map_some]
    · rw [if_neg hk, if_neg hk, ih]

namespace Value

/-- A segment selects the same item whatever the texts are. -/
theorem select_items_mapTexts (xs : List Value) (segment : List Char) :
    ((indexOf? segment).map fun i => i.bind ((mapItemTexts f xs)[·]?)) =
      ((indexOf? segment).map fun i => i.bind (xs[·]?)).map (Option.map (·.mapTexts f)) := by
  cases indexOf? segment with
  | error e => rfl
  | ok index =>
    cases index with
    | none => rfl
    | some i =>
      show Except.ok (mapItemTexts f xs)[i]? = Except.ok (xs[i]?.map (·.mapTexts f))
      rw [mapItemTexts_eq_map, List.getElem?_map]

theorem select_mapTexts (v : Value) (segment : List Char) :
    (v.mapTexts f).select segment = (v.select segment).map (Option.map (·.mapTexts f)) := by
  cases v with
  | mapping m =>
    show Except.ok _ = Except.ok _
    rw [find?_mapEntryTexts]
    cases segment.isEmpty <;> rfl
  | list xs => exact select_items_mapTexts xs segment
  | tuple xs => exact select_items_mapTexts xs segment
  | _ => rfl

theorem walk_mapTexts (v : Value) (segments : List (List Char)) :
    Lookup.walk (.ok (some (v.mapTexts f))) segments =
      (Lookup.walk (.ok (some v)) segments).map (Option.map (·.mapTexts f)) := by
  induction segments generalizing v with
  | nil => rfl
  | cons segment segments ih =>
    rw [walk_cons, walk_cons, select_mapTexts]
    cases v.select segment with
    | error e =>
      show Lookup.walk (.error e) segments = _
      rw [Lookup.walk_error]
      rfl
    | ok found =>
      cases found with
      | none =>
        show Lookup.walk (.ok none) segments = _
        rw [Lookup.walk_missing]
        rfl
      | some part => exact ih part

/-- A lookup goes the same way whatever the texts are. -/
theorem resolveAt_mapTexts (v path : Value) :
    (v.mapTexts f).resolveAt path = (v.resolveAt path).map (Option.map (·.mapTexts f)) := by
  cases path with
  | text s => exact walk_mapTexts v (pathSegments s.toList)
  | _ => rfl

end Value

/-! ## Rendering -/

/-- A text as it is rendered, where it is. -/
def renderedText (context : Value) (s : String) : String :=
  (renderText context s).toOption.getD ""

variable {context : Value}

mutual

/-- What renders becomes the same value with other texts. -/
theorem mapTexts_of_renderValue : ∀ {v rendered : Value},
    renderValue context v = .ok rendered → v.mapTexts (renderedText context) = rendered
  | .text s, _, h => by
    obtain ⟨t, ht, h⟩ := bind_eq_ok_iff.1 h
    cases h
    rw [Value.mapTexts, renderedText, ht]
    rfl
  | .mapping m, _, h => by
    obtain ⟨entries, hentries, h⟩ := bind_eq_ok_iff.1 h
    cases h
    rw [Value.mapTexts, mapEntryTexts_of_renderEntries hentries]
  | .list xs, _, h => by
    obtain ⟨items, hitems, h⟩ := bind_eq_ok_iff.1 h
    cases h
    rw [Value.mapTexts, mapItemTexts_of_renderItems hitems]
  | .tuple xs, _, h => by
    obtain ⟨items, hitems, h⟩ := bind_eq_ok_iff.1 h
    cases h
    rw [Value.mapTexts, mapItemTexts_of_renderItems hitems]
  | .null, _, h | .bool _, _, h | .int _, _, h | .float _, _, h | .bytes _, _, h => by
    cases h
    rfl

theorem mapItemTexts_of_renderItems : ∀ {xs rendered : List Value},
    renderItems context xs = .ok rendered → mapItemTexts (renderedText context) xs = rendered
  | [], _, h => by
    cases h
    rfl
  | v :: rest, _, h => by
    obtain ⟨first, hfirst, h⟩ := bind_eq_ok_iff.1 h
    obtain ⟨others, hothers, h⟩ := bind_eq_ok_iff.1 h
    cases h
    rw [mapItemTexts, mapTexts_of_renderValue hfirst, mapItemTexts_of_renderItems hothers]

theorem mapEntryTexts_of_renderEntries : ∀ {m rendered : List (Key × Value)},
    renderEntries context m = .ok rendered → mapEntryTexts (renderedText context) m = rendered
  | [], _, h => by
    cases h
    rfl
  | (k, v) :: rest, _, h => by
    obtain ⟨first, hfirst, h⟩ := bind_eq_ok_iff.1 h
    obtain ⟨others, hothers, h⟩ := bind_eq_ok_iff.1 h
    cases h
    rw [mapEntryTexts, mapTexts_of_renderValue hfirst, mapEntryTexts_of_renderEntries hothers]

end

/-! ## Parts of what renders -/

theorem mem_itemPlaceholders {path : String} {xs : List Value} :
    path ∈ itemPlaceholders xs ↔ ∃ v ∈ xs, path ∈ placeholders v := by
  induction xs with
  | nil => simp [itemPlaceholders]
  | cons v rest ih => simp [itemPlaceholders, ih]

theorem placeholders_subset_of_find? {m : Mapping} {key : String} {v : Value}
    (h : Mapping.find? key m = some v) : placeholders v ⊆ entryPlaceholders m := by
  induction m with
  | nil => cases h
  | cons e rest ih =>
    obtain ⟨k, w⟩ := e
    rw [entryPlaceholders]
    rw [Mapping.find?] at h
    split at h
    · cases h
      exact List.subset_append_left _ _
    · exact List.Subset.trans (ih h) (List.subset_append_right _ _)

/-- The placeholders of a part are among those of the whole. -/
theorem Value.Part.placeholders_subset {whole v : Value} {segment : List Char}
    (h : Value.Part whole segment v) : placeholders v ⊆ placeholders whole := by
  cases h with
  | entry _ hfound => exact placeholders_subset_of_find? hfound
  | @item _ _ xs _ _ hitems _ hfound =>
    have hwhole : placeholders whole = itemPlaceholders xs := by
      cases whole with
      | list | tuple =>
        cases hitems
        rfl
      | _ => cases hitems
    rw [hwhole]
    exact fun path hpath => mem_itemPlaceholders.2 ⟨v, List.mem_of_getElem? hfound, hpath⟩

theorem Value.At.placeholders_subset {whole v : Value} {segments : List (List Char)}
    (h : Value.At whole segments v) : placeholders v ⊆ placeholders whole := by
  induction h with
  | here v => exact List.Subset.refl _
  | within hfirst _ ih => exact List.Subset.trans ih hfirst.placeholders_subset

/-- What stands in a value that renders does too. -/
theorem renderValue_of_leads {config path v rendered : Value}
    (h : renderValue context config = .ok rendered) (hv : config.Leads path v) :
    renderValue context v = .ok (v.mapTexts (renderedText context)) := by
  obtain ⟨hv⟩ := hv
  obtain ⟨shown, hshown⟩ := renderValue_isOk_iff.2 fun other hother =>
    renderValue_isOk_iff.1 ⟨rendered, h⟩ other (hv.placeholders_subset hother)
  rw [hshown, mapTexts_of_renderValue hshown]

/-- Rendering keeps the shape of a value.

For a value that renders: a path stumbles in what it renders to exactly if it does in the value, in
the same way; it is missing there exactly if it is missing in the value; and what it leads to in the
value renders to what it leads to there.  Both have the same skeleton, whatever the event is, so no
event adds, drops or renames a key. -/
theorem rendering_keeps_shape {context config rendered : Value}
    (h : renderValue context config = .ok rendered) (path : Value) :
    (∀ e, rendered.resolveAt path = .error e ↔ config.resolveAt path = .error e) ∧
    (rendered.resolveAt path = .ok none ↔ config.resolveAt path = .ok none) ∧
    (∀ v, config.resolveAt path = .ok (some v) → ∃ shown, renderValue context v = .ok shown ∧
      rendered.resolveAt path = .ok (some shown)) ∧
    rendered.skeleton = config.skeleton := by
  obtain rfl := mapTexts_of_renderValue h
  rw [Value.resolveAt_mapTexts]
  refine ⟨fun e => ?_, ?_, fun v hv => ?_, Value.skeleton_mapTexts config⟩
  · cases config.resolveAt path <;> simp [Except.map]
  · cases config.resolveAt path <;> simp [Except.map]
  · refine ⟨_, renderValue_of_leads h (Value.resolveAt_eq_some_iff.1 hv), ?_⟩
    rw [hv]
    rfl

/-- A configuration with a key and texts that look like placeholders. -/
def bracedConfig : Value :=
  .mapping [("\x7b\x7ba\x7d\x7d", .text "\x7b\x7ba\x7d\x7d"),
    ("items", .tuple [.int 3, .text "<\x7b\x7b a \x7d\x7d>"])]

/-- Neither a key nor a number changes, and the text at a path is the one that stood there. -/
theorem rendering_keeps_shape_braced : ∃ rendered,
    renderValue (.mapping [("a", .text "\x7b\x7bb\x7d\x7d")]) bracedConfig = .ok rendered ∧
    rendered.skeleton = bracedConfig.skeleton ∧
    rendered.resolveAt (.text "items.1") = .ok (some (.text "<\x7b\x7bb\x7d\x7d>")) ∧
    rendered.resolveAt (.text "items.2") = .ok none := by
  have hrenders : renderValue (.mapping [("a", .text "\x7b\x7bb\x7d\x7d")]) bracedConfig =
      .ok (.mapping [("\x7b\x7ba\x7d\x7d", .text "\x7b\x7bb\x7d\x7d"),
        ("items", .list [.int 3, .text "<\x7b\x7bb\x7d\x7d>"])]) := by rfl
  obtain ⟨-, hmissing, -, hskeleton⟩ := rendering_keeps_shape hrenders (.text "items.2")
  obtain ⟨-, -, hfound, -⟩ := rendering_keeps_shape hrenders (.text "items.1")
  obtain ⟨shown, hshown, hresolved⟩ := hfound (.text "<\x7b\x7b a \x7d\x7d>") rfl
  cases hshown
  exact ⟨_, hrenders, hskeleton, hresolved, hmissing.2 rfl⟩

end Automation
