import Automation.Proofs.Rendering.Pieces
import Automation.Proofs.Rendering.Shape

/-!
# What rendering reads

Rendering a value looks at an event through the placeholders of the value and in no other way.  Two
events in which these have the same outcomes render the value alike, whether it renders or not, and
a value without placeholders renders to itself with its tuples made lists
(`rendering_reads_placeholders`).
-/

namespace Automation

/-! ## Alike outcomes -/

variable {α β ε : Type} {tell : RenderError → ε}

/-- Two computations have the same outcome, errors being the same if they are told alike. -/
def SameOutcome (tell : RenderError → ε) (x y : Except RenderError α) : Prop :=
  x.mapError tell = y.mapError tell

namespace SameOutcome

theorem refl (x : Except RenderError α) : SameOutcome tell x x := rfl

theorem bind {x y : Except RenderError α} {f g : α → Except RenderError β}
    (h : SameOutcome tell x y) (hfg : ∀ a, SameOutcome tell (f a) (g a)) :
    SameOutcome tell (x >>= f) (y >>= g) := by
  cases x with
  | error d =>
    cases y with
    | error e => exact congrArg Except.error (Except.error.inj h)
    | ok b => cases h
  | ok a =>
    cases y with
    | error e => cases h
    | ok b =>
      cases Except.ok.inj h
      exact hfg a

/-- A last step that cannot fail keeps the agreement. -/
theorem map {x y : Except RenderError α} (h : SameOutcome tell x y) (f : α → β) :
    SameOutcome tell (do return f (← x)) (do return f (← y)) :=
  h.bind fun a => refl (.ok (f a))

end SameOutcome

/-- Errors told as they are. -/
theorem sameOutcome_id_iff {x y : Except RenderError α} : SameOutcome id x y ↔ x = y := by
  cases x <;> cases y <;> simp [SameOutcome, Except.mapError]

/-! ## Placeholders that agree -/

/-- Two events in which some paths leave the same in the places of placeholders. -/
def SameFills (tell : RenderError → ε) (c d : Value) (paths : List String) : Prop :=
  ∀ path ∈ paths, SameOutcome tell (c.leaves path) (d.leaves path)

section Agreeing

variable {c d : Value}

theorem sameFills_append {ps qs : List String} :
    SameFills tell c d (ps ++ qs) ↔ SameFills tell c d ps ∧ SameFills tell c d qs :=
  List.forall_mem_append

theorem SameFills.fillPieces {ps : List Piece} (h : SameFills tell c d (Piece.paths ps)) :
    SameOutcome tell (fillPieces c ps) (fillPieces d ps) := by
  induction ps with
  | nil => exact .refl _
  | cons p ps ih =>
    have hfirst : SameOutcome tell (p.fill c) (p.fill d) := by
      cases p with
      | plain c => exact .refl _
      | hole path => exact (h (String.ofList path) List.mem_cons_self).map String.toList
    have hothers : SameFills tell c d (Piece.paths ps) := by
      cases p with
      | plain c => exact h
      | hole path => exact fun other hother => h other (List.mem_cons_of_mem _ hother)
    exact hfirst.bind fun front => (ih hothers).map (front ++ ·)

theorem SameFills.renderText {s : String} (h : SameFills tell c d (Piece.paths (textPieces s))) :
    SameOutcome tell (renderText c s) (renderText d s) :=
  h.fillPieces.map String.ofList

mutual

/-- A value renders alike in events in which its placeholders leave the same. -/
theorem SameFills.renderValue : ∀ {v : Value}, SameFills tell c d (placeholders v) →
    SameOutcome tell (renderValue c v) (renderValue d v)
  | .text _, h => (SameFills.renderText h).map Value.text
  | .mapping _, h => (SameFills.renderEntries h).map Value.mapping
  | .list _, h => (SameFills.renderItems h).map Value.list
  | .tuple _, h => (SameFills.renderItems h).map Value.list
  | .null, _ | .bool _, _ | .int _, _ | .float _, _ | .bytes _, _ => .refl _

theorem SameFills.renderItems : ∀ {xs : List Value},
    SameFills tell c d (itemPlaceholders xs) →
    SameOutcome tell (renderItems c xs) (renderItems d xs)
  | [], _ => .refl _
  | _ :: _, h =>
    (SameFills.renderValue (sameFills_append.1 h).1).bind fun v' =>
      (SameFills.renderItems (sameFills_append.1 h).2).map (v' :: ·)

theorem SameFills.renderEntries : ∀ {m : List (Key × Value)},
    SameFills tell c d (entryPlaceholders m) →
    SameOutcome tell (renderEntries c m) (renderEntries d m)
  | [], _ => .refl _
  | (k, _) :: _, h =>
    (SameFills.renderValue (sameFills_append.1 h).1).bind fun v' =>
      (SameFills.renderEntries (sameFills_append.1 h).2).map ((k, v') :: ·)

end

/-- Two events in which some paths have the same outcomes. -/
def SameOutcomes (tell : RenderError → ε) (c d : Value) (paths : List String) : Prop :=
  ∀ path ∈ paths, SameOutcome tell ((c.resolve path).mapError RenderError.path)
    ((d.resolve path).mapError RenderError.path)

/-- A value renders alike in events in which its placeholders have the same outcomes. -/
theorem sameOutcome_renderValue {v : Value} (h : SameOutcomes tell c d (placeholders v)) :
    SameOutcome tell (renderValue c v) (renderValue d v) :=
  SameFills.renderValue fun path hpath => (h path hpath).bind fun _ => .refl _

end Agreeing

/-! ## No placeholders -/

/-- A value with its tuples made lists. -/
def Value.withLists (v : Value) : Value := v.mapTexts id

mutual

theorem renderValue_of_no_placeholders (context : Value) :
    ∀ {v : Value}, placeholders v = [] → renderValue context v = .ok v.withLists
  | .text s, h => by
    rw [renderValue, renderText_of_no_paths h]
    rfl
  | .mapping m, h => by
    rw [renderValue, renderEntries_of_no_placeholders context h]
    rfl
  | .list xs, h => by
    rw [renderValue, renderItems_of_no_placeholders context h]
    rfl
  | .tuple xs, h => by
    rw [renderValue, renderItems_of_no_placeholders context h]
    rfl
  | .null, _ | .bool _, _ | .int _, _ | .float _, _ | .bytes _, _ => rfl

theorem renderItems_of_no_placeholders (context : Value) :
    ∀ {xs : List Value}, itemPlaceholders xs = [] →
      renderItems context xs = .ok (mapItemTexts id xs)
  | [], _ => rfl
  | v :: rest, h => by
    obtain ⟨hv, hrest⟩ := List.append_eq_nil_iff.1 h
    rw [renderItems, renderValue_of_no_placeholders context hv,
      renderItems_of_no_placeholders context hrest]
    rfl

theorem renderEntries_of_no_placeholders (context : Value) :
    ∀ {m : List (Key × Value)}, entryPlaceholders m = [] →
      renderEntries context m = .ok (mapEntryTexts id m)
  | [], _ => rfl
  | (k, v) :: rest, h => by
    obtain ⟨hv, hrest⟩ := List.append_eq_nil_iff.1 h
    rw [renderEntries, renderValue_of_no_placeholders context hv,
      renderEntries_of_no_placeholders context hrest]
    rfl

end

/-! ## The set of placeholders -/

theorem mem_insertDistinct {s t : String} {ps : List String} :
    t ∈ insertDistinct s ps ↔ t = s ∨ t ∈ ps := by
  induction ps with
  | nil => simp [insertDistinct]
  | cons p ps ih =>
    rw [insertDistinct]
    by_cases hsame : s = p
    · simp [hsame]
    · rw [if_neg hsame]
      by_cases hbefore : s < p
      · simp [hbefore]
      · rw [if_neg hbefore, List.mem_cons, ih, List.mem_cons]
        exact or_left_comm

/-- The set of placeholders has the same members as their list. -/
theorem mem_placeholderSet {v : Value} {path : String} :
    path ∈ placeholderSet v ↔ path ∈ placeholders v := by
  rw [placeholderSet]
  induction placeholders v with
  | nil => rfl
  | cons p ps ih => rw [List.foldr_cons, mem_insertDistinct, ih, List.mem_cons]

/-- Rendering reads an event through the placeholders of a value only.

For two events in which every placeholder of a value has the same outcome, a value, missing or an
error, the value renders to the same outcome; this holds of errors as they are and of errors told in
any way.  A value without placeholders renders, for every event, to itself with its tuples made
lists. -/
theorem rendering_reads_placeholders (config : Value) :
    (∀ {ε : Type} (tell : RenderError → ε) (c d : Value),
      (∀ path ∈ placeholderSet config,
        (c.resolve path).mapError (tell ∘ .path) = (d.resolve path).mapError (tell ∘ .path)) →
      (renderValue c config).mapError tell = (renderValue d config).mapError tell) ∧
    (placeholderSet config = [] → ∀ context,
      renderValue context config = .ok config.withLists) := by
  constructor
  · intro ε tell c d h
    refine sameOutcome_renderValue fun path hpath => ?_
    rw [SameOutcome, mapError_mapError, mapError_mapError]
    exact h path (mem_placeholderSet.2 hpath)
  · intro h context
    refine renderValue_of_no_placeholders context (List.eq_nil_iff_forall_not_mem.2 ?_)
    intro path hpath
    rw [← mem_placeholderSet, h] at hpath
    cases hpath

/-- A configuration that reads one path, and looks as if it read another one. -/
def letterConfig : Value :=
  .mapping [("to", .text "\x7b\x7bcustomer.email\x7d\x7d"), ("secret", .text "\x7b\x7bsecret\x7d")]

/-- An event with a secret. -/
def secretEvent (secret : String) : Value :=
  .mapping [("secret", .text secret), ("customer", .mapping [("email", .text "a@b.c")])]

/-- Events that differ in a secret which is not read render a configuration alike. -/
theorem rendering_reads_placeholders_letter :
    placeholderSet letterConfig = ["customer.email"] ∧
    (renderValue (secretEvent "one") letterConfig).mapError RenderError.message =
      (renderValue (secretEvent "two") letterConfig).mapError RenderError.message := by
  have hset : placeholderSet letterConfig = ["customer.email"] := by decide +kernel
  refine ⟨hset, (rendering_reads_placeholders letterConfig).1 _ _ _ fun path hpath => ?_⟩
  rw [hset] at hpath
  obtain rfl := List.mem_singleton.1 hpath
  rfl

end Automation
