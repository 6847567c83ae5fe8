import Automation.Condition
import Automation.Proofs.Checks
import Automation.Proofs.Value.Keys
import Automation.Proofs.Workflow.Normal
import Automation.Rendering

/-!
# Places in an event

A segment selects a *part* of a value: an entry of a mapping under its key, or an item of a sequence
at the index that the segment spells in decimal digits (`Value.Part`).  The value at a path is the
part of a part, and so on along the segments (`Value.At`).

A path may also *stumble* (`Value.StumblesAt`): it leads to a sequence, and the next segment is made
of digits but spells no index, since it has too many digits or one that is no decimal digit.  What
is neither found nor stumbled over is missing.  So a lookup has exactly three outcomes, and these
say which (`resolve_outcomes`).  A placeholder that is missing leaves nothing in its text; one that
stumbles, or that leads to a value without a text, cannot be filled (`Value.Unfillable`), and a
configuration fails to render exactly as the first such placeholder in it.

That a path stumbles at all, where any other segment that is no index is just missing, is shown by
one superscript (`resolve_superscript`).
-/

namespace Automation

/-! ## Segments -/

/-- The segment spells an index: its characters are decimal digits, and not too many. -/
structure Spells (segment : List Char) (n : Nat) : Prop where
  ne_nil : segment ≠ []
  length : segment.length ≤ IndexError.digitLimit
  value : Text.digitsValue? segment = some n

/-- How a segment whose characters all are digits of some sort spells no index.  Only the decimal
digits at its front are counted. -/
inductive Stumbles (segment : List Char) : IndexError → Prop where
  | tooLong (ne_nil : segment ≠ []) (digits : ∀ c ∈ segment, Text.isDigit c = true)
      (long : IndexError.digitLimit <
        (segment.takeWhile fun c => (Text.digitValue? c).isSome).length) :
      Stumbles segment
        (.tooLong (segment.takeWhile fun c => (Text.digitValue? c).isSome).length)
  | notDecimal (ne_nil : segment ≠ []) (digits : ∀ c ∈ segment, Text.isDigit c = true)
      (short : (segment.takeWhile fun c => (Text.digitValue? c).isSome).length ≤
        IndexError.digitLimit)
      (other : ∃ c ∈ segment, Text.digitValue? c = none) :
      Stumbles segment (.notDecimal (String.ofList segment))

namespace Text

theorem foldl_digits_none (cs : List Char) :
    cs.foldl (fun acc c => do return 10 * (← acc) + (← digitValue? c)) (none : Option Nat) =
      none := by
  induction cs with
  | nil => rfl
  | cons c cs ih => exact ih

theorem isSome_foldl_digits (cs : List Char) (n : Nat) :
    (cs.foldl (fun acc c => do return 10 * (← acc) + (← digitValue? c)) (some n)).isSome = true ↔
      ∀ c ∈ cs, (digitValue? c).isSome = true := by
  induction cs generalizing n with
  | nil => simp
  | cons c cs ih =>
    rw [List.foldl_cons, List.forall_mem_cons]
    cases hc : digitValue? c with
    | none =>
      have hstep :
          (do return 10 * (← some n) + (← (none : Option Nat))) = (none : Option Nat) := rfl
      rw [hstep, foldl_digits_none]
      simp
    | some k =>
      rw [← ih (10 * n + k)]
      simp

/-- Digits spell a number exactly if they are decimal digits. -/
theorem isSome_digitsValue? {cs : List Char} :
    (digitsValue? cs).isSome = true ↔ ∀ c ∈ cs, (digitValue? c).isSome = true :=
  isSome_foldl_digits cs 0

theorem isDigit_of_digitValue? {c : Char} (h : (digitValue? c).isSome = true) :
    isDigit c = true := by
  rw [isDigit, h, Bool.true_or]

end Text

/-- A segment spells at most one index. -/
theorem Spells.unique {segment : List Char} {m n : Nat} (hm : Spells segment m)
    (hn : Spells segment n) : m = n :=
  Option.some.inj (hm.value.symm.trans hn.value)

theorem Spells.decimal {segment : List Char} {n : Nat} (h : Spells segment n) :
    ∀ c ∈ segment, (Text.digitValue? c).isSome = true :=
  Text.isSome_digitsValue?.1 (Option.isSome_iff_exists.2 ⟨n, h.value⟩)

/-- A segment that spells an index is not stumbled over. -/
theorem Spells.not_stumbles {segment : List Char} {n : Nat} (h : Spells segment n)
    (e : IndexError) : ¬ Stumbles segment e := by
  intro hstumbles
  cases hstumbles with
  | tooLong _ _ hlong =>
    rw [List.takeWhile_eq_self_iff.2 h.decimal] at hlong
    exact absurd h.length (Nat.not_le_of_lt hlong)
  | notDecimal _ _ _ hother =>
    obtain ⟨c, hc, hnone⟩ := hother
    have hsome := h.decimal c hc
    rw [hnone] at hsome
    cases hsome

/-- A segment is stumbled over in one way. -/
theorem Stumbles.unique {segment : List Char} {e f : IndexError} (he : Stumbles segment e)
    (hf : Stumbles segment f) : e = f := by
  cases he with
  | tooLong _ _ hlong =>
    cases hf with
    | tooLong => rfl
    | notDecimal _ _ hshort => exact absurd hlong (Nat.not_lt_of_le hshort)
  | notDecimal _ _ hshort =>
    cases hf with
    | tooLong _ _ hlong => exact absurd hlong (Nat.not_lt_of_le hshort)
    | notDecimal => rfl

/-- What is made of digits has a character, and all of them are digits. -/
theorem madeOfDigits_iff {segment : List Char} :
    (segment.isEmpty || !segment.all Text.isDigit) = false ↔
      segment ≠ [] ∧ ∀ c ∈ segment, Text.isDigit c = true := by
  rw [Bool.or_eq_false_iff, Bool.not_eq_false', List.all_eq_true, List.isEmpty_eq_false_iff]

/-- What a segment is as an index: one that it spells, an error, or none. -/
theorem indexOf?_cases (segment : List Char) :
    (∃ n, Spells segment n ∧ indexOf? segment = .ok (some n)) ∨
    (∃ e, Stumbles segment e ∧ indexOf? segment = .error e) ∨
    ((∀ n, ¬ Spells segment n) ∧ (∀ e, ¬ Stumbles segment e) ∧ indexOf? segment = .ok none) := by
  rw [indexOf?]
  cases hdigits : segment.isEmpty || !segment.all Text.isDigit with
  | true =>
    have hno : ¬ (segment ≠ [] ∧ ∀ c ∈ segment, Text.isDigit c = true) := by
      rw [← madeOfDigits_iff, hdigits]
      nofun
    refine .inr (.inr ⟨fun n hn => ?_, fun e he => ?_, if_pos rfl⟩)
    · exact hno ⟨hn.ne_nil, fun c hc => Text.isDigit_of_digitValue? (hn.decimal c hc)⟩
    · cases he with
      | tooLong hne hall => exact hno ⟨hne, hall⟩
      | notDecimal hne hall => exact hno ⟨hne, hall⟩
  | false =>
    obtain ⟨hne, hall⟩ := madeOfDigits_iff.1 hdigits
    simp only [Bool.false_eq_true, if_false]
    split
    · rename_i hlong
      exact .inr (.inl ⟨_, .tooLong hne hall hlong, rfl⟩)
    · rename_i hshort
      have hshort := Nat.le_of_not_lt hshort
      cases hvalue : Text.digitsValue? segment with
      | some n =>
        have hdecimal := Text.isSome_digitsValue?.1 (Option.isSome_iff_exists.2 ⟨n, hvalue⟩)
        rw [List.takeWhile_eq_self_iff.2 hdecimal] at hshort
        exact .inl ⟨n, ⟨hne, hshort, hvalue⟩, rfl⟩
      | none =>
        refine .inr (.inl ⟨_, .notDecimal hne hall hshort ?_, rfl⟩)
        by_contra hother
        have hdecimal : ∀ c ∈ segment, (Text.digitValue? c).isSome = true := fun c hc =>
          Option.isSome_iff_ne_none.2 fun hnone => hother ⟨c, hc, hnone⟩
        have hsome := Text.isSome_digitsValue?.2 hdecimal
        rw [hvalue] at hsome
        cases hsome

theorem indexOf?_eq_some_iff {segment : List Char} {n : Nat} :
    indexOf? segment = .ok (some n) ↔ Spells segment n := by
  rcases indexOf?_cases segment with ⟨k, hk, h⟩ | ⟨e, he, h⟩ | ⟨hno, -, h⟩
  · rw [h]
    constructor
    · intro heq
      cases heq
      exact hk
    · intro hn
      rw [hk.unique hn]
  · rw [h]
    exact iff_of_false nofun fun hn => hn.not_stumbles e he
  · rw [h]
    exact iff_of_false nofun (hno n)

theorem indexOf?_eq_error_iff {segment : List Char} {e : IndexError} :
    indexOf? segment = .error e ↔ Stumbles segment e := by
  rcases indexOf?_cases segment with ⟨k, hk, h⟩ | ⟨f, hf, h⟩ | ⟨-, hno, h⟩
  · rw [h]
    exact iff_of_false nofun (hk.not_stumbles e)
  · rw [h]
    constructor
    · intro heq
      cases heq
      exact hf
    · intro he
      rw [hf.unique he]
  · rw [h]
    exact iff_of_false nofun (hno e)

namespace Value

/-! ## Parts -/

/-- A value is the part of another one that a segment selects. -/
inductive Part : Value → List Char → Value → Prop where
  | entry {m : Mapping} {segment : List Char} {v : Value} (ne_nil : segment ≠ [])
      (found : Mapping.find? (String.ofList segment) m = some v) : Part (.mapping m) segment v
  | item {whole v : Value} {xs : List Value} {segment : List Char} {i : Nat}
      (items : whole.items? = some xs) (index : Spells segment i) (found : xs[i]? = some v) :
      Part whole segment v

/-- A segment selects an item of a sequence by its index. -/
theorem select_of_items {whole : Value} {xs : List Value} (h : whole.items? = some xs)
    (segment : List Char) :
    whole.select segment = (indexOf? segment).map fun i => i.bind (xs[·]?) := by
  cases whole with
  | list | tuple =>
    cases h
    rfl
  | _ => cases h

/-- Without entries and items there are no parts. -/
theorem select_of_no_parts {whole : Value} (hentries : whole.entries? = none)
    (hitems : whole.items? = none) (segment : List Char) : whole.select segment = .ok none := by
  cases whole with
  | mapping => cases hentries
  | list | tuple => cases hitems
  | _ => rfl

theorem select_eq_some_iff {whole v : Value} {segment : List Char} :
    whole.select segment = .ok (some v) ↔ Part whole segment v := by
  cases hitems : whole.items? with
  | some xs =>
    rw [select_of_items hitems, map_eq_ok_iff]
    constructor
    · rintro ⟨index, hindex, hv⟩
      obtain ⟨i, rfl, hi⟩ := Option.bind_eq_some_iff.1 hv
      exact .item hitems (indexOf?_eq_some_iff.1 hindex) hi
    · intro h
      cases h with
      | entry => cases hitems
      | item hxs hindex hi =>
        cases hitems.symm.trans hxs
        exact ⟨_, indexOf?_eq_some_iff.2 hindex, hi⟩
  | none =>
    cases hentries : whole.entries? with
    | none =>
      rw [select_of_no_parts hentries hitems]
      refine iff_of_false nofun fun h => ?_
      cases h with
      | entry => cases hentries
      | item hxs => cases hitems.symm.trans hxs
    | some m =>
      obtain rfl : whole = .mapping m := by
        cases whole with
        | mapping =>
          cases hentries
          rfl
        | _ => cases hentries
      constructor
      · intro h
        rw [select, Except.ok.injEq, Option.ite_none_left_eq_some, List.isEmpty_iff] at h
        exact .entry h.1 h.2
      · intro h
        cases h with
        | entry hne hfound =>
          rw [select, if_neg (by rwa [List.isEmpty_iff]), hfound]
        | item hxs => cases hxs

theorem select_eq_error_iff {whole : Value} {segment : List Char} {e : IndexError} :
    whole.select segment = .error e ↔ whole.items?.isSome = true ∧ Stumbles segment e := by
  cases hitems : whole.items? with
  | some xs =>
    rw [select_of_items hitems, ← indexOf?_eq_error_iff]
    cases indexOf? segment <;> simp [Except.map]
  | none =>
    refine iff_of_false (fun h => ?_) nofun
    cases whole with
    | list | tuple => cases hitems
    | _ => cases h

/-- Inside a part are mappings only that are inside the whole. -/
theorem Part.throughout {p : Mapping → Prop} {whole part : Value} {segment : List Char}
    (h : Part whole segment part) (hp : whole.Throughout p) : part.Throughout p := by
  cases h with
  | entry _ hfound =>
    obtain ⟨k, hk⟩ := Mapping.exists_mem_of_find? hfound
    exact hp.2.of_mem hk
  | item hitems _ hfound =>
    have hmem := List.mem_of_getElem? hfound
    cases whole with
    | list | tuple =>
      cases hitems
      exact ItemsThroughout.of_mem hp hmem
    | _ => cases hitems

/-! ## Places -/

/-- A value stands in another one at the end of some segments. -/
inductive At : Value → List (List Char) → Value → Prop where
  | here (v : Value) : At v [] v
  | within {whole part v : Value} {segment : List Char} {segments : List (List Char)}
      (first : Part whole segment part) (rest : At part segments v) :
      At whole (segment :: segments) v

/-- Segments lead to a sequence, and the next one is stumbled over. -/
inductive StumblesAt : Value → List (List Char) → IndexError → Prop where
  | here {whole : Value} {segment : List Char} {e : IndexError}
      (sequence : whole.items?.isSome = true) (next : Stumbles segment e)
      (segments : List (List Char)) : StumblesAt whole (segment :: segments) e
  | within {whole part : Value} {segment : List Char} {segments : List (List Char)}
      {e : IndexError} (first : Part whole segment part) (rest : StumblesAt part segments e) :
      StumblesAt whole (segment :: segments) e

theorem At.throughout {p : Mapping → Prop} {whole v : Value} {segments : List (List Char)}
    (h : At whole segments v) (hp : whole.Throughout p) : v.Throughout p := by
  induction h with
  | here => exact hp
  | within hfirst _ ih => exact ih (hfirst.throughout hp)

/-- What segments after the first one find is found in the part that the first one selects. -/
theorem walk_cons (whole : Value) (segment : List Char) (segments : List (List Char)) :
    Lookup.walk (.ok (some whole)) (segment :: segments) =
      Lookup.walk (whole.select segment) segments := rfl

theorem walk_eq_some_iff {whole v : Value} {segments : List (List Char)} :
    Lookup.walk (.ok (some whole)) segments = .ok (some v) ↔ At whole segments v := by
  induction segments generalizing whole with
  | nil =>
    constructor
    · intro h
      cases h
      exact .here v
    · intro h
      cases h
      rfl
  | cons segment segments ih =>
    rw [walk_cons]
    constructor
    · intro h
      cases hselect : whole.select segment with
      | error e =>
        rw [hselect, Lookup.walk_error] at h
        cases h
      | ok found =>
        rw [hselect] at h
        cases found with
        | none =>
          rw [Lookup.walk_missing] at h
          cases h
        | some part => exact .within (select_eq_some_iff.1 hselect) (ih.1 h)
    · intro h
      cases h with
      | within hfirst hrest =>
        rw [select_eq_some_iff.2 hfirst]
        exact ih.2 hrest

theorem walk_eq_error_iff {whole : Value} {segments : List (List Char)} {e : IndexError} :
    Lookup.walk (.ok (some whole)) segments = .error e ↔ StumblesAt whole segments e := by
  induction segments generalizing whole with
  | nil => exact iff_of_false nofun nofun
  | cons segment segments ih =>
    rw [walk_cons]
    constructor
    · intro h
      cases hselect : whole.select segment with
      | error f =>
        rw [hselect, Lookup.walk_error] at h
        cases h
        obtain ⟨hsequence, hnext⟩ := select_eq_error_iff.1 hselect
        exact .here hsequence hnext segments
      | ok found =>
        rw [hselect] at h
        cases found with
        | none =>
          rw [Lookup.walk_missing] at h
          cases h
        | some part => exact .within (select_eq_some_iff.1 hselect) (ih.1 h)
    · intro h
      cases h with
      | here hsequence hnext =>
        rw [select_eq_error_iff.2 ⟨hsequence, hnext⟩, Lookup.walk_error]
      | within hfirst hrest =>
        rw [select_eq_some_iff.2 hfirst]
        exact ih.2 hrest

/-- A path, given as a value, leads to a value: it is a text, and its segments lead there. -/
inductive Leads (context : Value) : Value → Value → Prop where
  | text {s : String} {v : Value} (h : At context (pathSegments s.toList) v) :
      Leads context (.text s) v

/-- A path, given as a value, stumbles. -/
inductive LeadsAstray (context : Value) : Value → IndexError → Prop where
  | text {s : String} {e : IndexError} (h : StumblesAt context (pathSegments s.toList) e) :
      LeadsAstray context (.text s) e

theorem resolveAt_text (context : Value) (s : String) :
    context.resolveAt (.text s) = context.resolve s := rfl

theorem resolveAt_eq_some_iff {context path v : Value} :
    context.resolveAt path = .ok (some v) ↔ Leads context path v := by
  constructor
  · intro h
    cases path with
    | text s => exact .text (walk_eq_some_iff.1 h)
    | _ => cases h
  · rintro ⟨h⟩
    exact walk_eq_some_iff.2 h

theorem resolveAt_eq_error_iff {context path : Value} {e : IndexError} :
    context.resolveAt path = .error e ↔ LeadsAstray context path e := by
  constructor
  · intro h
    cases path with
    | text s => exact .text (walk_eq_error_iff.1 h)
    | _ => cases h
  · rintro ⟨h⟩
    exact walk_eq_error_iff.2 h

/-- What is neither found nor stumbled over is missing. -/
theorem resolveAt_eq_none_iff {context path : Value} :
    context.resolveAt path = .ok none ↔
      (∀ v, ¬ Leads context path v) ∧ ∀ e, ¬ LeadsAstray context path e := by
  simp only [← resolveAt_eq_some_iff, ← resolveAt_eq_error_iff]
  cases context.resolveAt path with
  | error e => simp
  | ok found => cases found <;> simp

end Value

/-! ## Placeholders -/

/-- What a piece of a text leaves in it: a character itself, a placeholder the text of the value
at its path, and nothing if that is missing. -/
inductive Piece.Leaves (context : Value) : Piece → List Char → Prop where
  | plain (c : Char) : Leaves context (.plain c) [c]
  | found {path : List Char} {v : Value} {text : String}
      (h : context.Leads (.text (String.ofList path)) v) (written : v.insertText = .ok text) :
      Leaves context (.hole path) text.toList
  | missing {path : List Char} (nowhere : ∀ v, ¬ context.Leads (.text (String.ofList path)) v)
      (smooth : ∀ e, ¬ context.LeadsAstray (.text (String.ofList path)) e) :
      Leaves context (.hole path) []

/-- A placeholder that cannot be filled: its path stumbles, or leads to a value without a text. -/
inductive Value.Unfillable (context : Value) (path : String) : RenderError → Prop where
  | path {e : IndexError} (h : context.LeadsAstray (.text path) e) :
      Unfillable context path (.path e)
  | format {v : Value} {e : FormatError} (h : context.Leads (.text path) v)
      (unwritten : v.insertText = .error e) : Unfillable context path (.format e)

/-- A placeholder fails to be filled exactly if it cannot be. -/
theorem Value.leaves_eq_error_iff {context : Value} {path : String} {e : RenderError} :
    context.leaves path = .error e ↔ context.Unfillable path e := by
  simp only [leaves, bind_eq_error_iff, mapError_eq_error_iff, mapError_eq_ok_iff,
    ← context.resolveAt_text]
  constructor
  · rintro (⟨f, hf, rfl⟩ | ⟨found, hfound, f, hf, rfl⟩)
    · exact .path (resolveAt_eq_error_iff.1 hf)
    · cases found with
      | none => cases hf
      | some v => exact .format (resolveAt_eq_some_iff.1 hfound) hf
  · intro h
    cases h with
    | path h => exact .inl ⟨_, resolveAt_eq_error_iff.2 h, rfl⟩
    | format h hunwritten => exact .inr ⟨_, resolveAt_eq_some_iff.2 h, _, hunwritten, rfl⟩

theorem Piece.fill_eq_ok_iff {context : Value} {p : Piece} {cs : List Char} :
    p.fill context = .ok cs ↔ p.Leaves context cs := by
  cases p with
  | plain c =>
    constructor
    · intro h
      cases h
      exact .plain c
    · rintro ⟨⟩
      rfl
  | hole path =>
    simp only [fill, Value.leaves, bind_eq_ok_iff, pure_eq_ok_iff, mapError_eq_ok_iff,
      ← context.resolveAt_text]
    constructor
    · rintro ⟨text, ⟨found, hfound, htext⟩, rfl⟩
      cases found with
      | none =>
        cases htext
        obtain ⟨hnowhere, hsmooth⟩ := Value.resolveAt_eq_none_iff.1 hfound
        exact .missing hnowhere hsmooth
      | some v => exact .found (Value.resolveAt_eq_some_iff.1 hfound) htext
    · intro h
      cases h with
      | found h hwritten => exact ⟨_, ⟨_, Value.resolveAt_eq_some_iff.2 h, hwritten⟩, rfl⟩
      | missing hnowhere hsmooth =>
        exact ⟨_, ⟨_, Value.resolveAt_eq_none_iff.2 ⟨hnowhere, hsmooth⟩, rfl⟩, rfl⟩

theorem fillPieces_eq_ok_iff {context : Value} {ps : List Piece} {cs : List Char} :
    fillPieces context ps = .ok cs ↔
      ∃ parts, List.Forall₂ (Piece.Leaves context) ps parts ∧ parts.flatten = cs := by
  induction ps generalizing cs with
  | nil =>
    simp only [fillPieces, List.forall₂_nil_left_iff, exists_eq_left, List.flatten_nil,
      Except.ok.injEq]
  | cons p ps ih =>
    simp only [fillPieces, bind_eq_ok_iff, pure_eq_ok_iff, ih, Piece.fill_eq_ok_iff]
    constructor
    · rintro ⟨front, hfront, -, ⟨parts, hparts, rfl⟩, rfl⟩
      exact ⟨front :: parts, .cons hfront hparts, rfl⟩
    · rintro ⟨parts, hall, rfl⟩
      cases hall with
      | cons hfront hparts => exact ⟨_, hfront, _, ⟨_, hparts, rfl⟩, rfl⟩

/-- A text renders to what its pieces leave. -/
theorem renderText_eq_ok_iff {context : Value} {s t : String} :
    renderText context s = .ok t ↔
      ∃ parts, List.Forall₂ (Piece.Leaves context) (textPieces s) parts ∧
        String.ofList parts.flatten = t := by
  simp only [renderText, bind_eq_ok_iff, pure_eq_ok_iff, fillPieces_eq_ok_iff]
  constructor
  · rintro ⟨-, ⟨parts, hparts, rfl⟩, ht⟩
    exact ⟨parts, hparts, ht⟩
  · rintro ⟨parts, hparts, ht⟩
    exact ⟨_, ⟨parts, hparts, rfl⟩, ht⟩

/-- The first of some placeholders that cannot be filled has this error. -/
inductive FirstUnfillable (context : Value) : List String → RenderError → Prop where
  | here {path : String} {e : RenderError} (h : context.Unfillable path e)
      (paths : List String) : FirstUnfillable context (path :: paths) e
  | later {path : String} {paths : List String} {e : RenderError}
      (fillable : ∀ f, ¬ context.Unfillable path f) (h : FirstUnfillable context paths e) :
      FirstUnfillable context (path :: paths) e

/-- Some placeholder is the first one that cannot be filled exactly if one cannot. -/
theorem exists_firstUnfillable_iff {context : Value} {paths : List String} :
    (∃ e, FirstUnfillable context paths e) ↔
      ∃ path ∈ paths, ∃ e, context.Unfillable path e := by
  induction paths with
  | nil => exact iff_of_false nofun nofun
  | cons path paths ih =>
    constructor
    · rintro ⟨e, h⟩
      cases h with
      | here h => exact ⟨path, List.mem_cons_self, e, h⟩
      | later _ h =>
        obtain ⟨other, hmem, hother⟩ := ih.1 ⟨e, h⟩
        exact ⟨other, List.mem_cons_of_mem path hmem, hother⟩
    · rintro ⟨other, hmem, e, h⟩
      by_cases hpath : ∃ f, context.Unfillable path f
      · obtain ⟨f, hf⟩ := hpath
        exact ⟨f, .here hf paths⟩
      · rcases List.mem_cons.1 hmem with rfl | hmem
        · exact absurd ⟨e, h⟩ hpath
        · obtain ⟨f, hf⟩ := ih.2 ⟨other, hmem, e, h⟩
          exact ⟨f, .later (not_exists.1 hpath) hf⟩

theorem firstUnfillable_append_iff {context : Value} {ps qs : List String} {e : RenderError} :
    FirstUnfillable context (ps ++ qs) e ↔
      FirstUnfillable context ps e ∨
        (∀ f, ¬ FirstUnfillable context ps f) ∧ FirstUnfillable context qs e := by
  induction ps with
  | nil =>
    constructor
    · exact fun h => .inr ⟨nofun, h⟩
    · rintro (h | ⟨-, h⟩)
      · cases h
      · exact h
  | cons p ps ih =>
    constructor
    · intro h
      cases h with
      | here h => exact .inl (.here h ps)
      | later hp h =>
        rcases ih.1 h with hps | ⟨hno, hqs⟩
        · exact .inl (.later hp hps)
        · refine .inr ⟨fun f hf => ?_, hqs⟩
          cases hf with
          | here hf => exact hp f hf
          | later _ hf => exact hno f hf
    · rintro (h | ⟨hno, h⟩)
      · cases h with
        | here h => exact .here h (ps ++ qs)
        | later hp h => exact .later hp (ih.2 (.inl h))
      · refine .later (fun f hf => hno f (.here hf ps)) (ih.2 (.inr ⟨fun f hf => ?_, h⟩))
        by_cases hp : ∃ g, context.Unfillable p g
        · obtain ⟨g, hg⟩ := hp
          exact hno g (.here hg ps)
        · exact hno f (.later (not_exists.1 hp) hf)

/-- A computation that fails as some paths do. -/
def FailsAs {α : Type} (context : Value) (x : Except RenderError α) (paths : List String) : Prop :=
  ∀ e, x = .error e ↔ FirstUnfillable context paths e

theorem FailsAs.pure {α : Type} (context : Value) (a : α) : FailsAs context (.ok a) [] :=
  fun _ => iff_of_false nofun nofun

/-- One computation after another fails as the paths of both do, in their order. -/
theorem FailsAs.bind {α β : Type} {context : Value} {x : Except RenderError α}
    {f : α → Except RenderError β} {ps qs : List String} (hx : FailsAs context x ps)
    (hf : ∀ a, FailsAs context (f a) qs) : FailsAs context (x >>= f) (ps ++ qs) := by
  intro e
  rw [firstUnfillable_append_iff, ← hx e]
  cases x with
  | error d =>
    have hps : FirstUnfillable context ps d := (hx d).1 rfl
    constructor
    · intro h
      cases h
      exact .inl rfl
    · rintro (h | ⟨hno, -⟩)
      · cases h
        rfl
      · exact absurd hps (hno d)
  | ok a =>
    have hno : ∀ d, ¬ FirstUnfillable context ps d := fun d hd => nomatch (hx d).2 hd
    constructor
    · exact fun h => .inr ⟨hno, (hf a e).1 h⟩
    · rintro (h | ⟨-, h⟩)
      · cases h
      · exact (hf a e).2 h

/-- A last step that cannot fail changes nothing. -/
theorem FailsAs.map {α β : Type} {context : Value} {x : Except RenderError α} {ps : List String}
    (hx : FailsAs context x ps) (f : α → β) :
    FailsAs context (do return f (← x)) ps := by
  have h := hx.bind fun a => FailsAs.pure context (f a)
  rwa [List.append_nil] at h

/-- A piece fails as its placeholder does. -/
theorem Piece.fill_failsAs (context : Value) (p : Piece) :
    FailsAs context (p.fill context) (Piece.paths [p]) := by
  cases p with
  | plain c => exact FailsAs.pure context [c]
  | hole path =>
    have hleaves : FailsAs context (context.leaves (String.ofList path)) [String.ofList path] := by
      intro e
      rw [Value.leaves_eq_error_iff]
      constructor
      · exact fun h => .here h []
      · rintro (h | ⟨-, h⟩)
        · exact h
        · cases h
    exact hleaves.map String.toList

theorem fillPieces_failsAs (context : Value) (ps : List Piece) :
    FailsAs context (fillPieces context ps) (Piece.paths ps) := by
  induction ps with
  | nil => exact FailsAs.pure context []
  | cons p ps ih =>
    have hpaths : Piece.paths (p :: ps) = Piece.paths [p] ++ Piece.paths ps := by
      simp only [Piece.paths, ← List.filterMap_append, List.singleton_append]
    rw [hpaths]
    exact (p.fill_failsAs context).bind fun front => ih.map (front ++ ·)

theorem renderText_failsAs (context : Value) (s : String) :
    FailsAs context (renderText context s) (Piece.paths (textPieces s)) :=
  (fillPieces_failsAs context (textPieces s)).map String.ofList

mutual

/-- A configuration fails to render as the first of its placeholders that cannot be filled. -/
theorem renderValue_failsAs (context : Value) :
    ∀ v : Value, FailsAs context (renderValue context v) (placeholders v)
  | .text s => (renderText_failsAs context s).map Value.text
  | .mapping m => (renderEntries_failsAs context m).map Value.mapping
  | .list xs => (renderItems_failsAs context xs).map Value.list
  | .tuple xs => (renderItems_failsAs context xs).map Value.list
  | .null => .pure context _
  | .bool _ => .pure context _
  | .int _ => .pure context _
  | .float _ => .pure context _
  | .bytes _ => .pure context _

theorem renderItems_failsAs (context : Value) :
    ∀ xs : List Value, FailsAs context (renderItems context xs) (itemPlaceholders xs)
  | [] => .pure context []
  | v :: rest =>
    (renderValue_failsAs context v).bind fun v' => (renderItems_failsAs context rest).map (v' :: ·)

theorem renderEntries_failsAs (context : Value) :
    ∀ m : List (Key × Value), FailsAs context (renderEntries context m) (entryPlaceholders m)
  | [] => .pure context []
  | (k, v) :: rest =>
    (renderValue_failsAs context v).bind fun v' =>
      (renderEntries_failsAs context rest).map ((k, v') :: ·)

end

/-- A configuration renders exactly if all of its placeholders can be filled. -/
theorem renderValue_isOk_iff {context config : Value} :
    (∃ rendered, renderValue context config = .ok rendered) ↔
      ∀ path ∈ placeholders config, ∀ e, ¬ context.Unfillable path e := by
  have hfails := renderValue_failsAs context config
  cases hrender : renderValue context config with
  | ok rendered =>
    refine iff_of_true ⟨rendered, rfl⟩ fun path hpath e he => ?_
    obtain ⟨f, hf⟩ := exists_firstUnfillable_iff.2 ⟨path, hpath, e, he⟩
    have herror := (hfails f).2 hf
    rw [hrender] at herror
    cases herror
  | error e =>
    refine iff_of_false nofun fun hfillable => ?_
    obtain ⟨path, hpath, f, hf⟩ := exists_firstUnfillable_iff.1 ⟨e, (hfails e).1 hrender⟩
    exact hfillable path hpath f hf

/-! ## Conditions -/

theorem Value.equals_null_iff {v : Value} : v.equals .null = true ↔ v = .null := by
  cases v <;> simp [equals, number?]

namespace Condition

/-- A condition with an operator under its own name. -/
def comparing (field : Value) (op : Operator) (literal : Value) : Condition :=
  ⟨field, .text op.name, literal⟩

theorem holds_comparing {context field literal : Value} {op : Operator} :
    (comparing field op literal).holds context = true ↔
      ∃ found, context.resolveAt field = .ok found ∧ op.holds found literal = true := by
  have hop : Operator.ofValue? (.text op.name) = some op := Operator.ofValue?_eq_some_iff.2 rfl
  simp only [comparing, holds, hop]
  cases context.resolveAt field <;> simp

theorem holds_comparing_of_leads {context field literal v : Value} {op : Operator}
    (h : context.Leads field v) :
    (comparing field op literal).holds context = true ↔ op.holds (some v) literal = true := by
  rw [holds_comparing, Value.resolveAt_eq_some_iff.2 h]
  simp

/-- A path is null in an event if null stands there or nothing does. -/
theorem holds_equals_null_iff {context field : Value} :
    (comparing field .equals .null).holds context = true ↔
      (∀ v, context.Leads field v → v = .null) ∧ ∀ e, ¬ context.LeadsAstray field e := by
  simp only [holds_comparing, ← Value.resolveAt_eq_some_iff, ← Value.resolveAt_eq_error_iff]
  cases context.resolveAt field with
  | error e => simp
  | ok found => cases found <;> simp [Operator.holds, Value.equals_null_iff]

end Condition

/-- A lookup has three outcomes, told by the event and the segments of the path alone: the value
that stands there, the way in which the path stumbles, and otherwise nothing.  A text renders to
what its pieces leave, nothing for a missing placeholder, and a configuration fails to render
exactly as the first of its placeholders that cannot be filled, because its path stumbles or the
value there has no text.  The condition that a path is null holds if null or nothing stands there
and the path does not stumble. -/
theorem resolve_outcomes (context path : Value) :
    (∀ v, context.resolveAt path = .ok (some v) ↔ context.Leads path v) ∧
    (∀ e, context.resolveAt path = .error e ↔ context.LeadsAstray path e) ∧
    (context.resolveAt path = .ok none ↔
      (∀ v, ¬ context.Leads path v) ∧ ∀ e, ¬ context.LeadsAstray path e) ∧
    (∀ s t, renderText context s = .ok t ↔
      ∃ parts, List.Forall₂ (Piece.Leaves context) (textPieces s) parts ∧
        String.ofList parts.flatten = t) ∧
    (∀ config e, renderValue context config = .error e ↔
      FirstUnfillable context (placeholders config) e) ∧
    ((Condition.comparing path .equals .null).holds context = true ↔
      (∀ v, context.Leads path v → v = .null) ∧ ∀ e, ¬ context.LeadsAstray path e) :=
  ⟨fun _ => Value.resolveAt_eq_some_iff, fun _ => Value.resolveAt_eq_error_iff,
    Value.resolveAt_eq_none_iff, fun _ _ => renderText_eq_ok_iff,
    fun config e => renderValue_failsAs context config e, Condition.holds_equals_null_iff⟩

/-- A superscript two is a digit and no decimal digit, so a list with one item has an error at it
and not nothing. -/
theorem resolve_superscript :
    (Value.list [.int 1]).resolveAt (.text "²") = .error (.notDecimal "²") ∧
    (Condition.comparing (.text "²") .equals .null).holds (.list [.int 1]) = false ∧
    renderText (.list [.int 1]) "\x7b\x7b²\x7d\x7d" = .error (.path (.notDecimal "²")) :=
  ⟨rfl, by decide +kernel, by decide +kernel⟩

end Automation
