import Automation.Proofs.Checks
import Automation.Rendering
import Mathlib.Data.List.TakeWhile

/-!
# The pieces of a text

A *placeholder* is two opening braces, blanks, a path, blanks and two closing braces
(`Placeholder`).  A text is cut into pieces from the left: a placeholder that starts at a place is a
hole, and otherwise the character at that place stays (`CutsInto`).  `textPieces` cuts in this way
(`piecesAfter_eq_iff`).

Behind its first two characters a placeholder has no opening brace, so no placeholder reaches from
what is before another one into it.  Hence a placeholder anywhere in a text is a hole, and what is
before and behind it is cut as if it stood alone (`CutsInto.append`).  The holes of a text are
therefore its placeholders (`mem_paths_iff`), and filling them is compositional
(`substitution_composes`): around a placeholder nothing changes, and what is put in its place is not
looked at again.
-/

namespace Automation

/-! ## Placeholders -/

/-- The characters of a placeholder with a path. -/
inductive Placeholder (path : List Char) : List Char → Prop where
  | mk {lead trail : List Char} (lead_blank : ∀ c ∈ lead, Text.isBlank c = true)
      (ne_nil : path ≠ []) (path_chars : ∀ c ∈ path, isPathChar c = true)
      (trail_blank : ∀ c ∈ trail, Text.isBlank c = true) :
      Placeholder path ('\x7b' :: '\x7b' :: (lead ++ (path ++ (trail ++ ['\x7d', '\x7d']))))

theorem isBlank_of_isPathChar {c : Char} (h : isPathChar c = true) : Text.isBlank c = false := by
  simp only [isPathChar, Bool.and_eq_true, Bool.not_eq_true'] at h
  exact h.2

theorem isPathChar_of_isBlank {c : Char} (h : Text.isBlank c = true) : isPathChar c = false := by
  simp [isPathChar, h]

namespace Placeholder

variable {path written : List Char}

/-- A placeholder goes on behind its first two characters, without an opening brace. -/
theorem eq_cons_cons (h : Placeholder path written) :
    ∃ tail, written = '\x7b' :: '\x7b' :: tail ∧ tail ≠ [] ∧ '\x7b' ∉ tail := by
  obtain ⟨hlead, -, hpath, htrail⟩ := h
  refine ⟨_, rfl, by simp, fun hmem => ?_⟩
  simp only [List.mem_append, List.mem_cons, List.not_mem_nil, or_false] at hmem
  rcases hmem with hmem | hmem | hmem | hmem | hmem
  · exact absurd (hlead _ hmem) (by decide)
  · exact absurd (hpath _ hmem) (by decide)
  · exact absurd (htrail _ hmem) (by decide)
  · exact absurd hmem (by decide)
  · exact absurd hmem (by decide)

/-- A placeholder that starts in front of another one ends in front of it. -/
theorem prefix_of_prefix_append {path' other cs rest : List Char} (hother : Placeholder path' other)
    (h : Placeholder path written) (hcs : cs ≠ []) (hpre : other <+: cs ++ (written ++ rest)) :
    other <+: cs := by
  obtain ⟨tail, rfl, -, -⟩ := h.eq_cons_cons
  obtain ⟨tail', rfl, hne, hbrace⟩ := hother.eq_cons_cons
  obtain ⟨behind, heq⟩ := hpre
  rcases List.append_eq_append_iff.1 heq with ⟨front, hfront, -⟩ | ⟨extra, hextra, hrest⟩
  · exact ⟨front, hfront.symm⟩
  · -- What reaches over is a front of the other placeholder, so it has its opening braces.
    match extra, cs with
    | [], cs => exact ⟨[], by rw [hextra]; simp⟩
    | _ :: _, [] => exact absurd rfl hcs
    | [_], [_] =>
      cases hextra
      exact absurd rfl hne
    | _ :: c :: extra, [_] =>
      cases hextra
      obtain ⟨-, hc⟩ := List.cons.inj hrest
      obtain ⟨rfl, -⟩ := List.cons.inj hc
      exact absurd List.mem_cons_self hbrace
    | c :: extra, _ :: _ :: cs =>
      cases hextra
      obtain ⟨rfl, -⟩ := List.cons.inj hrest
      exact absurd (List.mem_append_right cs List.mem_cons_self) hbrace

end Placeholder

/-- What is in front of a list whose first member is not of a class. -/
theorem takeWhile_append_stop {α : Type} {p : α → Bool} {front rest : List α}
    (hfront : ∀ x ∈ front, p x = true) (hrest : rest.takeWhile p = []) :
    (front ++ rest).takeWhile p = front := by
  rw [List.takeWhile_append_of_pos hfront, hrest, List.append_nil]

theorem dropWhile_append_stop {α : Type} {p : α → Bool} {front rest : List α}
    (hfront : ∀ x ∈ front, p x = true) (hrest : rest.takeWhile p = []) :
    (front ++ rest).dropWhile p = rest := by
  rw [List.dropWhile_append_of_pos hfront]
  have hsplit := List.takeWhile_append_dropWhile (p := p) (l := rest)
  rwa [hrest, List.nil_append] at hsplit

/-- What follows the opening braces of a placeholder ends with its closing braces. -/
theorem holeBody?_of_body {lead path trail : List Char} (rest : List Char)
    (hlead : ∀ c ∈ lead, Text.isBlank c = true) (hne : path ≠ [])
    (hpath : ∀ c ∈ path, isPathChar c = true) (htrail : ∀ c ∈ trail, Text.isBlank c = true) :
    holeBody? (lead ++ (path ++ (trail ++ '\x7d' :: '\x7d' :: rest))) =
      some (path, lead.length + path.length + trail.length + 2) := by
  have hclosing : ('\x7d' :: '\x7d' :: rest).takeWhile Text.isBlank = [] :=
    List.takeWhile_cons_of_neg (by decide)
  have hbehind : (trail ++ '\x7d' :: '\x7d' :: rest).takeWhile isPathChar = [] := by
    cases trail with
    | nil => exact List.takeWhile_cons_of_neg (by decide)
    | cons c trail =>
      refine List.takeWhile_cons_of_neg ?_
      rw [isPathChar_of_isBlank (htrail c List.mem_cons_self)]
      decide
  have hfront : (path ++ (trail ++ '\x7d' :: '\x7d' :: rest)).takeWhile Text.isBlank = [] := by
    cases path with
    | nil => exact absurd rfl hne
    | cons c path =>
      refine List.takeWhile_cons_of_neg ?_
      rw [isBlank_of_isPathChar (hpath c List.mem_cons_self)]
      decide
  have hempty : path.isEmpty = false := List.isEmpty_eq_false_iff.2 hne
  simp [holeBody?, takeWhile_append_stop hlead hfront, dropWhile_append_stop hlead hfront,
    takeWhile_append_stop hpath hbehind, dropWhile_append_stop hpath hbehind,
    takeWhile_append_stop htrail hclosing, dropWhile_append_stop htrail hclosing, hempty]

theorem body_of_holeBody? {cs path : List Char} {n : Nat} (h : holeBody? cs = some (path, n)) :
    ∃ lead trail rest : List Char, lead ++ (path ++ (trail ++ '\x7d' :: '\x7d' :: rest)) = cs ∧
      (∀ c ∈ lead, Text.isBlank c = true) ∧ path ≠ [] ∧ (∀ c ∈ path, isPathChar c = true) ∧
      (∀ c ∈ trail, Text.isBlank c = true) ∧
      lead.length + path.length + trail.length + 2 = n := by
  simp only [holeBody?] at h
  split at h
  · rename_i rest hclosing
    split at h
    · cases h
    · rename_i hne
      cases h
      refine ⟨_, _, rest, ?_, fun _ => List.mem_takeWhile_imp, ?_, fun _ => List.mem_takeWhile_imp,
        fun _ => List.mem_takeWhile_imp, rfl⟩
      · rw [← hclosing, List.takeWhile_append_dropWhile, List.takeWhile_append_dropWhile,
          List.takeWhile_append_dropWhile]
      · rwa [List.isEmpty_iff] at hne
  · cases h

/-- A placeholder is found where a text starts with one. -/
theorem hole?_of_placeholder {path written : List Char} (h : Placeholder path written)
    (rest : List Char) : hole? (written ++ rest) = some (path, written.length - 1) := by
  obtain ⟨hlead, hne, hpath, htrail⟩ := h
  simp only [List.cons_append, List.append_assoc, List.nil_append, hole?,
    holeBody?_of_body rest hlead hne hpath htrail, Option.map_some, List.length_cons,
    List.length_append, List.length_nil, Option.some.injEq, Prod.mk.injEq, true_and]
  omega

/-- What is found as a placeholder is one. -/
theorem placeholder_of_hole? {cs path : List Char} {n : Nat} (h : hole? cs = some (path, n)) :
    ∃ written rest, Placeholder path written ∧ written ++ rest = cs ∧ written.length = n + 1 := by
  rw [hole?.eq_def] at h
  split at h
  · obtain ⟨⟨path', k⟩, hbody, heq⟩ := Option.map_eq_some_iff.1 h
    cases heq
    obtain ⟨lead, trail, rest, rfl, hlead, hne, hpath, htrail, rfl⟩ := body_of_holeBody? hbody
    refine ⟨_, rest, .mk hlead hne hpath htrail, by simp, ?_⟩
    simp only [List.length_cons, List.length_append, List.length_nil]
    omega
  · cases h

theorem hole?_eq_none_iff {cs : List Char} :
    hole? cs = none ↔ ∀ path written, Placeholder path written → ¬ written <+: cs := by
  constructor
  · rintro hnone path written hwritten ⟨rest, rfl⟩
    rw [hole?_of_placeholder hwritten] at hnone
    cases hnone
  · intro hno
    cases hhole : hole? cs with
    | none => rfl
    | some found =>
      obtain ⟨written, rest, hwritten, heq, -⟩ := placeholder_of_hole? hhole
      exact absurd ⟨rest, heq⟩ (hno found.1 written hwritten)

/-! ## Cutting a text -/

/-- The pieces of a text, cut from the left. -/
inductive CutsInto : List Char → List Piece → Prop where
  | nil : CutsInto [] []
  | hole {path written rest : List Char} {ps : List Piece} (h : Placeholder path written)
      (others : CutsInto rest ps) : CutsInto (written ++ rest) (.hole path :: ps)
  | plain {c : Char} {cs : List Char} {ps : List Piece}
      (none : ∀ path written, Placeholder path written → ¬ written <+: c :: cs)
      (others : CutsInto cs ps) : CutsInto (c :: cs) (.plain c :: ps)

theorem piecesAfter_eq_drop (n : Nat) (cs : List Char) :
    piecesAfter n cs = piecesAfter 0 (cs.drop n) := by
  induction cs generalizing n with
  | nil => cases n <;> simp [piecesAfter]
  | cons c cs ih =>
    cases n with
    | zero => rfl
    | succ n =>
      rw [piecesAfter, List.drop_succ_cons]
      exact ih n

theorem piecesAfter_of_placeholder {path written : List Char} (h : Placeholder path written)
    (rest : List Char) :
    piecesAfter 0 (written ++ rest) = .hole path :: piecesAfter 0 rest := by
  have hhole := hole?_of_placeholder h rest
  obtain ⟨tail, rfl, -, -⟩ := h.eq_cons_cons
  rw [List.cons_append] at hhole ⊢
  rw [piecesAfter, hhole]
  show Piece.hole path :: piecesAfter _ (('\x7b' :: tail) ++ rest) = _
  rw [piecesAfter_eq_drop]
  simp

/-- A text is cut into its pieces, and in no other way. -/
theorem piecesAfter_eq_iff {cs : List Char} {ps : List Piece} :
    piecesAfter 0 cs = ps ↔ CutsInto cs ps := by
  constructor
  · rintro rfl
    -- What is behind a placeholder is shorter, but not by one character.
    induction hlength : cs.length using Nat.strong_induction_on generalizing cs with
    | _ n ih =>
      cases cs with
      | nil => exact .nil
      | cons c cs =>
        cases hhole : hole? (c :: cs) with
        | none =>
          rw [piecesAfter, hhole]
          exact .plain (hole?_eq_none_iff.1 hhole) (ih _ (by simp [← hlength]) rfl)
        | some found =>
          obtain ⟨written, rest, hwritten, heq, hlong⟩ := placeholder_of_hole? hhole
          rw [← heq, List.length_append] at hlength
          rw [← heq, piecesAfter_of_placeholder hwritten]
          exact .hole hwritten (ih _ (by omega) rfl)
  · intro h
    induction h with
    | nil => rfl
    | hole h _ ih => rw [piecesAfter_of_placeholder h, ih]
    | plain none _ ih => rw [piecesAfter, hole?_eq_none_iff.2 none, ih]

namespace CutsInto

variable {cs ds path written : List Char} {ps qs : List Piece}

/-- What is before a placeholder and what is behind it are cut as if they stood alone. -/
theorem append (hs : CutsInto cs ps) (h : Placeholder path written) (ht : CutsInto ds qs) :
    CutsInto (cs ++ (written ++ ds)) (ps ++ .hole path :: qs) := by
  induction hs with
  | nil =>
    show CutsInto (written ++ ds) (.hole path :: qs)
    exact .hole h ht
  | hole h' _ ih =>
    rw [List.append_assoc]
    exact .hole h' ih
  | plain none _ ih =>
    refine .plain (fun path' other hother hpre => ?_) ih
    exact none path' other hother (hother.prefix_of_prefix_append h (List.cons_ne_nil _ _) hpre)

/-- The holes of a text are its placeholders. -/
theorem mem_paths_iff (hs : CutsInto cs ps) {path : String} :
    path ∈ Piece.paths ps ↔ ∃ written, Placeholder path.toList written ∧ written <:+: cs := by
  constructor
  · intro hmem
    induction hs with
    | nil => cases hmem
    | @hole path' written rest ps h _ ih =>
      rcases List.mem_cons.1 hmem with rfl | hmem
      · exact ⟨written, by rwa [String.toList_ofList], (List.prefix_append _ _).isInfix⟩
      · obtain ⟨other, hother, hinfix⟩ := ih hmem
        exact ⟨other, hother, hinfix.trans (List.suffix_append _ _).isInfix⟩
    | plain _ _ ih =>
      obtain ⟨other, hother, hinfix⟩ := ih hmem
      exact ⟨other, hother, hinfix.trans (List.suffix_cons _ _).isInfix⟩
  · rintro ⟨written, h, front, behind, rfl⟩
    have hcut : CutsInto (front ++ (written ++ behind))
        (piecesAfter 0 front ++ .hole path.toList :: piecesAfter 0 behind) :=
      append (piecesAfter_eq_iff.1 rfl) h (piecesAfter_eq_iff.1 rfl)
    rw [List.append_assoc] at hs
    rw [← piecesAfter_eq_iff.2 hs, piecesAfter_eq_iff.2 hcut, Piece.paths, List.mem_filterMap]
    exact ⟨.hole path.toList, by simp, by simp⟩

/-- Without holes all characters stay. -/
theorem eq_map_plain (hs : CutsInto cs ps) (hno : Piece.paths ps = []) : ps = cs.map .plain := by
  induction hs with
  | nil => rfl
  | hole => cases hno
  | plain _ _ ih => rw [List.map_cons, ih hno]

end CutsInto

theorem textPieces_eq_iff {s : String} {ps : List Piece} :
    textPieces s = ps ↔ CutsInto s.toList ps :=
  piecesAfter_eq_iff

theorem cutsInto_textPieces (s : String) : CutsInto s.toList (textPieces s) :=
  textPieces_eq_iff.1 rfl

/-- A text with a placeholder in it is cut around the placeholder. -/
theorem textPieces_append (s t : String) {path written : String}
    (h : Placeholder path.toList written.toList) :
    textPieces (s ++ written ++ t) = textPieces s ++ .hole path.toList :: textPieces t := by
  rw [textPieces_eq_iff, String.toList_append, String.toList_append, List.append_assoc]
  exact (cutsInto_textPieces s).append h (cutsInto_textPieces t)

/-! ## Filling a text -/

theorem fillPieces_append (context : Value) (ps qs : List Piece) :
    fillPieces context (ps ++ qs) = do
      let front ← fillPieces context ps
      let back ← fillPieces context qs
      return front ++ back := by
  induction ps with
  | nil =>
    rw [List.nil_append, fillPieces]
    cases fillPieces context qs <;> rfl
  | cons p ps ih =>
    rw [List.cons_append, fillPieces, fillPieces, ih]
    cases p.fill context with
    | error e => rfl
    | ok front =>
      cases fillPieces context ps with
      | error e => rfl
      | ok middle =>
        cases fillPieces context qs with
        | error e => rfl
        | ok back => exact congrArg Except.ok (List.append_assoc front middle back).symm

theorem fillPieces_plain (context : Value) (cs : List Char) :
    fillPieces context (cs.map .plain) = .ok cs := by
  induction cs with
  | nil => rfl
  | cons c cs ih =>
    rw [List.map_cons, fillPieces, ih]
    rfl

/-- A text without placeholders stays as it is. -/
theorem renderText_of_no_paths {context : Value} {s : String}
    (h : Piece.paths (textPieces s) = []) : renderText context s = .ok s := by
  rw [renderText, (cutsInto_textPieces s).eq_map_plain h, fillPieces_plain]
  exact congrArg Except.ok String.ofList_toList

/-- The text in the place of a placeholder: nothing for a missing value and for null. -/
def filling : Option Value → Except FormatError String
  | none | some .null => .ok ""
  | some v => v.insertText

theorem filling_eq (found : Option Value) : filling found = (found.getD .null).insertText := by
  cases found with
  | none => rfl
  | some v => cases v <;> rfl

/-- Substitution is compositional and looks at a text once.

A text with a placeholder somewhere in it, whatever is before and behind, renders to what is before,
rendered on its own, the text of the value at the path, and what is behind, rendered on its own; if
one of the three fails, so does the whole, as the first of them.  A text in which no placeholder
occurs stays as it is. -/
theorem substitution_composes (context : Value) :
    (∀ s t path written : String, Placeholder path.toList written.toList →
      renderText context (s ++ written ++ t) = do
        let front ← renderText context s
        let found ← (context.resolve path).mapError RenderError.path
        let middle ← (filling found).mapError RenderError.format
        let back ← renderText context t
        return front ++ middle ++ back) ∧
    ∀ s : String, (∀ path written, Placeholder path written → ¬ written <:+: s.toList) →
      renderText context s = .ok s := by
  constructor
  · intro s t path written h
    simp only [renderText, textPieces_append s t h, fillPieces_append, fillPieces, Piece.fill,
      Value.leaves, String.ofList_toList, filling_eq]
    cases fillPieces context (textPieces s) with
    | error e => rfl
    | ok front =>
      cases context.resolve path with
      | error e => rfl
      | ok found =>
        cases hmiddle : (found.getD .null).insertText with
        | error e => simp [hmiddle, bind, Except.bind, pure, Except.pure, Except.mapError]
        | ok middle =>
          cases fillPieces context (textPieces t) with
          | error e => simp [hmiddle, bind, Except.bind, pure, Except.pure, Except.mapError]
          | ok back =>
            simp [hmiddle, bind, Except.bind, pure, Except.pure, Except.mapError,
              String.append_assoc]
  · intro s h
    refine renderText_of_no_paths (List.eq_nil_iff_forall_not_mem.2 fun path hpath => ?_)
    obtain ⟨written, hwritten, hinfix⟩ := (cutsInto_textPieces s).mem_paths_iff.1 hpath
    exact h _ written hwritten hinfix

/-- An event whose values look like placeholders. -/
def nestedEvent : Value :=
  .mapping [("a", .text "\x7b\x7bb\x7d\x7d"), ("b", .text "\x7b\x7ba\x7d\x7d")]

/-- A placeholder between stray braces is replaced, and what replaces it is not. -/
theorem substitution_composes_nested :
    Placeholder "a".toList "\x7b\x7b a\x7d\x7d".toList ∧
    renderText nestedEvent ("\x7b" ++ "\x7b\x7b a\x7d\x7d" ++ "\x7d") =
      .ok "\x7b\x7b\x7bb\x7d\x7d\x7d" := by
  have hblank : ∀ c ∈ [' '], Text.isBlank c = true := List.forall_mem_singleton.2 (by decide)
  have hpath : ∀ c ∈ ['a'], isPathChar c = true := List.forall_mem_singleton.2 (by decide)
  have h : Placeholder "a".toList "\x7b\x7b a\x7d\x7d".toList :=
    .mk hblank (List.cons_ne_nil _ _) hpath (List.forall_mem_nil _)
  refine ⟨h, ?_⟩
  rw [(substitution_composes nestedEvent).1 "\x7b" "\x7d" "a" _ h]
  decide +kernel

end Automation
