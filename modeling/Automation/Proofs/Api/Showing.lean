import Automation.Api.Service
import Automation.Proofs.Checks

/-!
# What an answer can show

A successful answer shows a value, and there are two values that it cannot show: one that nests too
deep, and one with half a pair in one of its texts (`Value.isWhole`).  For these there is an
internal error in the place of the answer (`Response.answer_eq`).

Half a pair stands in the JSON text of a value just if it stands in a text of the value
(`Http.isWhole_write`): all that is written around the texts are characters of ASCII.  So a workflow
can be shown if its conditions and actions nest within the limit and none of its texts holds half a
pair (`Definition.Tellable`).
-/

namespace Automation

/-! ## Whole texts -/

namespace Http

/-- Whether a text holds no half of a pair. -/
def isWhole (s : String) : Bool := s.toList.all isWholeChar

/-- The stand-ins for halves are far above ASCII. -/
theorem isWholeChar_of_lt {c : Char} (h : c.toNat < 128) : isWholeChar c = true := by
  have hoffset : c.toNat - Text.standInOffset = 0 := by
    rw [Text.standInOffset]
    omega
  rw [isWholeChar, Text.half?]
  simp only [hoffset]
  rfl

@[simp] theorem isWhole_append (s t : String) : isWhole (s ++ t) = (isWhole s && isWhole t) := by
  rw [isWhole, String.toList_append, List.all_append, isWhole, isWhole]

@[simp] theorem isWhole_ofList (cs : List Char) : isWhole (.ofList cs) = cs.all isWholeChar := by
  rw [isWhole, String.toList_ofList]

theorem isWhole_ofList_of_lt {cs : List Char} (h : ∀ c ∈ cs, c.toNat < 128) :
    isWhole (.ofList cs) = true := by
  rw [isWhole_ofList, List.all_eq_true]
  exact fun c hc => isWholeChar_of_lt (h c hc)

/-! ## Numbers -/

theorem lt_of_mem_toDigits {n : Nat} {c : Char} (h : c ∈ Nat.toDigits 10 n) : c.toNat < 128 := by
  have hdigit := Nat.isDigit_of_mem_toDigits (by decide) (by decide) h
  simp only [Char.isDigit, Bool.and_eq_true, decide_eq_true_eq] at hdigit
  exact Nat.lt_of_le_of_lt (UInt32.le_iff_toNat_le.1 hdigit.2) (by decide)

@[simp] theorem isWhole_toString_nat (n : Nat) : isWhole (toString n) = true :=
  isWhole_ofList_of_lt fun _ => lt_of_mem_toDigits

@[simp] theorem isWhole_toString_int : ∀ n : Int, isWhole (toString n) = true
  | .ofNat n => isWhole_toString_nat n
  | .negSucc n => by
    have h : toString (Int.negSucc n) = "-" ++ toString (n + 1) := rfl
    rw [h, isWhole_append, isWhole_toString_nat]
    rfl

theorem lt_of_mem_strippedChars {d : Decimal} {c : Char} (h : c ∈ d.strippedChars) :
    c.toNat < 128 := by
  rw [Decimal.strippedChars] at h
  split at h
  · simp only [List.mem_singleton] at h
    exact h ▸ by decide
  · have hmem := List.mem_reverse.1 ((List.dropWhile_sublist _).mem (List.mem_reverse.1 h))
    exact lt_of_mem_toDigits hmem

theorem isWhole_exponentText (padded : Bool) (e : Int) :
    isWhole (exponentText padded e) = true := by
  simp only [exponentText, isWhole_append, Bool.and_eq_true]
  refine ⟨⟨by decide, ?_⟩, ?_⟩
  · split
    · decide
    · cases padded <;> decide
  · split
    · rw [isWhole_append, isWhole_toString_nat]
      decide
    · exact isWhole_toString_nat _

theorem isWhole_scientificText (padded : Bool) {digits : List Char} (magnitude : Int)
    (h : ∀ c ∈ digits, c.toNat < 128) :
    isWhole (scientificText padded digits magnitude) = true := by
  rw [scientificText.eq_def]
  split
  · decide
  · rw [isWhole_append, isWhole_ofList_of_lt h, isWhole_exponentText]
    rfl
  · rename_i d ds _
    have hpoint : ∀ c ∈ d :: '.' :: ds, c.toNat < 128 := by
      intro c hc
      rcases List.mem_cons.1 hc with rfl | hc
      · exact h _ List.mem_cons_self
      · rcases List.mem_cons.1 hc with rfl | hc
        · decide
        · exact h c (List.mem_cons_of_mem d hc)
    rw [isWhole_append, isWhole_ofList_of_lt hpoint, isWhole_exponentText]
    rfl

theorem isWhole_positionalText {whole : String} (hwhole : isWhole whole = true)
    {digits : List Char} (magnitude : Int) (h : ∀ c ∈ digits, c.toNat < 128) :
    isWhole (positionalText whole digits magnitude) = true := by
  have hzeros : ∀ n, ∀ c ∈ List.replicate n '0', c.toNat < 128 := by
    intro n c hc
    rw [List.eq_of_mem_replicate hc]
    decide
  simp only [positionalText]
  split
  · refine isWhole_ofList_of_lt fun c hc => ?_
    simp only [List.mem_cons, List.mem_append] at hc
    rcases hc with (rfl | rfl | hc) | hc
    · decide
    · decide
    · exact hzeros _ c hc
    · exact h c hc
  · split
    · rw [isWhole_append, hwhole, Bool.and_true]
      refine isWhole_ofList_of_lt fun c hc => ?_
      rcases List.mem_append.1 hc with hc | hc
      · exact h c hc
      · exact hzeros _ c hc
    · refine isWhole_ofList_of_lt fun c hc => ?_
      simp only [List.mem_cons, List.mem_append] at hc
      rcases hc with hc | rfl | hc
      · exact h c (List.mem_of_mem_take hc)
      · decide
      · exact h c (List.mem_of_mem_drop hc)

theorem isWhole_signed (negative : Bool) {s : String} (h : isWhole s = true) :
    isWhole (Double.signed negative s) = true := by
  cases negative
  · exact h
  · rw [Double.signed, if_pos rfl, isWhole_append, h]
    rfl

theorem isWhole_doubleText (x : Double) : isWhole (x.text Double.briefStyle) = true := by
  cases x with
  | nan => decide
  | infinite negative => exact isWhole_signed negative (by decide)
  | finite negative m e =>
    rw [Double.text]
    split
    · exact isWhole_signed negative (by decide)
    · refine isWhole_signed negative ?_
      split
      · exact isWhole_positionalText (by decide) _ fun _ => lt_of_mem_strippedChars
      · exact isWhole_scientificText _ _ fun _ => lt_of_mem_strippedChars

end Http

/-! ## Whole values -/

mutual

/-- Whether no text in a value holds half a pair; keys and bytes count as the texts that they are
written as. -/
def Value.isWhole : Value → Bool
  | .text s => Http.isWhole s
  | .bytes s => Http.isWhole (Text.quotedBytes s)
  | .list xs => itemsWhole xs
  | .tuple xs => itemsWhole xs
  | .mapping m => entriesWhole m
  | _ => true

/-- Whether no text in the items of a sequence holds half a pair. -/
def itemsWhole : List Value → Bool
  | [] => true
  | v :: rest => v.isWhole && itemsWhole rest

/-- Whether no text in the entries of a mapping holds half a pair. -/
def entriesWhole : List (Key × Value) → Bool
  | [] => true
  | (k, v) :: rest => Http.isWhole (Json.keyText k) && v.isWhole && entriesWhole rest

end

namespace Http

theorem lt_of_mem_hexDigits {width n : Nat} {c : Char} (h : c ∈ Text.hexDigits width n) :
    c.toNat < 128 := by
  obtain ⟨i, -, rfl⟩ := List.mem_map.1 h
  have hdigit : n / Nat.pow 16 i % 16 < 16 := Nat.mod_lt _ (by decide)
  generalize n / Nat.pow 16 i % 16 = k at hdigit
  have hall : ∀ k < 16, (Nat.digitChar k).toNat < 128 := by decide
  exact hall k hdigit

theorem all_eq_of_lt {cs : List Char} {c : Char} (hcs : ∀ x ∈ cs, x.toNat < 128)
    (hc : c.toNat < 128) : cs.all isWholeChar = isWholeChar c := by
  rw [isWholeChar_of_lt hc, List.all_eq_true]
  exact fun x hx => isWholeChar_of_lt (hcs x hx)

/-- An escape is made of characters of ASCII and stands for one. -/
theorem all_escapedChar (c : Char) :
    (Json.escapedChar false c).all isWholeChar = isWholeChar c := by
  rw [Json.escapedChar]
  split_ifs with hquote hslash hline hreturn htab hback hfeed hcontrol
  · subst hquote
    decide
  · subst hslash
    decide
  · subst hline
    decide
  · subst hreturn
    decide
  · subst htab
    decide
  · subst hback
    decide
  · subst hfeed
    decide
  · have hlow : c.toNat < 32 := by simpa using hcontrol
    have hhalf : Text.half? c = none := Option.isNone_iff_eq_none.1 (isWholeChar_of_lt (by omega))
    rw [hhalf, Option.getD_none, Json.codePointEscape, if_pos (by omega), Json.unitEscape]
    refine all_eq_of_lt (fun x hx => ?_) (by omega)
    simp only [List.mem_cons] at hx
    rcases hx with rfl | rfl | hx
    · decide
    · decide
    · exact lt_of_mem_hexDigits hx
  · rw [List.all_cons, List.all_nil, Bool.and_true]

theorem isWhole_string (s : String) : isWhole (Json.string false s) = isWhole s := by
  have hquote : isWholeChar '"' = true := by decide
  simp only [Json.string, isWhole_ofList, List.cons_append, List.all_cons, List.all_append,
    List.all_nil, List.all_flatMap, all_escapedChar, hquote, Bool.true_and, Bool.and_true]
  rfl

theorem isWhole_joined {separator : String} (h : isWhole separator = true) :
    ∀ ss : List String, isWhole (joined separator ss) = ss.all isWhole
  | [] => rfl
  | [s] => by rw [joined, List.all_cons, List.all_nil, Bool.and_true]
  | s :: t :: rest => by
    have hjoined :
        joined separator (s :: t :: rest) = s ++ separator ++ joined separator (t :: rest) := rfl
    rw [hjoined, isWhole_append, isWhole_append, h, Bool.and_true, isWhole_joined h (t :: rest)]
    exact List.all_cons.symm

theorem isWhole_bracketed {opening closing : String} (ho : isWhole opening = true)
    (hc : isWhole closing = true) (s : String) :
    isWhole (bracketed opening closing s) = isWhole s := by
  rw [bracketed, isWhole_append, isWhole_append, ho, hc, Bool.true_and, Bool.and_true]

mutual

/-- The JSON text of a value holds half a pair just if a text of the value does. -/
theorem isWhole_write : ∀ v : Value, isWhole (Json.write Json.briefLayout v) = v.isWhole
  | .null => by decide
  | .bool b => by cases b <;> decide
  | .int n => isWhole_toString_int n
  | .float x => isWhole_doubleText x
  | .text s => isWhole_string s
  | .bytes s => isWhole_string (Text.quotedBytes s)
  | .list xs => by
    rw [Json.write, isWhole_bracketed (by decide) (by decide), isWhole_joined (by decide),
      all_writeItems, Value.isWhole]
  | .tuple xs => by
    rw [Json.write, isWhole_bracketed (by decide) (by decide), isWhole_joined (by decide),
      all_writeItems, Value.isWhole]
  | .mapping m => by
    simp only [Json.write]
    rw [isWhole_bracketed (by decide) (by decide), isWhole_joined (by decide), Value.isWhole,
      ← all_writeEntries]
    rfl

theorem all_writeItems :
    ∀ xs : List Value, (Json.writeItems Json.briefLayout xs).all isWhole = itemsWhole xs
  | [] => rfl
  | v :: rest => by
    rw [Json.writeItems, List.all_cons, isWhole_write v, all_writeItems rest, itemsWhole]

theorem all_writeEntries : ∀ m : List (Key × Value),
    ((Json.writeEntries Json.briefLayout m).map fun e =>
      Json.string false (Json.keyText e.1) ++ ":" ++ e.2).all isWhole = entriesWhole m
  | [] => rfl
  | (k, v) :: rest => by
    have hcolon : isWhole ":" = true := by decide
    rw [Json.writeEntries, List.map_cons, List.all_cons, all_writeEntries rest, isWhole_append,
      isWhole_append, isWhole_string, isWhole_write v, hcolon, Bool.and_true, entriesWhole]

end

end Http

namespace Api

namespace Response

mutual

/-- Null in the place of a number holds no text. -/
theorem isWhole_showable : ∀ v : Value, (showable v).isWhole = v.isWhole
  | .null | .bool _ | .int _ | .text _ | .bytes _ => rfl
  | .float x => by
    rw [showable]
    split <;> rfl
  | .list xs => itemsWhole_showable xs
  | .tuple xs => itemsWhole_showable xs
  | .mapping m => entriesWhole_showable m

theorem itemsWhole_showable : ∀ xs : List Value, itemsWhole (showableItems xs) = itemsWhole xs
  | [] => rfl
  | v :: rest => by
    rw [showableItems, itemsWhole, itemsWhole, isWhole_showable v, itemsWhole_showable rest]

theorem entriesWhole_showable :
    ∀ m : List (Key × Value), entriesWhole (showableEntries m) = entriesWhole m
  | [] => rfl
  | (k, v) :: rest => by
    rw [showableEntries, entriesWhole, entriesWhole, isWhole_showable v,
      entriesWhole_showable rest]

end

mutual

/-- What is shown nests as deep as what was there. -/
theorem depth_showable : ∀ v : Value, depth (showable v) = depth v
  | .null | .bool _ | .int _ | .text _ | .bytes _ => rfl
  | .float x => by
    rw [showable]
    split <;> rfl
  | .list xs => congrArg (· + 1) (itemsDepth_showable xs)
  | .tuple xs => congrArg (· + 1) (itemsDepth_showable xs)
  | .mapping m => congrArg (· + 1) (entriesDepth_showable m)

theorem itemsDepth_showable : ∀ xs : List Value, itemsDepth (showableItems xs) = itemsDepth xs
  | [] => rfl
  | v :: rest => by
    rw [showableItems, itemsDepth, itemsDepth, depth_showable v, itemsDepth_showable rest]

theorem entriesDepth_showable :
    ∀ m : List (Key × Value), entriesDepth (showableEntries m) = entriesDepth m
  | [] => rfl
  | (k, v) :: rest => by
    rw [showableEntries, entriesDepth, entriesDepth, depth_showable v,
      entriesDepth_showable rest]

end

theorem itemsDepth_le_iff {n : Nat} {xs : List Value} :
    itemsDepth xs ≤ n ↔ ∀ v ∈ xs, depth v ≤ n := by
  induction xs with
  | nil => simp [itemsDepth]
  | cons v rest ih => rw [itemsDepth, Nat.max_le, ih, List.forall_mem_cons]

end Response

end Api

/-! ## Workflows -/

/-- A workflow that an answer can show: it nests no deeper than an answer may, and none of its texts
holds half a pair. -/
structure Definition.Tellable (d : Definition) : Prop where
  shallow : Api.isShallow d = true
  whole : (d.present Api.Service.time).isWhole = true

instance (d : Definition) : Decidable d.Tellable :=
  decidable_of_iff (Api.isShallow d = true ∧ (d.present Api.Service.time).isWhole = true)
    ⟨fun h => ⟨h.1, h.2⟩, fun h => ⟨h.shallow, h.whole⟩⟩

namespace Api

open Response

theorem depth_ofText? (s : Option String) : depth (Value.ofText? s) = 1 := by
  cases s <;> rfl

/-- What is in a condition or in a configuration may nest as deep as the limit; the condition or the
configuration, and the action, are around it. -/
theorem isShallow_iff (d : Definition) :
    isShallow d = true ↔ (∀ c ∈ d.conditions, depth c.toValue ≤ depthLimit + 2) ∧
      ∀ a ∈ d.actions, depth a.toValue ≤ depthLimit + 2 := by
  have hconditions : itemsDepth (d.conditions.map Condition.toValue) ≤ depthLimit + 2 ↔
      ∀ c ∈ d.conditions, depth c.toValue ≤ depthLimit + 2 := by
    rw [itemsDepth_le_iff, List.forall_mem_map]
  have hactions : itemsDepth (d.actions.map Action.toValue) ≤ depthLimit + 2 ↔
      ∀ a ∈ d.actions, depth a.toValue ≤ depthLimit + 2 := by
    rw [itemsDepth_le_iff, List.forall_mem_map]
  have hdepth : depth (d.present Service.time) =
      max (itemsDepth (d.conditions.map Condition.toValue))
        (itemsDepth (d.actions.map Action.toValue)) + 2 := by
    simp only [Definition.present, depth, entriesDepth, depth_ofText?]
    omega
  rw [isShallow, decide_eq_true_iff, hdepth, Service.workflowFrame, ← hconditions, ← hactions]
  omega

end Api

end Automation
