import Automation.Text.Case
import Mathlib.Data.List.Infix

/-!
# Lower case inside other texts

The lower case of a text depends on what stands around it, but only through its capital sigmas:
whether one ends a word is told by the nearest characters on both sides that are not skipped
(`Text.endsWord`).  `Text.lowerBetween` is the lower case of a text between other characters, and
the lower case of a text is put together from those of its parts (`Text.lowerBetween_append`).

A capital sigma of a text is *firm* if the text itself settles whether it ends a word, whatever
stands around the text (`Text.firm_iff`).  The lower case of a text occurs in the lower case of
every text in which it occurs exactly if all its capital sigmas are firm
(`Text.lower_occurs_everywhere_iff`).
-/

namespace Automation.Text

/-! ## The ends of words -/

/-- Whether the nearest character that is not skipped is cased; nothing if all are skipped. -/
def nearestCased? (cs : List Char) : Option Bool :=
  (cs.dropWhile isCaseIgnorable).head?.map isCased

@[simp]
theorem nearestCased?_nil : nearestCased? [] = none := rfl

theorem startsCased_eq (cs : List Char) : startsCased cs = (nearestCased? cs).getD false := by
  rw [startsCased, nearestCased?]
  cases cs.dropWhile isCaseIgnorable <;> rfl

/-- The nearest character of a text is also the nearest one if more follow. -/
theorem nearestCased?_append (cs ds : List Char) :
    nearestCased? (cs ++ ds) = (nearestCased? cs).or (nearestCased? ds) := by
  induction cs with
  | nil => rfl
  | cons c cs ih =>
    rw [nearestCased?, nearestCased?, List.cons_append, List.dropWhile_cons, List.dropWhile_cons]
    cases isCaseIgnorable c with
    | true => exact ih
    | false => rfl

/-- Whether a capital sigma between the characters `before`, in reverse, and `after` ends a word. -/
def endsWord (before after : List Char) : Bool := startsCased before && !startsCased after

theorem endsWord_eq (before after : List Char) :
    endsWord before after =
      ((nearestCased? before).getD false && !(nearestCased? after).getD false) := by
  rw [endsWord, startsCased_eq, startsCased_eq]

/-! ## The lower case of a part -/

/-- The final sigma. -/
def finalSigma : Char := Char.ofNat 0x3C2

/-- The small sigma inside a word. -/
def innerSigma : Char := Char.ofNat 0x3C3

/-- The lower case of a character between the characters `before`, in reverse, and `after`. -/
def lowerAt (before : List Char) (c : Char) (after : List Char) : List Char :=
  if c = capitalSigma ∧ endsWord before after = true then [finalSigma] else lowerChar c

/-- The lower case of characters between the characters `before`, in reverse, and `after`. -/
def lowerBetween (before : List Char) : (cs : List Char) → (after : List Char) → List Char
  | [], _ => []
  | c :: cs, after => lowerAt before c (cs ++ after) ++ lowerBetween (c :: before) cs after

theorem lowerAfter_append (before cs after : List Char) :
    lowerAfter before (cs ++ after) =
      lowerBetween before cs after ++ lowerAfter (cs.reverse ++ before) after := by
  induction cs generalizing before with
  | nil => rfl
  | cons c cs ih =>
    rw [List.cons_append, lowerAfter, ih, lowerBetween, lowerAt, endsWord, List.append_assoc,
      List.reverse_cons, List.append_assoc, List.singleton_append]
    simp [finalSigma]

theorem lowerAfter_eq (before cs : List Char) :
    lowerAfter before cs = lowerBetween before cs [] := by
  have h := lowerAfter_append before cs []
  rwa [List.append_nil, lowerAfter, List.append_nil] at h

/-- The lower case of a text is put together from those of its parts. -/
theorem lowerBetween_append (before cs ds after : List Char) :
    lowerBetween before (cs ++ ds) after =
      lowerBetween before cs (ds ++ after) ++ lowerBetween (cs.reverse ++ before) ds after := by
  induction cs generalizing before with
  | nil => rfl
  | cons c cs ih =>
    rw [List.cons_append, lowerBetween, lowerBetween, ih, List.append_assoc, List.append_assoc,
      List.reverse_cons, List.append_assoc, List.singleton_append]

/-- The lower case of a text in which another one occurs. -/
theorem lowerChars_append (before cs after : List Char) :
    lowerChars (before ++ cs ++ after) =
      lowerBetween [] before (cs ++ after) ++ lowerBetween before.reverse cs after ++
        lowerBetween (cs.reverse ++ before.reverse) after [] := by
  rw [lowerChars, lowerAfter_append, lowerBetween_append, lowerAfter_eq, List.reverse_append,
    List.append_nil, List.append_nil]

/-! ## The sigmas of a text -/

/-- The capital sigmas of a text are told by their places in it. -/
theorem forall_sigma_iff {p : List Char → List Char → Prop} {cs : List Char} :
    (∀ u v, cs = u ++ capitalSigma :: v → p u v) ↔
      ∀ n, (h : n < cs.length) → cs[n] = capitalSigma → p (cs.take n) (cs.drop (n + 1)) := by
  constructor
  · intro hp n hn hsigma
    refine hp _ _ ?_
    rw [← hsigma, List.getElem_cons_drop, List.take_append_drop]
  · rintro hp u v rfl
    simpa using hp u.length (by simp) (by simp)

/-! ## Two places compared -/

/-- If a capital sigma of a text ends a word in one place, it does so in another place.  A place is
given by the characters before it, in reverse, and those after it. -/
def EndsCarry (cs before after before' after' : List Char) : Prop :=
  ∀ u v, cs = u ++ capitalSigma :: v → endsWord (u.reverse ++ before) (v ++ after) = true →
    endsWord (u.reverse ++ before') (v ++ after') = true

variable {cs before after before' after' : List Char}

theorem EndsCarry.left {c : Char} (h : EndsCarry (c :: cs) before after before' after') :
    c = capitalSigma → endsWord before (cs ++ after) = true →
      endsWord before' (cs ++ after') = true := by
  rintro rfl
  exact h [] cs rfl

theorem EndsCarry.front {ds : List Char} (h : EndsCarry (cs ++ ds) before after before' after') :
    EndsCarry cs before (ds ++ after) before' (ds ++ after') := by
  rintro u v rfl hends
  rw [← List.append_assoc] at hends ⊢
  exact h u (v ++ ds) (List.append_assoc ..) hends

theorem EndsCarry.back {ds : List Char} (h : EndsCarry (cs ++ ds) before after before' after') :
    EndsCarry ds (cs.reverse ++ before) after (cs.reverse ++ before') after' := by
  rintro u v rfl hends
  rw [← List.append_assoc, ← List.reverse_append] at hends ⊢
  exact h (cs ++ u) v (List.append_assoc ..).symm hends

theorem EndsCarry.tail {c : Char} (h : EndsCarry (c :: cs) before after before' after') :
    EndsCarry cs (c :: before) after (c :: before') after' :=
  have h : EndsCarry ([c] ++ cs) before after before' after' := h
  h.back

/-- A text has the same lower case in two places where the same sigmas end words. -/
theorem lowerBetween_congr (h : EndsCarry cs before after before' after')
    (h' : EndsCarry cs before' after' before after) :
    lowerBetween before cs after = lowerBetween before' cs after' := by
  induction cs generalizing before before' with
  | nil => rfl
  | cons c cs ih =>
    have hhead : lowerAt before c (cs ++ after) = lowerAt before' c (cs ++ after') := by
      rw [lowerAt, lowerAt]
      refine if_congr (and_congr_right fun hc => ?_) rfl rfl
      exact ⟨h.left hc, h'.left hc⟩
    rw [lowerBetween, lowerBetween, hhead, ih h.tail h'.tail]

theorem lowerAt_sigma_of_ends (h : endsWord before after = true) :
    lowerAt before capitalSigma after = [finalSigma] := by
  rw [lowerAt, if_pos ⟨rfl, h⟩]

theorem lowerAt_sigma_of_not_ends (h : endsWord before after = false) :
    lowerAt before capitalSigma after = [innerSigma] := by
  rw [lowerAt, if_neg fun hends => Bool.false_ne_true (h.symm.trans hends.2)]
  decide

theorem count_lowerAt_le {c : Char} (h : c = capitalSigma → endsWord before after = true →
    endsWord before' after' = true) :
    (lowerAt before c after).count finalSigma ≤ (lowerAt before' c after').count finalSigma ∧
      (lowerAt before' c after').count innerSigma ≤ (lowerAt before c after).count innerSigma := by
  by_cases hc : c = capitalSigma
  · subst hc
    cases hends : endsWord before after with
    | true =>
      rw [lowerAt_sigma_of_ends hends, lowerAt_sigma_of_ends (h rfl hends)]
      exact ⟨le_refl _, le_refl _⟩
    | false =>
      rw [lowerAt_sigma_of_not_ends hends]
      cases hends' : endsWord before' after' with
      | true =>
        rw [lowerAt_sigma_of_ends hends']
        decide
      | false =>
        rw [lowerAt_sigma_of_not_ends hends']
        exact ⟨le_refl _, le_refl _⟩
  · simp [lowerAt, hc]

/-- Where more sigmas end words there are more final sigmas in the lower case, and fewer others. -/
theorem count_lowerBetween_le (h : EndsCarry cs before after before' after') :
    (lowerBetween before cs after).count finalSigma ≤
        (lowerBetween before' cs after').count finalSigma ∧
      (lowerBetween before' cs after').count innerSigma ≤
        (lowerBetween before cs after).count innerSigma := by
  induction cs generalizing before before' with
  | nil => exact ⟨le_refl _, le_refl _⟩
  | cons c cs ih =>
    obtain ⟨hfinal, hinner⟩ := ih h.tail
    obtain ⟨hfirstFinal, hfirstInner⟩ := count_lowerAt_le h.left
    rw [lowerBetween, lowerBetween, List.count_append, List.count_append, List.count_append,
      List.count_append]
    exact ⟨Nat.add_le_add hfirstFinal hfinal, Nat.add_le_add hfirstInner hinner⟩

/-- If moreover one sigma ends a word in the second place only, there are more final sigmas there,
and fewer others. -/
theorem count_lowerBetween_lt {u v : List Char}
    (h : EndsCarry (u ++ capitalSigma :: v) before after before' after')
    (hnot : endsWord (u.reverse ++ before) (v ++ after) = false)
    (hends : endsWord (u.reverse ++ before') (v ++ after') = true) :
    (lowerBetween before (u ++ capitalSigma :: v) after).count finalSigma <
        (lowerBetween before' (u ++ capitalSigma :: v) after').count finalSigma ∧
      (lowerBetween before' (u ++ capitalSigma :: v) after').count innerSigma <
        (lowerBetween before (u ++ capitalSigma :: v) after).count innerSigma := by
  obtain ⟨hfinal, hinner⟩ := count_lowerBetween_le h.front
  obtain ⟨hfinal', hinner'⟩ := count_lowerBetween_le h.back.tail
  have hsigmas : finalSigma ≠ innerSigma := by decide
  rw [lowerBetween_append, lowerBetween_append, lowerBetween, lowerBetween,
    lowerAt_sigma_of_not_ends hnot, lowerAt_sigma_of_ends hends]
  simp only [List.count_append, List.count_singleton_self, List.count_singleton, beq_iff_eq,
    if_neg hsigmas, if_neg hsigmas.symm]
  omega

/-! ## Firm sigmas -/

/-- The text before a capital sigma, in reverse, and the text after it settle whether it ends a
word. -/
def Firm (before after : List Char) : Prop :=
  nearestCased? before = some false ∨ nearestCased? after = some true ∨
    (nearestCased? before = some true ∧ nearestCased? after = some false)

instance (before after : List Char) : Decidable (Firm before after) :=
  inferInstanceAs (Decidable (_ ∨ _ ∨ _ ∧ _))

/-- All capital sigmas of a text are firm. -/
def FirmSigmas (cs : List Char) : Prop :=
  ∀ u v, cs = u ++ capitalSigma :: v → Firm u.reverse v

instance (cs : List Char) : Decidable (FirmSigmas cs) :=
  decidable_of_iff _ forall_sigma_iff.symm

/-- Without capital sigmas all are firm. -/
theorem firmSigmas_of_not_mem (h : capitalSigma ∉ cs) : FirmSigmas cs := by
  rintro u v rfl
  exact absurd (List.mem_append_right _ List.mem_cons_self) h

theorem nearestCased?_letter : nearestCased? ['a'] = some true := by decide +kernel

/-- Firm are the sigmas whose end of a word does not depend on what stands around the text. -/
theorem firm_iff : Firm before after ↔ ∀ around beyond,
    endsWord (before ++ around) (after ++ beyond) = endsWord before after := by
  simp only [endsWord_eq, nearestCased?_append]
  constructor
  · rintro (hbefore | hafter | ⟨hbefore, hafter⟩) around beyond
    · simp [hbefore]
    · simp [hafter]
    · simp [hbefore, hafter]
  · intro h
    have hletter := h ['a'] []
    have hletter' := h [] ['a']
    rw [nearestCased?_letter, nearestCased?_nil] at hletter hletter'
    clear h
    rw [Firm]
    rcases hbefore : nearestCased? before with _ | _ | _ <;>
      rcases hafter : nearestCased? after with _ | _ | _ <;> simp_all

/-- What is not firm may end a word or not: one more letter after it, or before it, makes the
difference. -/
theorem loose_cases (h : ¬ Firm before after) :
    (nearestCased? before = some true ∧ nearestCased? after = none) ∨
      (nearestCased? before = none ∧ nearestCased? after ≠ some true) := by
  rw [Firm] at h
  rcases hbefore : nearestCased? before with _ | _ | _ <;>
    rcases hafter : nearestCased? after with _ | _ | _ <;> simp_all

theorem lowerBetween_letter : lowerBetween before ['a'] after = ['a'] := by
  have hletter : 'a' ≠ capitalSigma := by decide
  rw [lowerBetween, lowerBetween, lowerAt, if_neg fun h => hletter h.1]
  decide

/-- A letter after a text leaves fewer sigmas that end words. -/
theorem endsCarry_letter_after : EndsCarry cs before ['a'] before [] := by
  intro u v _ hends
  rw [endsWord_eq, nearestCased?_append v, nearestCased?_letter] at hends
  rw [endsWord_eq, List.append_nil]
  cases hv : nearestCased? v with
  | none => simp [hv] at hends
  | some cased => simpa [hv] using hends

/-- A letter before a text leaves more sigmas that end words. -/
theorem endsCarry_letter_before : EndsCarry cs [] after ['a'] after := by
  intro u v _ hends
  rw [endsWord_eq, List.append_nil] at hends
  rw [endsWord_eq, nearestCased?_append u.reverse, nearestCased?_letter]
  cases hu : nearestCased? u.reverse with
  | none => simp [hu] at hends
  | some cased => simpa [hu] using hends

/-- The capital sigmas of a text end words between two others exactly if they do so alone. -/
def KeepsEnds (before cs after : List Char) : Prop :=
  ∀ u v, cs = u ++ capitalSigma :: v →
    endsWord (before ++ u).reverse (v ++ after) = endsWord u.reverse v

instance (before cs after : List Char) : Decidable (KeepsEnds before cs after) :=
  decidable_of_iff _ forall_sigma_iff.symm

theorem KeepsEnds.endsCarry (h : KeepsEnds before cs after) :
    EndsCarry cs before.reverse after [] [] ∧ EndsCarry cs [] [] before.reverse after := by
  constructor <;> intro u v hcs hends
  · rwa [List.append_nil, List.append_nil, ← h u v hcs, List.reverse_append]
  · rwa [← List.reverse_append, h u v hcs, ← List.append_nil u.reverse, ← List.append_nil v]

/-- The lower case of a text occurs where the text does, if its sigmas end words there as they do
alone. -/
theorem lower_occurs (h : KeepsEnds before cs after) :
    lowerChars cs <:+: lowerChars (before ++ cs ++ after) := by
  rw [lowerChars_append, lowerBetween_congr h.endsCarry.1 h.endsCarry.2, lowerChars, lowerAfter_eq]
  exact List.infix_append ..

/-- Firm sigmas are those that end words everywhere as they do in the text alone. -/
theorem firmSigmas_iff : FirmSigmas cs ↔ ∀ before after, KeepsEnds before cs after := by
  constructor
  · intro h before after u v hcs
    rw [List.reverse_append]
    exact firm_iff.1 (h u v hcs) before.reverse after
  · intro h u v hcs
    refine firm_iff.2 fun around beyond => ?_
    have hends := h around.reverse beyond u v hcs
    rwa [List.reverse_append, List.reverse_reverse] at hends

section Loose

variable {u v : List Char}

/-- A sigma that ends a word in the text alone, and no longer with a letter after the text. -/
theorem not_lower_occurs_letter_after (hu : nearestCased? u.reverse = some true)
    (hv : nearestCased? v = none) : ¬ lowerChars (u ++ capitalSigma :: v) <:+:
      lowerChars ([] ++ (u ++ capitalSigma :: v) ++ ['a']) := by
  intro hoccurs
  have hnot : endsWord (u.reverse ++ []) (v ++ ['a']) = false := by
    simp [endsWord_eq, nearestCased?_append, nearestCased?_letter, hv]
  have hends : endsWord (u.reverse ++ []) (v ++ []) = true := by
    simp [endsWord_eq, hu, hv]
  have hmore := (count_lowerBetween_lt endsCarry_letter_after hnot hends).1
  have hcount := hoccurs.sublist.count_le finalSigma
  have hletter : ['a'].count finalSigma = 0 := by decide
  rw [lowerChars_append, lowerBetween_letter, List.count_append, hletter, lowerChars,
    lowerAfter_eq] at hcount
  exact hcount.not_gt hmore

/-- A sigma that ends no word in the text alone, and does with a letter before the text. -/
theorem not_lower_occurs_letter_before (hu : nearestCased? u.reverse = none)
    (hv : nearestCased? v ≠ some true) : ¬ lowerChars (u ++ capitalSigma :: v) <:+:
      lowerChars (['a'] ++ (u ++ capitalSigma :: v) ++ []) := by
  intro hoccurs
  have hnot : endsWord (u.reverse ++ []) (v ++ []) = false := by
    simp [endsWord_eq, hu]
  have hends : endsWord (u.reverse ++ ['a']) (v ++ []) = true := by
    cases hafter : nearestCased? v <;>
      simp_all [endsWord_eq, nearestCased?_append, nearestCased?_letter]
  have hless := (count_lowerBetween_lt endsCarry_letter_before hnot hends).2
  have hcount := hoccurs.sublist.count_le innerSigma
  have hletter : ['a'].count innerSigma = 0 := by decide
  rw [lowerChars_append, lowerBetween_letter, lowerBetween, List.append_nil, List.count_append,
    hletter, Nat.zero_add, lowerChars, lowerAfter_eq] at hcount
  exact hcount.not_gt hless

end Loose

/-- The lower case of a text occurs in that of every text in which it occurs exactly if all its
capital sigmas are firm. -/
theorem lower_occurs_everywhere_iff :
    (∀ before after, lowerChars cs <:+: lowerChars (before ++ cs ++ after)) ↔ FirmSigmas cs := by
  constructor
  · rintro h u v rfl
    by_contra hloose
    rcases loose_cases hloose with ⟨hu, hv⟩ | ⟨hu, hv⟩
    · exact not_lower_occurs_letter_after hu hv (h [] ['a'])
    · exact not_lower_occurs_letter_before hu hv (h ['a'] [])
  · intro h before after
    exact lower_occurs (firmSigmas_iff.1 h before after)

end Automation.Text
