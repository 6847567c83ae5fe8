import Automation.Json.Writer
import Mathlib.Data.List.Nodup
import Mathlib.Data.List.Perm.Basic

/-!
# Distinct keys

Where no two entries of a mapping have the same text as their key, an entry is what is found at its
key (`Mapping.mem_iff_find?`), so that the order of the entries does not matter for what is found
(`Mapping.find?_perm`).  This is so if all keys are different terms, and also if no two keys are the
same for a lookup (`Mapping.KeysApart`), which tells the integer one from the text but not from the
truth value that counts as one.

A value has a property of mappings *throughout* if every mapping inside it has the property
(`Value.Throughout`).
-/

namespace Automation

namespace Mapping

/-- No two entries have the same key. -/
def KeysDistinct (m : Mapping) : Prop := (m.map (·.1)).Nodup

/-- No two entries have keys that are the same. -/
def KeysApart (m : Mapping) : Prop := (m.map (·.1)).Pairwise fun k l => k.same l = false

/-- No two entries have the same text as their key. -/
def NamesDistinct (m : Mapping) : Prop := ((m.map (·.1)).filterMap Key.text?).Nodup

theorem eq_text_of_text? {k : Key} {s : String} (h : k.text? = some s) : k = .text s := by
  cases k with
  | text t => exact congrArg Key.text (Option.some.inj h)
  | _ => cases h

theorem KeysDistinct.namesDistinct {m : Mapping} (h : m.KeysDistinct) : m.NamesDistinct :=
  h.filterMap fun k l s hk hl => by rw [eq_text_of_text? hk, eq_text_of_text? hl]

theorem KeysApart.namesDistinct {m : Mapping} (h : m.KeysApart) : m.NamesDistinct := by
  refine List.pairwise_filterMap.2 (h.imp fun {k l} hapart s hs t ht => ?_)
  rw [eq_text_of_text? hs, eq_text_of_text? ht, Key.same_text] at hapart
  simpa using hapart

/-- Where names differ, an entry is what is found at its key. -/
theorem mem_iff_find? {m : Mapping} (hnames : m.NamesDistinct) {key : String} {v : Value} :
    (.text key, v) ∈ m ↔ find? key m = some v := by
  induction m with
  | nil => simp [find?]
  | cons e m ih =>
    obtain ⟨k, w⟩ := e
    rw [List.mem_cons, find?]
    by_cases hkey : k.text? = some key
    · obtain rfl := eq_text_of_text? hkey
      have hrest : (Key.text key, v) ∉ m := fun hmem => by
        have hnew := (List.nodup_cons.1 hnames).1
        exact hnew (List.mem_filterMap.2 ⟨.text key, List.mem_map_of_mem hmem, rfl⟩)
      simp [hrest, Key.text?, eq_comm]
    · have hne : ((.text key, v) : Key × Value) ≠ (k, w) := by
        rintro heq
        cases heq
        exact hkey rfl
      have hrest : NamesDistinct m :=
        hnames.sublist ((List.sublist_cons_self k (m.map (·.1))).filterMap Key.text?)
      rw [if_neg hkey, ← ih hrest]
      simp [hne]

theorem find?_eq_none_of_not_mem {m : Mapping} {key : String} (h : .text key ∉ m.map (·.1)) :
    find? key m = none := by
  induction m with
  | nil => rfl
  | cons e m ih =>
    obtain ⟨k, v⟩ := e
    rw [List.map_cons, List.mem_cons, not_or] at h
    have hkey : k.text? ≠ some key := by
      cases k <;> simp_all [Key.text?, eq_comm]
    rw [find?, if_neg hkey, ih h.2]

/-- The same is found whatever the order of the entries. -/
theorem find?_perm {m n : Mapping} (h : m.Perm n) (hnames : m.NamesDistinct) (key : String) :
    find? key m = find? key n := by
  have hnames' : n.NamesDistinct :=
    ((h.map fun e : Key × Value => e.1).filterMap Key.text?).nodup_iff.1 hnames
  refine Option.ext fun v => ?_
  rw [← mem_iff_find? hnames, ← mem_iff_find? hnames', h.mem_iff]

/-- What is found is the value of an entry. -/
theorem exists_mem_of_find? {m : Mapping} {key : String} {v : Value} (h : find? key m = some v) :
    ∃ k, (k, v) ∈ m := by
  induction m with
  | nil => cases h
  | cons e m ih =>
    obtain ⟨k, w⟩ := e
    rw [find?] at h
    split at h
    · cases h
      exact ⟨k, List.mem_cons_self⟩
    · obtain ⟨l, hl⟩ := ih h
      exact ⟨l, List.mem_cons_of_mem _ hl⟩

end Mapping

/-! ## Mappings inside a value -/

variable {p q : Mapping → Prop}

mutual

/-- Every mapping inside a value has a property, the value itself included. -/
def Value.Throughout (p : Mapping → Prop) : Value → Prop
  | .mapping m => p m ∧ EntriesThroughout p m
  | .list xs => ItemsThroughout p xs
  | .tuple xs => ItemsThroughout p xs
  | _ => True

/-- Every mapping inside the items of a sequence has a property. -/
def ItemsThroughout (p : Mapping → Prop) : List Value → Prop
  | [] => True
  | v :: rest => v.Throughout p ∧ ItemsThroughout p rest

/-- Every mapping inside the values of a mapping has a property. -/
def EntriesThroughout (p : Mapping → Prop) : List (Key × Value) → Prop
  | [] => True
  | (_, v) :: rest => v.Throughout p ∧ EntriesThroughout p rest

end

mutual

theorem Value.Throughout.imp (hpq : ∀ m, p m → q m) :
    ∀ {v : Value}, v.Throughout p → v.Throughout q
  | .mapping m, h => ⟨hpq m h.1, EntriesThroughout.imp hpq h.2⟩
  | .list _, h => ItemsThroughout.imp hpq h
  | .tuple _, h => ItemsThroughout.imp hpq h
  | .null, _ | .bool _, _ | .int _, _ | .float _, _ | .text _, _ | .bytes _, _ => trivial

theorem ItemsThroughout.imp (hpq : ∀ m, p m → q m) :
    ∀ {xs : List Value}, ItemsThroughout p xs → ItemsThroughout q xs
  | [], _ => trivial
  | _ :: _, h => ⟨h.1.imp hpq, ItemsThroughout.imp hpq h.2⟩

theorem EntriesThroughout.imp (hpq : ∀ m, p m → q m) :
    ∀ {m : List (Key × Value)}, EntriesThroughout p m → EntriesThroughout q m
  | [], _ => trivial
  | _ :: _, h => ⟨h.1.imp hpq, EntriesThroughout.imp hpq h.2⟩

end

theorem ItemsThroughout.of_mem {xs : List Value} (h : ItemsThroughout p xs) {v : Value}
    (hv : v ∈ xs) : v.Throughout p := by
  induction xs with
  | nil => cases hv
  | cons w xs ih =>
    rcases List.mem_cons.1 hv with rfl | hv
    · exact h.1
    · exact ih h.2 hv

theorem EntriesThroughout.of_mem {m : Mapping} (h : EntriesThroughout p m) {k : Key} {v : Value}
    (hv : (k, v) ∈ m) : v.Throughout p := by
  induction m with
  | nil => cases hv
  | cons e m ih =>
    rcases List.mem_cons.1 hv with rfl | hv
    · exact h.1
    · exact ih h.2 hv

end Automation
