import Automation.Text.Percent
import Mathlib.Data.List.Basic

/-!
# Encoded texts read back

A text is read back from its encoding as it was (`decode_encode`), so no two texts have one encoding
(`encode_injective`).  It takes two steps: the octets of the encoding are those of the text
(`decodeOctets_encode`), and the octets of a character are read as this character
(`charsAfter_utf8EncodeChar`), by cases of their number.

To encode what is encoded already changes nothing (`encodeKeeping_encode`), and what ends before a
character that is no hexadecimal digit is encoded on its own (`encodeKeeping_append`).
-/

namespace Automation.Text.Percent

/-! ## Octets -/

theorem upperHexDigit_spec : ∀ n < 16, isHexDigit (upperHexDigit n) = true ∧
    hexDigitValue (upperHexDigit n) = n ∧ isUnreserved (upperHexDigit n) = true := by
  decide

theorem decodeOctets_encodeOctet (b : UInt8) (cs : List Char) :
    decodeOctets (encodeOctet b ++ cs) = b :: decodeOctets cs := by
  have hb : b.toNat < 256 := b.toNat_lt
  obtain ⟨hhigh, hhigh', -⟩ := upperHexDigit_spec (b.toNat / 16) (by omega)
  obtain ⟨hlow, hlow', -⟩ := upperHexDigit_spec (b.toNat % 16) (by omega)
  have hvalue : b.toNat / 16 * 16 + b.toNat % 16 = b.toNat := by omega
  simp [encodeOctet, decodeOctets, hhigh, hlow, hhigh', hlow', hvalue]

theorem decodeOctets_flatMap_encodeOctet (bs : List UInt8) (cs : List Char) :
    decodeOctets (bs.flatMap encodeOctet ++ cs) = bs ++ decodeOctets cs := by
  induction bs with
  | nil => rfl
  | cons b bs ih =>
    rw [List.flatMap_cons, List.append_assoc, decodeOctets_encodeOctet, ih, List.cons_append]

theorem decodeOctets_cons_of_ne {c : Char} (h : c ≠ '%') (cs : List Char) :
    decodeOctets (c :: cs) = String.utf8EncodeChar c ++ decodeOctets cs := by
  rw [decodeOctets]
  rintro _ _ _ rfl
  exact absurd rfl h

/-! ## Characters -/

theorem leadOctet?_two {n : Nat} (h : 0xC2 ≤ n) (h' : n < 0xE0) :
    leadOctet? n = some (1, n - 0xC0) := by
  simp [leadOctet?, h, h', show ¬ n < 0x80 by omega]

theorem leadOctet?_three {n : Nat} (h : 0xE0 ≤ n) (h' : n < 0xF0) :
    leadOctet? n = some (2, n - 0xE0) := by
  simp [leadOctet?, h, h', show ¬ n < 0x80 by omega, show ¬ n < 0xE0 by omega]

theorem leadOctet?_four {n : Nat} (h : 0xF0 ≤ n) (h' : n < 0xF5) :
    leadOctet? n = some (3, n - 0xF0) := by
  simp [leadOctet?, h, h', show ¬ n < 0x80 by omega, show ¬ n < 0xE0 by omega,
    show ¬ n < 0xF0 by omega]

/-- The octet after the first one: after four of the first octets its range is smaller. -/
theorem continues_first {lead b : Nat} (hlow : 0x80 ≤ b) (hhigh : b ≤ 0xBF)
    (hE0 : lead = 0xE0 → 0xA0 ≤ b) (hED : lead = 0xED → b ≤ 0x9F)
    (hF0 : lead = 0xF0 → 0x90 ≤ b) (hF4 : lead = 0xF4 → b ≤ 0x8F) :
    continues lead b true = true := by
  simp only [continues, Bool.true_and, beq_iff_eq, Bool.and_eq_true, decide_eq_true_eq]
  constructor <;> split_ifs <;> omega

/-- The octets after that one. -/
theorem continuation_later {lead : Nat} {ts : List Nat} (h : ∀ t ∈ ts, 0x80 ≤ t ∧ t ≤ 0xBF)
    (bs : List UInt8) : continuation lead ts.length false (ts.map UInt8.ofNat ++ bs) = ts := by
  induction ts with
  | nil => rfl
  | cons t ts ih =>
    obtain ⟨⟨hlow, hhigh⟩, hts⟩ := List.forall_mem_cons.1 h
    have ht : (UInt8.ofNat t).toNat = t :=
      UInt8.toNat_ofNat_of_lt' (Nat.lt_of_le_of_lt hhigh (by decide))
    simp [continuation, continues, ht, hlow, hhigh, ih hts]

theorem charsAfter_append (tail bs : List UInt8) :
    charsAfter tail.length (tail ++ bs) = charsAfter 0 bs := by
  induction tail with
  | nil => rfl
  | cons b tail ih => exact ih

theorem charsAfter_ascii {n : Nat} (h : n < 0x80) (bs : List UInt8) :
    charsAfter 0 (UInt8.ofNat n :: bs) = Char.ofNat n :: charsAfter 0 bs := by
  have hn : (UInt8.ofNat n).toNat = n := UInt8.toNat_ofNat_of_lt' (Nat.lt_trans h (by decide))
  simp [charsAfter, leadOctet?, hn, h, continuation]

/-- A first octet and those that continue it are read as one character. -/
theorem charsAfter_octets {lead t bits : Nat} {ts : List Nat} (hlt : lead < 256)
    (hlead : leadOctet? lead = some (ts.length + 1, bits)) (ht : t < 256)
    (hfirst : continues lead t true = true) (hts : ∀ t ∈ ts, 0x80 ≤ t ∧ t ≤ 0xBF)
    (bs : List UInt8) :
    charsAfter 0 ((lead :: t :: ts).map UInt8.ofNat ++ bs) =
      Char.ofNat ((t :: ts).foldl (fun n t => n * 64 + (t - 0x80)) bits) :: charsAfter 0 bs := by
  have hlead' : (UInt8.ofNat lead).toNat = lead := UInt8.toNat_ofNat_of_lt' hlt
  have ht' : (UInt8.ofNat t).toNat = t := UInt8.toNat_ofNat_of_lt' ht
  have htail : continuation lead (ts.length + 1) true
      (UInt8.ofNat t :: (ts.map UInt8.ofNat ++ bs)) = t :: ts := by
    rw [continuation, ht', if_pos hfirst, continuation_later hts]
  have hskip : charsAfter ts.length (ts.map UInt8.ofNat ++ bs) = charsAfter 0 bs := by
    simpa using charsAfter_append (ts.map UInt8.ofNat) bs
  simp only [List.map_cons, List.cons_append, charsAfter, hlead', hlead, htail, hskip,
    List.length_cons, if_true]

/-- The octets of a character are read as the character. -/
theorem charsAfter_utf8EncodeChar (c : Char) (bs : List UInt8) :
    charsAfter 0 (String.utf8EncodeChar c ++ bs) = c :: charsAfter 0 bs := by
  obtain ⟨v, hv⟩ : ∃ v, v = c.val.toNat := ⟨_, rfl⟩
  have hvalid : v < 0xD800 ∨ 0xDFFF < v ∧ v < 0x110000 := hv ▸ c.valid
  have hc : ∀ {n : Nat}, n = v → Char.ofNat n = c := by
    rintro _ rfl
    exact hv ▸ Char.ofNat_toNat c
  simp only [String.utf8EncodeChar, ← hv]
  -- One case for each number of octets.  The smaller ranges leave out what is no character.
  split
  · rw [List.singleton_append, charsAfter_ascii (by omega), hc rfl]
  split
  · have hlead := leadOctet?_two (n := v / 64 % 0x20 + 0xc0) (by omega) (by omega)
    have hfirst : continues (v / 64 % 0x20 + 0xc0) (v % 0x40 + 0x80) true = true := by
      apply continues_first <;> omega
    have hlater : ∀ t ∈ ([] : List Nat), 0x80 ≤ t ∧ t ≤ 0xBF := by simp
    refine (charsAfter_octets (by omega) hlead (by omega) hfirst hlater bs).trans ?_
    rw [hc (by simp only [List.foldl_cons, List.foldl_nil]; omega)]
  split
  · have hlead := leadOctet?_three (n := v / 4096 % 0x10 + 0xe0) (by omega) (by omega)
    have hfirst : continues (v / 4096 % 0x10 + 0xe0) (v / 64 % 0x40 + 0x80) true = true := by
      apply continues_first <;> omega
    have hlater : ∀ t ∈ [v % 0x40 + 0x80], 0x80 ≤ t ∧ t ≤ 0xBF := by
      simp; omega
    refine (charsAfter_octets (by omega) hlead (by omega) hfirst hlater bs).trans ?_
    rw [hc (by simp only [List.foldl_cons, List.foldl_nil]; omega)]
  · have hlead := leadOctet?_four (n := v / 262144 % 0x08 + 0xf0) (by omega) (by omega)
    have hfirst : continues (v / 262144 % 0x08 + 0xf0) (v / 4096 % 0x40 + 0x80) true = true := by
      apply continues_first <;> omega
    have hlater : ∀ t ∈ [v / 64 % 0x40 + 0x80, v % 0x40 + 0x80], 0x80 ≤ t ∧ t ≤ 0xBF := by
      simp; omega
    refine (charsAfter_octets (by omega) hlead (by omega) hfirst hlater bs).trans ?_
    rw [hc (by simp only [List.foldl_cons, List.foldl_nil]; omega)]

theorem utf8Chars_flatMap_utf8EncodeChar (cs : List Char) :
    utf8Chars (cs.flatMap String.utf8EncodeChar) = cs := by
  rw [utf8Chars]
  induction cs with
  | nil => rfl
  | cons c cs ih => rw [List.flatMap_cons, charsAfter_utf8EncodeChar, ih]

/-! ## Encoded texts -/

section

variable {safe : Char → Bool}

/-- Where the percent sign is not safe, a text is read back octet by octet. -/
theorem decodeOctets_encode (h : safe '%' = false) (cs : List Char) :
    decodeOctets (encode safe cs) = cs.flatMap String.utf8EncodeChar := by
  induction cs with
  | nil => rfl
  | cons c cs ih =>
    rw [encode, List.flatMap_cons, List.flatMap_cons, ← encode, encodeChar]
    split
    · rename_i hc
      have hne : c ≠ '%' := by
        rintro rfl
        rw [h] at hc
        cases hc
      rw [List.singleton_append, decodeOctets_cons_of_ne hne, ih]
    · rw [decodeOctets_flatMap_encodeOctet, ih]

theorem decode_encode (h : safe '%' = false) (cs : List Char) : decode (encode safe cs) = cs := by
  rw [decode, decodeOctets_encode h, utf8Chars_flatMap_utf8EncodeChar]

theorem encode_injective (h : safe '%' = false) : Function.Injective (encode safe) :=
  Function.LeftInverse.injective (decode_encode h)

end

/-- An encoded text has unreserved characters and percent signs only. -/
theorem mem_encode {c : Char} {cs : List Char} (h : c ∈ encode isUnreserved cs) :
    isUnreserved c = true ∨ c = '%' := by
  obtain ⟨d, -, hd⟩ := List.mem_flatMap.1 h
  rw [encodeChar] at hd
  split at hd
  · rename_i hsafe
    rw [List.mem_singleton.1 hd]
    exact .inl hsafe
  · obtain ⟨b, -, hb⟩ := List.mem_flatMap.1 hd
    have hlt : b.toNat < 256 := b.toNat_lt
    obtain ⟨-, -, hhigh⟩ := upperHexDigit_spec (b.toNat / 16) (by omega)
    obtain ⟨-, -, hlow⟩ := upperHexDigit_spec (b.toNat % 16) (by omega)
    simp only [encodeOctet, List.mem_cons, List.not_mem_nil, or_false] at hb
    rcases hb with rfl | rfl | rfl
    · exact .inr rfl
    · exact .inl hhigh
    · exact .inl hlow

/-! ## Texts that are encoded already -/

theorem encodeKeeping_cons_of_ne {safe : Char → Bool} {c : Char} (h : c ≠ '%') (cs : List Char) :
    encodeKeeping safe (c :: cs) = encodeChar safe c ++ encodeKeeping safe cs := by
  rw [encodeKeeping]
  rintro _ _ _ rfl
  exact absurd rfl h

/-- A percent sign before something else than two hexadecimal digits is encoded like other
characters. -/
theorem encodeKeeping_percent {safe : Char → Bool} {cs : List Char}
    (h : ∀ a b rest, cs = a :: b :: rest → (isHexDigit a && isHexDigit b) = false) :
    encodeKeeping safe ('%' :: cs) = encodeChar safe '%' ++ encodeKeeping safe cs := by
  match cs with
  | [] => rfl
  | [a] => rfl
  | a :: b :: rest => rw [encodeKeeping, h a b rest rfl, if_neg Bool.false_ne_true]

/-- What ends before a character that is no hexadecimal digit is encoded on its own. -/
theorem encodeKeeping_append {safe : Char → Bool} {c : Char} (h : isHexDigit c = false)
    (xs ys : List Char) : encodeKeeping safe (xs ++ c :: ys) =
      encodeKeeping safe xs ++ encodeKeeping safe (c :: ys) := by
  fun_induction encodeKeeping safe xs with
  | case1 a b xs hhex ih =>
    simp only [List.cons_append, encodeKeeping, hhex, if_true, ih]
  | case2 a b xs hhex ih =>
    simp only [List.cons_append] at ih
    simp only [List.cons_append, encodeKeeping, hhex, ih, Bool.false_eq_true, if_false,
      List.append_assoc]
  | case3 d xs hshort ih =>
    rw [List.append_assoc, ← ih, List.cons_append]
    by_cases hd : d = '%'
    · subst hd
      refine encodeKeeping_percent fun a b rest hrest => ?_
      match xs with
      | [] =>
        cases hrest
        rw [h, Bool.false_and]
      | [e] =>
        cases hrest
        rw [h, Bool.and_false]
      | e :: e' :: xs => exact absurd rfl (hshort e e' xs rfl)
    · exact encodeKeeping_cons_of_ne hd _
  | case4 => rfl

theorem encodeKeeping_flatMap_encodeOctet (safe : Char → Bool) (bs : List UInt8) (cs : List Char) :
    encodeKeeping safe (bs.flatMap encodeOctet ++ cs) =
      bs.flatMap encodeOctet ++ encodeKeeping safe cs := by
  induction bs with
  | nil => rfl
  | cons b bs ih =>
    have hlt : b.toNat < 256 := b.toNat_lt
    obtain ⟨hhigh, -⟩ := upperHexDigit_spec (b.toNat / 16) (by omega)
    obtain ⟨hlow, -⟩ := upperHexDigit_spec (b.toNat % 16) (by omega)
    simp [List.flatMap_cons, encodeOctet, encodeKeeping, hhigh, hlow, ih]

/-- What is encoded already stays, where the unreserved characters are safe. -/
theorem encodeKeeping_encode {safe : Char → Bool} (h : ∀ c, isUnreserved c = true → safe c = true)
    (cs : List Char) : encodeKeeping safe (encode isUnreserved cs) = encode isUnreserved cs := by
  induction cs with
  | nil => rfl
  | cons c cs ih =>
    rw [encode, List.flatMap_cons, ← encode]
    cases hc : isUnreserved c with
    | true =>
      have hne : c ≠ '%' := by
        rintro rfl
        cases hc
      rw [encodeChar, if_pos hc, List.singleton_append, encodeKeeping_cons_of_ne hne, ih,
        encodeChar, if_pos (h c hc), List.singleton_append]
    | false =>
      rw [encodeChar, hc, if_neg Bool.false_ne_true, encodeKeeping_flatMap_encodeOctet, ih]

end Automation.Text.Percent
