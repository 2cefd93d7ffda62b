import SqlAssist.Proofs.Text.Characters
import SqlAssist.Proofs.Text.Words
import SqlAssist.Sql.Resolution

/-!
# Identifiers

A name that stands in a statement without quotes is made of ASCII letters, digits and
underscores and is no reserved word. In such a name letter case is simple: capitals
are what keywords are compared by (`upper_text`), taking capitals twice changes
nothing, and no keyword that is a reserved word is written like the name
(`isKeyword_eq_false`).
-/

namespace SqlAssist

namespace Text

/-- An ASCII letter, an ASCII digit or an underscore. -/
def isIdentifierChar (c : Char) : Bool :=
  c.isAlphanum || c = '_'

/-- The code points of identifier characters. -/
def identifierRanges : Ranges :=
  [(0x30, 0x39), (0x41, 0x5a), (0x5f, 0x5f), (0x61, 0x7a)]

variable {c : Char}

theorem covers_of_isIdentifierChar (h : isIdentifierChar c = true) :
    identifierRanges.covers c = true := by
  change (((decide (65 ≤ c.val ∧ c.val ≤ 90) || (decide (97 ≤ c.val) && decide (c.val ≤ 122))) ||
    (decide (48 ≤ c.val) && decide (c.val ≤ 57))) || decide (c = '_')) = true at h
  simp only [Bool.or_eq_true, Bool.and_eq_true, decide_eq_true_eq, UInt32.le_iff_toNat_le] at h
  simp only [identifierRanges, Ranges.covers, List.any_cons, List.any_nil, Bool.or_false,
    Bool.or_eq_true, Bool.and_eq_true, decide_eq_true_eq]
  change (((65 ≤ c.toNat ∧ c.toNat ≤ 90) ∨ 97 ≤ c.toNat ∧ c.toNat ≤ 122) ∨
    48 ≤ c.toNat ∧ c.toNat ≤ 57) ∨ c = '_' at h
  rcases h with h | rfl
  · omega
  · decide

/-- What is checked for each code point holds of all identifier characters. -/
theorem forall_isIdentifierChar {p : Char → Prop} (h : ∀ n ∈ identifierRanges.codes, p (Char.ofNat n))
    (hc : isIdentifierChar c = true) : p c :=
  Ranges.forall_covers h (covers_of_isIdentifierChar hc)

theorem isWordChar_of_isIdentifierChar (h : isIdentifierChar c = true) : isWordChar c = true :=
  forall_isIdentifierChar (p := fun c => isWordChar c = true) (by decide) h

theorem isIdentifierChar_letterKey (h : isIdentifierChar c = true) :
    isIdentifierChar (letterKey c) = true :=
  forall_isIdentifierChar (p := fun c => isIdentifierChar (letterKey c) = true) (by decide) h

theorem upperChar_of_isIdentifierChar (h : isIdentifierChar c = true) : upperChar c = [letterKey c] :=
  forall_isIdentifierChar (p := fun c => upperChar c = [letterKey c]) (by decide) h

theorem letterKey_letterKey (h : isIdentifierChar c = true) :
    letterKey (letterKey c) = letterKey c :=
  forall_isIdentifierChar (p := fun c => letterKey (letterKey c) = letterKey c) (by decide) h

theorem lowerChar_letterKey (h : isIdentifierChar c = true) :
    lowerChar (letterKey c) = lowerChar c ∧ c ≠ 'Σ' :=
  forall_isIdentifierChar (p := fun c => lowerChar (letterKey c) = lowerChar c ∧ c ≠ 'Σ')
    (by decide) h

variable {t : Text}

theorem upper_of_isIdentifierChar (h : ∀ c ∈ t, isIdentifierChar c = true) :
    t.upper = t.map letterKey := by
  rw [upper, List.map_eq_flatMap, List.flatMap_def, List.flatMap_def,
    List.map_congr_left fun c hc => upperChar_of_isIdentifierChar (h c hc)]

theorem lower_of_isIdentifierChar (h : ∀ c ∈ t, isIdentifierChar c = true) :
    t.lower = t.flatMap lowerChar := by
  unfold lower
  generalize [] = done
  induction t generalizing done with
  | nil => rfl
  | cons c t ih =>
    obtain ⟨hc, ht⟩ := List.forall_mem_cons.mp h
    rw [lowerAfter, if_neg (lowerChar_letterKey hc).2, ih ht, List.flatMap_cons]

theorem isIdentifierChar_of_mem_upper (h : ∀ c ∈ t, isIdentifierChar c = true) :
    ∀ c ∈ t.upper, isIdentifierChar c = true := by
  rw [upper_of_isIdentifierChar h]
  intro c hc
  obtain ⟨d, hd, rfl⟩ := List.mem_map.mp hc
  exact isIdentifierChar_letterKey (h d hd)

/-- Capitals have the same small letters. -/
theorem lower_upper (h : ∀ c ∈ t, isIdentifierChar c = true) : t.upper.lower = t.lower := by
  rw [lower_of_isIdentifierChar (isIdentifierChar_of_mem_upper h), lower_of_isIdentifierChar h,
    upper_of_isIdentifierChar h, List.flatMap_map, List.flatMap_def, List.flatMap_def,
    List.map_congr_left fun c hc => (lowerChar_letterKey (h c hc)).1]

end Text

/-- A name of a table, a schema or an alias: ASCII letters, digits and underscores that are
no reserved word, whatever the case. -/
structure Identifier where
  /-- The name. -/
  text : Text
  /-- It is not empty. -/
  ne_nil : text ≠ []
  /-- It has no other characters. -/
  chars : ∀ c ∈ text, Text.isIdentifierChar c = true
  /-- It is no reserved word. -/
  not_reserved : text.lower ∉ reservedWords

/-- No reserved word is a single letter. -/
theorem not_reserved_of_length {t : Text} (h : t.lower.length < 2) : t.lower ∉ reservedWords := by
  have htwo : ∀ w ∈ reservedWords, 2 ≤ w.length := by decide
  exact fun hmem => absurd (htwo _ hmem) (Nat.not_le_of_lt h)

namespace Identifier

variable (k : Identifier)

theorem isWord : Text.IsWord k.text :=
  ⟨k.ne_nil, fun c hc => Text.isWordChar_of_isIdentifierChar (k.chars c hc)⟩

theorem isPathChar_of_mem : ∀ c ∈ k.text, Text.isPathChar c = true := by
  intro c hc
  rw [Text.isPathChar, k.isWord.isNameChar c hc, Bool.true_or]

/-- The name in capitals. -/
def upper : Identifier where
  text := k.text.upper
  ne_nil := by
    rw [Text.upper_of_isIdentifierChar k.chars]
    simpa using k.ne_nil
  chars := Text.isIdentifierChar_of_mem_upper k.chars
  not_reserved := by
    rw [Text.lower_upper k.chars]
    exact k.not_reserved

theorem upper_text : k.upper.text = k.text.upper := rfl

theorem upper_upper : k.upper.text.upper = k.upper.text := by
  rw [Text.upper_of_isIdentifierChar k.upper.chars, upper_text, Text.upper_of_isIdentifierChar k.chars,
    List.map_map]
  exact List.map_congr_left fun c hc => Text.letterKey_letterKey (k.chars c hc)

/-- The name is not written like a keyword that is a reserved word. -/
theorem isKeyword_eq_false {w : Text} (hw : w.lower ∈ reservedWords) :
    Text.isKeyword w k.text = false := by
  refine Bool.eq_false_iff.mpr fun h => k.not_reserved ?_
  have hmap : k.text.map Text.letterKey = w := eq_of_beq h
  rw [← Text.lower_upper k.chars, Text.upper_of_isIdentifierChar k.chars, hmap]
  exact hw

end Identifier

end SqlAssist
