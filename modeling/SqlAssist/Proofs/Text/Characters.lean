import SqlAssist.Text.CaseMap
import SqlAssist.Text.Word
import Mathlib.Data.List.Basic

/-!
# Kinds of characters

White space, word characters and letter case are tables of code points. The few
facts that the theory needs of them are read off the tables here: no white space
character is part of a word, a name or a path, and white space has no case.

A table is finite, so a fact about the characters that it covers is checked code by
code (`Ranges.forall_covers`).
-/

namespace SqlAssist

namespace Ranges

/-- The code points of the intervals. -/
def codes (rs : Ranges) : List Nat :=
  rs.flatMap fun r => List.range' r.1 (r.2 + 1 - r.1)

theorem mem_codes_of_covers {rs : Ranges} {c : Char} (h : rs.covers c = true) :
    c.toNat ∈ rs.codes := by
  obtain ⟨r, hr, hc⟩ := List.any_eq_true.mp h
  simp only [Bool.and_eq_true, decide_eq_true_eq] at hc
  refine List.mem_flatMap.mpr ⟨r, hr, ?_⟩
  rw [List.mem_range'_1]
  omega

/-- What holds of the character of each code holds of each character covered. -/
theorem forall_covers {rs : Ranges} {p : Char → Prop} (h : ∀ n ∈ rs.codes, p (Char.ofNat n))
    {c : Char} (hc : rs.covers c = true) : p c := by
  have := h _ (mem_codes_of_covers hc)
  rwa [Char.ofNat_toNat] at this

/-- No interval of the first list meets one of the second. -/
def apart (rs ss : Ranges) : Bool :=
  rs.all fun r => ss.all fun s => r.2 < s.1 || s.2 < r.1

theorem covers_eq_false_of_apart {rs ss : Ranges} {c : Char} (h : rs.apart ss = true)
    (hc : rs.covers c = true) : ss.covers c = false := by
  obtain ⟨r, hr, hc⟩ := List.any_eq_true.mp hc
  refine List.any_eq_false.mpr fun s hs => ?_
  have hrs := List.all_eq_true.mp (List.all_eq_true.mp h r hr) s hs
  simp only [Bool.or_eq_true, Bool.and_eq_true, decide_eq_true_eq] at hc hrs ⊢
  omega

end Ranges

namespace Text

variable {c : Char}

/-- What holds of the characters of a text is decided by going through the text, and not through
all characters. -/
instance decidableForallMem (t : Text) (p : Char → Prop) [DecidablePred p] :
    Decidable (∀ c ∈ t, p c) :=
  List.decidableBAll p t

/-- No parenthesis, quote or other mark with a meaning of its own is white space. -/
theorem ne_of_isSpace {d : Char} (h : isSpace c = true) (hd : isSpace d = false) : c ≠ d := by
  rintro rfl
  rw [h] at hd
  cases hd

theorem isAlphanumeric_eq_false_of_isSpace (h : isSpace c = true) : isAlphanumeric c = false := by
  have hascii : ∀ n < 128, isSpace (Char.ofNat n) = true →
    isAsciiAlphanumeric (Char.ofNat n) = false := by decide
  rw [isAlphanumeric]
  split_ifs with hc
  · have := hascii c.toNat hc
    rw [Char.ofNat_toNat] at this
    exact this h
  · exact Ranges.covers_eq_false_of_apart (by decide +kernel) h

theorem isPathChar_eq_false_of_isSpace (h : isSpace c = true) : isPathChar c = false := by
  rw [isPathChar, isNameChar, isWordChar, isAlphanumeric_eq_false_of_isSpace h,
    decide_eq_false (ne_of_isSpace h (by decide)), decide_eq_false (ne_of_isSpace h (by decide)),
    decide_eq_false (ne_of_isSpace h (by decide))]
  rfl

theorem isNameChar_eq_false_of_isSpace (h : isSpace c = true) : isNameChar c = false := by
  have := isPathChar_eq_false_of_isSpace h
  simp only [isPathChar, Bool.or_eq_false_iff] at this
  exact this.1

theorem isSpace_eq_false_of_isPathChar (h : isPathChar c = true) : isSpace c = false := by
  refine Bool.eq_false_iff.mpr fun hs => ?_
  rw [isPathChar_eq_false_of_isSpace hs] at h
  cases h

theorem isSpace_eq_false_of_isNameChar (h : isNameChar c = true) : isSpace c = false := by
  refine isSpace_eq_false_of_isPathChar ?_
  rw [isPathChar, h, Bool.true_or]

theorem isWordChar_eq_false_of_isSpace (h : isSpace c = true) : isWordChar c = false := by
  have := isNameChar_eq_false_of_isSpace h
  simp only [isNameChar, Bool.or_eq_false_iff] at this
  exact this.1

theorem isNameChar_of_isPathChar_eq_false (h : isPathChar c = false) :
    isNameChar c = false ∧ c ≠ '.' := by
  rw [isPathChar, Bool.or_eq_false_iff, decide_eq_false_iff_not] at h
  exact h

theorem isWordChar_of_isPathChar_eq_false (h : isPathChar c = false) : isWordChar c = false := by
  have hname := (isNameChar_of_isPathChar_eq_false h).1
  rw [isNameChar, Bool.or_eq_false_iff] at hname
  exact hname.1

theorem any_isWordChar_eq_false {o : Option Char} (h : o.any isPathChar = false) :
    o.any isWordChar = false := by
  cases o with
  | none => rfl
  | some c => exact isWordChar_of_isPathChar_eq_false h

theorem upperChar_of_isSpace (h : isSpace c = true) : upperChar c = [c] :=
  Ranges.forall_covers (p := fun c => upperChar c = [c]) (by decide +kernel) h

end Text

end SqlAssist
