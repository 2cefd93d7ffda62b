import SqlAssist.Json.Printer
import SqlAssist.Json.Reader
import Mathlib.Data.List.Basic

/-!
# Strings in JSON documents

A string is written in ASCII: a character beyond is one escape or, beyond the first plane, two, the
units of UTF-16. The reader keeps the units of adjoining escapes until the run of escapes ends, so
the induction is over a string of which a part is still kept in units (`readString_flatMap`). What
is read is the string that was written.
-/

namespace SqlAssist.Json

variable {start offset : Nat} {units : List Nat} {c e : Char} {r s t : Text} {p : Place}

/-! ### Units -/

/-- The 16-bit units of a character. -/
def charUnits (c : Char) : List Nat :=
  if c.toNat < 0x10000 then [c.toNat]
  else [0xd800 + (c.toNat - 0x10000) / 0x400, 0xdc00 + (c.toNat - 0x10000) % 0x400]

theorem not_surrogate (c : Char) : ¬ (0xd800 ≤ c.toNat ∧ c.toNat < 0xe000) := by
  have h : c.toNat.isValidChar := c.valid
  rcases h with h | ⟨h, -⟩ <;> omega

theorem toNat_lt (c : Char) : c.toNat < 0x110000 := by
  have h : c.toNat.isValidChar := c.valid
  rcases h with h | ⟨-, h⟩ <;> omega

theorem ofUnits_charUnits (c : Char) (us : List Nat) : ofUnits (charUnits c ++ us) = c :: ofUnits us := by
  have hsurrogate := not_surrogate c
  rw [charUnits]
  split_ifs with h
  · cases us with
    | nil =>
      change [if 0xd800 ≤ c.toNat ∧ c.toNat < 0xe000 then '\ufffd' else Char.ofNat c.toNat] = [c]
      rw [if_neg hsurrogate, Char.ofNat_toNat]
    | cons u us =>
      rw [List.singleton_append, ofUnits, if_neg (by omega), if_neg hsurrogate, Char.ofNat_toNat]
  · have hmax := toNat_lt c
    have hpair : 0x10000 + (0xd800 + (c.toNat - 0x10000) / 0x400 - 0xd800) * 0x400 +
        (0xdc00 + (c.toNat - 0x10000) % 0x400 - 0xdc00) = c.toNat := by omega
    rw [List.cons_append, List.cons_append, List.nil_append, ofUnits, if_pos (by omega), hpair,
      Char.ofNat_toNat]

theorem ofUnits_flatMap_charUnits (t : Text) : ofUnits (t.flatMap charUnits) = t := by
  induction t with
  | nil => rfl
  | cons c t ih => rw [List.flatMap_cons, ofUnits_charUnits, ih]

/-! ### Escapes -/

theorem hexValue?_digitChar : ∀ n < 16, hexValue? (Nat.digitChar n) = some n := by decide

/-- Four hexadecimal digits are read as the unit that they write. -/
theorem exists_hexDigits {n : Nat} (h : n < 0x10000) :
    ∃ w x y z, Text.hexDigits 4 n = [w, x, y, z] ∧ hexUnit? w x y z = some n := by
  have hdigit (k : Nat) : hexValue? (Nat.digitChar (k % 16)) = some (k % 16) :=
    hexValue?_digitChar _ (Nat.mod_lt _ (by decide))
  refine ⟨_, _, _, _, rfl, ?_⟩
  simp only [hexUnit?, hdigit]
  exact congrArg some (by omega)

/-! ### Steps of the reader -/

theorem readString_quote (start : Nat) (units : List Nat) (offset : Nat) (r : Text) :
    readString start units offset ('"' :: r) = .ok (ofUnits units.reverse, ⟨offset + 1, r⟩) :=
  rfl

theorem readString_plain (units : List Nat) (hquote : c ≠ '"') (hescape : c ≠ '\\') (hcontrol : 32 ≤ c.toNat)
    (h : readString start [] (offset + 1) r = .ok (t, p)) :
    readString start units offset (c :: r) = .ok (ofUnits units.reverse ++ c :: t, p) := by
  unfold readString
  split
  case h_7 heq =>
    cases heq
    rw [if_neg (Nat.not_lt.mpr hcontrol), h]
    rfl
  case h_2 heq => exact absurd (List.cons.inj heq).1 hquote
  -- The other rules are for the empty text and for backslashes.
  all_goals rename_i heq; cases heq
  all_goals exact absurd rfl hescape

theorem readString_short (units : List Nat) (he : shortEscape? e = some c)
    (h : readString start [] (offset + 2) r = .ok (t, p)) :
    readString start units offset ('\\' :: e :: r) = .ok (ofUnits units.reverse ++ c :: t, p) := by
  unfold shortEscape? at he
  split at he <;> cases he
  -- With the letter known, the reader's rule for it is found by computation.
  all_goals
    change (readString start [] (offset + 2) r >>=
      fun q => pure (ofUnits units.reverse ++ _ :: q.1, q.2)) = _
    rw [h]
    rfl

theorem readString_unit {w x y z : Char} {u : Nat} (h : hexUnit? w x y z = some u) (hr : r ≠ []) :
    readString start units offset ('\\' :: 'u' :: w :: x :: y :: z :: r) =
      readString start (u :: units) (offset + 6) r := by
  have hr : r.isEmpty = false := by simpa using hr
  rw [readString, h]
  simp only [hr]
  rfl

/-! ### Strings -/

/-- The characters that have a short escape. -/
def shortEscaped : Text :=
  ['"', '\\', '\n', '\r', '\t', '\x08', '\x0c']

theorem stringChar_of_mem :
    ∀ c ∈ shortEscaped, ∃ e, stringChar c = ['\\', e] ∧ shortEscape? e = some c := by
  simp only [shortEscaped, List.forall_mem_cons, List.not_mem_nil, IsEmpty.forall_iff,
    implies_true, and_true]
  exact ⟨⟨'"', rfl, rfl⟩, ⟨'\\', rfl, rfl⟩, ⟨'n', rfl, rfl⟩, ⟨'r', rfl, rfl⟩, ⟨'t', rfl, rfl⟩,
    ⟨'b', rfl, rfl⟩, ⟨'f', rfl, rfl⟩⟩

theorem stringChar_of_not_mem (h : c ∉ shortEscaped) :
    stringChar c = if 32 ≤ c.toNat ∧ c.toNat < 127 then [c] else (charUnits c).flatMap unitEscape := by
  simp only [shortEscaped, List.mem_cons, List.not_mem_nil, or_false, not_or] at h
  obtain ⟨hquote, hescape, hfeed, hreturn, htab, hback, hform⟩ := h
  rw [stringChar, if_neg hquote, if_neg hescape, if_neg hfeed, if_neg hreturn, if_neg htab,
    if_neg hback, if_neg hform, charUnits]
  by_cases hunit : c.toNat < 0x10000
  · rw [if_pos hunit, if_pos hunit, List.flatMap_singleton]
  · rw [if_neg hunit, if_neg hunit, List.flatMap_cons, List.flatMap_singleton]

/-- A character is written as a short escape, as itself or in units. -/
theorem stringChar_cases (c : Char) :
    (∃ e, stringChar c = ['\\', e] ∧ shortEscape? e = some c) ∨
      (stringChar c = [c] ∧ c ≠ '"' ∧ c ≠ '\\' ∧ 32 ≤ c.toNat ∧ c.toNat < 127) ∨
      stringChar c = (charUnits c).flatMap unitEscape := by
  by_cases hshort : c ∈ shortEscaped
  · exact Or.inl (stringChar_of_mem c hshort)
  have hchar := stringChar_of_not_mem hshort
  split_ifs at hchar with hplain
  · refine Or.inr (Or.inl ⟨hchar, ?_, ?_, hplain⟩)
    all_goals exact fun h => hshort (h ▸ by decide)
  · exact Or.inr (Or.inr hchar)

theorem lt_of_mem_charUnits {n : Nat} (h : n ∈ charUnits c) : n < 0x10000 := by
  have hmax := toNat_lt c
  rw [charUnits] at h
  split_ifs at h with hunit
  · rwa [List.mem_singleton.mp h]
  · simp only [List.mem_cons, List.not_mem_nil, or_false] at h
    omega

/-- Units that are written are kept, the last one first. -/
theorem readString_flatMap_unitEscape (start offset : Nat) (units : List Nat) {us : List Nat}
    (hus : ∀ n ∈ us, n < 0x10000) (hr : r ≠ []) :
    ∃ next, readString start units offset (us.flatMap unitEscape ++ r) =
      readString start (us.reverse ++ units) next r := by
  induction us generalizing offset units with
  | nil => exact ⟨offset, rfl⟩
  | cons n us ih =>
    obtain ⟨hn, hus⟩ := List.forall_mem_cons.mp hus
    obtain ⟨w, x, y, z, hdigits, hunit⟩ := exists_hexDigits hn
    have hn : unitEscape n = ['\\', 'u', w, x, y, z] := by rw [unitEscape, hdigits]; rfl
    have hrest : us.flatMap unitEscape ++ r ≠ [] := List.append_ne_nil_of_right_ne_nil _ hr
    obtain ⟨next, hnext⟩ := ih (offset + 6) (n :: units) hus
    refine ⟨next, ?_⟩
    rw [List.flatMap_cons, hn, List.append_assoc, List.reverse_cons, List.append_assoc,
      List.singleton_append, ← hnext]
    exact readString_unit hunit hrest

/-- A string is read back, `u` of it being kept in units. -/
theorem readString_flatMap (start offset : Nat) (u s r : Text) :
    ∃ next, readString start (u.flatMap charUnits).reverse offset (s.flatMap stringChar ++ '"' :: r) =
      .ok (u ++ s, ⟨next, r⟩) := by
  induction s generalizing u offset with
  | nil =>
    refine ⟨offset + 1, ?_⟩
    have hread := readString_quote start (u.flatMap charUnits).reverse offset r
    rw [List.reverse_reverse, ofUnits_flatMap_charUnits] at hread
    rw [List.flatMap_nil, List.nil_append, List.append_nil, hread]
  | cons c s ih =>
    have hunits : ofUnits (u.flatMap charUnits).reverse.reverse = u := by
      rw [List.reverse_reverse, ofUnits_flatMap_charUnits]
    rw [List.flatMap_cons, List.append_assoc]
    rcases stringChar_cases c with ⟨e, hc, he⟩ | ⟨hc, hquote, hescape, hlow, -⟩ | hc
    · obtain ⟨next, hs⟩ := ih (offset + 2) []
      have hread := readString_short (u.flatMap charUnits).reverse he hs
      rw [hunits] at hread
      exact ⟨next, by rw [hc]; exact hread⟩
    · obtain ⟨next, hs⟩ := ih (offset + 1) []
      have hread := readString_plain (u.flatMap charUnits).reverse hquote hescape hlow hs
      rw [hunits] at hread
      exact ⟨next, by rw [hc]; exact hread⟩
    · have hrest : s.flatMap stringChar ++ '"' :: r ≠ [] :=
        List.append_ne_nil_of_right_ne_nil _ (List.cons_ne_nil _ _)
      obtain ⟨middle, hmiddle⟩ := readString_flatMap_unitEscape start offset
        (u.flatMap charUnits).reverse (fun _ => lt_of_mem_charUnits) hrest
      obtain ⟨next, hs⟩ := ih middle (u ++ [c])
      have hkept : ((u ++ [c]).flatMap charUnits).reverse =
          (charUnits c).reverse ++ (u.flatMap charUnits).reverse := by
        rw [List.flatMap_append, List.reverse_append, List.flatMap_singleton]
      rw [hkept] at hs
      exact ⟨next, by rw [hc, hmiddle, hs, List.append_assoc]; rfl⟩

/-- A string between its quotes is read back. -/
theorem readString_string (start offset : Nat) (s r : Text) :
    ∃ next, readString start [] offset (s.flatMap stringChar ++ '"' :: r) = .ok (s, ⟨next, r⟩) :=
  readString_flatMap start offset [] s r

end SqlAssist.Json
