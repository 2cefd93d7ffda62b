import SqlAssist.Proofs.Sql.ParenPairs

/-!
# The mask of closed groups

The mask keeps the length of a text and blanks what stands strictly between two
partners, line breaks excepted (`getElem?_maskGroups`). It is read off a look ahead
from each parenthesis, and skips a group as a whole; the pairs inside of a skipped
group add nothing, as they stand inside of the outermost one.

A masked text has the levels of the text, in the same places, and masking it again
changes nothing: **`maskGroups_exact`**.
-/

namespace SqlAssist

namespace Paren

theorem length_maskGroups (t : Text) : (maskGroups t).length = t.length := by
  induction t using groupInduction with
  | nil => rfl
  | single c r h ih => rw [maskGroups_single h, List.length_cons, List.length_cons, ih]
  | group x r hx ih => simp [maskGroups_group hx, Text.blank, ih]

/-! ### What is blanked -/

namespace Pairing

variable {x r : Text} {a : Nat}

/-- Up to where a reading starts nothing stands between partners. -/
theorem not_within_read {i : Nat} (h : i ≤ a) (t : Text) : ¬ (read a t).Within i := by
  rintro ⟨p, hp, hlt, -⟩
  have := ((found_read a t).pairs p hp).1
  omega

theorem within_read_single {c : Char} (h : c = '(' → closes 0 r = false) (a i : Nat) :
    (read a (c :: r)).Within i ↔ (read (a + 1) r).Within i := by
  rw [Within, Within, pairs_read_single h]

/-- In front of a closed group nothing is new; behind it the text is paired as by itself; and
between its parentheses all stands between partners. -/
theorem within_read_group (hx : Balanced x) (r : Text) (a i : Nat) :
    (read a ('(' :: (x ++ ')' :: r))).Within i ↔
      a < i ∧ i < a + x.length + 1 ∨ (read (a + x.length + 2) r).Within i := by
  rw [Within, Within, pairs_read_group hx]
  constructor
  · rintro ⟨p, hp, hlt, hgt⟩
    rcases List.mem_append.mp hp with hp | hp
    · exact Or.inr ⟨p, hp, hlt, hgt⟩
    rcases List.mem_cons.mp hp with rfl | hp
    · exact Or.inl ⟨hlt, hgt⟩
    · -- a pair inside of the group stands inside of its parentheses
      obtain ⟨hfirst, -, hlast⟩ := (found_read (a + 1) x).pairs p hp
      rw [offset_read] at hlast
      exact Or.inl ⟨by omega, by omega⟩
  · rintro (⟨hlt, hgt⟩ | ⟨p, hp, h⟩)
    · exact ⟨_, List.mem_append_right _ List.mem_cons_self, hlt, hgt⟩
    · exact ⟨p, List.mem_append_left _ hp, h⟩

end Pairing

/-- What stands between partners is blanked, and nothing else. -/
theorem getElem?_maskGroups (t : Text) (a i : Nat) :
    (maskGroups t)[i]? =
      t[i]?.map fun c => if (Pairing.read a t).Within (a + i) then Text.blankChar c else c := by
  induction t using groupInduction generalizing a i with
  | nil => rfl
  | single c r h ih =>
    rw [maskGroups_single h]
    cases i with
    | zero =>
      have hstart := Pairing.not_within_read (show a + 0 ≤ a from Nat.le_refl a) (c :: r)
      rw [List.getElem?_cons_zero, List.getElem?_cons_zero, Option.map_some, if_neg hstart]
    | succ i =>
      simp only [Pairing.within_read_single h]
      rw [List.getElem?_cons_succ, List.getElem?_cons_succ, ih (a + 1) i, Nat.add_assoc, Nat.add_comm 1]
  | group x r hx ih =>
    have hlength : (Text.blank x).length = x.length := List.length_map _
    rw [maskGroups_group hx]
    simp only [Pairing.within_read_group hx]
    cases i with
    | zero =>
      have hrest := Pairing.not_within_read (show a + 0 ≤ a + x.length + 2 by omega) r
      rw [List.getElem?_cons_zero, List.getElem?_cons_zero, Option.map_some, if_neg]
      exact fun h => h.elim (fun h => Nat.lt_irrefl a h.1) hrest
    | succ k =>
      rw [List.getElem?_cons_succ, List.getElem?_cons_succ]
      rcases Nat.lt_trichotomy k x.length with hk | rfl | hk
      · -- inside of the group
        have hin : a < a + (k + 1) ∧ a + (k + 1) < a + x.length + 1 := ⟨by omega, by omega⟩
        simp only [hin, and_self, true_or, if_true]
        rw [List.getElem?_append_left (hlength ▸ hk), List.getElem?_append_left hk, Text.blank,
          List.getElem?_map]
      · -- at the parenthesis that closes it
        have hrest := Pairing.not_within_read (show a + (x.length + 1) ≤ a + x.length + 2 by omega) r
        have hblank := Text.getElem?_append_cons_length (Text.blank x) ')' (maskGroups r)
        rw [hlength] at hblank
        rw [hblank, Text.getElem?_append_cons_length, Option.map_some, if_neg]
        exact fun h => h.elim (fun h => Nat.lt_irrefl _ h.2) hrest
      · -- behind it
        obtain ⟨j, rfl⟩ := Nat.exists_eq_add_of_lt hk
        have hblank := Text.getElem?_append_cons_add (Text.blank x) ')' (maskGroups r) j
        have hout : ¬ (a + (x.length + j + 1 + 1) < a + x.length + 1) := by omega
        rw [hlength] at hblank
        simp only [hout, and_false, false_or]
        rw [hblank, Text.getElem?_append_cons_add, ih (a + x.length + 2) j,
          show a + (x.length + j + 1 + 1) = a + x.length + 2 + j by omega]

/-! ### What is left -/

/-- The mask changes the contents of closed groups only. -/
theorem regrouped_maskGroups (t : Text) : Regrouped t (maskGroups t) := by
  induction t using groupInduction with
  | nil => exact .nil
  | single c r h ih =>
    rw [maskGroups_single h]
    exact .cons c ih
  | group x r hx ih =>
    rw [maskGroups_group hx]
    exact .group hx (Text.isBlank_blank x).balanced ih

theorem maskGroups_maskGroups (t : Text) : maskGroups (maskGroups t) = maskGroups t := by
  induction t using groupInduction with
  | nil => rfl
  | single c r h ih =>
    have hmasked : c = '(' → closes 0 (maskGroups r) = false := fun hc =>
      (closes_regrouped (regrouped_maskGroups r) 0).symm.trans (h hc)
    rw [maskGroups_single h, maskGroups_single hmasked, ih]
  | group x r hx ih =>
    rw [maskGroups_group hx, maskGroups_group (Text.isBlank_blank x).balanced, Text.blank_blank, ih]

theorem opens_step_congr {m n : Pairing} (hoffset : m.offset = n.offset) (hopens : m.opens = n.opens)
    (c : Char) : (m.step c).opens = (n.step c).opens := by
  obtain ⟨a, is, ps⟩ := m
  obtain ⟨b, js, qs⟩ := n
  obtain rfl : a = b := hoffset
  obtain rfl : is = js := hopens
  simp only [Pairing.step]
  split_ifs
  · rfl
  · cases is <;> rfl
  · rfl

/-- The mask leaves the stack as it is: a closed group takes the same room and stays closed. -/
theorem opens_foldl_maskGroups (t : Text) {m n : Pairing} (hoffset : m.offset = n.offset)
    (hopens : m.opens = n.opens) :
    ((maskGroups t).foldl Pairing.step m).opens = (t.foldl Pairing.step n).opens := by
  induction t using groupInduction generalizing m n with
  | nil => exact hopens
  | single c r h ih =>
    rw [maskGroups_single h, List.foldl_cons, List.foldl_cons]
    refine ih ?_ (opens_step_congr hoffset hopens c)
    rw [Pairing.offset_step, Pairing.offset_step, hoffset]
  | group x r hx ih =>
    rw [maskGroups_group hx, Pairing.foldl_step_group (Text.isBlank_blank x).balanced,
      Pairing.foldl_step_group hx]
    exact ih (by simp [Text.blank, hoffset]) hopens

theorem enclosing_maskGroups (t : Text) : enclosing (maskGroups t) = enclosing t := by
  have h : (Pairing.ofText (maskGroups t)).opens = (Pairing.ofText t).opens :=
    opens_foldl_maskGroups t rfl rfl
  rwa [opens_ofText, opens_ofText, List.reverse_inj] at h

/-- **The mask is exact**: it keeps the length, blanks what stands strictly between two partners but
for line breaks, keeps the levels in their places, and has no more to do on its own result. -/
theorem maskGroups_exact (t : Text) :
    (maskGroups t).length = t.length ∧
      (∀ i, (maskGroups t)[i]? = t[i]?.map fun c =>
        if (Pairing.ofText t).Within i ∧ c ≠ '\r' ∧ c ≠ '\n' then ' ' else c) ∧
      maskGroups (maskGroups t) = maskGroups t ∧
      depth (maskGroups t) = depth t ∧
      enclosing (maskGroups t) = enclosing t := by
  refine ⟨length_maskGroups t, fun i => ?_, maskGroups_maskGroups t,
    (depth_regrouped (regrouped_maskGroups t)).symm, enclosing_maskGroups t⟩
  have hchar : ∀ c, Text.blankChar c = if c ≠ '\r' ∧ c ≠ '\n' then ' ' else c := fun c => by
    by_cases hr : c = '\r' <;> by_cases hn : c = '\n' <;>
      simp [Text.blankChar, Text.isLineBreak, hr, hn]
  have h := getElem?_maskGroups t 0 i
  simp only [Nat.zero_add, hchar, ← ite_and] at h
  exact h

end Paren

end SqlAssist
