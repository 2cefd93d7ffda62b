import SqlAssist.Text.Word
import Mathlib.Data.List.Induction
import Mathlib.Data.List.Infix
import Mathlib.Data.List.TakeWhile

/-!
# Searches in a text

A text is searched for pieces and for single characters, from either end. A text
without a character holds no piece that starts with it, and a search for the character
goes through the whole text. When two texts are joined by a character that the search
stops at, it looks at one of the two only: a piece without that character lies on one
side of it (`hasInfix_append_cons`), the last place of the character is found on the
right (`lastOffset_append_cons`), the first one on the left
(`firstOffset_append_cons`). Both places are also told by the characters around them
(`lastOffset_spec`, `firstOffset_spec`).
-/

namespace SqlAssist.Text

variable {c : Char} {p s t : Text}

/-! ### Pieces -/

theorem hasInfix_iff : hasInfix p t = true ↔ p <:+: t := by
  induction t with
  | nil =>
    rw [hasInfix, List.isEmpty_iff, List.infix_nil]
  | cons d t ih =>
    rw [hasInfix, Bool.or_eq_true, List.isPrefixOf_iff_prefix, ih, List.infix_cons_iff]

theorem hasInfix_eq_false (h : c ∉ t) : hasInfix (c :: p) t = false := by
  induction t with
  | nil => rfl
  | cons d t ih =>
    have hd : c ≠ d := fun e => h (e ▸ List.mem_cons_self)
    rw [hasInfix, ih fun hc => h (List.mem_cons_of_mem d hc), Bool.or_false]
    simp [List.isPrefixOf, hd]

theorem afterLastInfix?_of_hasInfix_eq_false (h : hasInfix p t = false) :
    afterLastInfix? p t = none := by
  induction t with
  | nil => rfl
  | cons d t ih =>
    rw [hasInfix, Bool.or_eq_false_iff] at h
    rw [afterLastInfix?, ih h.2, h.1]
    rfl

theorem afterLastInfix?_eq_none (h : c ∉ t) : afterLastInfix? (c :: p) t = none :=
  afterLastInfix?_of_hasInfix_eq_false (hasInfix_eq_false h)

/-- A piece at the start of a text ends before a character that it does not have. -/
theorem prefix_append_cons_iff (hc : c ∉ p) : p <+: s ++ c :: t ↔ p <+: s := by
  constructor
  · intro h
    have hs : s ++ [c] <+: s ++ c :: t := List.prefix_append_right_inj s |>.mpr ⟨t, rfl⟩
    rcases Nat.lt_or_ge s.length p.length with hl | hl
    · have hpre : s ++ [c] <+: p := List.prefix_of_prefix_length_le hs h (by simp; omega)
      exact absurd (hpre.subset (by simp)) hc
    · exact List.prefix_of_prefix_length_le h (List.prefix_append s _) hl
  · intro h
    exact h.trans (List.prefix_append s _)

/-- A piece without the character that joins two texts lies in one of them. -/
theorem hasInfix_append_cons (hp : p ≠ []) (hc : c ∉ p) :
    hasInfix p (s ++ c :: t) = (hasInfix p s || hasInfix p t) := by
  induction s with
  | nil =>
    obtain ⟨d, p, rfl⟩ := List.exists_cons_of_ne_nil hp
    have hd : d ≠ c := fun e => hc (e ▸ List.mem_cons_self)
    simp [hasInfix, List.isPrefixOf, hd]
  | cons d s ih =>
    have h : p.isPrefixOf (d :: s ++ c :: t) = p.isPrefixOf (d :: s) := by
      rw [Bool.eq_iff_iff, List.isPrefixOf_iff_prefix, List.isPrefixOf_iff_prefix]
      exact prefix_append_cons_iff hc
    rw [List.cons_append, hasInfix, hasInfix, ← List.cons_append, h, ih, Bool.or_assoc]

/-! ### Places of a character -/

/-- A character of a text stands in it a last time. -/
theorem exists_append_cons_of_mem (h : c ∈ t) : ∃ s r, t = s ++ c :: r ∧ c ∉ r := by
  obtain ⟨r, s, e, hr⟩ := List.eq_append_cons_of_mem (List.mem_reverse.mpr h)
  refine ⟨s.reverse, r.reverse, ?_, fun hmem => hr (List.mem_reverse.mp hmem)⟩
  rw [← List.reverse_reverse t, e]
  simp

theorem lastOffset_eq_zero (h : c ∉ t) : lastOffset c t = 0 := by
  induction t with
  | nil => rfl
  | cons d t ih =>
    have hd : d ≠ c := fun e => h (e ▸ List.mem_cons_self)
    simp only [lastOffset, ih fun hc => h (List.mem_cons_of_mem d hc), if_neg hd]

theorem firstOffset_eq_length (h : c ∉ t) : firstOffset c t = t.length := by
  have hall : ∀ d ∈ t, (decide (d ≠ c)) = true := fun d hd =>
    decide_eq_true fun e => h (e ▸ hd)
  rw [firstOffset, List.takeWhile_eq_self_iff.mpr hall]

theorem lastOffset_append_cons : lastOffset c (s ++ c :: t) = s.length + 1 + lastOffset c t := by
  induction s with
  | nil =>
    rw [List.nil_append, lastOffset]
    cases lastOffset c t with
    | zero => simp
    | succ n => simp; omega
  | cons d s ih =>
    have hn : s.length + 1 + lastOffset c t = (s.length + lastOffset c t) + 1 := by omega
    rw [List.cons_append, lastOffset, ih, hn, List.length_cons]
    simp only
    omega

theorem firstOffset_append_cons : firstOffset c (s ++ c :: t) = firstOffset c s := by
  rw [firstOffset, firstOffset, List.takeWhile_append]
  split_ifs with h
  · rw [List.takeWhile_cons_of_neg (by simp), List.append_nil, h]
  · rfl

/-- From the offset on the character does not stand in the text, and if the text is not read from its
start it stands right before. -/
theorem lastOffset_spec (c : Char) (t : Text) :
    (∀ i, lastOffset c t ≤ i → t[i]? ≠ some c) ∧
      (lastOffset c t = 0 ∨ ∃ i, lastOffset c t = i + 1 ∧ t[i]? = some c) := by
  by_cases h : c ∈ t
  · obtain ⟨s, r, rfl, hr⟩ := exists_append_cons_of_mem h
    have hlast : lastOffset c (s ++ c :: r) = s.length + 1 := by
      rw [lastOffset_append_cons, lastOffset_eq_zero hr]
    rw [hlast]
    refine ⟨fun i hi hc => hr ?_, Or.inr ⟨s.length, rfl, by simp⟩⟩
    obtain ⟨k, rfl⟩ := Nat.exists_eq_add_of_le hi
    rw [List.append_cons, List.getElem?_append_right (by simp)] at hc
    exact List.mem_of_getElem? hc
  · rw [lastOffset_eq_zero h]
    exact ⟨fun i _ hc => h (List.mem_of_getElem? hc), Or.inl rfl⟩

/-- Up to the offset the character does not stand in the text, and if the text goes on it stands
there. -/
theorem firstOffset_spec (c : Char) (t : Text) :
    (∀ i < firstOffset c t, t[i]? ≠ some c) ∧
      (firstOffset c t = t.length ∨ t[firstOffset c t]? = some c) := by
  by_cases h : c ∈ t
  · obtain ⟨s, r, rfl, hs⟩ := List.eq_append_cons_of_mem h
    have hfirst : firstOffset c (s ++ c :: r) = s.length := by
      rw [firstOffset_append_cons, firstOffset_eq_length hs]
    rw [hfirst]
    refine ⟨fun i hi hc => hs ?_, Or.inr (by simp)⟩
    rw [List.getElem?_append_left hi] at hc
    exact List.mem_of_getElem? hc
  · rw [firstOffset_eq_length h]
    exact ⟨fun i _ hc => h (List.mem_of_getElem? hc), Or.inl rfl⟩

theorem lastOffset_le_length (c : Char) (t : Text) : lastOffset c t ≤ t.length := by
  rcases (lastOffset_spec c t).2 with h | ⟨i, hi, hc⟩
  · omega
  · obtain ⟨hlt, -⟩ := List.getElem?_eq_some_iff.mp hc
    omega

theorem firstOffset_le_length (c : Char) (t : Text) : firstOffset c t ≤ t.length :=
  (List.takeWhile_prefix _).length_le

/-! ### Characters at an offset -/

theorem getElem?_append_cons_length (w : Text) (c : Char) (r : Text) :
    (w ++ c :: r)[w.length]? = some c := by
  rw [List.getElem?_append_right (Nat.le_refl _), Nat.sub_self, List.getElem?_cons_zero]

theorem getElem?_append_cons_add (w : Text) (c : Char) (r : Text) (j : Nat) :
    (w ++ c :: r)[w.length + j + 1]? = r[j]? := by
  rw [List.getElem?_append_right (by omega), Nat.add_assoc, Nat.add_sub_cancel_left,
    List.getElem?_cons_succ]

theorem append_cons_of_getElem? {t : Text} {i : Nat} {c : Char} (h : t[i]? = some c) :
    t = t.take i ++ c :: t.drop (i + 1) ∧ (t.take i).length = i := by
  obtain ⟨hi, he⟩ := List.getElem?_eq_some_iff.mp h
  refine ⟨?_, List.length_take_of_le hi.le⟩
  rw [← he, List.getElem_cons_drop hi, List.take_append_drop]

/-- What is put in front of where a text is cut goes with the front. -/
theorem drop_insert {p q w : Text} {a : Nat} (h : p.length ≤ a) :
    (p ++ (w ++ q)).drop (a + w.length) = (p ++ q).drop a := by
  obtain ⟨m, rfl⟩ := Nat.exists_eq_add_of_le h
  rw [Nat.add_right_comm, Nat.add_assoc, List.drop_length_add_append, List.drop_length_add_append,
    List.drop_length_add_append]

theorem offsetOf_length (t u : Text) : (t ++ u).offsetOf (t.length : Int) = t.length := by
  rw [offsetOf, if_neg (by omega), Int.toNat_natCast, List.length_append]
  omega

/-! ### Parts -/

theorem mem_of_mem_split (hp : p ∈ split d t) (hc : c ∈ p) : c ∈ t := by
  induction t generalizing p with
  | nil =>
    obtain rfl := List.mem_singleton.mp hp
    exact hc
  | cons e t ih =>
    rw [split] at hp
    split_ifs at hp with he
    · rcases List.mem_cons.mp hp with rfl | hp
      · exact absurd hc List.not_mem_nil
      · exact List.mem_cons_of_mem e (ih hp hc)
    · cases hs : split d t with
      | nil =>
        rw [hs] at hp
        obtain rfl := List.mem_singleton.mp hp
        exact List.mem_singleton.mp hc ▸ List.mem_cons_self
      | cons q qs =>
        rw [hs] at hp ih
        rcases List.mem_cons.mp hp with rfl | hp
        · rcases List.mem_cons.mp hc with rfl | hc
          · exact List.mem_cons_self
          · exact List.mem_cons_of_mem e (ih List.mem_cons_self hc)
        · exact List.mem_cons_of_mem e (ih (List.mem_cons_of_mem q hp) hc)

end SqlAssist.Text
