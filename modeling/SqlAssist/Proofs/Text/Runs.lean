import SqlAssist.Text.Word
import Mathlib.Data.List.DropRight
import Mathlib.Data.List.Induction
import Mathlib.Data.List.TakeWhile

/-!
# Runs at the edges of a text

A run is made of characters with a property, at the start of a text or at its end. When two texts are
joined, a run ends at the first character without the property on its way: it is the run of one of
the texts, unless it covers that one. A run at the end may be looked for past a line feed, and so is
the dotted path that ends a text (`lastPath_append_cons`).
-/

namespace SqlAssist.Text

variable {p q : Char → Bool} {c : Char} {r s t w : Text}

/-! ### Runs at the start -/

theorem takeWhile_append_stop (hw : ∀ c ∈ w, p c = true) (hr : r.head?.any p = false) :
    (w ++ r).takeWhile p = w := by
  rw [List.takeWhile_append_of_pos hw]
  cases r with
  | nil => rw [List.takeWhile_nil, List.append_nil]
  | cons c r =>
    have hc : p c = false := hr
    rw [List.takeWhile_cons_of_neg (by simp [hc]), List.append_nil]

theorem dropWhile_append_stop (hw : ∀ c ∈ w, p c = true) (hr : r.head?.any p = false) :
    (w ++ r).dropWhile p = r := by
  rw [List.dropWhile_append_of_pos hw]
  cases r with
  | nil => rfl
  | cons c r =>
    have hc : p c = false := hr
    rw [List.dropWhile_cons_of_neg (by simp [hc])]

theorem takeWhile_append_cons {c : Char} (hc : p c = false) (w u : Text) :
    (w ++ c :: u).takeWhile p = w.takeWhile p := by
  induction w with
  | nil => exact List.takeWhile_cons_of_neg (by simp [hc])
  | cons d w ih => rw [List.cons_append, List.takeWhile_cons, List.takeWhile_cons, ih]

/-- A run at the start of a text does not go on behind a character that ends it. -/
theorem takeWhile_append_of_getLast? {u : Text} (hu : u ≠ []) (hlast : u.getLast?.any p = false)
    (r : Text) : (u ++ r).takeWhile p = u.takeWhile p := by
  rcases List.eq_nil_or_concat u with rfl | ⟨v, c, rfl⟩
  · exact absurd rfl hu
  · have hc : p c = false := by simpa using hlast
    rw [List.concat_eq_append, List.append_assoc, List.singleton_append, takeWhile_append_cons hc,
      takeWhile_append_cons hc]

theorem dropWhile_append_cons {c : Char} (hc : p c = false) (w u : Text) :
    (w ++ c :: u).dropWhile p = w.dropWhile p ++ c :: u := by
  induction w with
  | nil => exact List.dropWhile_cons_of_neg (by simp [hc])
  | cons d w ih =>
    rw [List.cons_append, List.dropWhile_cons, List.dropWhile_cons]
    split_ifs
    · exact ih
    · rfl

theorem head?_dropWhile (p : Char → Bool) (t : Text) : (t.dropWhile p).head?.any p = false := by
  cases h : t.dropWhile p with
  | nil => rfl
  | cons c r =>
    have := List.head_dropWhile_not (p := p) (l := t) (by simp [h])
    simpa [h] using this

/-! ### Runs at the end -/

theorem takeWhileEnd_append_stop {u : Text} (hw : ∀ c ∈ w, p c = true)
    (hu : u.getLast?.any p = false) : takeWhileEnd p (u ++ w) = w := by
  rw [takeWhileEnd, List.reverse_append, takeWhile_append_stop, List.reverse_reverse]
  · exact fun c hc => hw c (List.mem_reverse.mp hc)
  · rwa [List.head?_reverse]

theorem takeWhileEnd_eq_nil_iff {q : Char → Bool} :
    takeWhileEnd q t = [] ↔ t.getLast?.any q = false := by
  induction t using List.reverseRecOn with
  | nil => simp [takeWhileEnd]
  | append_singleton t c _ => simp [takeWhileEnd]

theorem takeWhileEnd_suffix (q : Char → Bool) (t : Text) : takeWhileEnd q t <:+ t := by
  rw [takeWhileEnd, ← List.reverse_prefix, List.reverse_reverse]
  exact List.takeWhile_prefix q

/-- A run at the end of a joined text reaches into its first part only if it covers the second. -/
theorem takeWhileEnd_append (q : Char → Bool) (s t : Text) :
    takeWhileEnd q (s ++ t) =
      if (takeWhileEnd q t).length = t.length then takeWhileEnd q s ++ t else takeWhileEnd q t := by
  have hlength : (t.reverse.takeWhile q).length = t.reverse.length ↔
      (takeWhileEnd q t).length = t.length := by
    rw [takeWhileEnd, List.length_reverse, List.length_reverse]
  rw [takeWhileEnd, List.reverse_append, List.takeWhile_append]
  split_ifs with h h' h'
  · rw [List.reverse_append, List.reverse_reverse]
    rfl
  · exact absurd (hlength.mp h) h'
  · exact absurd (hlength.mpr h') h
  · rfl

theorem takeWhileEnd_append_cons {q : Char → Bool} (hc : q c = false) :
    takeWhileEnd q (s ++ c :: t) = takeWhileEnd q t := by
  have h : (s ++ c :: t).reverse = t.reverse ++ c :: s.reverse := by simp
  rw [takeWhileEnd, takeWhileEnd, h, List.takeWhile_append]
  split_ifs with hl
  · rw [List.takeWhile_cons_of_neg (by simp [hc]), List.append_nil,
      (List.takeWhile_prefix q).eq_of_length hl]
  · rfl

theorem dropWhileEnd_append_takeWhileEnd (p : Char → Bool) (t : Text) :
    dropWhileEnd p t ++ takeWhileEnd p t = t := List.rdropWhile_append_rtakeWhile

theorem getLast?_dropWhileEnd (p : Char → Bool) (t : Text) :
    (dropWhileEnd p t).getLast?.any p = false := by
  rw [dropWhileEnd, List.getLast?_reverse]
  exact head?_dropWhile p t.reverse

/-! ### A line feed at the end -/

theorem dropFinalBreak_concat (t : Text) : dropFinalBreak (t ++ ['\n']) = t := by
  simp [dropFinalBreak]

theorem dropFinalBreak_of_getLast?_ne (h : t.getLast? ≠ some '\n') : dropFinalBreak t = t :=
  if_neg h

theorem length_le_dropFinalBreak (t : Text) : t.length ≤ (dropFinalBreak t).length + 1 := by
  rw [dropFinalBreak]
  split_ifs
  · rw [List.length_dropLast]
    omega
  · omega

theorem dropFinalBreak_append (s : Text) (ht : t ≠ []) :
    dropFinalBreak (s ++ t) = s ++ dropFinalBreak t := by
  rw [dropFinalBreak, dropFinalBreak, List.getLast?_append_of_ne_nil _ ht]
  split_ifs
  · exact List.dropLast_append_of_ne_nil ht
  · rfl

theorem dropFinalBreak_append_cons (hc : c ≠ '\n') :
    dropFinalBreak (s ++ c :: t) = s ++ c :: dropFinalBreak t := by
  rw [dropFinalBreak_append s (List.cons_ne_nil c t)]
  cases t with
  | nil => simp [dropFinalBreak, hc]
  | cons d t => exact congrArg (s ++ ·) (dropFinalBreak_append [c] (List.cons_ne_nil d t))

/-! ### Paths at the end -/

theorem lastPath_eq_nil (hlast : t.getLast? = some c) (hc : isPathChar c = false ∧ c ≠ '\n') :
    lastPath t = [] := by
  rw [lastPath, dropFinalBreak_of_getLast?_ne (by simp [hlast, hc.2]), takeWhileEnd_eq_nil_iff, hlast]
  exact hc.1

theorem lastPath_append_cons (hc : isPathChar c = false) (hbreak : c ≠ '\n') :
    lastPath (s ++ c :: t) = lastPath t := by
  rw [lastPath, lastPath, dropFinalBreak_append_cons hbreak, takeWhileEnd_append_cons hc]

/-- The path at the end of a text, behind a character that is in no path. -/
theorem lastPath_append {front path : Text} (hfront : front.getLast?.any isPathChar = false)
    (hpath : ∀ c ∈ path, isNameChar c = true ∨ c = '.') :
    (front ++ (path ++ ['.'])).lastPath = path ++ ['.'] := by
  have hbreak : (front ++ (path ++ ['.'])).dropFinalBreak = front ++ (path ++ ['.']) := by
    refine dropFinalBreak_of_getLast?_ne ?_
    rw [← List.append_assoc, List.getLast?_concat]
    decide
  have hall : ∀ c ∈ path ++ ['.'], isPathChar c = true := by
    intro c hc
    rw [isPathChar, Bool.or_eq_true, decide_eq_true_eq]
    rcases List.mem_append.mp hc with hc | hc
    · exact hpath c hc
    · exact Or.inr (List.mem_singleton.mp hc)
  rw [lastPath, hbreak, takeWhileEnd_append_stop hall hfront]

end SqlAssist.Text
