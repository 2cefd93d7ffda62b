import SqlAssist.Document.Hover
import SqlAssist.Proofs.Text.Words

/-!
# The word at the cursor

The word that is being typed is the longest run of word characters that ends at the cursor
(`IsLongestEnd`), and the word that is described is the whole run of name characters that
the cursor touches (`IsRun`). Both are read off the text before the cursor, and both
readings look past a line feed at its end: a cursor at the start of a line is taken to
stand behind the word that ends the line before.

**`word_at_cursor_iff`** says that this is all that goes wrong. Unless the text before the
cursor ends in a line feed right behind a character of the kind (`BreaksOff`), the words
are those runs, and for every cursor in a run the same one; if it ends so, they are not.
`lastWord_breaksOff` is an example of the latter.
-/

namespace SqlAssist

namespace Text

variable {p : Char → Bool} {t u v w : Text} {i start : Nat}

/-! ### Runs -/

/-- `w` is the longest end of the text that is made of characters with the property. -/
structure IsLongestEnd (p : Char → Bool) (t w : Text) : Prop where
  /-- The text ends in it. -/
  suffix : w <:+ t
  /-- All its characters have the property. -/
  all : ∀ c ∈ w, p c = true
  /-- No longer end has such characters only. -/
  longest : ∀ v, v <:+ t → (∀ c ∈ v, p c = true) → v.length ≤ w.length

/-- `w` stands in the text from the offset `start` on, its characters have the property,
and those around it do not. -/
structure IsRun (p : Char → Bool) (t : Text) (start : Nat) (w : Text) : Prop where
  /-- It stands between two texts of which the first has that length, and the characters
  next to it do not have the property. -/
  piece : ∃ u v, t = u ++ w ++ v ∧ u.length = start ∧
    u.getLast?.any p = false ∧ v.head?.any p = false
  /-- All its characters have the property. -/
  all : ∀ c ∈ w, p c = true

/-- A cursor at the offset stands in the run or at one of its ends. -/
def Touches (i start : Nat) (w : Text) : Prop := start ≤ i ∧ i ≤ start + w.length

/-- The text ends in a line feed right behind a character with the property. -/
def BreaksOff (p : Char → Bool) (t : Text) : Prop :=
  ∃ s, t = s ++ ['\n'] ∧ s.getLast?.any p = true

theorem isLongestEnd_takeWhileEnd (p : Char → Bool) (t : Text) :
    IsLongestEnd p t (takeWhileEnd p t) where
  suffix := List.rtakeWhile_suffix p t
  all := fun _ hc => List.mem_rtakeWhile_imp hc
  longest := by
    intro v hv hall
    obtain ⟨u, rfl⟩ := hv
    have h : takeWhileEnd p (u ++ v) = takeWhileEnd p u ++ v := by
      rw [takeWhileEnd, List.reverse_append, List.takeWhile_append_of_pos, List.reverse_append,
        List.reverse_reverse, takeWhileEnd]
      exact fun c hc => hall c (List.mem_reverse.mp hc)
    rw [h, List.length_append]
    omega

/-- There is one longest end. -/
theorem IsLongestEnd.unique (hv : IsLongestEnd p t v) (hw : IsLongestEnd p t w) : v = w := by
  have hl : v.length = w.length :=
    Nat.le_antisymm (hw.longest v hv.suffix hv.all) (hv.longest w hw.suffix hw.all)
  exact (List.suffix_of_suffix_length_le hv.suffix hw.suffix hl.le).eq_of_length hl

/-- The run that a cursor touches is what stands on both sides of it. -/
theorem IsRun.eq_of_touches (h : IsRun p t start w) (hi : Touches i start w) :
    w = takeWhileEnd p (t.take i) ++ (t.drop i).takeWhile p := by
  obtain ⟨⟨u, v, rfl, rfl, hu, hv⟩, hall⟩ := h
  obtain ⟨k, rfl⟩ : ∃ k, i = u.length + k := ⟨i - u.length, by have := hi.1; omega⟩
  have hk : k ≤ w.length := by have := hi.2; omega
  have htake : (u ++ w ++ v).take (u.length + k) = u ++ w.take k := by
    rw [List.append_assoc, List.take_length_add_append, List.take_append_of_le_length hk]
  have hdrop : (u ++ w ++ v).drop (u.length + k) = w.drop k ++ v := by
    rw [List.append_assoc, List.drop_length_add_append, List.drop_append_of_le_length hk]
  rw [htake, hdrop, takeWhileEnd_append_stop (fun c hc => hall c (List.mem_of_mem_take hc)) hu,
    takeWhile_append_stop (fun c hc => hall c (List.mem_of_mem_drop hc)) hv, List.take_append_drop]

/-- What stands on both sides of a cursor is a run that it touches. -/
theorem exists_isRun_touches (hi : i ≤ t.length) :
    ∃ start, IsRun p t start (takeWhileEnd p (t.take i) ++ (t.drop i).takeWhile p) ∧
      Touches i start (takeWhileEnd p (t.take i) ++ (t.drop i).takeWhile p) := by
  have hbefore := dropWhileEnd_append_takeWhileEnd p (t.take i)
  have hafter := List.takeWhile_append_dropWhile (p := p) (l := t.drop i)
  have hlength : (dropWhileEnd p (t.take i)).length + (takeWhileEnd p (t.take i)).length = i := by
    rw [← List.length_append, hbefore, List.length_take]
    omega
  refine ⟨(dropWhileEnd p (t.take i)).length, ⟨⟨_, (t.drop i).dropWhile p, ?_, rfl,
    getLast?_dropWhileEnd p _, head?_dropWhile p _⟩, ?_⟩, ?_, ?_⟩
  · calc t = t.take i ++ t.drop i := (List.take_append_drop i t).symm
      _ = dropWhileEnd p (t.take i) ++ takeWhileEnd p (t.take i) ++
          ((t.drop i).takeWhile p ++ (t.drop i).dropWhile p) := by rw [hbefore, hafter]
      _ = _ := by simp only [List.append_assoc]
  · intro c hc
    rcases List.mem_append.mp hc with hc | hc
    · exact List.mem_rtakeWhile_imp hc
    · exact List.mem_takeWhile_imp hc
  · omega
  · rw [List.length_append]
    omega

/-! ### A line feed at the end -/

/-- Looking past a line feed at the end changes what is read exactly where a run ends right
before it. -/
theorem takeWhileEnd_dropFinalBreak_iff (hbreak : p '\n' = false) :
    takeWhileEnd p (dropFinalBreak t) = takeWhileEnd p t ↔ ¬ BreaksOff p t := by
  by_cases h : t.getLast? = some '\n'
  · obtain ⟨s, rfl⟩ := List.getLast?_eq_some_iff.mp h
    have hnil : takeWhileEnd p (s ++ ['\n']) = [] := takeWhileEnd_append_cons hbreak
    rw [dropFinalBreak_concat, hnil, takeWhileEnd_eq_nil_iff, ← Bool.not_eq_true]
    refine not_congr ⟨fun hs => ⟨s, rfl, hs⟩, ?_⟩
    rintro ⟨r, hr, hlast⟩
    rwa [List.append_cancel_right hr]
  · rw [dropFinalBreak_of_getLast?_ne h]
    refine ⟨fun _ => ?_, fun _ => rfl⟩
    rintro ⟨s, rfl, -⟩
    exact h (by simp)

/-- The word that is read is the longest end of word characters, unless that breaks off. -/
theorem isLongestEnd_lastWord_iff :
    IsLongestEnd isWordChar t t.lastWord ↔ ¬ BreaksOff isWordChar t := by
  rw [← takeWhileEnd_dropFinalBreak_iff (by decide)]
  constructor
  · intro h
    exact h.unique (isLongestEnd_takeWhileEnd _ t)
  · intro h
    rw [lastWord, h]
    exact isLongestEnd_takeWhileEnd _ t

end Text

namespace Hover

open Text

variable {t : Text} {i : Nat}

theorem wordAt_of_not_breaksOff (h : ¬ BreaksOff isNameChar (t.take i)) :
    wordAt (t.take i) (t.drop i) =
      takeWhileEnd isNameChar (t.take i) ++ (t.drop i).takeWhile isNameChar := by
  rw [wordAt, lastName, (takeWhileEnd_dropFinalBreak_iff (by decide)).mpr h]

/-- **The word at the cursor** is the run of characters that the cursor touches, and the word
being typed the part of a run before it, unless the text before the cursor breaks off: the
exception is exact. -/
theorem word_at_cursor_iff (hi : i ≤ t.length) :
    (IsLongestEnd isWordChar (t.take i) (lastWord (t.take i)) ↔ ¬ BreaksOff isWordChar (t.take i)) ∧
      ((∃ start, IsRun isNameChar t start (wordAt (t.take i) (t.drop i)) ∧
        Touches i start (wordAt (t.take i) (t.drop i))) ↔ ¬ BreaksOff isNameChar (t.take i)) ∧
      ∀ start w, IsRun isNameChar t start w → ∀ j, Touches j start w →
        ¬ BreaksOff isNameChar (t.take j) → wordAt (t.take j) (t.drop j) = w := by
  refine ⟨isLongestEnd_lastWord_iff, ⟨?_, fun h => ?_⟩, fun start w hw j hj h => ?_⟩
  · rintro ⟨start, hrun, htouches⟩
    have hread := hrun.eq_of_touches htouches
    rw [wordAt, lastName] at hread
    exact (takeWhileEnd_dropFinalBreak_iff (by decide)).mp (List.append_cancel_right hread)
  · rw [wordAt_of_not_breaksOff h]
    exact exists_isRun_touches hi
  · rw [wordAt_of_not_breaksOff h]
    exact (hw.eq_of_touches hj).symm

/-- In the middle of the name at the start of a second line. -/
theorem word_at_cursor_in_second_line :
    (∃ start, IsRun isNameChar "a\nv$b.c".toList start "v$b".toList ∧
      Touches 4 start "v$b".toList) := by
  have h : ¬ BreaksOff isNameChar ("a\nv$b.c".toList.take 4) := by
    rintro ⟨s, hs, -⟩
    have hlast := congrArg List.getLast? hs
    simp at hlast
  exact ((word_at_cursor_iff (t := "a\nv$b.c".toList) (i := 4) (by decide)).2.1.mpr h)

/-- At the start of a line the word before the line feed is taken for the word being typed,
and joined with the one behind the cursor it stands nowhere in the text. -/
theorem lastWord_breaksOff :
    lastWord "foo\n".toList = "foo".toList ∧
      ¬ IsLongestEnd isWordChar "foo\n".toList (lastWord "foo\n".toList) ∧
      wordAt "a\n".toList "b".toList = "ab".toList ∧ ¬ "ab".toList <:+: "a\nb".toList := by
  have hbreaks : BreaksOff isWordChar "foo\n".toList := ⟨"foo".toList, rfl, by decide⟩
  refine ⟨by decide, fun h => isLongestEnd_lastWord_iff.mp h hbreaks, by decide, by decide⟩

end Hover

end SqlAssist
