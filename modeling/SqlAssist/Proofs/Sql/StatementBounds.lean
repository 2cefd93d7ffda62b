import SqlAssist.Proofs.Sql.LiteralSpans

/-!
# The statement around a cursor

A statement of a text reaches from one semicolon outside literals to the next, or to the
ends of the text. Which semicolons are outside literals is seen in the whole text, while the
two halves of the cursor's statement are each found in a text of their own: the first half is
looked for before the cursor, the second one behind it, where the scan starts afresh.

`IsAround` says where the statement around an offset starts and stops. At most one place is
right (`IsAround.unique`), and where no literal is open at the cursor the semicolons seen
before it and behind it are those of the whole text (`isAround_offsets`). So the two halves
together are the statement, and what was seen of the first half is seen in it when it is cut
out and scanned again: **`statement_around_cursor`**.
-/

namespace SqlAssist

namespace Statement

open Literal

/-- The statement around the offset reaches from `start` to `stop`: no semicolon outside literals
stands in it, and one stands on either side of it, or the text ends there. -/
structure IsAround (t : Text) (offset start stop : Nat) : Prop where
  /-- It starts at the offset or before. -/
  start_le : start ≤ offset
  /-- It stops at the offset or behind. -/
  le_stop : offset ≤ stop
  /-- It is a part of the text. -/
  stop_le : stop ≤ t.length
  /-- No semicolon is seen in it. -/
  inside : ∀ i, start ≤ i → i < stop → (blank t)[i]? ≠ some ';'
  /-- One is seen before it, unless it starts with the text. -/
  before : start = 0 ∨ ∃ i, start = i + 1 ∧ (blank t)[i]? = some ';'
  /-- One is seen behind it, unless it stops with the text. -/
  behind : stop = t.length ∨ (blank t)[stop]? = some ';'

variable {s r t : Text} {offset start stop start' stop' i : Nat}

theorem IsAround.start_le_start (h : IsAround t offset start stop) (h' : IsAround t offset start' stop') :
    start' ≤ start := by
  rcases h'.before with rfl | ⟨i, rfl, hi⟩
  · exact Nat.zero_le start
  · by_contra hlt
    have hstart := h'.start_le
    have hstop := h.le_stop
    exact h.inside i (by omega) (by omega) hi

theorem IsAround.stop_le_stop (h : IsAround t offset start stop) (h' : IsAround t offset start' stop') :
    stop ≤ stop' := by
  rcases h'.behind with rfl | hi
  · exact h.stop_le
  · by_contra hlt
    have hstart := h.start_le
    have hstop := h'.le_stop
    exact h.inside stop' (by omega) (by omega) hi

/-- There is one statement around an offset. -/
theorem IsAround.unique (h : IsAround t offset start stop) (h' : IsAround t offset start' stop') :
    start' = start ∧ stop' = stop :=
  ⟨Nat.le_antisymm (h.start_le_start h') (h'.start_le_start h),
    Nat.le_antisymm (h'.stop_le_stop h) (h.stop_le_stop h')⟩

/-- Before the cursor the semicolons of the whole text are seen. -/
theorem getElem?_blank_append_left (hi : i < s.length) :
    (blank (s ++ r))[i]? = some ';' ↔ (blank s)[i]? = some ';' := by
  rw [getElem?_blank_eq_some_iff rfl (by decide), getElem?_blank_eq_some_iff rfl (by decide),
    List.getElem?_append_left hi, List.take_append_of_le_length hi.le]

/-- Behind the cursor, too, if no literal is open there. -/
theorem getElem?_blank_append_right (hs : isOpen s = false) (i : Nat) :
    (blank (s ++ r))[s.length + i]? = some ';' ↔ (blank r)[i]? = some ';' := by
  have hstate : s.foldl toggle none = none := by
    rw [← openQuoteFrom_eq_foldl isState_none, isOpen_eq_false_iff.mp hs]
  rw [getElem?_blank_eq_some_iff rfl (by decide), getElem?_blank_eq_some_iff rfl (by decide),
    List.getElem?_append_right (Nat.le_add_right _ _), Nat.add_sub_cancel_left,
    List.take_length_add_append, List.foldl_append, hstate]

/-- The last semicolon seen before the cursor and the first one seen behind it bound the statement. -/
theorem isAround_offsets (hs : isOpen s = false) (r : Text) :
    IsAround (s ++ r) s.length (Text.lastOffset ';' (blank s))
      (s.length + Text.firstOffset ';' (blank r)) := by
  obtain ⟨hlast, hbefore⟩ := Text.lastOffset_spec ';' (blank s)
  obtain ⟨hfirst, hbehind⟩ := Text.firstOffset_spec ';' (blank r)
  refine ⟨?_, Nat.le_add_right _ _, ?_, ?_, ?_, ?_⟩
  · exact length_blank s ▸ Text.lastOffset_le_length ';' (blank s)
  · rw [List.length_append, ← length_blank r]
    exact Nat.add_le_add_left (Text.firstOffset_le_length ';' (blank r)) _
  · intro i hstart hstop
    rcases Nat.lt_or_ge i s.length with hi | hi
    · exact mt (getElem?_blank_append_left hi).mp (hlast i hstart)
    · obtain ⟨k, rfl⟩ := Nat.exists_eq_add_of_le hi
      exact mt (getElem?_blank_append_right hs k).mp (hfirst k (by omega))
  · refine hbefore.imp_right fun ⟨i, hi, hseen⟩ => ⟨i, hi, ?_⟩
    have hlt := length_blank s ▸ (List.getElem?_eq_some_iff.mp hseen).1
    exact (getElem?_blank_append_left hlt).mpr hseen
  · rw [List.length_append, ← length_blank r]
    exact hbehind.imp (congrArg (s.length + ·)) (getElem?_blank_append_right hs _).mpr

theorem beforeCursor_append_afterCursor (s r : Text) :
    beforeCursor s ++ afterCursor r = (s ++ r).slice (Text.lastOffset ';' (blank s))
      (s.length + Text.firstOffset ';' (blank r)) := by
  have hle : Text.lastOffset ';' (blank s) ≤ s.length :=
    length_blank s ▸ Text.lastOffset_le_length ';' (blank s)
  have hlength : s.length + Text.firstOffset ';' (blank r) - Text.lastOffset ';' (blank s) =
      (s.drop (Text.lastOffset ';' (blank s))).length + Text.firstOffset ';' (blank r) := by
    rw [List.length_drop]
    omega
  rw [Text.slice, List.drop_append_of_le_length hle, hlength, List.take_length_add_append, beforeCursor,
    afterCursor]

/-- **The cursor's statement is cut out exactly**: where no literal is open at the cursor, the part
found before it and the part found behind it make up the one statement around it. What is seen of the
first part is what is seen of it in the text, without semicolons, and a literal is open at its end if
one is at the end of the text. -/
theorem statement_around_cursor (hs : isOpen s = false) (r u : Text) :
    (∃ start stop, (∀ start' stop', IsAround (s ++ r) s.length start' stop' ↔
        start' = start ∧ stop' = stop) ∧
      beforeCursor s ++ afterCursor r = (s ++ r).slice start stop) ∧
    (∃ start, beforeCursor u = u.drop start ∧ blank (beforeCursor u) = (blank u).drop start) ∧
    ';' ∉ blank (beforeCursor u) ∧
    isOpen (beforeCursor u) = isOpen u := by
  have haround := isAround_offsets hs r
  refine ⟨⟨_, _, fun start' stop' => ⟨haround.unique, ?_⟩, beforeCursor_append_afterCursor s r⟩,
    ⟨_, rfl, blank_beforeCursor u⟩, ?_, isOpen_beforeCursor u⟩
  · rintro ⟨rfl, rfl⟩
    exact haround
  · rcases exists_beforeCursor u with ⟨h, hstatement⟩ | ⟨p, q, -, -, h, hstatement⟩
    · rwa [hstatement]
    · rwa [hstatement]

/-- The cursor stands between the quotes of a doubled one, and semicolons stand in literals on both
sides of it. -/
theorem statement_around_cursor_in_literal :
    isOpen "a';'; b = ';'".toList = false ∧
      (∃ start stop, IsAround "a';'; b = ';'';' ; c".toList 13 start stop ∧
        Text.slice "a';'; b = ';'';' ; c".toList start stop = " b = ';'';' ".toList) ∧
      isOpen (beforeCursor "a';'; b = ';".toList) = true := by
  have hs : isOpen "a';'; b = ';'".toList = false := by decide
  obtain ⟨⟨start, stop, haround, hslice⟩, -, -, hopen⟩ :=
    statement_around_cursor hs "';' ; c".toList "a';'; b = ';".toList
  refine ⟨hs, ⟨start, stop, (haround start stop).mpr ⟨rfl, rfl⟩, ?_⟩, ?_⟩
  · refine hslice.symm.trans ?_
    decide
  · rw [hopen]
    decide

end Statement

end SqlAssist
