import SqlAssist.Completion.Cursor
import SqlAssist.Completion.Variable
import SqlAssist.Proofs.Sql.ClosedGroup
import SqlAssist.Proofs.Sql.Comment
import SqlAssist.Proofs.Sql.Literal

/-!
# Texts without marks

Comments, literals, statements, groups and variables are found by a few characters.
A text that has none of them (`IsPlain`) is read as it stands: nothing is masked,
the statement is the whole text, and it has one level. The tables around the cursor
are then those of the text before it and the text behind it, put together
(`exists_find?_of_plain`).
-/

namespace SqlAssist

/-- The characters that set off comments, literals, statements, groups and variables. -/
def marks : List Char :=
  ['-', '/', '#', '\'', '"', ';', '(', ')', '$']

/-- The text has none of these. -/
def IsPlain (t : Text) : Prop := ∀ c ∈ t, c ∉ marks

instance (t : Text) : Decidable (IsPlain t) :=
  decidable_of_iff (t.all (!marks.contains ·) = true) (by simp [IsPlain])

namespace IsPlain

variable {s t : Text}

theorem append (hs : IsPlain s) (ht : IsPlain t) : IsPlain (s ++ t) :=
  List.forall_mem_append.mpr ⟨hs, ht⟩

theorem not_mem (h : IsPlain t) {c : Char} (hc : c ∈ marks) : c ∉ t :=
  fun hmem => h c hmem hc

end IsPlain

/-! ### Masking -/

section Reading

variable {t : Text}

theorem Comment.hasMarker_of_plain (h : IsPlain t) : Comment.hasMarker t = false := by
  have hdash : Text.hasInfix "--".toList t = false := Text.hasInfix_eq_false (h.not_mem (by decide))
  have hslash : Text.hasInfix "/*".toList t = false := Text.hasInfix_eq_false (h.not_mem (by decide))
  have hhash : t.contains '#' = false := by
    simpa using h.not_mem (c := '#') (by decide)
  rw [hasMarker, hdash, hslash, hhash]
  rfl

theorem Comment.mask_of_plain (h : IsPlain t) : Comment.mask t = t :=
  mask_of_no_marker (hasMarker_of_plain h)

theorem Comment.isOpen_of_plain (h : IsPlain t) : Comment.isOpen t = false :=
  isOpen_of_no_marker (hasMarker_of_plain h)

theorem Literal.isQuote_of_plain (h : IsPlain t) : ∀ c ∈ t, Literal.isQuote c = false := by
  intro c hc
  rw [← Bool.not_eq_true, isQuote_iff]
  rintro (rfl | rfl)
  · exact h _ hc (by decide)
  · exact h _ hc (by decide)

theorem Literal.blank_of_plain (h : IsPlain t) : Literal.blank t = t :=
  blank_of_no_quote (isQuote_of_plain h)

theorem Literal.isOpen_of_plain (h : IsPlain t) : Literal.isOpen t = false :=
  isOpen_of_no_quote (isQuote_of_plain h)

theorem Statement.beforeCursor_of_plain (h : IsPlain t) : Statement.beforeCursor t = t := by
  rw [beforeCursor, Literal.blank_of_plain h, Text.lastOffset_eq_zero (h.not_mem (by decide))]
  rfl

theorem Statement.afterCursor_of_plain (h : IsPlain t) : Statement.afterCursor t = t := by
  rw [afterCursor, Literal.blank_of_plain h, Text.firstOffset_eq_length (h.not_mem (by decide)),
    List.take_length]

theorem CursorPlace.continuation_of_plain (h : IsPlain t) : CursorPlace.continuation t = t := by
  rw [continuation, Comment.mask_of_plain h, Statement.afterCursor_of_plain h,
    Literal.blank_of_plain h]

theorem VariableContext.detect?_of_plain (h : IsPlain t) : VariableContext.detect? t = none := by
  rw [detect?, Comment.mask_of_plain h, Statement.beforeCursor_of_plain h]
  have : Text.afterLastInfix? opener t = none := Text.afterLastInfix?_eq_none (h.not_mem (by decide))
  rw [this]

/-! ### Levels -/

theorem IsPlain.balanced (h : IsPlain t) : Paren.Balanced t :=
  Paren.balanced_of_no_paren fun c hc =>
    ⟨fun e => h c hc (by rw [e]; decide), fun e => h c hc (by rw [e]; decide)⟩

theorem Paren.depth_of_plain (h : IsPlain t) : Paren.depth t = 0 :=
  Paren.foldl_depthStep_closing 0 h.balanced

theorem Paren.maskGroups_of_plain (h : IsPlain t) : Paren.maskGroups t = t := by
  rw [maskGroups]
  induction t with
  | nil => rfl
  | cons c t ih =>
    obtain ⟨hc, ht⟩ := List.forall_mem_cons.mp h
    have ho : c ≠ '(' := fun e => hc (by rw [e]; decide)
    rw [maskFrom, if_neg (by simp [ho]), ih ht]

theorem Paren.untilClosed_of_plain (h : IsPlain t) : Paren.untilClosed 0 t = t := by
  have := Paren.untilClosed_closing_append h.balanced 0 []
  rwa [List.append_nil, Paren.untilClosed, List.append_nil] at this

/-- Between plain texts the cursor stands at a place whose tables are those of both. -/
theorem CursorPlace.exists_find?_of_plain {before after : Text} (hb : IsPlain before)
    (ha : IsPlain after) :
    ∃ place, CursorPlace.find? before after = some place ∧
      place.resolution = Resolution.ofText (Text.upper (before ++ after)) := by
  obtain ⟨k, hk, hlevel⟩ := Clause.exists_detect_eq before
  obtain rfl : k = 0 := by
    rw [Paren.depth_of_plain hb] at hk
    omega
  have hjoin : Text.join ['('] (Paren.levelTexts before) = before := Nest.join_texts_ofText before
  have hext : (Level.atDepth before 0).extended after = before ++ after := by
    rw [Level.extended_atDepth before after (Nat.zero_le _), List.drop_zero, hjoin,
      Paren.depth_of_plain hb, Nat.sub_zero, Paren.untilClosed_of_plain ha,
      Paren.maskGroups_of_plain (hb.append ha)]
  rw [find?, Comment.mask_of_plain hb, Statement.beforeCursor_of_plain hb, Literal.isOpen_of_plain hb,
    Comment.isOpen_of_plain hb, Literal.blank_of_plain hb, continuation_of_plain ha]
  refine ⟨⟨before, Level.atCursor before, (Clause.detect (Level.atCursor before)).1,
    (Clause.detect (Level.atCursor before)).2,
    Resolution.ofText (Text.upper ((Clause.detect (Level.atCursor before)).2.extended after))⟩, rfl, ?_⟩
  rw [hlevel, hext]

end Reading

end SqlAssist
