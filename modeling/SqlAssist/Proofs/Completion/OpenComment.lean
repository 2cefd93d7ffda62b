import SqlAssist.Proofs.Completion.OpenVariable
import SqlAssist.Proofs.Completion.Output
import SqlAssist.Proofs.Sql.Lexeme
import SqlAssist.Proofs.Sql.Literal

/-!
# Block comments that are not closed

A slash-star that is never closed does not start a comment for the lexical rules: what
follows is read as code, line comments in it are blanked, and only the opener itself stays
to be seen in the masked text (`exists_mask_unclosed`). That is how the cursor is found to
be inside the comment (`isOpen_unclosed_iff`), except where the last lexeme is a line
comment that ends with its line: then this comment has the say. A variable is looked for
before that, in the body, too. **`complete_in_unclosed_comment_iff`** says that these are
the only exceptions, and `complete_in_plain_comment` gives a condition that is seen at
once.
-/

namespace SqlAssist

namespace Lexicon

variable {p t : Text}

theorem lengthThrough?_eq_none (h : Text.hasInfix p t = false) : lengthThrough? p t = none := by
  induction t with
  | nil => rfl
  | cons c t ih =>
    rw [Text.hasInfix, Bool.or_eq_false_iff] at h
    rw [lengthThrough?, h.1, ih h.2]
    rfl

end Lexicon

namespace Comment

open Lexicon

/-- What opens a block comment. -/
def opener : Text := ['/', '*']

/-- The text ends with a line comment and the end of its line. -/
def EndsWithLine (t : Text) : Prop :=
  (kinds t).getLast? = some .lineComment ∧ t.getLast?.any Text.isLineBreak = true

instance (t : Text) : Decidable (EndsWithLine t) := inferInstanceAs (Decidable (_ ∧ _))

section Unclosed

variable {q u s : Text}

/-- The text has an opener with no closer behind it and, before it, neither quotes nor markers. -/
structure IsUnclosed (q u : Text) : Prop where
  /-- No literal opens before the opener. -/
  no_quote : ∀ c ∈ q, Literal.isQuote c = false
  /-- No comment opens before the opener. -/
  no_marker : hasMarker q = false
  /-- No closer follows. -/
  unclosed : Text.hasInfix "*/".toList u = false

instance (q u : Text) : Decidable (IsUnclosed q u) :=
  decidable_of_iff
    ((q.all fun c => !Literal.isQuote c) = true ∧ hasMarker q = false ∧
      Text.hasInfix "*/".toList u = false)
    ⟨fun ⟨hquote, hmarker, hclosed⟩ => ⟨by simpa using hquote, hmarker, hclosed⟩,
      fun h => ⟨by simpa using h.no_quote, h.no_marker, h.unclosed⟩⟩

theorem blockCommentLength?_unclosed (h : Text.hasInfix "*/".toList u = false) :
    blockCommentLength? (opener ++ u) = none := by
  have hdrop : Text.hasInfix "*/".toList ((opener ++ u).drop 3) = false := by
    rw [← Bool.not_eq_true, Text.hasInfix_iff] at h ⊢
    exact fun hi => h (hi.trans (List.drop_suffix 1 u).isInfix)
  rw [blockCommentLength?, lengthThrough?_eq_none hdrop]
  split_ifs
  · rfl
  · exact congrArg (Option.map (· + 2)) (lengthThrough?_eq_none h)
  · rfl

theorem eq_of_suffix_append_opener (hs : s <:+ q ++ opener) (hne : s ≠ []) :
    (∃ w, w <:+ q ∧ s = w ++ opener) ∨ s = ['*'] := by
  obtain ⟨p, hp⟩ := hs
  rcases List.append_eq_append_iff.mp hp with ⟨w, rfl, rfl⟩ | ⟨w, rfl, hw⟩
  · exact Or.inl ⟨w, List.suffix_append p w, rfl⟩
  · rcases List.cons_eq_append_iff.mp hw with ⟨-, rfl⟩ | ⟨v, rfl, hv⟩
    · exact Or.inl ⟨[], List.nil_suffix, rfl⟩
    · rcases List.cons_eq_append_iff.mp hv with ⟨-, rfl⟩ | ⟨v, rfl, hv⟩
      · exact Or.inr rfl
      · exact absurd (List.append_eq_nil_iff.mp (List.cons.inj hv).2.symm).2 hne

/-- Neither the code before an opener that is not closed nor the opener opens a comment. -/
theorem not_opensComment (h : IsUnclosed q u) (hs : s <:+ q ++ opener) (hne : s ≠ []) :
    ¬ OpensComment (s ++ u) := by
  rcases eq_of_suffix_append_opener hs hne with ⟨w, hw, rfl⟩ | rfl
  · have hmarker : ¬ hasMarker w = true := fun hm =>
      Bool.false_ne_true (h.no_marker.symm.trans (hasMarker_mono hw.isInfix hm))
    rw [hasMarker_iff] at hmarker
    rw [List.append_assoc]
    rintro ((hdash | hhash) | ⟨n, hn⟩)
    · have hdash : ['-', '-'] <+: w := (Text.prefix_append_cons_iff (by decide)).mp hdash
      exact hmarker (Or.inl hdash.isInfix)
    · have hhash : ['#', ' '] <+: w := (Text.prefix_append_cons_iff (by decide)).mp hhash
      exact hmarker (Or.inr (Or.inr (hhash.subset (by decide))))
    · have hblock := prefix_of_blockCommentLength? hn
      cases w with
      | nil => exact absurd hn (by rw [List.nil_append, blockCommentLength?_unclosed h.unclosed]; nofun)
      | cons c w =>
        obtain ⟨rfl, hstar⟩ := List.cons_prefix_cons.mp hblock
        cases w with
        | nil => exact absurd (List.cons_prefix_cons.mp hstar).1 (by decide)
        | cons d w =>
          obtain ⟨rfl, -⟩ := List.cons_prefix_cons.mp hstar
          exact hmarker (Or.inr (Or.inl ⟨[], w, rfl⟩))
  · rintro (hline | ⟨n, hn⟩)
    · exact not_opensLine_cons (by decide) (by decide) hline
    · exact absurd (List.cons_prefix_cons.mp (prefix_of_blockCommentLength? hn)).1 (by decide)

theorem exists_mask_unclosed (h : IsUnclosed q u) :
    ∃ m, m.length = u.length ∧ mask (q ++ opener ++ u) = q ++ opener ++ m := by
  rw [mask_eq_maskFrom]
  exact exists_maskFrom_append none _ u fun s => not_opensComment h

/-- The cursor is found inside the comment unless a line comment has just ended. -/
theorem isOpen_unclosed_iff (h : IsUnclosed q u) :
    isOpen (q ++ opener ++ u) = true ↔ ¬ EndsWithLine (q ++ opener ++ u) := by
  obtain ⟨m, -, hmask⟩ := exists_mask_unclosed h
  have hblank : Literal.blank (q ++ opener ++ m) = q ++ (opener ++ Literal.blank m) := by
    rw [List.append_assoc, Literal.blank_append (Literal.isOpen_of_no_quote h.no_quote) rfl,
      Literal.blank_of_no_quote h.no_quote]
    rfl
  have hseen : Text.hasInfix "/*".toList (Literal.blank (q ++ opener ++ m)) = true := by
    rw [Text.hasInfix_iff, hblank]
    exact ⟨q, Literal.blank m, List.append_assoc _ _ _⟩
  have hmarker : hasMarker (q ++ opener ++ u) = true :=
    hasMarker_iff.mpr (Or.inr (Or.inl ⟨q, u, rfl⟩))
  generalize q ++ opener ++ u = t at hmask hmarker ⊢
  rw [isOpen, hmarker, if_pos rfl, EndsWithLine, hmask]
  split_ifs with hlast
  · rw [hlast, Bool.not_eq_true', not_and, Bool.not_eq_true]
    exact ⟨fun h _ => h, fun h => h rfl⟩
  · exact ⟨fun _ h => hlast h.1, fun _ => hseen⟩

/-- Only a line comment in the body can end with its line. -/
theorem not_endsWithLine (h : IsUnclosed q u)
    (hline : u.getLast?.any Text.isLineBreak = false ∨ ¬ ['-', '-'] <:+: u ∧ ¬ ['#', ' '] <:+: u) :
    ¬ EndsWithLine (q ++ opener ++ u) := by
  rintro ⟨hlast, hbreak⟩
  have hopens : ['-', '-'] <:+: u ∨ ['#', ' '] <:+: u := by
    obtain ⟨a, x, -, ht, hx, -⟩ := exists_of_getLast?_kindsFrom none _ hlast
    have hbody : x <:+ u := by
      rcases List.append_eq_append_iff.mp ht with ⟨w, rfl, rfl⟩ | ⟨w, hw, rfl⟩
      · exact List.suffix_append w x
      · by_contra hne
        have hw0 : w ≠ [] := fun e => hne (e ▸ List.suffix_rfl)
        exact not_opensComment h (hw ▸ List.suffix_append a w) hw0 (Or.inl hx)
    exact hx.imp (·.isInfix.trans hbody.isInfix) (·.isInfix.trans hbody.isInfix)
  rcases hline with hline | ⟨hdash, hhash⟩
  -- With an empty body the star is the last character.
  · cases u with
    | nil =>
      have hstar : (q ++ opener ++ []).getLast? = some '*' := by simp [opener]
      rw [hstar] at hbreak
      cases hbreak
    | cons c u =>
      rw [List.getLast?_append_of_ne_nil _ (List.cons_ne_nil c u), hline] at hbreak
      cases hbreak
  · exact hopens.elim hdash hhash

end Unclosed

end Comment

/-! ### Requests -/

namespace Engine

variable {before : Text}

/-- Where a comment is open, the answer is empty for all engines unless a variable is open, too. -/
theorem complete_eq_nil_iff (h : Comment.isOpen before = true) :
    (∀ (e : Engine) (typed after : Text), e.complete { before, typed, after } = []) ↔
      VariableContext.detect? before = none := by
  constructor
  · intro hall
    cases hv : VariableContext.detect? before with
    | none => rfl
    | some v =>
      obtain ⟨vars, c, hc, hlabel⟩ :=
        VariableContext.exists_candidate (VariableContext.isTyped_of_detect? hv)
      have hempty := hall (ofConfiguration { workflowVariables := vars }) [] []
      rw [complete, Request.complete, Request.route, hv] at hempty
      exact absurd hempty (Candidate.unique_ne_nil hc hlabel)
  · intro hv e typed after
    have hplace : CursorPlace.find? before after = none := by
      rw [CursorPlace.find?, h, Bool.or_true]
      rfl
    rw [complete, Request.complete, Request.route, hv]
    simp only [hplace]

section Unclosed

variable {q u : Text}

open Comment (IsUnclosed opener EndsWithLine)

/-- **Inside a block comment that is not closed** nothing is on offer, as far as it goes: the
cursor is found inside it and all answers are empty, unless the text ends with a line
comment and its line, or a variable is open in it. -/
theorem complete_in_unclosed_comment_iff (h : IsUnclosed q u) :
    (Comment.isOpen (q ++ opener ++ u) = true ∧ ∀ (e : Engine) (typed after : Text),
      e.complete { before := q ++ opener ++ u, typed, after } = []) ↔
      ¬ EndsWithLine (q ++ opener ++ u) ∧ VariableContext.detect? (q ++ opener ++ u) = none := by
  constructor
  · rintro ⟨hopen, hall⟩
    exact ⟨(Comment.isOpen_unclosed_iff h).mp hopen, (complete_eq_nil_iff hopen).mp hall⟩
  · rintro ⟨hline, hv⟩
    have hopen := (Comment.isOpen_unclosed_iff h).mpr hline
    exact ⟨hopen, (complete_eq_nil_iff hopen).mpr hv⟩

/-- The update before the opener is complete, and the body holds a line comment that has
ended, a semicolon, a quote and a variable that is closed. -/
theorem complete_in_unclosed_comment_of_update :
    Comment.isOpen "UPDATE t SET /* $\x7be.k\x7d -- b\nWHERE; 'c".toList = true ∧
      (ofConfiguration {}).complete
        { before := "UPDATE t SET /* $\x7be.k\x7d -- b\nWHERE; 'c".toList, typed := "c".toList,
          after := "' */".toList } = [] := by
  let q := "UPDATE t SET ".toList
  let u := " $\x7be.k\x7d -- b\nWHERE; 'c".toList
  have h : IsUnclosed q u := by decide
  have hline : ¬ EndsWithLine (q ++ opener ++ u) := Comment.not_endsWithLine h (Or.inl (by decide))
  obtain ⟨hopen, hnothing⟩ := (complete_in_unclosed_comment_iff h).mpr ⟨hline, by decide +kernel⟩
  exact ⟨hopen, hnothing _ _ _⟩

/-- The two exceptions: behind a line comment in the body the cursor is not found to be inside a
comment, and a variable is completed wherever it is open. -/
theorem complete_in_unclosed_comment_exceptions :
    IsUnclosed [] "--\n".toList ∧ Comment.isOpen "/*--\n".toList = false ∧
      (ofConfiguration {}).complete { before := "/*--\n".toList } ≠ [] ∧
      IsUnclosed [] " $\x7b".toList ∧ Comment.isOpen "/* $\x7b".toList = true ∧
      (ofConfiguration { workflowVariables := [⟨"env".toList, "HOST".toList⟩] }).complete
        { before := "/* $\x7b".toList } =
        [Suggestion.plain .workflowVariable "env".toList (some "workflow scope".toList)] := by
  refine ⟨by decide, by decide, by decide, by decide, by decide,
    by decide +kernel⟩

/-- A body gets nothing if it opens no variable and has no line comment to end with. -/
theorem complete_in_plain_comment (h : IsUnclosed q u)
    (hline : u.getLast?.any Text.isLineBreak = false ∨ ¬ ['-', '-'] <:+: u ∧ ¬ ['#', ' '] <:+: u)
    (hq : ¬ VariableContext.opener <:+: q) (hu : ¬ VariableContext.opener <:+: u) (e : Engine)
    (typed after : Text) : e.complete { before := q ++ opener ++ u, typed, after } = [] := by
  have hopen := (Comment.isOpen_unclosed_iff h).mpr (Comment.not_endsWithLine h hline)
  have hv : ¬ VariableContext.opener <:+: q ++ opener ++ u := by
    rw [← Text.hasInfix_iff, Bool.not_eq_true] at hq hu ⊢
    have hbody : Text.hasInfix VariableContext.opener ('*' :: u) = false := by
      rw [Text.hasInfix, hu]
      rfl
    have happend : q ++ opener ++ u = q ++ '/' :: '*' :: u := List.append_assoc _ _ _
    rw [happend, Text.hasInfix_append_cons (by decide) (by decide), hq, hbody]
    rfl
  exact (complete_eq_nil_iff hopen).mpr (VariableContext.detect?_eq_none hv) e typed after

end Unclosed

end Engine

end SqlAssist
