import SqlAssist.Completion.Engine
import SqlAssist.Proofs.Sql.CommentEnd

/-!
# The contents of comments

Of the text before the cursor an answer reads the masked text alone, but for the path at its
end. That one is seen in the masked text, too (`DotPath.detect?_mask`), unless a line comment
ends the text and a path stands before its line feed. Of such texts
**`complete_comments_unseen`** asks that they end in the same path; if they do not, it fails
(`complete_comments_seen_at_end`).
-/

namespace SqlAssist

namespace DotPath

variable {s t : Text}

/-- The text ends with a line comment and, in it, with a path that asks for something. -/
def EndsInComment (t : Text) : Prop :=
  (Lexicon.kinds t).getLast? = some .lineComment ∧
    (t.lastPath.split '.').dropLast ≠ [] ∧ [] ∉ (t.lastPath.split '.').dropLast

instance (t : Text) : Decidable (EndsInComment t) := inferInstanceAs (Decidable (_ ∧ _ ∧ _))

/-- A path with no name before a dot, or with an empty one, asks for nothing. -/
theorem detect?_eq_none (i : CatalogIndex) (r : Resolution)
    (h : ¬ ((t.lastPath.split '.').dropLast ≠ [] ∧ [] ∉ (t.lastPath.split '.').dropLast)) :
    detect? t i r = none := by
  rw [detect?]
  by_cases hempty : [] ∈ (t.lastPath.split '.').dropLast
  · exact if_pos (List.any_eq_true.mpr ⟨[], hempty, rfl⟩)
  · have hnil : (t.lastPath.split '.').dropLast = [] := by
      by_contra hne
      exact h ⟨hne, hempty⟩
    rw [hnil]
    rfl

/-- What a path asks for is seen in the masked text. -/
theorem detect?_mask (h : ¬ EndsInComment t) (i : CatalogIndex) (r : Resolution) :
    detect? (Comment.mask t) i r = detect? t i r := by
  by_cases hlast : (Lexicon.kinds t).getLast? = some .lineComment
  · have hmasked : Text.lastPath (Comment.mask t) = [] := Comment.lastPath_mask_of_lineComment hlast
    rw [detect?_eq_none i r fun hpath => h ⟨hlast, hpath⟩,
      detect?_eq_none i r fun hpath => hpath.1 (by rw [hmasked]; rfl)]
  · rw [detect?, detect?, Comment.lastPath_mask hlast]

end DotPath

namespace Engine

variable {s t : Text}

/-- Outside a comment, the route of a request is that of its masked text. -/
theorem route_eq_of_mask_eq (hmask : Comment.mask s = Comment.mask t)
    (hs : Comment.isOpen s = false) (ht : Comment.isOpen t = false)
    (hpath : DotPath.EndsInComment s ∨ DotPath.EndsInComment t → s.lastPath = t.lastPath)
    (i : CatalogIndex) (typed after : Text) :
    Request.route i { before := s, typed, after } = Request.route i { before := t, typed, after } := by
  have hvariable : VariableContext.detect? s = VariableContext.detect? t := by
    rw [VariableContext.detect?, VariableContext.detect?, hmask]
  have hplace : CursorPlace.find? s after = CursorPlace.find? t after := by
    rw [CursorPlace.find?, CursorPlace.find?, hmask, hs, ht]
  have hasked (r : Resolution) : DotPath.detect? s i r = DotPath.detect? t i r := by
    by_cases hends : DotPath.EndsInComment s ∨ DotPath.EndsInComment t
    · rw [DotPath.detect?, DotPath.detect?, hpath hends]
    · rw [not_or] at hends
      rw [← DotPath.detect?_mask hends.1, ← DotPath.detect?_mask hends.2, hmask]
  simp only [Request.route, hvariable, hplace, hasked]

/-- **The contents of comments are not seen**: of two texts that look alike once their comments
are blanked, neither ending inside a comment, the same is on offer for all engines, unless one
of them ends in a path that stands in a line comment and the other one in another path. -/
theorem complete_comments_unseen (hmask : Comment.mask s = Comment.mask t)
    (hs : Comment.isOpen s = false) (ht : Comment.isOpen t = false)
    (hpath : DotPath.EndsInComment s ∨ DotPath.EndsInComment t → s.lastPath = t.lastPath)
    (e : Engine) (typed after : Text) :
    e.complete { before := s, typed, after } = e.complete { before := t, typed, after } := by
  rw [complete, complete, Request.complete, Request.complete,
    route_eq_of_mask_eq hmask hs ht hpath]

/-- Words, dots, a variable, a semicolon and a quote in two comments, the second one right before
the cursor, against letters. -/
theorem complete_comments_unseen_in_update :
    (ofConfiguration {}).complete
        { before := "UPDATE t /* SET; $\x7be. ' */ -- hr.a b\n".toList, typed := "w".toList } =
      (ofConfiguration {}).complete
        { before := "UPDATE t /* abcdefghijk */ -- abcdef\n".toList, typed := "w".toList } := by
  let s := "UPDATE t /* SET; $\x7be. ' */ -- hr.a b\n".toList
  let t := "UPDATE t /* abcdefghijk */ -- abcdef\n".toList
  have hmask : Comment.mask s = Comment.mask t := by decide +kernel
  have hpath : ¬ (DotPath.EndsInComment s ∨ DotPath.EndsInComment t) := by
    rintro (h | h) <;> exact h.2.1 (by decide)
  exact complete_comments_unseen hmask (by decide +kernel) (by decide +kernel)
    (fun h => absurd h hpath) _ _ _

/-- A path in a line comment is completed against if it stands right before the line feed at the end
of the text. -/
theorem complete_comments_seen_at_end :
    Comment.mask "UPDATE -- hr.\n".toList = Comment.mask "UPDATE --    \n".toList ∧
      Comment.isOpen "UPDATE -- hr.\n".toList = false ∧
      Comment.isOpen "UPDATE --    \n".toList = false ∧
      (ofConfiguration { schemas := [{ name := "HR".toList, tables := [] }] }).complete
        { before := "UPDATE -- hr.\n".toList } = [] ∧
      (ofConfiguration { schemas := [{ name := "HR".toList, tables := [] }] }).complete
        { before := "UPDATE --    \n".toList } = Suggestion.keywords Clause.updateKeywords := by
  refine ⟨by decide, by decide, by decide, by decide, by decide⟩

end Engine

end SqlAssist
