import SqlAssist.Proofs.Text.Search
import SqlAssist.Sql.Statement

/-!
# Comments

Without a marker there are no comments: nothing is blanked and the end of the text lies
in none. Markers do not reach across a semicolon.
-/

namespace SqlAssist.Comment

variable {s t : Text}

theorem hasMarker_iff : hasMarker t = true ↔ ['-', '-'] <:+: t ∨ ['/', '*'] <:+: t ∨ '#' ∈ t := by
  rw [hasMarker, Bool.or_eq_true, Bool.or_eq_true, Text.hasInfix_iff, Text.hasInfix_iff,
    List.contains_iff_mem, or_assoc]
  exact Iff.rfl

theorem hasMarker_mono (h : s <:+: t) (hs : hasMarker s = true) : hasMarker t = true := by
  rw [hasMarker_iff] at hs ⊢
  exact hs.imp (·.trans h) (Or.imp (·.trans h) (h.subset ·))

theorem mask_of_no_marker (h : hasMarker t = false) : mask t = t := by
  rw [mask, h]
  rfl

theorem isOpen_of_no_marker (h : hasMarker t = false) : isOpen t = false := by
  rw [isOpen, h]
  rfl

theorem hasMarker_semicolon_append (hs : hasMarker s = false) (ht : hasMarker t = false) :
    hasMarker (s ++ ';' :: t) = false := by
  simp only [hasMarker, Bool.or_eq_false_iff, List.contains_eq_mem, decide_eq_false_iff_not] at hs ht ⊢
  obtain ⟨⟨hs1, hs2⟩, hs3⟩ := hs
  obtain ⟨⟨ht1, ht2⟩, ht3⟩ := ht
  refine ⟨⟨?_, ?_⟩, ?_⟩
  · rw [Text.hasInfix_append_cons (by decide) (by decide), hs1, ht1]
    rfl
  · rw [Text.hasInfix_append_cons (by decide) (by decide), hs2, ht2]
    rfl
  · intro h
    rcases List.mem_append.mp h with h | h
    · exact hs3 h
    · exact ht3 ((List.mem_cons.mp h).resolve_left (by decide))

end SqlAssist.Comment
