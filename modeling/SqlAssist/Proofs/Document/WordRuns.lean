import SqlAssist.Proofs.Document.CursorWord
import Mathlib.Data.List.Forall2

/-!
# Words in their places

Going through a text from word to word meets each run of word characters: where a word starts, a run
stands (`isRun_of_mem_wordStarts`), and where a run stands, a word starts (`exists_mem_wordStarts`).

The runs of a text do not change when other characters take the place of characters that are no
word characters (`SameWords`), or stand behind it (`isRun_concat_iff`).
-/

namespace SqlAssist.Text

variable {p : Char → Bool} {c : Char} {t u w x : Text} {i : Nat} {b : Bool}

/-! ### Starts of words -/

theorem isRun_of_mem_wordStarts (h : x ∈ t.wordStarts) :
    IsRun isWordChar t (t.length - x.length) (firstWord x) ∧ firstWord x ≠ [] := by
  obtain ⟨u, rfl, -, hlast, hhead⟩ := exists_of_mem_wordStartsFrom h
  refine ⟨⟨⟨u, afterWord x, ?_, ?_, hlast, head?_dropWhile _ x⟩, ?_⟩, ?_⟩
  · rw [List.append_assoc, firstWord_append_afterWord]
  · rw [List.length_append, Nat.add_sub_cancel]
  · exact fun c hc => List.mem_takeWhile_imp hc
  · cases x with
    | nil => cases hhead
    | cons c x =>
      have hc : isWordChar c = true := hhead
      simp [firstWord, hc]

theorem exists_mem_wordStarts (h : IsRun isWordChar t i w) (hw : w ≠ []) :
    ∃ x ∈ t.wordStarts, t.length - x.length = i ∧ firstWord x = w := by
  obtain ⟨⟨u, v, rfl, rfl, hu, hv⟩, hall⟩ := h
  have hstart : w ++ v ∈ (u ++ (w ++ v)).wordStarts := by
    rw [wordStarts_append (Or.inl hu), wordStarts_append (Or.inr hv), wordStarts_of_word ⟨hw, hall⟩]
    simp
  refine ⟨w ++ v, by rwa [List.append_assoc], ?_, takeWhile_append_stop hall hv⟩
  rw [List.append_assoc, List.length_append, Nat.add_sub_cancel]

/-! ### Characters between words -/

/-- Two texts only differ in characters that are no word characters. -/
def SameWords (t u : Text) : Prop :=
  List.Forall₂ (fun c d => c = d ∨ isWordChar c = false ∧ isWordChar d = false) t u

theorem SameWords.symm (h : SameWords t u) : SameWords u t := by
  refine (List.Forall₂.flip h).imp fun c d hcd => ?_
  exact hcd.imp Eq.symm And.symm

theorem SameWords.map_eq (h : SameWords t u) : t.map isWordChar = u.map isWordChar := by
  induction h with
  | nil => rfl
  | cons hcd _ ih =>
    rw [List.map_cons, List.map_cons, ih]
    rcases hcd with rfl | ⟨hc, hd⟩
    · rfl
    · rw [hc, hd]

theorem SameWords.any_getLast? (h : SameWords t u) :
    t.getLast?.any isWordChar = u.getLast?.any isWordChar := by
  have hlast := congrArg (fun l => l.getLast?.any id) h.map_eq
  rwa [List.getLast?_map, List.getLast?_map, Option.any_map, Option.any_map] at hlast

theorem SameWords.any_head? (h : SameWords t u) :
    t.head?.any isWordChar = u.head?.any isWordChar := by
  have hhead := congrArg (fun l => l.head?.any id) h.map_eq
  rwa [List.head?_map, List.head?_map, Option.any_map, Option.any_map] at hhead

theorem SameWords.eq_of_forall (h : SameWords u w) (hall : ∀ c ∈ w, isWordChar c = true) :
    u = w := by
  induction h with
  | nil => rfl
  | cons hcd _ ih =>
    obtain ⟨hd, hw⟩ := List.forall_mem_cons.mp hall
    rw [ih hw]
    rcases hcd with rfl | ⟨-, hd'⟩
    · rfl
    · rw [hd] at hd'
      cases hd'

/-- Where the one text is cut, the other can be. -/
theorem SameWords.exists_append (h : SameWords (t ++ w) u) :
    ∃ t' w', u = t' ++ w' ∧ SameWords t' t ∧ SameWords w' w :=
  ⟨u.take t.length, u.drop t.length, (List.take_append_drop _ u).symm,
    List.forall₂_take_append _ _ _ h.symm, List.forall₂_drop_append _ _ _ h.symm⟩

theorem SameWords.isRun (h : SameWords t u) (hrun : IsRun isWordChar t i w) :
    IsRun isWordChar u i w := by
  obtain ⟨⟨a, v, rfl, rfl, ha, hv⟩, hall⟩ := hrun
  obtain ⟨aw, v', rfl, haw, hv'⟩ := h.exists_append
  obtain ⟨a', w', rfl, ha', hw'⟩ := haw.symm.exists_append
  obtain rfl : w' = w := hw'.eq_of_forall hall
  refine ⟨⟨a', v', rfl, ha'.length_eq, ?_, ?_⟩, hall⟩
  · rw [ha'.any_getLast?, ha]
  · rw [hv'.any_head?, hv]

theorem SameWords.isRun_iff (h : SameWords t u) : IsRun isWordChar t i w ↔ IsRun isWordChar u i w :=
  ⟨h.isRun, h.symm.isRun⟩

/-- What is no part of a run may stand behind the text. -/
theorem isRun_concat_iff (hc : p c = false) (hw : w ≠ []) :
    IsRun p (t ++ [c]) i w ↔ IsRun p t i w := by
  constructor
  · rintro ⟨⟨a, v, ht, hi, ha, hv⟩, hall⟩
    rcases List.eq_nil_or_concat v with rfl | ⟨v, d, rfl⟩
    · -- The last character of the text would be one of the run.
      have hlast := congrArg List.getLast? ht
      rw [List.append_nil, List.getLast?_concat, List.getLast?_append_of_ne_nil _ hw] at hlast
      have hword := hall c (List.mem_of_getLast? hlast.symm)
      rw [hc] at hword
      cases hword
    · rw [List.concat_eq_append, ← List.append_assoc] at ht
      obtain ⟨rfl, -⟩ := List.append_inj' ht rfl
      refine ⟨⟨a, v, rfl, hi, ha, ?_⟩, hall⟩
      cases v with
      | nil => rfl
      | cons e v => exact hv
  · rintro ⟨⟨a, v, rfl, hi, ha, hv⟩, hall⟩
    refine ⟨⟨a, v ++ [c], List.append_assoc _ _ _, hi, ha, ?_⟩, hall⟩
    cases v with
    | nil => exact hc
    | cons e v => exact hv

end SqlAssist.Text
