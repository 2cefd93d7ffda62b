import Mathlib.Data.List.Forall2
import Mathlib.Data.List.Induction

/-!
# Lists

Facts on lists that say nothing about texts. The last entry with a property is what a search from the
end finds (`find?_reverse_eq_some_iff`). What is left of a list without its repetitions stands in the
order of the first occurrences (`pairwise_idxOf_eraseDups`). A search that finds more than another one,
but as many results in all, finds the same everywhere (`eq_of_filterMap_eq`).
-/

namespace SqlAssist

/-! ### Last entries -/

/-- The entry is the last one in the list that the condition holds of. -/
def IsLastOf {α : Type} (P : α → Prop) (l : List α) (a : α) : Prop :=
  ∃ before after, l = before ++ a :: after ∧ P a ∧ ∀ b ∈ after, ¬ P b

section LastEntries

variable {α : Type} {P : α → Prop} [DecidablePred P] {l : List α} {a : α}

theorem find?_reverse_eq_some_iff :
    l.reverse.find? (fun b => decide (P b)) = some a ↔ IsLastOf P l a := by
  rw [List.find?_eq_some_iff_append]
  constructor
  · rintro ⟨ha, behind, front, hl, hbehind⟩
    refine ⟨front.reverse, behind.reverse, ?_, of_decide_eq_true ha, fun b hb => ?_⟩
    · rw [← List.reverse_reverse l, hl]
      simp
    · simpa using hbehind b (List.mem_reverse.mp hb)
  · rintro ⟨before, after, rfl, ha, hafter⟩
    refine ⟨decide_eq_true ha, after.reverse, before.reverse, by simp, fun b hb => ?_⟩
    simpa using hafter b (List.mem_reverse.mp hb)

theorem find?_reverse_eq_none_iff :
    l.reverse.find? (fun b => decide (P b)) = none ↔ ∀ a ∈ l, ¬ P a := by
  simp [List.find?_eq_none]

end LastEntries

/-! ### First occurrences -/

section FirstOccurrences

variable {α : Type} [BEq α] [LawfulBEq α]

theorem eraseDups_concat_of_mem {l : List α} {a : α} (h : a ∈ l) :
    (l ++ [a]).eraseDups = l.eraseDups := by
  rw [List.eraseDups_append]
  simp [List.removeAll, h]

theorem eraseDups_concat_of_not_mem {l : List α} {a : α} (h : a ∉ l) :
    (l ++ [a]).eraseDups = l.eraseDups ++ [a] := by
  rw [List.eraseDups_append]
  simp [List.removeAll, h, List.eraseDups_cons]

theorem filter_eraseDups (p : α → Bool) (l : List α) :
    (l.filter p).eraseDups = l.eraseDups.filter p := by
  induction l using List.reverseRecOn with
  | nil => rfl
  | append_singleton l a ih =>
    rw [List.filter_append]
    by_cases hp : p a = true
    · rw [List.filter_cons_of_pos hp, List.filter_nil]
      by_cases h : a ∈ l
      · rw [eraseDups_concat_of_mem h, eraseDups_concat_of_mem (List.mem_filter.mpr ⟨h, hp⟩), ih]
      · rw [eraseDups_concat_of_not_mem h,
          eraseDups_concat_of_not_mem fun h' => h (List.mem_filter.mp h').1, ih, List.filter_append,
          List.filter_cons_of_pos hp, List.filter_nil]
    · rw [List.filter_cons_of_neg hp, List.filter_nil, List.append_nil, ih]
      by_cases h : a ∈ l
      · rw [eraseDups_concat_of_mem h]
      · rw [eraseDups_concat_of_not_mem h, List.filter_append, List.filter_cons_of_neg hp,
          List.filter_nil, List.append_nil]

/-- A search does not see repetitions. -/
theorem find?_eraseDups (p : α → Bool) (l : List α) : l.eraseDups.find? p = l.find? p := by
  induction l using List.reverseRecOn with
  | nil => rfl
  | append_singleton l a ih =>
    by_cases h : a ∈ l
    · rw [eraseDups_concat_of_mem h, ih, List.find?_append]
      cases hfind : l.find? p with
      | some b => rfl
      | none => simp [List.find?_eq_none.mp hfind a h]
    · rw [eraseDups_concat_of_not_mem h, List.find?_append, List.find?_append, ih]

/-- What is kept of a list stands in the order of the first occurrences. -/
theorem pairwise_idxOf_eraseDups (l : List α) :
    l.eraseDups.Pairwise fun a b => l.idxOf a < l.idxOf b := by
  induction l using List.reverseRecOn with
  | nil => exact .nil
  | append_singleton l a ih =>
    have hmem : ∀ {b}, b ∈ l.eraseDups → (l ++ [a]).idxOf b = l.idxOf b := fun hb => by
      rw [List.idxOf_append, if_pos (List.mem_eraseDups.mp hb)]
    have hfront : l.eraseDups.Pairwise fun b c => (l ++ [a]).idxOf b < (l ++ [a]).idxOf c :=
      ih.imp_of_mem fun hb hc h => by rwa [hmem hb, hmem hc]
    by_cases h : a ∈ l
    · rwa [eraseDups_concat_of_mem h]
    · rw [eraseDups_concat_of_not_mem h]
      refine List.pairwise_append.mpr ⟨hfront, List.pairwise_singleton _ a, fun b hb c hc => ?_⟩
      rw [List.mem_singleton.mp hc, hmem hb, List.idxOf_append, if_neg h]
      exact Nat.lt_add_left _ (List.idxOf_lt_length_of_mem (List.mem_eraseDups.mp hb))

theorem nodup_eraseDups (l : List α) : l.eraseDups.Nodup :=
  (pairwise_idxOf_eraseDups l).imp fun h e => by rw [e] at h; exact Nat.lt_irrefl _ h

end FirstOccurrences

/-! ### Images and searches -/

section Searches

variable {α β : Type}

/-- Corresponding members give the same images. -/
theorem map_eq_map_of_forall₂ {R : α → α → Prop} {f : α → β} {l l' : List α}
    (h : List.Forall₂ R l l') (hf : ∀ a b, R a b → f a = f b) : l.map f = l'.map f := by
  induction h with
  | nil => rfl
  | cons hr _ ih => rw [List.map_cons, List.map_cons, hf _ _ hr, ih]

theorem filterMap_map_of_forall {f : α → β} {g : β → Option α} {l : List α}
    (h : ∀ a ∈ l, g (f a) = some a) : (l.map f).filterMap g = l := by
  rw [List.filterMap_map]
  exact (List.filterMap_congr h).trans List.filterMap_some

theorem findSome?_congr {l : List α} {f g : α → Option β} (h : ∀ x ∈ l, f x = g x) :
    l.findSome? f = l.findSome? g := by
  induction l with
  | nil => rfl
  | cons x l ih =>
    rw [List.findSome?_cons, List.findSome?_cons, h x List.mem_cons_self,
      ih fun y hy => h y (List.mem_cons_of_mem x hy)]

/-- The results of a search that finds more contain those of one that finds less. -/
theorem filterMap_sublist_filterMap {f g : α → Option β} {l : List α}
    (h : ∀ x ∈ l, f x = none ∨ f x = g x) : (l.filterMap f).Sublist (l.filterMap g) := by
  induction l with
  | nil => exact .slnil
  | cons x l ih =>
    obtain ⟨hx, hl⟩ := List.forall_mem_cons.mp h
    rw [List.filterMap_cons, List.filterMap_cons]
    rcases hx with hx | hx
    · rw [hx]
      cases g x with
      | none => exact ih hl
      | some y => exact (ih hl).cons y
    · rw [hx]
      cases g x with
      | none => exact ih hl
      | some y => exact (ih hl).cons_cons y

/-- A search that finds more, but the same in all, finds the same everywhere. -/
theorem eq_of_filterMap_eq {f g : α → Option β} {l : List α}
    (h : ∀ x ∈ l, f x = none ∨ f x = g x) (heq : l.filterMap f = l.filterMap g) :
    ∀ x ∈ l, f x = g x := by
  induction l with
  | nil => exact fun x hx => absurd hx List.not_mem_nil
  | cons x l ih =>
    obtain ⟨hx, hl⟩ := List.forall_mem_cons.mp h
    have hlength := (filterMap_sublist_filterMap hl).length_le
    rw [List.filterMap_cons, List.filterMap_cons] at heq
    cases hf : f x with
    | none =>
      cases hg : g x with
      | none =>
        rw [hf, hg] at heq
        exact List.forall_mem_cons.mpr ⟨hf.trans hg.symm, ih hl heq⟩
      | some y =>
        rw [hf, hg] at heq
        have := congrArg List.length heq
        simp only [List.length_cons] at this
        omega
    | some y =>
      have hg := hx.resolve_left (by simp [hf])
      rw [← hg, hf] at heq
      exact List.forall_mem_cons.mpr ⟨hg, ih hl (List.cons.inj heq).2⟩

end Searches

end SqlAssist
