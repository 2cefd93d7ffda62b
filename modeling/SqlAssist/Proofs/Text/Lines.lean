import SqlAssist.Proofs.Text.Runs
import SqlAssist.Proofs.Text.Search
import Mathlib.Data.List.Forall2

/-!
# Lines and places

A text is the lines between its line feeds, and what is said of it is proved line by line
(`lineInduction`). An offset has a place: the number of its line and that of its column
(`lineAt`, `columnAt`). Both only depend on where the line feeds are (`SameFeeds`).

The lines into which a document is cut end with other characters, too. Joined again they are the
text with a line feed in place of each of them (`evenBreaks`), but for the one that ends it
(`join_lines`).
-/

namespace SqlAssist.Text

variable {c : Char} {l r t u : Text} {i : Nat}

/-! ### Parts and lines -/

theorem split_of_not_mem (h : c ∉ l) : split c l = [l] := by
  induction l with
  | nil => rfl
  | cons d l ih =>
    have hd : d ≠ c := fun e => h (e ▸ List.mem_cons_self)
    rw [split, if_neg hd, ih fun hc => h (List.mem_cons_of_mem _ hc)]

theorem split_append_cons (h : c ∉ l) (r : Text) : split c (l ++ c :: r) = l :: split c r := by
  induction l with
  | nil => rw [List.nil_append, split, if_pos rfl]
  | cons d l ih =>
    have hd : d ≠ c := fun e => h (e ▸ List.mem_cons_self)
    rw [List.cons_append, split, if_neg hd, ih fun hc => h (List.mem_cons_of_mem _ hc)]

theorem join_cons (sep t : Text) {ts : List Text} (h : ts ≠ []) :
    join sep (t :: ts) = t ++ sep ++ join sep ts := by
  obtain ⟨u, us, rfl⟩ := List.exists_cons_of_ne_nil h
  rfl

/-- The last of the joined texts is the end of the whole. -/
theorem join_concat_append (sep : Text) (ts : List Text) (t u : Text) :
    join sep (ts ++ [t ++ u]) = join sep (ts ++ [t]) ++ u := by
  induction ts with
  | nil => rfl
  | cons v vs ih =>
    rw [List.cons_append, List.cons_append, join_cons sep v (by simp), join_cons sep v (by simp), ih]
    simp

/-- Two last texts can be joined beforehand. -/
theorem join_concat_pair (sep : Text) (ts : List Text) (t u : Text) :
    join sep (ts ++ [t, u]) = join sep (ts ++ [t ++ sep ++ u]) := by
  induction ts with
  | nil => rfl
  | cons v vs ih =>
    rw [List.cons_append, List.cons_append, join_cons sep v (by simp), join_cons sep v (by simp), ih]

/-- Lines that are joined by line feeds are the parts between them. -/
theorem split_join {ls : List Text} (hls : ls ≠ []) (h : ∀ l ∈ ls, '\n' ∉ l) :
    split '\n' (join ['\n'] ls) = ls := by
  induction ls with
  | nil => exact absurd rfl hls
  | cons l ls ih =>
    obtain ⟨hl, hrest⟩ := List.forall_mem_cons.mp h
    cases ls with
    | nil => exact split_of_not_mem hl
    | cons l' ls =>
      rw [join_cons _ _ (List.cons_ne_nil l' ls), List.append_assoc, List.singleton_append,
        split_append_cons hl, ih (List.cons_ne_nil l' ls) hrest]

/-- What holds of a last line, and of a line in front of what it holds of, holds of every text. -/
theorem lineInduction {motive : Text → Prop} (last : ∀ l, '\n' ∉ l → motive l)
    (line : ∀ l r, '\n' ∉ l → motive r → motive (l ++ '\n' :: r)) (t : Text) : motive t := by
  induction hn : t.length using Nat.strongRecOn generalizing t with
  | ind n ih =>
    by_cases h : '\n' ∈ t
    · obtain ⟨l, r, rfl, hl⟩ := List.eq_append_cons_of_mem h
      refine line l r hl (ih r.length ?_ r rfl)
      rw [← hn, List.length_append, List.length_cons]
      omega
    · exact last t h

/-! ### Places -/

/-- The number of the line in which an offset lies, counted from one. -/
def lineAt (t : Text) (i : Nat) : Nat :=
  (t.take i).count '\n' + 1

/-- The number of the column at an offset, counted from one behind the last line feed before it. -/
def columnAt (t : Text) (i : Nat) : Nat :=
  i - lastOffset '\n' (t.take i) + 1

theorem lineAt_append (hi : i ≤ t.length) (r : Text) : lineAt (t ++ r) i = lineAt t i := by
  rw [lineAt, List.take_append_of_le_length hi, lineAt]

theorem columnAt_append (hi : i ≤ t.length) (r : Text) : columnAt (t ++ r) i = columnAt t i := by
  rw [columnAt, List.take_append_of_le_length hi, columnAt]

theorem lineAt_le (t : Text) (i : Nat) : lineAt t i ≤ t.count '\n' + 1 :=
  Nat.succ_le_succ ((List.take_sublist i t).count_le '\n')

theorem lineAt_of_not_mem (h : '\n' ∉ t) (i : Nat) : lineAt t i = 1 := by
  rw [lineAt, List.count_eq_zero.mpr fun hmem => h (List.mem_of_mem_take hmem)]

theorem columnAt_of_not_mem (h : '\n' ∉ t) (i : Nat) : columnAt t i = i + 1 := by
  rw [columnAt, lastOffset_eq_zero fun hmem => h (List.mem_of_mem_take hmem), Nat.sub_zero]

theorem take_append_cons (l r : Text) (c : Char) (i : Nat) :
    (l ++ c :: r).take (l.length + 1 + i) = l ++ c :: r.take i := by
  rw [Nat.add_assoc, List.take_length_add_append, Nat.add_comm 1 i, List.take_succ_cons]

theorem lineAt_append_feed (h : '\n' ∉ l) (r : Text) (i : Nat) :
    lineAt (l ++ '\n' :: r) (l.length + 1 + i) = lineAt r i + 1 := by
  rw [lineAt, take_append_cons, List.count_append, List.count_eq_zero.mpr h, List.count_cons_self,
    Nat.zero_add, lineAt]

theorem columnAt_append_feed (l r : Text) (i : Nat) :
    columnAt (l ++ '\n' :: r) (l.length + 1 + i) = columnAt r i := by
  rw [columnAt, take_append_cons, lastOffset_append_cons, Nat.add_sub_add_left, columnAt]

/-- Two texts have their line feeds in the same places. -/
def SameFeeds (t u : Text) : Prop :=
  List.Forall₂ (fun c d => c = '\n' ↔ d = '\n') t u

theorem SameFeeds.count_eq (h : SameFeeds t u) : t.count '\n' = u.count '\n' := by
  induction h with
  | nil => rfl
  | cons hcd _ ih => simp only [List.count_cons, ih, beq_iff_eq, hcd]

theorem SameFeeds.lastOffset_eq (h : SameFeeds t u) : lastOffset '\n' t = lastOffset '\n' u := by
  induction h with
  | nil => rfl
  | cons hcd _ ih => simp only [lastOffset, ih, hcd]

/-- What relates the characters of the texts relates those of their lines. -/
theorem SameFeeds.forall₂_split {R : Char → Char → Prop} (h : SameFeeds t u)
    (hR : List.Forall₂ R t u) :
    List.Forall₂ (List.Forall₂ R) (split '\n' t) (split '\n' u) := by
  induction hR with
  | nil => exact .cons .nil .nil
  | @cons c d t u hcd _ ih =>
    obtain ⟨hfeed, hrest⟩ := List.forall₂_cons.mp h
    have hsplit := ih hrest
    rw [split, split]
    by_cases hc : c = '\n'
    · rw [if_pos hc, if_pos (hfeed.mp hc)]
      exact .cons .nil hsplit
    · rw [if_neg hc, if_neg (mt hfeed.mpr hc)]
      generalize split '\n' t = ls, split '\n' u = ls' at hsplit ⊢
      cases hsplit with
      | nil => exact .cons (.cons hcd .nil) .nil
      | cons hl hls => exact .cons (.cons hcd hl) hls

theorem SameFeeds.lineAt_eq (h : SameFeeds t u) (i : Nat) : lineAt t i = lineAt u i := by
  rw [lineAt, lineAt, SameFeeds.count_eq (List.forall₂_take i h)]

theorem SameFeeds.columnAt_eq (h : SameFeeds t u) (i : Nat) : columnAt t i = columnAt u i := by
  rw [columnAt, columnAt, SameFeeds.lastOffset_eq (List.forall₂_take i h)]

/-! ### Lines of a document -/

/-- The text with a line feed in place of each character that ends a line. -/
def evenBreaks (t : Text) : Text :=
  t.map fun c => if endsLine c then '\n' else c

theorem evenBreaks_of_forall (h : ∀ c ∈ t, endsLine c = true → c = '\n') : evenBreaks t = t := by
  have hid : ∀ c ∈ t, (if endsLine c then '\n' else c) = id c := by
    intro c hc
    split_ifs with hends
    · exact (h c hc hends).symm
    · rfl
  rw [evenBreaks, List.map_congr_left hid, List.map_id]

theorem return_not_mem_evenBreaks (t : Text) : '\r' ∉ evenBreaks t := by
  intro hmem
  obtain ⟨c, -, hc⟩ := List.mem_map.mp hmem
  split_ifs at hc with h
  · exact absurd hc (by decide)
  · subst hc
    exact h rfl

theorem return_not_mem_unifyBreaks (t : Text) : '\r' ∉ unifyBreaks t := by
  induction t using unifyBreaks.induct with
  | case1 => exact List.not_mem_nil
  | case2 => decide
  | case3 r ih => simpa [unifyBreaks] using ih
  | case4 d r hd ih => simpa [unifyBreaks, hd] using ih
  | case5 c r hlast hnext ih =>
    have hc : c ≠ '\r' := by
      rintro rfl
      cases r with
      | nil => exact hlast rfl rfl
      | cons d r => exact hnext d r rfl rfl
    rw [unifyBreaks, List.mem_cons, not_or]
    · exact ⟨hc.symm, ih⟩
    · exact hlast
    · exact hnext

theorem unifyBreaks_of_not_mem (h : '\r' ∉ t) : unifyBreaks t = t := by
  fun_induction unifyBreaks t <;> simp_all

theorem lines_cons (hc : c ≠ '\r') (r : Text) :
    lines (c :: r) = if endsLine c then [] :: lines r else
      match lines r with
      | l :: ls => (c :: l) :: ls
      | [] => [[c]] := by
  rw [lines.eq_def]
  split
  case h_1 h => cases h
  case h_2 h => exact absurd (List.cons.inj h).1 hc
  case h_3 h =>
    obtain ⟨rfl, rfl⟩ := List.cons.inj h
    rfl

theorem lines_ne_nil (hc : c ≠ '\r') (r : Text) : lines (c :: r) ≠ [] := by
  rw [lines_cons hc]
  split_ifs
  · exact List.cons_ne_nil _ _
  · cases lines r <;> exact List.cons_ne_nil _ _

/-- The lines joined again are the text with its line ends written alike, without the last one. -/
theorem join_lines (h : '\r' ∉ t) : join ['\n'] t.lines = (evenBreaks t).dropFinalBreak := by
  induction t with
  | nil => rfl
  | cons c t ih =>
    obtain ⟨hc, ht⟩ := not_or.mp (List.mem_cons.not.mp h)
    cases t with
    | nil =>
      have hnil : lines [] = [] := rfl
      rw [lines_cons (Ne.symm hc), hnil]
      cases hends : endsLine c with
      | true => simp [evenBreaks, hends, dropFinalBreak, join]
      | false =>
        have hfeed : c ≠ '\n' := by
          rintro rfl
          cases hends
        simp [evenBreaks, hends, dropFinalBreak, join, hfeed]
    | cons d t =>
      have hd : d ≠ '\r' := fun e => ht (e ▸ List.mem_cons_self)
      have hdrop : (evenBreaks (c :: d :: t)).dropFinalBreak =
          (if endsLine c then '\n' else c) :: (evenBreaks (d :: t)).dropFinalBreak :=
        dropFinalBreak_append [_] (List.cons_ne_nil _ _)
      obtain ⟨l, ls, hlines⟩ := List.exists_cons_of_ne_nil (lines_ne_nil hd t)
      rw [hdrop, ← ih ht, lines_cons (Ne.symm hc), hlines]
      split_ifs
      · rw [join_cons _ _ (List.cons_ne_nil l ls)]
        rfl
      · cases ls with
        | nil => rfl
        | cons l' ls => rfl

end SqlAssist.Text
