import SqlAssist.Proofs.Sql.ReservedWords

/-!
# The list behind `FROM`

Targets are read off a list one after the other (`ListReads`): behind each the list goes on if a
comma follows. A reserved word in the place of an alias belongs to what follows the target, so the
list would go on in front of that word (`resume`); it never does, as no comma stands there
(`afterComma?_resume_of_rejected`).

A place in the text is what follows it, and a place is right of another one if its text is a proper
end of the other's (`IsRightOf`). **`list_progress`** says that each target is read right of the one
before, that reading comes to an end on every text, with the targets that the level registers, and
that the commas bound their number.
-/

namespace SqlAssist

/-- What follows one place in a text is a proper end of what follows another. -/
def IsRightOf (r t : Text) : Prop :=
  ∃ u, u ≠ [] ∧ t = u ++ r

namespace IsRightOf

variable {r s t : Text}

theorem length_lt (h : IsRightOf r t) : r.length < t.length := by
  obtain ⟨u, hu, rfl⟩ := h
  have := List.length_pos_iff.mpr hu
  rw [List.length_append]
  omega

theorem of_suffix (h : IsRightOf s t) (hr : r <:+ s) : IsRightOf r t := by
  obtain ⟨u, hu, rfl⟩ := h
  obtain ⟨v, rfl⟩ := hr
  exact ⟨u ++ v, by simp [hu], (List.append_assoc u v r).symm⟩

theorem trans_suffix (h : IsRightOf r s) (hs : s <:+ t) : IsRightOf r t := by
  obtain ⟨u, hu, rfl⟩ := h
  obtain ⟨v, rfl⟩ := hs
  exact ⟨v ++ u, by simp [hu], (List.append_assoc v u r).symm⟩

theorem suffix (h : IsRightOf r t) : r <:+ t := by
  obtain ⟨u, -, rfl⟩ := h
  exact List.suffix_append u r

end IsRightOf

namespace Target

variable {t r name rest behind word : Text} {g : Target} {item : Target × Text}

/-! ### Places -/

/-- The word in the place of the alias is a reserved one. -/
def IsRejected (g : Target) : Prop :=
  g.aliasName.isSome ∧ g.properAlias = none

instance : DecidablePred IsRejected := fun g =>
  inferInstanceAs (Decidable (g.aliasName.isSome ∧ g.properAlias = none))

/-- Where reading is resumed behind a target: behind all of it, or in front of a reserved word in the
place of its alias. -/
def resume (item : Target × Text) : Text :=
  if item.1.IsRejected then item.1.aliasName.getD [] ++ item.2 else item.2

/-- What follows the name of the target, or its group, at the start of the text. -/
def behindName? (t : Text) : Option Text :=
  ((readName? t).map (·.2)).or (afterGroup? t)

theorem ne_nil_of_readName? (h : readName? t = some (name, rest)) : name ≠ [] := by
  rw [readName?] at h
  split_ifs at h with hempty
  obtain ⟨rfl, -⟩ := Prod.mk.inj (Option.some.inj h)
  exact fun hnil => hempty (List.isEmpty_iff.mpr (List.append_eq_nil_iff.mp hnil).1)

theorem isRightOf_of_afterGroup? (h : afterGroup? t = some rest) : IsRightOf rest t := by
  obtain ⟨r, rfl, hr⟩ := exists_of_afterGroup? h
  exact IsRightOf.trans_suffix ⟨[')'], by simp, rfl⟩ (hr.trans (List.suffix_cons '(' r))

/-- A name and a group take some characters. -/
theorem isRightOf_of_behindName? (h : behindName? t = some behind) : IsRightOf behind t := by
  rw [behindName?, Option.or_eq_some_iff] at h
  rcases h with h | ⟨-, h⟩
  · obtain ⟨⟨name, rest⟩, hname, rfl⟩ := Option.map_eq_some_iff.mp h
    exact ⟨name, ne_nil_of_readName? hname, (append_of_readName? hname).symm⟩
  · exact isRightOf_of_afterGroup? h

/-- A target goes on behind its name or its group with an alias, if there is one. -/
theorem exists_withAlias_of_read? (h : read? t = some item) :
    ∃ behind name?, behindName? t = some behind ∧ item = withAlias name? behind := by
  rw [read?, readNamed?] at h
  cases hname : readName? t with
  | some p =>
    rw [hname] at h
    exact ⟨p.2, some p.1, by rw [behindName?, hname]; rfl, (Option.some.inj h).symm⟩
  | none =>
    rw [hname] at h
    obtain ⟨behind, hgroup, rfl⟩ := Option.map_eq_some_iff.mp h
    exact ⟨behind, none, by rw [behindName?, hname, hgroup]; rfl, rfl⟩

/-- Reading is resumed behind the name of the target, or behind its group. -/
theorem resume_withAlias_suffix (name? : Option Text) (behind : Text) :
    resume (withAlias name? behind) <:+ behind := by
  rw [withAlias]
  split
  · next word rest hword =>
    have hsuffix := readAlias?_eq_some hword
    rw [resume]
    split_ifs
    · exact hsuffix
    · exact (List.suffix_append word rest).trans hsuffix
  · next hnone =>
    rw [resume, if_neg]
    exact fun h => absurd h.1 (by simp)

/-! ### No comma in front of an alias -/

theorem exists_cons_of_readSpacedName? (h : readSpacedName? t = some (word, rest)) :
    ∃ c w, word = c :: w ∧ Text.isNameChar c = true := by
  rw [readSpacedName?] at h
  split_ifs at h with hnone
  obtain ⟨rfl, -⟩ := Prod.mk.inj (Option.some.inj h)
  have hne : t.trimStart.takeWhile Text.isNameChar ≠ [] := fun e => hnone (Or.inr (List.isEmpty_iff.mpr e))
  obtain ⟨c, w, hword⟩ := List.exists_cons_of_ne_nil hne
  exact ⟨c, w, hword, List.mem_takeWhile_imp (hword ▸ List.mem_cons_self)⟩

theorem exists_cons_of_readAlias? (h : readAlias? t = some (word, rest)) :
    ∃ c w, word = c :: w ∧ Text.isNameChar c = true := by
  rw [readAlias?] at h
  split at h
  · cases h
  · next w r hw =>
    split_ifs at h
    · rcases Option.or_eq_some_iff.mp h with h | ⟨-, h⟩
      · exact exists_cons_of_readSpacedName? h
      · exact (Prod.mk.inj (Option.some.inj h)).1 ▸ exists_cons_of_readSpacedName? hw
    · exact (Prod.mk.inj (Option.some.inj h)).1 ▸ exists_cons_of_readSpacedName? hw

/-- In front of a reserved word the list does not go on. -/
theorem afterComma?_resume_of_rejected (h : read? t = some item) (hg : item.1.IsRejected) :
    afterComma? (resume item) = none := by
  obtain ⟨behind, name?, -, rfl⟩ := exists_withAlias_of_read? h
  rw [resume, if_pos hg]
  rw [withAlias] at hg ⊢
  split at hg
  · next word rest hword =>
    obtain ⟨c, w, rfl, hc⟩ := exists_cons_of_readAlias? hword
    refine afterComma?_of_head?_ne ?_
    have hspace : Text.isSpace c = false := Text.isSpace_eq_false_of_isNameChar hc
    have htrim : Text.trimStart (c :: w ++ rest) = c :: w ++ rest :=
      List.dropWhile_cons_of_neg (by simp [hspace])
    have hcomma : c ≠ ',' := fun e => absurd (e ▸ hc) (by decide)
    rw [Option.getD_some, htrim]
    simpa using hcomma
  · exact absurd hg.1 (by simp)

theorem resume_of_not_rejected (hg : ¬ item.1.IsRejected) : resume item = item.2 :=
  if_neg hg

/-! ### Reading the list -/

theorem resume_suffix (h : read? t = some item) : resume item <:+ t := by
  obtain ⟨behind, name?, hbehind, rfl⟩ := exists_withAlias_of_read? h
  exact (resume_withAlias_suffix name? behind).trans (isRightOf_of_behindName? hbehind).suffix

/-- The list goes on further right, and one comma less is to come. -/
theorem isRightOf_of_afterComma? (h : read? t = some item) (hr : afterComma? (resume item) = some r) :
    IsRightOf r t ∧ r.count ',' + 1 ≤ t.count ',' := by
  obtain ⟨u, w, hu⟩ := exists_of_afterComma? hr
  obtain ⟨v, hv⟩ := resume_suffix h
  have ht : t = (v ++ u ++ ',' :: w.1) ++ r := by
    rw [← hv, hu]
    simp
  refine ⟨⟨_, by simp, ht⟩, ?_⟩
  rw [ht]
  simp only [List.count_append, List.count_cons_self]
  omega

/-- One round of reading a list, with a bound `n` on the number of those to come. -/
theorem readList_of_read? (h : read? t = some item) (n : Nat) :
    readList (n + 1) t = item.1 :: (afterComma? (resume item)).elim [] (readList n) := by
  rw [readList, h]
  simp only
  by_cases hg : item.1.IsRejected
  · have hif : item.1.aliasName.isSome ∧ item.1.properAlias = none := hg
    rw [if_pos hif, afterComma?_resume_of_rejected h hg]
    rfl
  · have hif : ¬ (item.1.aliasName.isSome ∧ item.1.properAlias = none) := hg
    rw [if_neg hif, resume_of_not_rejected hg]
    cases afterComma? item.2 <;> rfl

/-- What is read off the list at the start of a text: the targets with the places where they stand. -/
inductive ListReads : Text → List (Text × Target) → Prop where
  /-- No target. -/
  | stop {t : Text} : read? t = none → ListReads t []
  /-- The last target. -/
  | last {t : Text} {item : Target × Text} :
      read? t = some item → afterComma? (resume item) = none → ListReads t [(t, item.1)]
  /-- A target with a comma behind it, and the targets further on. -/
  | more {t r : Text} {item : Target × Text} {l : List (Text × Target)} :
      read? t = some item → afterComma? (resume item) = some r → ListReads r l →
      ListReads t ((t, item.1) :: l)

namespace ListReads

variable {l l' : List (Text × Target)}

/-- Reading comes to an end on every text. -/
theorem exists_reads (t : Text) : ∃ l, ListReads t l := by
  induction hn : t.length using Nat.strongRecOn generalizing t with
  | ind n ih =>
    cases hread : read? t with
    | none => exact ⟨[], .stop hread⟩
    | some item =>
      cases hcomma : afterComma? (resume item) with
      | none => exact ⟨_, .last hread hcomma⟩
      | some r =>
        have hlt := (isRightOf_of_afterComma? hread hcomma).1.length_lt
        obtain ⟨l, hl⟩ := ih r.length (hn ▸ hlt) r rfl
        exact ⟨_, .more hread hcomma hl⟩

/-- The same is read each time. -/
theorem unique (h : ListReads t l) (h' : ListReads t l') : l = l' := by
  induction h generalizing l' with
  | stop hread =>
    cases h' with
    | stop => rfl
    | last hread' | more hread' => cases hread.symm.trans hread'
  | last hread hcomma =>
    cases h' with
    | stop hread' => cases hread.symm.trans hread'
    | last hread' =>
      obtain rfl := Option.some.inj (hread.symm.trans hread')
      rfl
    | more hread' hcomma' =>
      obtain rfl := Option.some.inj (hread.symm.trans hread')
      cases hcomma.symm.trans hcomma'
  | more hread hcomma _ ih =>
    cases h' with
    | stop hread' => cases hread.symm.trans hread'
    | last hread' hcomma' =>
      obtain rfl := Option.some.inj (hread.symm.trans hread')
      cases hcomma.symm.trans hcomma'
    | more hread' hcomma' hl' =>
      obtain rfl := Option.some.inj (hread.symm.trans hread')
      obtain rfl := Option.some.inj (hcomma.symm.trans hcomma')
      rw [ih hl']

/-- The targets of the list are those read; the bound on their number cuts none off. -/
theorem readList_eq (h : ListReads t l) {n : Nat} (hn : t.length < n) : readList n t = l.map (·.2) := by
  induction h generalizing n with
  | stop hread =>
    cases n with
    | zero => omega
    | succ n => rw [readList, hread]; rfl
  | last hread hcomma =>
    cases n with
    | zero => omega
    | succ n => rw [readList_of_read? hread, hcomma]; rfl
  | more hread hcomma _ ih =>
    cases n with
    | zero => omega
    | succ n =>
      have hlt := (isRightOf_of_afterComma? hread hcomma).1.length_lt
      rw [readList_of_read? hread, hcomma, Option.elim_some, ih (by omega), List.map_cons]

/-- Every target stands at the start of the text or right of it. -/
theorem suffix_of_mem (h : ListReads t l) {p : Text × Target} (hp : p ∈ l) : p.1 <:+ t := by
  induction h with
  | stop => exact absurd hp List.not_mem_nil
  | last => exact List.mem_singleton.mp hp ▸ List.suffix_rfl
  | more hread hcomma _ ih =>
    rcases List.mem_cons.mp hp with rfl | hp
    · exact List.suffix_rfl
    · exact (ih hp).trans (isRightOf_of_afterComma? hread hcomma).1.suffix

/-- Each target stands right of those in front of it. -/
theorem pairwise_isRightOf (h : ListReads t l) : (l.map (·.1)).Pairwise fun s r => IsRightOf r s := by
  induction h with
  | stop => exact .nil
  | last => exact List.pairwise_singleton _ _
  | more hread hcomma hl ih =>
    refine List.pairwise_cons.mpr ⟨fun s hs => ?_, ih⟩
    obtain ⟨p, hp, rfl⟩ := List.mem_map.mp hs
    exact (isRightOf_of_afterComma? hread hcomma).1.of_suffix (hl.suffix_of_mem hp)

/-- The commas bound the number of targets. -/
theorem length_le (h : ListReads t l) : l.length ≤ t.count ',' + 1 := by
  induction h with
  | stop => exact Nat.zero_le _
  | last => exact Nat.le_add_left 1 _
  | more hread hcomma _ ih =>
    have := (isRightOf_of_afterComma? hread hcomma).2
    rw [List.length_cons]
    omega

end ListReads

end Target

namespace Resolution

open Text

variable {t r : Text}

/-- No word is both keywords. -/
theorem targetsAt_of_join (h : afterKeywords? ["JOIN".toList] t = some r) :
    targetsAt t = (Target.read? r).toList.map (·.1) := by
  have hfrom : afterKeywords? ["FROM".toList] t = none := by
    rw [afterKeywords?] at h ⊢
    split_ifs at h with hjoin
    rw [if_neg]
    intro hfrom
    have hword := (eq_of_beq (Bool.and_eq_true_iff.mp hjoin).1).symm.trans
      (eq_of_beq (Bool.and_eq_true_iff.mp hfrom).1)
    exact absurd hword (by decide)
  rw [targetsAt, hfrom, h]

/-- **The list behind `FROM` makes progress on every text.** Behind a target, reading is resumed right
of its name, also where a reserved word stands in the place of its alias, and if the list goes on, it
does so right of the target. What is read behind a `FROM` is therefore one list of targets, from left
to right, with at most one more than there are commas, and these are the targets of the level; behind
a `JOIN` there is one at most. -/
theorem list_progress (t : Text) :
    (∀ item, Target.read? t = some item →
      (∃ behind, Target.behindName? t = some behind ∧ IsRightOf behind t ∧ Target.resume item <:+ behind) ∧
        ∀ r, Target.afterComma? (Target.resume item) = some r → IsRightOf r t) ∧
    (∀ r, afterKeywords? ["FROM".toList] t = some r →
      ∃ l, (∀ l', Target.ListReads r l' ↔ l' = l) ∧ targetsAt t = l.map (·.2) ∧
        (l.map (·.1)).Pairwise (fun s s' => IsRightOf s' s) ∧ l.length ≤ r.count ',' + 1) ∧
    ∀ r, afterKeywords? ["JOIN".toList] t = some r →
      targetsAt t = (Target.read? r).toList.map (·.1) ∧ (targetsAt t).length ≤ 1 := by
  refine ⟨fun item hread => ⟨?_, fun r hr => (Target.isRightOf_of_afterComma? hread hr).1⟩,
    fun r hfrom => ?_, fun r hjoin => ⟨targetsAt_of_join hjoin, ?_⟩⟩
  · obtain ⟨behind, name?, hbehind, rfl⟩ := Target.exists_withAlias_of_read? hread
    exact ⟨behind, hbehind, Target.isRightOf_of_behindName? hbehind,
      Target.resume_withAlias_suffix name? behind⟩
  · obtain ⟨l, hl⟩ := Target.ListReads.exists_reads r
    refine ⟨l, fun l' => ⟨fun h => h.unique hl, fun e => e ▸ hl⟩, ?_, hl.pairwise_isRightOf, hl.length_le⟩
    rw [targetsAt, hfrom]
    exact hl.readList_eq (Nat.lt_succ_self _)
  · rw [targetsAt_of_join hjoin, List.length_map]
    cases Target.read? r <;> simp

/-- A list with a group in it that ends at a reserved word, though a comma follows. -/
theorem list_progress_before_where :
    (Target.read? "B WHERE, C".toList =
        some (⟨some "B".toList, some "WHERE".toList⟩, ", C".toList) ∧
      Target.resume (⟨some "B".toList, some "WHERE".toList⟩, ", C".toList) = "WHERE, C".toList ∧
      ∃ behind, Target.behindName? "B WHERE, C".toList = some behind ∧
        IsRightOf behind "B WHERE, C".toList ∧ "WHERE, C".toList <:+ behind) ∧
    (Target.read? "A , ( ) X".toList = some (⟨some "A".toList, none⟩, " , ( ) X".toList) ∧
      Target.afterComma? (Target.resume (⟨some "A".toList, none⟩, " , ( ) X".toList)) =
        some "( ) X".toList ∧
      IsRightOf "( ) X".toList "A , ( ) X".toList) ∧
    (afterKeywords? ["FROM".toList] "FROM A , ( ) X, B WHERE, C".toList =
        some "A , ( ) X, B WHERE, C".toList ∧
      ∃ l, (∀ l', Target.ListReads "A , ( ) X, B WHERE, C".toList l' ↔ l' = l) ∧
        [⟨some "A".toList, none⟩, ⟨none, some "X".toList⟩, ⟨some "B".toList, some "WHERE".toList⟩] =
          l.map (·.2) ∧
        (l.map (·.1)).Pairwise (fun s s' => IsRightOf s' s) ∧ l.length ≤ 4) ∧
    (afterKeywords? ["JOIN".toList] "JOIN A, B".toList = some "A, B".toList ∧
      (targetsAt "JOIN A, B".toList).length ≤ 1) := by
  have hb : Target.read? "B WHERE, C".toList =
      some (⟨some "B".toList, some "WHERE".toList⟩, ", C".toList) := by decide
  have hresume : Target.resume (⟨some "B".toList, some "WHERE".toList⟩, ", C".toList) =
      "WHERE, C".toList := by decide
  have ha : Target.read? "A , ( ) X".toList = some (⟨some "A".toList, none⟩, " , ( ) X".toList) := by
    decide
  have hcomma : Target.afterComma? (Target.resume (⟨some "A".toList, none⟩, " , ( ) X".toList)) =
      some "( ) X".toList := by decide
  have hfrom : afterKeywords? ["FROM".toList] "FROM A , ( ) X, B WHERE, C".toList =
      some "A , ( ) X, B WHERE, C".toList := by decide
  have hjoin : afterKeywords? ["JOIN".toList] "JOIN A, B".toList = some "A, B".toList := by
    decide
  have htargets : targetsAt "FROM A , ( ) X, B WHERE, C".toList =
      [⟨some "A".toList, none⟩, ⟨none, some "X".toList⟩, ⟨some "B".toList, some "WHERE".toList⟩] := by
    decide +kernel
  obtain ⟨l, hreads, hl, hright, hlength⟩ := (list_progress _).2.1 _ hfrom
  exact ⟨⟨hb, hresume, hresume ▸ ((list_progress _).1 _ hb).1⟩,
    ⟨ha, hcomma, ((list_progress _).1 _ ha).2 _ hcomma⟩,
    ⟨hfrom, l, hreads, htargets ▸ hl, hright, hlength.trans (by decide)⟩,
    hjoin, ((list_progress _).2.2 _ hjoin).2⟩

end Resolution

end SqlAssist
