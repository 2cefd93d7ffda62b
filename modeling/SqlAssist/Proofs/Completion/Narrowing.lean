import SqlAssist.Proofs.Completion.Output
import SqlAssist.Proofs.Sql.Layout

/-!
# The algebra of candidate lists

A list of candidates is cut down by what has been typed and to one candidate for each label. Both look
at labels only, so they may be done in either order (`narrow_unique`), and what has been cut down to
one candidate for each label can stand for the list, also where more candidates follow
(`unique_unique_append`). When more is typed, what stayed on offer so far is all that has to be looked
at (`narrow_narrow`): the capitals of what is typed first are a beginning of the capitals of all of it,
however many characters a character becomes. **`narrow_unique_laws`** collects these laws, together
with what is left of a list when both have been done.
-/

namespace SqlAssist

namespace Candidate

variable {cs : List Candidate} {p : Text × Candidate}

/-! ### One candidate for each label -/

theorem label_ne_nil_of_mem_labelled (h : p ∈ labelled cs) : p.2.label ≠ [] := by
  obtain ⟨c, hc, rfl⟩ := List.mem_map.mp h
  simpa using (List.mem_filter.mp hc).2

theorem labelled_append (cs ds : List Candidate) :
    labelled (cs ++ ds) = labelled cs ++ labelled ds := by
  rw [labelled, List.filter_append, List.map_append]
  rfl

/-- Candidates with different labels are all kept. -/
theorem unique_of_nodup (hlabels : (cs.map (·.label)).Nodup) (hne : ∀ c ∈ cs, c.label ≠ []) :
    unique cs = cs := by
  have hall : cs.filter (!·.label.isEmpty) = cs :=
    List.filter_eq_self.mpr fun c hc => by simpa using hne c hc
  have hkeys : (OrderedMap.keys (labelled cs)).Nodup := by
    rw [OrderedMap.keys, labelled, hall, List.map_map]
    exact hlabels
  rw [unique_eq, OrderedMap.ofList_of_nodup hkeys, labelled, hall, List.map_map]
  exact List.map_id' cs

/-- What is kept of each label stands under it. -/
theorem labelled_unique (cs : List Candidate) :
    labelled (unique cs) = OrderedMap.ofList (labelled cs) := by
  have hlabel : ∀ c ∈ unique cs, (!c.label.isEmpty) = true := by
    intro c hc
    obtain ⟨p, hp, rfl⟩ := List.mem_map.mp hc
    simpa using label_ne_nil_of_mem_labelled (mem_of_mem_ofList hp)
  have hunder : ∀ p ∈ OrderedMap.ofList (labelled cs), (p.2.label, p.2) = p := fun p hp =>
    Prod.ext (fst_eq_of_mem_labelled (mem_of_mem_ofList hp)).symm rfl
  rw [labelled, List.filter_eq_self.mpr hlabel, unique_eq, List.map_map]
  exact (List.map_congr_left hunder).trans (List.map_id' _)

/-- What is kept of a list can stand for it in front of more candidates. -/
theorem unique_unique_append (cs ds : List Candidate) :
    unique (unique cs ++ ds) = unique (cs ++ ds) := by
  rw [unique_eq, labelled_append, labelled_unique, OrderedMap.ofList_ofList_append,
    ← labelled_append, unique_eq]

theorem unique_unique (cs : List Candidate) : unique (unique cs) = unique cs := by
  have h := unique_unique_append cs []
  rwa [List.append_nil, List.append_nil] at h

/-! ### What stays on offer -/

theorem labelled_narrow (typed : Text) (cs : List Candidate) :
    labelled (narrow typed cs) = (labelled cs).filter fun p => decide (Fits typed p.1) := by
  rw [labelled, labelled, List.filter_map, narrow, List.filter_filter, List.filter_filter]
  refine congrArg _ (List.filter_congr fun c _ => ?_)
  rw [isOffered_eq, Bool.and_comm]
  rfl

/-- Labels may be made unique before or after they are narrowed. -/
theorem narrow_unique (typed : Text) (cs : List Candidate) :
    narrow typed (unique cs) = unique (narrow typed cs) := by
  have hlabel : ∀ p ∈ OrderedMap.ofList (labelled cs),
      p.2.isOffered typed = decide (Fits typed p.1) := fun p hp => by
    rw [isOffered_eq, fst_eq_of_mem_labelled (mem_of_mem_ofList hp)]
  calc narrow typed (unique cs)
      = ((OrderedMap.ofList (labelled cs)).filter (·.2.isOffered typed)).map (·.2) := by
        rw [narrow, unique_eq, List.filter_map]
        rfl
    _ = ((OrderedMap.ofList (labelled cs)).filter fun p => decide (Fits typed p.1)).map (·.2) := by
        rw [List.filter_congr hlabel]
    _ = unique (narrow typed cs) := by
        rw [OrderedMap.filter_ofList fun label => decide (Fits typed label), ← labelled_narrow,
          unique_eq]

theorem Fits.of_append {typed more label : Text} (h : Fits (typed ++ more) label) :
    Fits typed label := by
  refine h.imp_right fun hprefix => ?_
  rw [Text.upper_append] at hprefix
  exact (List.prefix_append _ _).trans hprefix

/-- What stays on offer when more is typed is among what stayed on offer before. -/
theorem narrow_narrow (typed more : Text) (cs : List Candidate) :
    narrow (typed ++ more) (narrow typed cs) = narrow (typed ++ more) cs := by
  rw [narrow, narrow, narrow, List.filter_filter]
  refine List.filter_congr fun c _ => ?_
  rw [isOffered_eq, isOffered_eq, ← Bool.decide_and]
  exact decide_eq_decide.mpr (and_iff_left_of_imp Fits.of_append)

/-- **The laws of narrowing and of unique labels**: they commute, and what they leave of a list is all
that later steps need of it. -/
theorem narrow_unique_laws (cs ds : List Candidate) (typed more : Text) :
    narrow typed (unique cs) = unique (narrow typed cs) ∧
      KeptOf typed cs (narrow typed (unique cs)) ∧
      unique (unique cs) = unique cs ∧
      unique (cs ++ ds) = unique (unique cs ++ ds) ∧
      narrow (typed ++ more) cs = narrow (typed ++ more) (narrow typed cs) := by
  have hcommute := narrow_unique typed cs
  refine ⟨hcommute, ?_, unique_unique cs, (unique_unique_append cs ds).symm,
    (narrow_narrow typed more cs).symm⟩
  rw [hcommute]
  exact keptOf_unique_narrow typed cs

end Candidate

end SqlAssist
