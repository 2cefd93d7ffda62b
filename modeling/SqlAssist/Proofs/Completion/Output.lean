import SqlAssist.Completion.Engine
import SqlAssist.Proofs.Text.LastEntry

/-!
# What an answer keeps of its candidates

Whatever a request is answered from, the answer has one candidate for each label and
none without a label. An answer from the clause is what the clause produces, cut
down in two steps: labels that do not fit what has been typed are left out, and of
several candidates with one label the last takes the place of the first. `KeptOf`
says so of two lists of candidates, and **`complete_output`** of every request to
every engine.

The labels that are kept are those of a plain list of labels, filtered and without
repetition (`labels_unique_narrow`); all but the last candidate of a label is read
off that list.
-/

namespace SqlAssist

namespace Candidate

/-! ### Labels -/

/-- Each candidate under its label, but for those without one. -/
def labelled (cs : List Candidate) : List (Text × Candidate) :=
  (cs.filter (!·.label.isEmpty)).map fun c => (c.label, c)

theorem unique_eq (cs : List Candidate) : unique cs = (OrderedMap.ofList (labelled cs)).map (·.2) :=
  rfl

theorem map_fst_labelled (cs : List Candidate) :
    (labelled cs).map (·.1) = (cs.map (·.label)).filter (!·.isEmpty) := by
  rw [labelled, List.map_map, List.filter_map]
  rfl

theorem fst_eq_of_mem_labelled {cs : List Candidate} {p : Text × Candidate} (h : p ∈ labelled cs) :
    p.1 = p.2.label := by
  obtain ⟨c, -, rfl⟩ := List.mem_map.mp h
  rfl

theorem mem_of_mem_ofList {l : List (Text × Candidate)} {p : Text × Candidate}
    (h : p ∈ OrderedMap.ofList l) : p ∈ l := by
  obtain ⟨before, after, rfl, -⟩ := OrderedMap.exists_append_of_mem_ofList h
  simp

/-- The labels of a list of candidates, the empty one left out and each other one once. -/
theorem labels_unique (cs : List Candidate) :
    (unique cs).map (·.label) = (cs.map (·.label)).eraseDups.filter (!·.isEmpty) := by
  have h : (unique cs).map (·.label) = OrderedMap.keys (OrderedMap.ofList (labelled cs)) := by
    rw [unique_eq, List.map_map]
    refine List.map_congr_left fun p hp => ?_
    exact (fst_eq_of_mem_labelled (mem_of_mem_ofList hp)).symm
  rw [h, OrderedMap.keys_ofList, map_fst_labelled, filter_eraseDups]

theorem unique_ne_nil {cs : List Candidate} {c : Candidate} (hc : c ∈ cs)
    (hlabel : c.label ≠ []) : unique cs ≠ [] := by
  intro h
  have hmem : c.label ∈ (unique cs).map (·.label) := by
    rw [labels_unique, List.mem_filter, List.mem_eraseDups]
    exact ⟨List.mem_map_of_mem hc, by simp [hlabel]⟩
  rw [h] at hmem
  exact List.not_mem_nil hmem

/-- The label stays on offer when `typed` has been typed. -/
def Fits (typed label : Text) : Prop :=
  '.' ∈ label ∨ typed.upper <+: label.upper

instance (typed label : Text) : Decidable (Fits typed label) :=
  inferInstanceAs (Decidable (_ ∨ _))

theorem isOffered_eq (typed : Text) (c : Candidate) : c.isOffered typed = decide (Fits typed c.label) := by
  rw [Bool.eq_iff_iff, decide_eq_true_iff, isOffered, Bool.or_eq_true, List.contains_iff_mem,
    List.isPrefixOf_iff_prefix]
  exact Iff.rfl

/-- The labels of an answer: those produced that fit, in the order in which they come first. -/
theorem labels_unique_narrow (typed : Text) (cs : List Candidate) :
    (unique (narrow typed cs)).map (·.label) =
      (cs.map (·.label)).eraseDups.filter fun l => decide (Fits typed l) && !l.isEmpty := by
  have h : (narrow typed cs).map (·.label) =
      (cs.map (·.label)).filter fun l => decide (Fits typed l) := by
    rw [narrow, List.filter_map]
    exact congrArg _ (List.filter_congr fun c _ => isOffered_eq typed c)
  rw [labels_unique, h, filter_eraseDups, List.filter_filter]
  exact List.filter_congr fun l _ => Bool.and_comm _ _

/-! ### Answers -/

/-- `kept` is what is left of the candidates `cs` when `typed` has been typed. -/
structure KeptOf (typed : Text) (cs kept : List Candidate) : Prop where
  /-- All labels fit. -/
  fits : ∀ c ∈ kept, Fits typed c.label
  /-- No label that fits is missing, except the empty one. -/
  complete : ∀ c ∈ cs, c.label ≠ [] → Fits typed c.label → ∃ k ∈ kept, k.label = c.label
  /-- The labels stand in the order in which they come first. -/
  order : (kept.map (·.label)).Pairwise fun l l' =>
    (cs.map (·.label)).idxOf l < (cs.map (·.label)).idxOf l'
  /-- Each candidate is the last one with its label. -/
  last : ∀ c ∈ kept, ∃ before after, cs = before ++ c :: after ∧ ∀ d ∈ after, d.label ≠ c.label

/-- The last of the candidates that pass a test of their labels is the last of all. -/
theorem exists_append_of_filter {cs before after : List Candidate} {c : Candidate}
    {p : Candidate → Bool} (hp : ∀ d, d.label = c.label → p d = p c)
    (hc : cs.filter p = before ++ c :: after) (hafter : ∀ d ∈ after, d.label ≠ c.label) :
    ∃ before after, cs = before ++ c :: after ∧ ∀ d ∈ after, d.label ≠ c.label := by
  obtain ⟨us, vs, rfl, -, hvs⟩ := List.filter_eq_append_iff.mp hc
  obtain ⟨xs, ys, rfl, hxs, hpc, hys⟩ := List.filter_eq_cons_iff.mp hvs
  refine ⟨us ++ xs, ys, by simp, fun d hd e => ?_⟩
  have hpd : p d = true := (hp d e).trans hpc
  have hmem : d ∈ after := hys ▸ List.mem_filter.mpr ⟨hd, hpd⟩
  exact hafter d hmem e

theorem exists_append_of_mem_unique {cs : List Candidate} {c : Candidate} (h : c ∈ unique cs) :
    ∃ before after, cs = before ++ c :: after ∧ ∀ d ∈ after, d.label ≠ c.label := by
  rw [unique_eq] at h
  obtain ⟨p, hp, rfl⟩ := List.mem_map.mp h
  obtain ⟨before, after, hl, hafter⟩ := OrderedMap.exists_append_of_mem_ofList hp
  obtain ⟨us, vs, hcs, rfl, hvs⟩ := List.map_eq_append_iff.mp hl
  obtain ⟨d, ys, rfl, rfl, rfl⟩ := List.map_eq_cons_iff.mp hvs
  refine exists_append_of_filter (fun e he => by rw [he]) hcs fun e he => ?_
  exact hafter _ (List.mem_map_of_mem he)

theorem keptOf_unique_narrow (typed : Text) (cs : List Candidate) :
    KeptOf typed cs (unique (narrow typed cs)) where
  fits := by
    intro c hc
    have hl := List.mem_map_of_mem (f := (·.label)) hc
    rw [labels_unique_narrow, List.mem_filter, Bool.and_eq_true] at hl
    exact of_decide_eq_true hl.2.1
  complete := by
    intro c hc hne hfits
    have hl : c.label ∈ (unique (narrow typed cs)).map (·.label) := by
      rw [labels_unique_narrow, List.mem_filter, List.mem_eraseDups]
      exact ⟨List.mem_map_of_mem hc, by simp [hfits, hne]⟩
    exact List.mem_map.mp hl
  order := by
    rw [labels_unique_narrow]
    exact (pairwise_idxOf_eraseDups _).filter _
  last := by
    intro c hc
    obtain ⟨before, after, e, hafter⟩ := exists_append_of_mem_unique hc
    exact exists_append_of_filter (fun d hd => by rw [isOffered_eq, isOffered_eq, hd]) e hafter

end Candidate

namespace Engine

theorem exists_complete_eq_unique (e : Engine) (r : Request) :
    ∃ cs, e.complete r = Candidate.unique cs := by
  rw [complete, Request.complete]
  cases r.route e.index with
  | openVariable v => exact ⟨_, rfl⟩
  | nothing => exact ⟨[], rfl⟩
  | dotPath _ path => exact ⟨_, rfl⟩
  | clause place => exact ⟨_, rfl⟩

/-- **The law of answers**: all labels of an answer differ and none is empty, and an
answer from the clause is made of what the clause produces. -/
theorem complete_output (e : Engine) (r : Request) :
    ((e.complete r).map (·.label)).Nodup ∧ (∀ c ∈ e.complete r, c.label ≠ []) ∧
      ∀ place, r.route e.index = .clause place →
        Candidate.KeptOf r.typed
          (place.clause.candidates e.index e.snapshot.configuration place.resolution)
          (e.complete r) := by
  obtain ⟨cs, hcs⟩ := exists_complete_eq_unique e r
  refine ⟨?_, fun c hc hl => ?_, fun place hplace => ?_⟩
  · rw [hcs, Candidate.labels_unique]
    exact (nodup_eraseDups _).filter _
  · have hmem := List.mem_map_of_mem (f := (·.label)) hc
    rw [hcs, Candidate.labels_unique, List.mem_filter, hl] at hmem
    exact absurd hmem.2 (by simp)
  · rw [complete, Request.complete, hplace]
    exact Candidate.keptOf_unique_narrow _ _

/-- A column is being typed in a condition. -/
theorem complete_output_in_condition :
    ∃ e : Engine, ∃ r : Request, ∃ place, r.route e.index = .clause place ∧
      place.clause = .whereCondition ∧
      Candidate.KeptOf r.typed
        (place.clause.candidates e.index e.snapshot.configuration place.resolution)
        (e.complete r) := by
  let e := ofConfiguration
    { schemas := [⟨"s".toList, [⟨"t".toList, ["a".toList, "b".toList, "a".toList]⟩]⟩] }
  let r : Request := { before := "SELECT b FROM t WHERE a".toList, typed := "a".toList }
  let level : Level := ⟨r.before, [], 0⟩
  let place : CursorPlace :=
    ⟨r.before, level, .whereCondition, level,
      { tables := [("T".toList, { table := "T".toList })] }⟩
  have h : r.route e.index = .clause place := by decide +kernel
  exact ⟨e, r, place, h, rfl, (complete_output e r).2.2 place h⟩

end Engine

end SqlAssist
