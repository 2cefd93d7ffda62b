import SqlAssist.Completion.Engine
import SqlAssist.Proofs.Catalog.VariableScopes
import SqlAssist.Proofs.Completion.Narrowing
import SqlAssist.Proofs.Completion.OpenVariable

/-!
# Variables on offer

Behind an open variable the answer is a sorted set (`Offers`): the scopes, or the keys of the scope
that has been typed, as far as they start with what has been typed of them, whatever the case. A
scope that is not known in the typed spelling stands for another one that is spelt alike, and if
there is none, there is nothing on offer.

**`complete_variables`** says so of every catalog and every open variable, and that the order in
which the variables are given decides one thing only: which of several scopes a typed one stands for
that is spelt like all of them.
-/

namespace SqlAssist

/-- The candidates offer exactly the names with a property, each once and in ascending order. -/
def Offers (P : Text → Prop) (detail : Text → Text) (cs : List Candidate) : Prop :=
  ∃ names, IsSortedSet P names ∧
    cs = names.map fun n => Suggestion.plain .workflowVariable n (some (detail n))

namespace Offers

variable {P Q : Text → Prop} {detail : Text → Text} {cs cs' : List Candidate}

/-- What is on offer is decided by the names. -/
theorem eq (h : Offers P detail cs) (h' : Offers P detail cs') : cs = cs' := by
  obtain ⟨names, hnames, rfl⟩ := h
  obtain ⟨names', hnames', rfl⟩ := h'
  rw [hnames.eq hnames']

theorem congr (h : Offers P detail cs) (hPQ : ∀ a, P a ↔ Q a) : Offers Q detail cs := by
  obtain ⟨names, hnames, rfl⟩ := h
  exact ⟨names, hnames.congr hPQ, rfl⟩

/-- All of them have different labels. -/
theorem unique_eq (h : Offers P detail cs) (hP : ¬ P []) : Candidate.unique cs = cs := by
  obtain ⟨names, hnames, rfl⟩ := h
  refine Candidate.unique_of_nodup ?_ fun c hc hlabel => ?_
  · rw [List.map_map]
    exact (List.map_id' names).symm ▸ hnames.ascending.nodup
  · obtain ⟨n, hn, rfl⟩ := List.mem_map.mp hc
    exact hP (hlabel ▸ (hnames.mem_iff n).mp hn)

end Offers

namespace VariableContext

variable {vars : List Variable} {v : VariableContext} {n : Text}

/-- The names that start with what has been typed. -/
theorem isSortedSet_offered {P : Text → Prop} {names : List Text} (h : IsSortedSet P names) (typed : Text) :
    IsSortedSet (fun a => P a ∧ typed.upper <+: a.upper)
      (names.filter fun a => typed.upper.isPrefixOf a.upper) :=
  (h.filter _).congr fun _ => and_congr_right' List.isPrefixOf_iff_prefix

theorem offers_scopes (schemas : List Schema) (vars : List Variable) (hv : v.scope = none) :
    Offers (fun s => HasScope vars s ∧ v.typed.upper <+: s.upper) (fun _ => "workflow scope".toList)
      (v.candidates (.build schemas vars)) := by
  refine ⟨_, isSortedSet_offered (CatalogIndex.isSortedSet_scopeNames schemas vars) v.typed, ?_⟩
  rw [candidates, hv]

/-- The keys of the scope that is meant, or nothing. -/
theorem offers_keys (schemas : List Schema) (vars : List Variable) (hv : v.scope = some n) (hn : n ≠ []) :
    (∃ s, StandsFor vars n s ∧
      Offers (fun k => HasKey vars s k ∧ v.typed.upper <+: k.upper) (fun k => n ++ '.' :: k)
        (v.candidates (.build schemas vars))) ∨
      (∀ s, HasScope vars s → s.upper ≠ n.upper) ∧ v.candidates (.build schemas vars) = [] := by
  obtain ⟨d, m, rfl⟩ := List.exists_cons_of_ne_nil hn
  have hcandidates : v.candidates (.build schemas vars) =
      (((CatalogIndex.build schemas vars).keysForScope (d :: m)).filter fun a =>
        v.typed.upper.isPrefixOf a.upper).map
          fun k => Suggestion.plain .workflowVariable k (some (d :: m ++ '.' :: k)) := by
    rw [candidates, hv]
  rw [hcandidates]
  rcases CatalogIndex.isSortedSet_keysForScope schemas vars (d :: m) with ⟨s, hs, hkeys⟩ | ⟨hnone, hkeys⟩
  · exact Or.inl ⟨s, hs, _, isSortedSet_offered hkeys v.typed, rfl⟩
  · exact Or.inr ⟨hnone, by rw [hkeys]; rfl⟩

end VariableContext

namespace Engine

theorem complete_of_detect? {c : Configuration} {r : Request} {v : VariableContext}
    (h : VariableContext.detect? r.before = some v) :
    (ofConfiguration c).complete r =
      Candidate.unique (v.candidates (.build c.schemas c.workflowVariables)) := by
  rw [complete, Request.complete, Request.route, h]
  rfl

variable {c : Configuration} {r : Request} {v : VariableContext} {n : Text}

theorem complete_scopes (h : VariableContext.detect? r.before = some v) (hv : v.scope = none) :
    Offers (fun s => HasScope c.workflowVariables s ∧ v.typed.upper <+: s.upper)
      (fun _ => "workflow scope".toList) ((ofConfiguration c).complete r) := by
  have hoffers := VariableContext.offers_scopes c.schemas c.workflowVariables hv
  rw [complete_of_detect? h, hoffers.unique_eq fun hnil => hnil.1.ne_nil rfl]
  exact hoffers

theorem complete_keys (h : VariableContext.detect? r.before = some v) (hv : v.scope = some n) :
    (∃ s, StandsFor c.workflowVariables n s ∧
      Offers (fun k => HasKey c.workflowVariables s k ∧ v.typed.upper <+: k.upper)
        (fun k => n ++ '.' :: k) ((ofConfiguration c).complete r)) ∨
      (∀ s, HasScope c.workflowVariables s → s.upper ≠ n.upper) ∧ (ofConfiguration c).complete r = [] := by
  have hn : n ≠ [] := ((VariableContext.isTyped_of_detect? h).scope n hv).1
  rw [complete_of_detect? h]
  rcases VariableContext.offers_keys c.schemas c.workflowVariables hv hn with
    ⟨s, hs, hoffers⟩ | ⟨hnone, hcandidates⟩
  · rw [hoffers.unique_eq fun hnil => hnil.1.2.1 rfl]
    exact Or.inl ⟨s, hs, hoffers⟩
  · exact Or.inr ⟨hnone, by rw [hcandidates]; rfl⟩

/-- The order of the variables only decides which scope is meant. -/
theorem complete_perm {vars : List Variable} (h : VariableContext.detect? r.before = some v)
    (hperm : vars.Perm c.workflowVariables) :
    (ofConfiguration { c with workflowVariables := vars }).complete r = (ofConfiguration c).complete r ∨
      ∃ n s s', v.scope = some n ∧ ¬ HasScope c.workflowVariables n ∧
        StandsFor c.workflowVariables n s ∧ StandsFor vars n s' ∧ s ≠ s' ∧ s.upper = s'.upper := by
  let c' : Configuration := { c with workflowVariables := vars }
  cases hv : v.scope with
  | none =>
    have hoffers := complete_scopes (c := c') h hv
    refine Or.inl ((hoffers.congr fun s => ?_).eq (complete_scopes h hv))
    exact and_congr_left' (HasScope.perm hperm)
  | some n =>
    rcases complete_keys (c := c) h hv with ⟨s, hs, hoffers⟩ | ⟨hnone, hnil⟩
    · rcases complete_keys (c := c') h hv with ⟨s', hs', hoffers'⟩ | ⟨hnone, -⟩
      · by_cases hsame : s = s'
        · subst hsame
          exact Or.inl ((hoffers'.congr fun k => and_congr_left' (HasKey.perm hperm)).eq hoffers)
        · refine Or.inr ⟨n, s, s', rfl, fun hn => ?_, hs, hs', hsame, ?_⟩
          · have hn' := (HasScope.perm hperm).mpr hn
            exact hsame ((hs.eq_of_hasScope hn).trans (hs'.eq_of_hasScope hn').symm)
          · exact hs.hasScope.2.trans hs'.hasScope.2.symm
      · exact absurd hs.hasScope.2 (hnone s ((HasScope.perm hperm).mpr hs.hasScope.1))
    · rcases complete_keys (c := c') h hv with ⟨s', hs', -⟩ | ⟨-, hnil'⟩
      · exact absurd hs'.hasScope.2 (hnone s' ((HasScope.perm hperm).mp hs'.hasScope.1))
      · exact Or.inl (hnil'.trans hnil.symm)

/-- **The answer behind an open variable.** Without a scope it offers the scopes, behind a scope the
keys of the one that is meant, each that starts with what has been typed once and in ascending
order; the order of the variables only decides which scope is meant where several are spelt alike
and none as typed. -/
theorem complete_variables (c : Configuration) (r : Request) (v : VariableContext)
    (h : VariableContext.detect? r.before = some v) :
    (v.scope = none →
      Offers (fun s => HasScope c.workflowVariables s ∧ v.typed.upper <+: s.upper)
        (fun _ => "workflow scope".toList) ((ofConfiguration c).complete r)) ∧
    (∀ n, v.scope = some n →
      (∃ s, StandsFor c.workflowVariables n s ∧
        Offers (fun k => HasKey c.workflowVariables s k ∧ v.typed.upper <+: k.upper)
          (fun k => n ++ '.' :: k) ((ofConfiguration c).complete r)) ∨
        (∀ s, HasScope c.workflowVariables s → s.upper ≠ n.upper) ∧
          (ofConfiguration c).complete r = []) ∧
    ∀ vars : List Variable, vars.Perm c.workflowVariables →
      (ofConfiguration { c with workflowVariables := vars }).complete r = (ofConfiguration c).complete r ∨
        ∃ n s s', v.scope = some n ∧ ¬ HasScope c.workflowVariables n ∧
          StandsFor c.workflowVariables n s ∧ StandsFor vars n s' ∧ s ≠ s' ∧ s.upper = s'.upper :=
  ⟨complete_scopes h, fun _ => complete_keys h, fun _ => complete_perm h⟩

/-- Variables of a scope in two spellings, with blanks, with a blank key and one given twice. -/
def spellings : List Variable :=
  [⟨" Env ".toList, "b".toList⟩, ⟨"ENV".toList, " ".toList⟩, ⟨"Env".toList, " a".toList⟩,
    ⟨"Env".toList, "b".toList⟩, ⟨"env".toList, "c".toList⟩]

theorem hasKey_spellings_iff {s k : Text} :
    HasKey spellings s k ↔ (s, k) ∈ [("Env".toList, "b".toList), ("Env".toList, "a".toList),
      ("Env".toList, "b".toList), ("env".toList, "c".toList)] := by
  have hnamed : CatalogIndex.namedVariables spellings = [("Env".toList, "b".toList),
      ("Env".toList, "a".toList), ("Env".toList, "b".toList), ("env".toList, "c".toList)] := by
    decide
  have hmem : (s, k) ∈ CatalogIndex.namedVariables spellings ↔ HasKey spellings s k :=
    CatalogIndex.mem_namedVariables_iff
  rw [← hmem, hnamed]

/-- The scope is typed in a third spelling; with the variables in the opposite order it stands for the
other scope. -/
theorem complete_variables_in_third_spelling :
    VariableContext.detect? "SELECT $\x7bENV.".toList = some ⟨some "ENV".toList, []⟩ ∧
      (ofConfiguration { workflowVariables := spellings }).complete
          { before := "SELECT $\x7bENV.".toList } =
        [Suggestion.plain .workflowVariable "a".toList (some "ENV.a".toList),
          Suggestion.plain .workflowVariable "b".toList (some "ENV.b".toList)] ∧
      spellings.reverse.Perm spellings ∧
      (ofConfiguration { workflowVariables := spellings.reverse }).complete
          { before := "SELECT $\x7bENV.".toList } =
        [Suggestion.plain .workflowVariable "c".toList (some "ENV.c".toList)] := by
  have h : VariableContext.detect? "SELECT $\x7bENV.".toList = some ⟨some "ENV".toList, []⟩ := by
    decide
  have hanswer : ∀ vars s names, vars.Perm spellings → StandsFor vars "ENV".toList s →
      IsSortedSet (HasKey spellings s) names →
      (ofConfiguration { workflowVariables := vars }).complete { before := "SELECT $\x7bENV.".toList } =
        names.map fun k => Suggestion.plain .workflowVariable k (some ("ENV".toList ++ '.' :: k)) := by
    intro vars s names hperm hs hnames
    rcases (complete_variables { workflowVariables := vars } { before := "SELECT $\x7bENV.".toList } _ h).2.1
      "ENV".toList rfl with ⟨s', hs', hoffers⟩ | ⟨hnone, -⟩
    · obtain rfl := hs.unique hs'
      refine hoffers.eq ⟨names, hnames.congr fun k => ?_, rfl⟩
      exact (HasKey.perm hperm).symm.trans (and_iff_left (List.nil_prefix)).symm
    · exact absurd hs.hasScope.2 (hnone s hs.hasScope.1)
  have hscope : ¬ HasScope spellings "ENV".toList :=
    mt CatalogIndex.mem_map_fst_namedVariables_iff.mpr (by decide)
  refine ⟨h, ?_, List.reverse_perm _, ?_⟩
  · refine hanswer spellings "Env".toList ["a".toList, "b".toList] (.refl _) ?_ ⟨fun k => ?_, by decide⟩
    · exact @StandsFor.alike _ _ [] _ _ hscope rfl (by decide) (by simp)
    · rw [hasKey_spellings_iff]
      simp only [List.mem_cons, List.not_mem_nil, Prod.mk.injEq]
      grind
  · refine hanswer spellings.reverse "env".toList ["c".toList] (List.reverse_perm _) ?_
      ⟨fun k => ?_, by decide⟩
    · have hscope' : ¬ HasScope spellings.reverse "ENV".toList :=
        mt (HasScope.perm (List.reverse_perm spellings)).mp hscope
      exact @StandsFor.alike _ _ [] _ _ hscope' rfl (by decide) (by simp)
    · rw [hasKey_spellings_iff]
      simp

end Engine

end SqlAssist
