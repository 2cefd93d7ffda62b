import SqlAssist.Catalog.Index
import SqlAssist.Proofs.Text.LastEntry
import Mathlib.Data.List.Sort

/-!
# Scopes and keys of variables

The index keeps the variables of a catalog as sets: the scopes, and the keys of each scope. What is
read off it is each set once and in ascending order (`isSortedSet_scopeNames`,
`isSortedSet_keysForScope`), so that neither the order of the variables nor how often one is given
counts (`IsSortedSet.eq`). A variable whose scope or key is blank is in no set.

Only in one place the order of the variables counts: a typed scope that the catalog does not know
stands for the first one that is spelt alike (`StandsFor`), and there may be several of these.
-/

namespace SqlAssist

/-! ### Sorted sets -/

/-- The list holds exactly the texts with a property, each once and in ascending order. -/
structure IsSortedSet (P : Text → Prop) (l : List Text) : Prop where
  /-- Exactly the texts with the property are in the list. -/
  mem_iff : ∀ a, a ∈ l ↔ P a
  /-- Each is less than those behind it. -/
  ascending : l.Pairwise (· < ·)

namespace IsSortedSet

variable {P Q : Text → Prop} {l l' : List Text}

/-- There is one such list only. -/
theorem eq (h : IsSortedSet P l) (h' : IsSortedSet P l') : l = l' :=
  h.ascending.eq_of_mem_iff h'.ascending fun a => (h.mem_iff a).trans (h'.mem_iff a).symm

theorem congr (h : IsSortedSet P l) (hPQ : ∀ a, P a ↔ Q a) : IsSortedSet Q l :=
  ⟨fun a => (h.mem_iff a).trans (hPQ a), h.ascending⟩

theorem filter (h : IsSortedSet P l) (p : Text → Bool) :
    IsSortedSet (fun a => P a ∧ p a = true) (l.filter p) :=
  ⟨fun a => List.mem_filter.trans (and_congr_left' (h.mem_iff a)), h.ascending.filter p⟩

end IsSortedSet

theorem Text.notAfter_iff {a b : Text} : a.notAfter b = true ↔ ¬ b < a := by
  rw [notAfter, Bool.not_eq_true', ← Bool.not_eq_true, List.lex_eq_true_iff_lt]

/-- Distinct texts are sorted strictly. -/
theorem isSortedSet_mergeSort {l : List Text} (h : l.Nodup) :
    IsSortedSet (· ∈ l) (l.mergeSort Text.notAfter) := by
  have hperm := List.mergeSort_perm l Text.notAfter
  have hsorted : (l.mergeSort Text.notAfter).Pairwise fun a b => a.notAfter b = true := by
    refine List.pairwise_mergeSort (fun a b c hab hbc => ?_) (fun a b => ?_) l
    · exact Text.notAfter_iff.mpr
        (List.le_trans (Text.notAfter_iff.mp hab) (Text.notAfter_iff.mp hbc))
    · rw [Bool.or_eq_true, Text.notAfter_iff, Text.notAfter_iff]
      exact List.le_total a b
  have hnodup : (l.mergeSort Text.notAfter).Pairwise (· ≠ ·) := hperm.nodup_iff.mpr h
  refine ⟨fun a => hperm.mem_iff, (hsorted.and hnodup).imp fun hab => ?_⟩
  exact Decidable.byContradiction fun h =>
    hab.2 (List.le_antisymm (Text.notAfter_iff.mp hab.1) h)

theorem CatalogIndex.isSortedSet_sortedOnce (l : List Text) : IsSortedSet (· ∈ l) (sortedOnce l) :=
  (isSortedSet_mergeSort (nodup_eraseDups l)).congr fun _ => List.mem_eraseDups

/-! ### What variables there are -/

namespace Variable

/-- Neither the scope nor the key of the variable is blank. -/
def IsNamed (x : Variable) : Prop :=
  x.scope.trim ≠ [] ∧ x.key.trim ≠ []

instance : DecidablePred IsNamed := fun x =>
  inferInstanceAs (Decidable (x.scope.trim ≠ [] ∧ x.key.trim ≠ []))

/-- The scope of the variable is spelt as the given text, in some case of letters. -/
def IsAlike (n : Text) (x : Variable) : Prop :=
  x.IsNamed ∧ x.scope.trim.upper = n.upper

instance (n : Text) : DecidablePred (IsAlike n) := fun x =>
  inferInstanceAs (Decidable (x.IsNamed ∧ x.scope.trim.upper = n.upper))

end Variable

/-- Some variable has this scope and this key, white space around them apart; neither is empty. -/
def HasKey (vars : List Variable) (scope key : Text) : Prop :=
  scope ≠ [] ∧ key ≠ [] ∧ ∃ x ∈ vars, x.scope.trim = scope ∧ x.key.trim = key

/-- The scope has some key. -/
def HasScope (vars : List Variable) (scope : Text) : Prop :=
  ∃ key, HasKey vars scope key

/-- The typed scope `n` stands for a scope of the variables: for the one of that very spelling, else
for that of the first variable with a scope that is spelt alike. -/
inductive StandsFor (vars : List Variable) (n : Text) : Text → Prop where
  /-- There is a scope of that very spelling. -/
  | exact : HasScope vars n → StandsFor vars n n
  /-- There is none; the first variable that is alike decides. -/
  | alike {before after : List Variable} {x : Variable} : ¬ HasScope vars n →
      vars = before ++ x :: after → x.IsAlike n → (∀ y ∈ before, ¬ y.IsAlike n) →
      StandsFor vars n x.scope.trim

variable {vars vars' : List Variable} {n s key : Text}

theorem hasScope_iff : HasScope vars s ↔ ∃ x ∈ vars, x.IsNamed ∧ x.scope.trim = s := by
  constructor
  · rintro ⟨key, hs, hk, x, hx, rfl, rfl⟩
    exact ⟨x, hx, ⟨hs, hk⟩, rfl⟩
  · rintro ⟨x, hx, ⟨hs, hk⟩, rfl⟩
    exact ⟨x.key.trim, hs, hk, x, hx, rfl, rfl⟩

theorem HasScope.ne_nil (h : HasScope vars s) : s ≠ [] :=
  h.choose_spec.1

theorem HasKey.perm (h : vars'.Perm vars) : HasKey vars' s key ↔ HasKey vars s key := by
  simp only [HasKey, h.mem_iff]

theorem HasScope.perm (h : vars'.Perm vars) : HasScope vars' s ↔ HasScope vars s :=
  exists_congr fun _ => HasKey.perm h

/-- A typed scope stands for a scope that there is, and that is spelt alike. -/
theorem StandsFor.hasScope (h : StandsFor vars n s) : HasScope vars s ∧ s.upper = n.upper := by
  cases h with
  | exact h => exact ⟨h, rfl⟩
  | alike _ hvars hx _ =>
    subst hvars
    exact ⟨hasScope_iff.mpr ⟨_, by simp, hx.1, rfl⟩, hx.2⟩

/-- A scope that is typed as it is spelt stands for itself. -/
theorem StandsFor.eq_of_hasScope (h : StandsFor vars n s) (hn : HasScope vars n) : s = n := by
  cases h with
  | exact _ => rfl
  | alike hnone _ _ _ => exact absurd hn hnone

/-- A typed scope stands for one scope at most. -/
theorem StandsFor.unique {s' : Text} (h : StandsFor vars n s) (h' : StandsFor vars n s') : s = s' := by
  have hfirst : ∀ {before after : List Variable} {x : Variable}, vars = before ++ x :: after →
      x.IsAlike n → (∀ y ∈ before, ¬ y.IsAlike n) →
      vars.find? (fun y => decide (y.IsAlike n)) = some x := fun hvars hx hbefore =>
    List.find?_eq_some_iff_append.mpr
      ⟨decide_eq_true hx, _, _, hvars, fun y hy => by simpa using hbefore y hy⟩
  cases h with
  | exact h => exact (h'.eq_of_hasScope h).symm
  | alike hnone hvars hx hbefore =>
    cases h' with
    | exact h => exact absurd h hnone
    | alike _ hvars' hx' hbefore' =>
      have hsame := (hfirst hvars hx hbefore).symm.trans (hfirst hvars' hx' hbefore')
      rw [Option.some.inj hsame]

/-! ### What the index makes of them -/

namespace CatalogIndex

theorem namedVariables_eq (vars : List Variable) :
    namedVariables vars =
      (vars.filter fun x => decide x.IsNamed).map fun x => (x.scope.trim, x.key.trim) := by
  have hnamed : ((fun p : Text × Text => !p.1.isEmpty && !p.2.isEmpty) ∘
      fun x : Variable => (x.scope.trim, x.key.trim)) = fun x => decide x.IsNamed := by
    funext x
    rw [Bool.eq_iff_iff, decide_eq_true_iff]
    simp [Variable.IsNamed]
  rw [namedVariables, List.filter_map, hnamed]

theorem mem_namedVariables_iff {p : Text × Text} :
    p ∈ namedVariables vars ↔ HasKey vars p.1 p.2 := by
  rw [namedVariables_eq, List.mem_map]
  constructor
  · rintro ⟨x, hx, rfl⟩
    obtain ⟨hx, hnamed⟩ := List.mem_filter.mp hx
    obtain ⟨hs, hk⟩ := of_decide_eq_true hnamed
    exact ⟨hs, hk, x, hx, rfl, rfl⟩
  · rintro ⟨hs, hk, x, hx, hscope, hkey⟩
    refine ⟨x, List.mem_filter.mpr ⟨hx, decide_eq_true ⟨?_, ?_⟩⟩, Prod.ext hscope hkey⟩
    · rwa [hscope]
    · rwa [hkey]

theorem mem_map_fst_namedVariables_iff : s ∈ (namedVariables vars).map (·.1) ↔ HasScope vars s := by
  rw [List.mem_map]
  constructor
  · rintro ⟨p, hp, rfl⟩
    exact ⟨p.2, mem_namedVariables_iff.mp hp⟩
  · rintro ⟨key, h⟩
    exact ⟨(s, key), mem_namedVariables_iff.mpr h, rfl⟩

/-- The keys that the index keeps for a scope. -/
def keysOf (vars : List Variable) (scope : Text) : List Text :=
  sortedOnce (((namedVariables vars).filter (·.1 = scope)).map (·.2))

theorem scopes_eq (vars : List Variable) :
    scopes vars = (((namedVariables vars).map (·.1)).eraseDups).map fun s => (s, keysOf vars s) :=
  rfl

theorem isSortedSet_keysOf (vars : List Variable) (s : Text) :
    IsSortedSet (HasKey vars s) (keysOf vars s) := by
  refine (isSortedSet_sortedOnce _).congr fun key => ?_
  rw [List.mem_map]
  constructor
  · rintro ⟨p, hp, rfl⟩
    obtain ⟨hnamed, hs⟩ := List.mem_filter.mp hp
    obtain rfl : p.1 = s := of_decide_eq_true hs
    exact mem_namedVariables_iff.mp hnamed
  · intro h
    exact ⟨(s, key), List.mem_filter.mpr ⟨mem_namedVariables_iff.mpr h, decide_eq_true rfl⟩, rfl⟩

theorem keys_scopes (vars : List Variable) :
    OrderedMap.keys (scopes vars) = ((namedVariables vars).map (·.1)).eraseDups := by
  rw [scopes_eq, OrderedMap.keys, List.map_map]
  exact List.map_id' _

theorem nodup_keys_scopes (vars : List Variable) : (OrderedMap.keys (scopes vars)).Nodup := by
  rw [keys_scopes]
  exact nodup_eraseDups _

/-- The scopes on offer. -/
theorem isSortedSet_scopeNames (schemas : List Schema) (vars : List Variable) :
    IsSortedSet (HasScope vars) (build schemas vars).scopeNames := by
  refine (isSortedSet_mergeSort (nodup_keys_scopes vars)).congr fun s => ?_
  rw [keys_scopes, List.mem_eraseDups]
  exact mem_map_fst_namedVariables_iff

/-! ### The scope that is meant -/

theorem get?_scopes_of_hasScope (h : HasScope vars n) : (scopes vars).get? n = some (keysOf vars n) := by
  have hmem : (n, keysOf vars n) ∈ scopes vars :=
    List.mem_map.mpr ⟨n, List.mem_eraseDups.mpr (mem_map_fst_namedVariables_iff.mpr h), rfl⟩
  exact OrderedMap.get?_of_mem (nodup_keys_scopes vars) hmem

theorem get?_scopes_of_not_hasScope (h : ¬ HasScope vars n) : (scopes vars).get? n = none := by
  refine Option.eq_none_iff_forall_ne_some.mpr fun keys hget => h ?_
  have hmem := OrderedMap.mem_keys_of_get? hget
  rw [keys_scopes, List.mem_eraseDups] at hmem
  exact mem_map_fst_namedVariables_iff.mp hmem

/-- The first of the scopes that are spelt alike is that of the first variable that is alike. -/
theorem find?_scopes (vars : List Variable) (n : Text) :
    ((scopes vars).find? fun p => decide (p.1.upper = n.upper)) =
      (vars.find? fun x => decide (x.IsAlike n)).map fun x => (x.scope.trim, keysOf vars x.scope.trim) := by
  have halike : (fun x : Variable => decide (decide x.IsNamed = true ∧
      decide (x.scope.trim.upper = n.upper) = true)) = fun x => decide (x.IsAlike n) := by
    funext x
    rw [decide_eq_decide, decide_eq_true_iff, decide_eq_true_iff]
    rfl
  rw [scopes_eq, List.find?_map, namedVariables_eq, List.map_map]
  simp only [Function.comp_def]
  rw [find?_eraseDups, List.find?_map, List.find?_filter, Option.map_map]
  simp only [Function.comp_def]
  rw [halike]

/-- What is found for a typed scope: the keys of the scope that it stands for, or nothing, if no
scope is spelt alike. -/
theorem isSortedSet_keysForScope (schemas : List Schema) (vars : List Variable) (n : Text) :
    (∃ s, StandsFor vars n s ∧ IsSortedSet (HasKey vars s) ((build schemas vars).keysForScope n)) ∨
      (∀ s, HasScope vars s → s.upper ≠ n.upper) ∧ (build schemas vars).keysForScope n = [] := by
  by_cases hscope : HasScope vars n
  · refine Or.inl ⟨n, .exact hscope, ?_⟩
    rw [keysForScope, build, get?_scopes_of_hasScope hscope]
    exact isSortedSet_keysOf vars n
  · have hfind : (build schemas vars).keysForScope n =
        ((vars.find? fun x => decide (x.IsAlike n)).map fun x => keysOf vars x.scope.trim).getD [] := by
      simp only [keysForScope, build, get?_scopes_of_not_hasScope hscope, find?_scopes]
      cases vars.find? fun x => decide (x.IsAlike n) <;> rfl
    cases hx : vars.find? fun x => decide (x.IsAlike n) with
    | some x =>
      obtain ⟨halike, before, after, hvars, hbefore⟩ := List.find?_eq_some_iff_append.mp hx
      refine Or.inl ⟨x.scope.trim, .alike hscope hvars (of_decide_eq_true halike) fun y hy => ?_, ?_⟩
      · simpa using hbefore y hy
      · rw [hfind, hx]
        exact isSortedSet_keysOf vars _
    | none =>
      refine Or.inr ⟨fun s hs hupper => ?_, by rw [hfind, hx]; rfl⟩
      obtain ⟨x, hmem, hnamed, rfl⟩ := hasScope_iff.mp hs
      have hnone := List.find?_eq_none.mp hx x hmem
      exact hnone (decide_eq_true ⟨hnamed, hupper⟩)

end CatalogIndex

end SqlAssist
