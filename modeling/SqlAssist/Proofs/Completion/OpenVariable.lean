import SqlAssist.Completion.Variable
import SqlAssist.Proofs.Sql.Layout
import SqlAssist.Proofs.Sql.Lexeme

/-!
# Open variables

What has been typed of a variable holds no white space (`isTyped_of_detect?`), so it is the
beginning of a name that a variable can have: for every open variable there is a catalog
that has something to offer (`exists_candidate`). Where no opener stands in a text, none
is seen in it (`detect?_eq_none`), since masking only takes characters away.
-/

namespace SqlAssist

namespace VariableContext

/-- What has been typed of a variable has no white space in it, and a scope is not empty. -/
structure IsTyped (v : VariableContext) : Prop where
  /-- What has been typed is free of white space. -/
  typed : ∀ c ∈ v.typed, Text.isSpace c = false
  /-- So is the scope, and it is not empty. -/
  scope : ∀ s, v.scope = some s → s ≠ [] ∧ ∀ c ∈ s, Text.isSpace c = false

theorem isTyped_ofInside {inside : Text} (h : ∀ c ∈ inside, Text.isSpace c = false) :
    (ofInside inside).IsTyped := by
  have hpart : ∀ p ∈ inside.split '.', ∀ c ∈ p, Text.isSpace c = false := fun p hp c hc =>
    h c (Text.mem_of_mem_split hp hc)
  rw [ofInside]
  split
  · rename_i scope hsplit
    exact ⟨hpart scope (hsplit ▸ List.mem_cons_self), fun _ h => nomatch h⟩
  · rename_i scope key rest hsplit
    refine ⟨hpart key (hsplit ▸ by simp), fun s hs => ?_⟩
    split_ifs at hs with hempty
    obtain rfl := Option.some.inj hs
    exact ⟨fun e => hempty (by rw [e]; rfl), hpart scope (hsplit ▸ List.mem_cons_self)⟩
  · exact ⟨fun _ hc => absurd hc List.not_mem_nil, fun _ h => nomatch h⟩

theorem isTyped_of_detect? {t : Text} {v : VariableContext} (h : detect? t = some v) : v.IsTyped := by
  rw [detect?] at h
  split at h
  · rename_i inside hinside
    split_ifs at h with hclosed
    obtain rfl := Option.some.inj h
    refine isTyped_ofInside fun c hc => ?_
    rw [Bool.or_eq_true, not_or, List.any_eq_true] at hclosed
    exact Bool.not_eq_true _ ▸ fun hspace => hclosed.2 ⟨c, hc, hspace⟩
  · cases h

/-- Where no opener stands, no variable is open. -/
theorem detect?_eq_none {t : Text} (h : ¬ opener <:+: t) : detect? t = none := by
  have hstatement : Text.hasInfix opener (Statement.beforeCursor (Comment.mask t)) = false := by
    rw [← Bool.not_eq_true, Text.hasInfix_iff]
    intro hseen
    have hsuffix : Statement.beforeCursor (Comment.mask t) <:+ Comment.mask t := List.drop_suffix _ _
    exact h (Comment.isInfix_of_isInfix_mask (by decide) (hseen.trans hsuffix.isInfix))
  rw [detect?, Text.afterLastInfix?_of_hasInfix_eq_false hstatement]

end VariableContext

section Offered

variable {s k : Text}

theorem CatalogIndex.scopes_singleton (hs : Text.trim s = s) (hk : Text.trim k = k) (hs' : s ≠ [])
    (hk' : k ≠ []) : scopes [⟨s, k⟩] = [(s, [k])] := by
  have hnamed : namedVariables [⟨s, k⟩] = [(s, k)] := by
    simp [namedVariables, hs, hk, hs', hk']
  rw [scopes, hnamed]
  simp [sortedOnce, List.eraseDups_cons]

/-- For every open variable some catalog has a name that completes it. -/
theorem VariableContext.exists_candidate {v : VariableContext} (hv : v.IsTyped) :
    ∃ vars : List Variable, ∃ c ∈ v.candidates (.build [] vars), c.label ≠ [] := by
  obtain ⟨scope, typed⟩ := v
  have hx : Text.trim (typed ++ ['x']) = typed ++ ['x'] :=
    Text.trim_of_no_space (List.forall_mem_append.mpr ⟨hv.typed, List.forall_mem_singleton.mpr (by decide)⟩)
  have hoffered : typed.upper.isPrefixOf (typed ++ ['x']).upper = true := by
    rw [List.isPrefixOf_iff_prefix, Text.upper_append]
    exact List.prefix_append _ _
  cases scope with
  | none =>
    have hnames : (CatalogIndex.build [] [⟨typed ++ ['x'], ['k']⟩]).scopeNames = [typed ++ ['x']] := by
      rw [CatalogIndex.scopeNames, CatalogIndex.build,
        CatalogIndex.scopes_singleton hx (by decide) (by simp) (by simp)]
      exact List.mergeSort_singleton _
    refine ⟨[⟨typed ++ ['x'], ['k']⟩], _,
      List.mem_map_of_mem (List.mem_filter.mpr ⟨hnames ▸ List.mem_cons_self, hoffered⟩), ?_⟩
    simp [Suggestion.plain]
  | some s =>
    obtain ⟨hs, hspace⟩ := hv.scope s rfl
    have hkeys : (CatalogIndex.build [] [⟨s, typed ++ ['x']⟩]).keysForScope s = [typed ++ ['x']] := by
      rw [CatalogIndex.keysForScope, CatalogIndex.build,
        CatalogIndex.scopes_singleton (Text.trim_of_no_space hspace) hx hs (by simp)]
      simp [OrderedMap.get?]
    obtain ⟨d, s, rfl⟩ := List.exists_cons_of_ne_nil hs
    refine ⟨[⟨d :: s, typed ++ ['x']⟩], _,
      List.mem_map_of_mem (List.mem_filter.mpr ⟨hkeys ▸ List.mem_cons_self, hoffered⟩), ?_⟩
    simp [Suggestion.plain]

end Offered

end SqlAssist
