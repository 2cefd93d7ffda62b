import SqlAssist.Proofs.Lists
import SqlAssist.Text.OrderedMap
import Mathlib.Tactic.SplitIfs

/-!
# Maps made from lists

A map that is made from a list of settings holds each key once. The keys stand in
the order of their first settings (`keys_ofList`, with `pairwise_idxOf_eraseDups`
for what that order is), and each has the value of its last one: it is found by a
search from the end of the list (`get?_ofList`), and nothing behind its setting has
the same key (`exists_append_of_mem_ofList`).

Making the map goes together with what is done to the list: a part of the keys may be
taken before or after (`filter_ofList`), and a beginning of the list may be replaced by
the map made from it (`ofList_ofList_append`).
-/

namespace SqlAssist

/-! ### Last settings -/

namespace OrderedMap

variable {α β : Type} [DecidableEq α]

theorem ofList_concat (l : List (α × β)) (p : α × β) :
    ofList (l ++ [p]) = (ofList l).insert p.1 p.2 := by
  simp [ofList]

/-- The keys stand in the order of their first settings. -/
theorem keys_ofList [BEq α] [LawfulBEq α] (l : List (α × β)) :
    keys (ofList l) = (l.map (·.1)).eraseDups := by
  induction l using List.reverseRecOn with
  | nil => rfl
  | append_singleton l p ih =>
    rw [ofList_concat, keys_insert, List.map_append, List.map_singleton, ih]
    split_ifs with h
    · rw [eraseDups_concat_of_mem (List.mem_eraseDups.mp h)]
    · rw [eraseDups_concat_of_not_mem fun h' => h (List.mem_eraseDups.mpr h')]

theorem nodup_keys_ofList (l : List (α × β)) : (keys (ofList l)).Nodup := by
  rw [keys_ofList]
  exact nodup_eraseDups _

theorem insert_of_not_mem {m : OrderedMap α β} {k : α} (h : k ∉ keys m) (v : β) :
    m.insert k v = m ++ [(k, v)] := by
  induction m with
  | nil => rfl
  | cons p m ih =>
    obtain ⟨hp, hm⟩ := not_or.mp (mt List.mem_cons.mpr h)
    rw [insert, if_neg (Ne.symm hp), ih hm]
    rfl

theorem nodup_keys_insert {m : OrderedMap α β} (hm : (keys m).Nodup) (k : α) (v : β) :
    (keys (m.insert k v)).Nodup := by
  rw [keys_insert]
  split_ifs with h
  · exact hm
  · refine List.pairwise_append.mpr ⟨hm, List.pairwise_singleton _ k, fun a ha b hb e => h ?_⟩
    rw [← List.mem_singleton.mp hb, ← e]
    exact ha

theorem get?_insert (m : OrderedMap α β) (k key : α) (v : β) :
    (m.insert k v).get? key = if key = k then some v else m.get? key := by
  split_ifs with h
  · rw [h, get?_insert_self]
  · exact get?_insert_of_ne m v (Ne.symm h)

/-- A key has the value of its last setting. -/
theorem get?_ofList (l : List (α × β)) (key : α) :
    (ofList l).get? key = (l.reverse.find? (·.1 = key)).map (·.2) := by
  induction l using List.reverseRecOn with
  | nil => rfl
  | append_singleton l p ih =>
    rw [ofList_concat, get?_insert, List.reverse_concat, List.find?_cons, ih]
    by_cases h : p.1 = key
    · simp [h]
    · simp [h, Ne.symm h]

theorem mem_of_get? {m : OrderedMap α β} {k : α} {v : β} (h : m.get? k = some v) : (k, v) ∈ m := by
  induction m with
  | nil => cases h
  | cons p m ih =>
    rw [get?] at h
    split_ifs at h with hp
    · obtain rfl := Option.some.inj h
      exact hp ▸ List.mem_cons_self
    · exact List.mem_cons_of_mem _ (ih h)

theorem mem_keys_of_get? {m : OrderedMap α β} {k : α} {v : β} (h : m.get? k = some v) : k ∈ keys m :=
  List.mem_map_of_mem (mem_of_get? h)

theorem get?_of_mem {m : OrderedMap α β} (hm : (keys m).Nodup) {p : α × β} (hp : p ∈ m) :
    m.get? p.1 = some p.2 := by
  induction m with
  | nil => exact absurd hp List.not_mem_nil
  | cons q m ih =>
    obtain ⟨hq, hm⟩ := List.nodup_cons.mp hm
    rw [get?]
    rcases List.mem_cons.mp hp with rfl | hp
    · rw [if_pos rfl]
    · have hne : q.1 ≠ p.1 := fun e => hq (List.mem_map.mpr ⟨p, hp, e.symm⟩)
      rw [if_neg hne, ih hm hp]

/-- A setting that is left is the last of its key. -/
theorem exists_append_of_mem_ofList {l : List (α × β)} {p : α × β} (hp : p ∈ ofList l) :
    ∃ before after, l = before ++ p :: after ∧ ∀ q ∈ after, q.1 ≠ p.1 := by
  have hget := get?_of_mem (nodup_keys_ofList l) hp
  rw [get?_ofList] at hget
  obtain ⟨q, hq, e⟩ := Option.map_eq_some_iff.mp hget
  obtain ⟨before, after, hl, hkey, hafter⟩ := find?_reverse_eq_some_iff.mp hq
  obtain rfl : q = p := Prod.ext hkey e
  exact ⟨before, after, hl, hafter⟩

/-! #### A part of the keys, and more settings -/

theorem forall_mem_insert {m : OrderedMap α β} {P : β → Prop} (hm : ∀ p ∈ m, P p.2) (k : α)
    {v : β} (hv : P v) : ∀ p ∈ m.insert k v, P p.2 := by
  induction m with
  | nil => simpa [insert] using hv
  | cons p m ih =>
    obtain ⟨hp, hm⟩ := List.forall_mem_cons.mp hm
    rw [insert]
    split_ifs
    · exact List.forall_mem_cons.mpr ⟨hv, hm⟩
    · exact List.forall_mem_cons.mpr ⟨hp, ih hm⟩

theorem get?_filter_ne (m : OrderedMap α β) (k key : α) :
    OrderedMap.get? (m.filter (·.1 ≠ k)) key = if key = k then none else m.get? key := by
  induction m with
  | nil => simp [get?]
  | cons p m ih =>
    by_cases hp : p.1 = k
    · rw [List.filter_cons_of_neg (by simpa using hp), ih, get?]
      split_ifs with hkey hfirst
      · rfl
      · exact absurd (hfirst.symm.trans hp) hkey
      · rfl
    · rw [List.filter_cons_of_pos (by simpa using hp), get?, get?, ih]
      split_ifs with hfirst hkey
      · exact absurd (hfirst.trans hkey) hp
      · rfl
      · rfl
      · rfl

theorem filter_insert (p : α → Bool) (m : OrderedMap α β) (k : α) (v : β) :
    (m.insert k v).filter (fun e => p e.1) =
      if p k then insert (m.filter fun e => p e.1) k v else m.filter fun e => p e.1 := by
  induction m with
  | nil => cases h : p k <;> simp [insert, h]
  | cons e m ih =>
    by_cases hkey : e.1 = k
    · subst hkey
      cases h : p e.1 <;> simp [insert, h]
    · cases h : p e.1 <;> cases hk : p k <;> simp_all [insert]

/-- What is left of a map for a part of its keys is made from the settings of these. -/
theorem filter_ofList (p : α → Bool) (l : List (α × β)) :
    (ofList l).filter (fun e => p e.1) = ofList (l.filter fun e => p e.1) := by
  induction l using List.reverseRecOn with
  | nil => rfl
  | append_singleton l e ih =>
    rw [ofList_concat, filter_insert, ih, List.filter_append]
    cases h : p e.1 with
    | true => simp [h, ofList_concat]
    | false => simp [h]

/-- A map is made from its own entries. -/
theorem ofList_of_nodup {m : OrderedMap α β} (h : (keys m).Nodup) : ofList m = m := by
  induction m using List.reverseRecOn with
  | nil => rfl
  | append_singleton m e ih =>
    rw [keys, List.map_append] at h
    obtain ⟨hm, -, hne⟩ := List.nodup_append.mp h
    have hkey : e.1 ∉ keys m := fun hmem => hne _ hmem _ (List.mem_singleton_self _) rfl
    rw [ofList_concat, ih hm, insert_of_not_mem hkey]

/-- Settings behind a list are settings behind the entries of the map made from it. -/
theorem ofList_ofList_append (l l' : List (α × β)) : ofList (ofList l ++ l') = ofList (l ++ l') := by
  have happend : ∀ k : List (α × β),
      ofList (k ++ l') = l'.foldl (fun m e => m.insert e.1 e.2) (ofList k) := fun k =>
    List.foldl_append
  rw [happend, happend, ofList_of_nodup (nodup_keys_ofList l)]

end OrderedMap

end SqlAssist
