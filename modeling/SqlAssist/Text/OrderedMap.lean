/-!
# Maps in order of insertion

A list of keys with their values. A key that is set again keeps its place and takes the new value:
`get?_insert_self` and `get?_insert_of_ne` say what is found afterwards, `keys_insert` where.
-/

namespace SqlAssist

/-- Keys with their values, in order of insertion. -/
abbrev OrderedMap (α β : Type) := List (α × β)

namespace OrderedMap

variable {α β : Type} [DecidableEq α]

/-- The value of a key. -/
def get? : OrderedMap α β → α → Option β
  | [], _ => none
  | (k, v) :: m, key => if k = key then some v else get? m key

/-- The map with the value of a key set. -/
def insert : OrderedMap α β → α → β → OrderedMap α β
  | [], key, value => [(key, value)]
  | (k, v) :: m, key, value => if k = key then (key, value) :: m else (k, v) :: insert m key value

/-- The map of a list of settings, made from left to right. -/
def ofList (l : List (α × β)) : OrderedMap α β :=
  l.foldl (fun m p => m.insert p.1 p.2) []

/-- The keys, in order. -/
def keys (m : OrderedMap α β) : List α :=
  m.map (·.1)

theorem get?_insert_self (m : OrderedMap α β) (k : α) (v : β) : (m.insert k v).get? k = some v := by
  fun_induction insert m k v <;> simp_all [get?]

theorem get?_insert_of_ne (m : OrderedMap α β) {k key : α} (v : β) (h : k ≠ key) :
    (m.insert k v).get? key = m.get? key := by
  fun_induction insert m k v <;> simp_all [get?]

theorem keys_insert (m : OrderedMap α β) (k : α) (v : β) :
    keys (m.insert k v) = if k ∈ keys m then keys m else keys m ++ [k] := by
  induction m with
  | nil => simp [insert, keys]
  | cons p m ih =>
    by_cases h : p.1 = k
    · simp [insert, keys, h]
    · have h' : ¬ k = p.1 := fun e => h e.symm
      simp only [keys] at ih
      simp only [insert, h, if_false, keys, List.map_cons, List.mem_cons, h', false_or, ih]
      by_cases hm : k ∈ m.map (·.1) <;> simp [hm]

end OrderedMap

end SqlAssist
