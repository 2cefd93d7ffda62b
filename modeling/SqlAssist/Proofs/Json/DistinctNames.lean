import SqlAssist.Json.Reader
import SqlAssist.Proofs.Text.LastEntry

/-!
# Names of members

The members of an object have different names. The type of values does not say so, but every value
that is read is like that, as a name that comes again takes its earlier place
(**`hasDistinctNames_of_read`**): the members found so far have different names at each step, and
their values are of the kind.
-/

namespace SqlAssist

namespace Json

namespace Value

/-- No object in the value has two members of one name. -/
inductive HasDistinctNames : Value → Prop
  /-- A value without parts. -/
  | plain {v : Value} (hitems : v.items? = none) (hmembers : v.members? = none) : HasDistinctNames v
  /-- An array of such values. -/
  | array {items : List Value} (h : ∀ v ∈ items, HasDistinctNames v) : HasDistinctNames (.array items)
  /-- An object with such members. -/
  | object {members : OrderedMap Text Value} (hnames : (OrderedMap.keys members).Nodup)
      (h : ∀ m ∈ members, HasDistinctNames m.2) : HasDistinctNames (.object members)

/-! What the predicate says of each kind of value. -/

section Kinds

variable {items : List Value} {members : OrderedMap Text Value}

@[simp] theorem hasDistinctNames_null : null.HasDistinctNames := .plain rfl rfl

@[simp] theorem hasDistinctNames_bool (b : Bool) : (bool b).HasDistinctNames := .plain rfl rfl

@[simp] theorem hasDistinctNames_integer (n : Int) : (integer n).HasDistinctNames := .plain rfl rfl

@[simp] theorem hasDistinctNames_real (x : Binary64) : (real x).HasDistinctNames := .plain rfl rfl

@[simp] theorem hasDistinctNames_string (s : Text) : (string s).HasDistinctNames := .plain rfl rfl

@[simp] theorem hasDistinctNames_array :
    (Value.array items).HasDistinctNames ↔ ∀ v ∈ items, v.HasDistinctNames := by
  refine ⟨fun h => ?_, .array⟩
  cases h with
  | plain hitems _ => cases hitems
  | array h => exact h

@[simp] theorem hasDistinctNames_object : (Value.object members).HasDistinctNames ↔
    (OrderedMap.keys members).Nodup ∧ ∀ m ∈ members, m.2.HasDistinctNames := by
  refine ⟨fun h => ?_, fun h => .object h.1 h.2⟩
  cases h with
  | plain _ hmembers => cases hmembers
  | object hnames h => exact ⟨hnames, h⟩

end Kinds

end Value

open Value

/-- The members have different names, and their values are of the kind. -/
def AreDistinct (members : OrderedMap Text Value) : Prop :=
  (OrderedMap.keys members).Nodup ∧ ∀ m ∈ members, m.2.HasDistinctNames

theorem areDistinct_nil : AreDistinct [] :=
  ⟨List.nodup_nil, fun _ hm => absurd hm List.not_mem_nil⟩

theorem AreDistinct.insert {found : OrderedMap Text Value} (h : AreDistinct found) (name : Text)
    {v : Value} (hv : v.HasDistinctNames) : AreDistinct (OrderedMap.insert found name v) :=
  ⟨OrderedMap.nodup_keys_insert h.1 name v, OrderedMap.forall_mem_insert h.2 name hv⟩

theorem exists_of_bind_eq_ok {ε α β : Type} {x : Except ε α} {f : α → Except ε β} {b : β}
    (h : x >>= f = .ok b) : ∃ a, x = .ok a ∧ f a = .ok b := by
  cases x with
  | error e => cases h
  | ok a => exact ⟨a, rfl, h⟩

variable {t : Text} {v : Value}

theorem hasDistinctNames_of_wholeNumber {negative : Bool} {digits : Text}
    (h : wholeNumber negative digits = .ok v) : v.HasDistinctNames := by
  rw [wholeNumber] at h
  split at h
  · cases h
  · obtain rfl := Except.ok.inj h
    exact .plain rfl rfl

theorem hasDistinctNames_of_readNumber? {n : Nat} (h : readNumber? t = some (.ok v, n)) :
    v.HasDistinctNames := by
  unfold readNumber? at h
  extract_lets negative body whole r fraction behind length at h
  split at h
  · cases h
  · split at h
    · obtain rfl := Except.ok.inj (Prod.ext_iff.mp (Option.some.inj h)).1
      exact .plain rfl rfl
    · split at h
      · exact hasDistinctNames_of_wholeNumber (Prod.ext_iff.mp (Option.some.inj h)).1
      · obtain rfl := Except.ok.inj (Prod.ext_iff.mp (Option.some.inj h)).1
        exact .plain rfl rfl

theorem hasDistinctNames_of_readPlain {p q : Place} (h : readPlain p = .ok (v, q)) :
    v.HasDistinctNames := by
  rw [readPlain] at h
  split at h
  next name w hl =>
    obtain ⟨rfl, -⟩ := h
    have hmem := List.mem_of_find?_eq_some hl
    have hplain : ∀ l ∈ literals, l.2.items? = none ∧ l.2.members? = none := by
      simp [literals, items?, members?]
    exact .plain (hplain _ hmem).1 (hplain _ hmem).2
  next =>
    split at h
    next w n hn =>
      obtain ⟨rfl, -⟩ := h
      exact hasDistinctNames_of_readNumber? hn
    next => cases h
    next => cases h

mutual

theorem hasDistinctNames_of_readValue : {depth : Nat} → (fuel : Nat) → {p q : Place} → {v : Value} →
    readValue depth fuel p = .ok (v, q) → v.HasDistinctNames
  | _, 0, _, _, _, h => by cases h
  | depth, fuel + 1, p, q, v, h => by
    rw [readValue] at h
    split at h
    · obtain ⟨⟨s, p⟩, -, h⟩ := exists_of_bind_eq_ok h
      obtain ⟨rfl, -⟩ := h
      exact .plain rfl rfl
    · dsimp only at h
      split_ifs at h
      · cases h
      · obtain ⟨rfl, -⟩ := h
        exact .array (by simp)
      · obtain ⟨⟨vs, p⟩, hitems, h⟩ := exists_of_bind_eq_ok h
        obtain ⟨rfl, -⟩ := h
        exact .array (hasDistinctNames_of_readItems fuel hitems)
    · dsimp only at h
      split_ifs at h
      · cases h
      · obtain ⟨rfl, -⟩ := h
        exact .object areDistinct_nil.1 areDistinct_nil.2
      · obtain ⟨⟨ms, p⟩, hmembers, h⟩ := exists_of_bind_eq_ok h
        obtain ⟨rfl, -⟩ := h
        have := areDistinct_of_readMembers fuel areDistinct_nil hmembers
        exact .object this.1 this.2
    · exact hasDistinctNames_of_readPlain h

theorem hasDistinctNames_of_readItems : {depth : Nat} → (fuel : Nat) → {p q : Place} →
    {vs : List Value} → readItems depth fuel p = .ok (vs, q) → ∀ v ∈ vs, v.HasDistinctNames
  | _, 0, _, _, _, h => by cases h
  | depth, fuel + 1, p, q, vs, h => by
    rw [readItems] at h
    obtain ⟨⟨v, p⟩, hvalue, h⟩ := exists_of_bind_eq_ok h
    have hv := hasDistinctNames_of_readValue fuel hvalue
    dsimp only at h
    split at h
    · obtain ⟨rfl, -⟩ := h
      exact List.forall_mem_singleton.mpr hv
    · obtain ⟨⟨ws, p⟩, hitems, h⟩ := exists_of_bind_eq_ok h
      obtain ⟨rfl, -⟩ := h
      exact List.forall_mem_cons.mpr ⟨hv, hasDistinctNames_of_readItems fuel hitems⟩
    · cases h

theorem areDistinct_of_readMembers : {depth : Nat} → (fuel : Nat) → {p q : Place} →
    {found members : OrderedMap Text Value} → AreDistinct found →
    readMembers depth fuel found p = .ok (members, q) → AreDistinct members
  | _, 0, _, _, _, _, _, h => by cases h
  | depth, fuel + 1, p, q, found, members, hfound, h => by
    rw [readMembers] at h
    split at h
    · obtain ⟨⟨name, p⟩, -, h⟩ := exists_of_bind_eq_ok h
      dsimp only at h
      split_ifs at h
      · obtain ⟨⟨v, p⟩, hvalue, h⟩ := exists_of_bind_eq_ok h
        have hfound := hfound.insert name (hasDistinctNames_of_readValue fuel hvalue)
        dsimp only at h
        split at h
        · obtain ⟨rfl, -⟩ := h
          exact hfound
        · exact areDistinct_of_readMembers fuel hfound h
        · cases h
      · cases h
    · cases h

end

/-- **No object that is read has two members of one name.** -/
theorem hasDistinctNames_of_read (h : read t = .ok v) : v.HasDistinctNames := by
  rw [read] at h
  split_ifs at h
  obtain ⟨⟨w, p⟩, hvalue, h⟩ := exists_of_bind_eq_ok h
  dsimp only at h
  split_ifs at h
  · obtain rfl := Except.ok.inj h
    exact hasDistinctNames_of_readValue _ hvalue
  · cases h

end Json

end SqlAssist
