import SqlAssist.Proofs.Json.NumberText
import SqlAssist.Proofs.Json.StringText
import SqlAssist.Proofs.Text.LastEntry

/-!
# Reading what was written

Values are read back from their text (**`read_render`**), as long as no object has two members of
one name, the nesting stays within the reader's limit and the plain parts are such that the reader
takes (`Value.IsReadable`). The induction is over the value; what is said of arrays and objects is
said of their items and members from one on. Two steps of the reader for each character written are
enough. Where a number ends shows only behind it, so a value is always read with what follows.
-/

namespace SqlAssist.Json

namespace Value

/-- The reader takes the plain parts of the value, at most `height` arrays and objects are around
any part, and the members of each object have different names. -/
inductive IsReadable : (height : Nat) → Value → Prop
  /-- A plain value. -/
  | plain {height : Nat} {v : Value} (h : IsPlain v) : IsReadable height v
  /-- A string. -/
  | string {height : Nat} (s : Text) : IsReadable height (.string s)
  /-- An array of such values. -/
  | array {height : Nat} {items : List Value} (h : ∀ v ∈ items, IsReadable height v) :
      IsReadable (height + 1) (.array items)
  /-- An object with such members. -/
  | object {height : Nat} {members : List (Text × Value)} (hnames : (OrderedMap.keys members).Nodup)
      (h : ∀ m ∈ members, IsReadable height m.2) : IsReadable (height + 1) (.object members)

theorem IsReadable.array_map {α : Type} {height : Nat} {f : α → Value} (h : ∀ a, (f a).IsReadable height)
    (l : List α) : (Value.array (l.map f)).IsReadable (height + 1) := by
  refine .array fun v hv => ?_
  obtain ⟨a, -, rfl⟩ := List.mem_map.mp hv
  exact h a

end Value

open Value

variable {height depth level fuel : Nat} {v : Value} {r : Text}

/-! ### Blanks -/

theorem isBlank_of_mem_newLine : ∀ c ∈ newLine level, Place.isBlank c = true := by
  intro c hc
  rcases List.mem_cons.mp hc with rfl | hc
  · rfl
  · rw [List.eq_of_mem_replicate hc]
    rfl

theorem skipBlanks_append {w : Text} (hw : ∀ c ∈ w, Place.isBlank c = true)
    (hr : r.head?.any Place.isBlank = false) (offset : Nat) :
    Place.skipBlanks ⟨offset, w ++ r⟩ = ⟨offset + w.length, r⟩ := by
  rw [Place.skipBlanks, Text.takeWhile_append_stop hw hr, Place.advance]
  simp

theorem isBlank_of_mem_space : ∀ c ∈ [' '], Place.isBlank c = true := by
  intro c hc
  rw [List.mem_singleton.mp hc]
  rfl

theorem skipBlanks_of_head (hr : r.head?.any Place.isBlank = false) (offset : Nat) :
    Place.skipBlanks ⟨offset, r⟩ = ⟨offset, r⟩ :=
  skipBlanks_append (w := []) (fun _ hc => absurd hc List.not_mem_nil) hr offset

/-! ### How the text of a value starts -/

/-- A character that the text of a value can start with. -/
def startsValue (c : Char) : Bool :=
  c.isDigit || "\"[\x7b-ntfNI".toList.contains c

theorem ne_of_startsValue {c d : Char} (hc : startsValue c = true) (hd : startsValue d = false) :
    c ≠ d := by
  rintro rfl
  rw [hc] at hd
  cases hd

theorem isBlank_eq_false_of_startsValue {c : Char} (hc : startsValue c = true) :
    Place.isBlank c = false := by
  simp only [Place.isBlank, Bool.or_eq_false_iff, decide_eq_false_iff_not]
  exact ⟨⟨⟨ne_of_startsValue hc rfl, ne_of_startsValue hc rfl⟩, ne_of_startsValue hc rfl⟩,
    ne_of_startsValue hc rfl⟩

theorem exists_renderAt (hv : v.IsReadable height) (level : Nat) :
    ∃ c t, v.renderAt level = c :: t ∧ startsValue c = true := by
  cases hv with
  | plain h =>
    obtain ⟨c, t, ht, hc⟩ := h.exists_renderAt level
    refine ⟨c, t, ht, ?_⟩
    rw [startsValue, Bool.or_eq_true]
    refine hc.imp id fun hmem => ?_
    exact List.contains_iff_mem.mpr (List.mem_append_right "\"[\x7b".toList hmem)
  | string s => exact ⟨'"', _, rfl, rfl⟩
  | array h =>
    rename_i items
    cases items with
    | nil => exact ⟨'[', _, rfl, rfl⟩
    | cons v vs => exact ⟨'[', _, rfl, rfl⟩
  | object hnames h =>
    rename_i members
    cases members with
    | nil => exact ⟨'\x7b', _, rfl, rfl⟩
    | cons m ms => exact ⟨'\x7b', _, rfl, rfl⟩

theorem head?_renderAt (hv : v.IsReadable height) (level : Nat) (r : Text) :
    (v.renderAt level ++ r).head?.any Place.isBlank = false := by
  obtain ⟨c, t, ht, hc⟩ := exists_renderAt hv level
  rw [ht]
  exact isBlank_eq_false_of_startsValue hc

/-! ### Steps of the reader -/

section Steps

variable {offset last : Nat} {p q : Place} {s t w : Text} {vs : List Value}
  {found members : OrderedMap Text Value}

/-- What starts like no string, array or object is read as a plain value. -/
theorem readValue_plain {c : Char} (hstring : c ≠ '"') (harray : c ≠ '[') (hobject : c ≠ '\x7b') :
    readValue depth (fuel + 1) ⟨offset, c :: r⟩ = readPlain ⟨offset, c :: r⟩ := by
  rw [readValue]
  split
  next h => exact absurd (List.cons.inj h).1 hstring
  next h => exact absurd (List.cons.inj h).1 harray
  next h => exact absurd (List.cons.inj h).1 hobject
  · rfl

theorem readValue_string (h : readString offset [] (offset + 1) r = .ok (s, p)) :
    readValue depth (fuel + 1) ⟨offset, '"' :: r⟩ = .ok (.string s, p) := by
  rw [readValue]
  simp only [h]
  rfl

theorem readValue_emptyArray (hdepth : depth ≠ maxDepth) :
    readValue depth (fuel + 1) ⟨offset, '[' :: ']' :: r⟩ = .ok (.array [], ⟨offset + 2, r⟩) := by
  have hskip : (Place.advance ⟨offset, '[' :: ']' :: r⟩ 1).skipBlanks = ⟨offset + 1, ']' :: r⟩ :=
    skipBlanks_of_head rfl _
  rw [readValue]
  simp only [hskip, if_neg hdepth]
  rfl

theorem readValue_array (hdepth : depth ≠ maxDepth) (hw : ∀ c ∈ w, Place.isBlank c = true)
    (hr : r.head?.any Place.isBlank = false) (hend : r.head? ≠ some ']')
    (h : readItems (depth + 1) fuel ⟨offset + 1 + w.length, r⟩ = .ok (vs, p)) :
    readValue depth (fuel + 1) ⟨offset, '[' :: (w ++ r)⟩ = .ok (.array vs, p) := by
  have hskip : (Place.advance ⟨offset, '[' :: (w ++ r)⟩ 1).skipBlanks = ⟨offset + 1 + w.length, r⟩ :=
    skipBlanks_append hw hr _
  rw [readValue]
  simp only [hskip, if_neg hdepth, if_neg hend, h]
  rfl

theorem readValue_emptyObject (hdepth : depth ≠ maxDepth) :
    readValue depth (fuel + 1) ⟨offset, '\x7b' :: '\x7d' :: r⟩ = .ok (.object [], ⟨offset + 2, r⟩) := by
  have hskip : (Place.advance ⟨offset, '\x7b' :: '\x7d' :: r⟩ 1).skipBlanks =
      ⟨offset + 1, '\x7d' :: r⟩ :=
    skipBlanks_of_head rfl _
  rw [readValue]
  simp only [hskip, if_neg hdepth]
  rfl

theorem readValue_object (hdepth : depth ≠ maxDepth) (hw : ∀ c ∈ w, Place.isBlank c = true)
    (h : readMembers (depth + 1) fuel [] ⟨offset + 1 + w.length, '"' :: r⟩ = .ok (members, p)) :
    readValue depth (fuel + 1) ⟨offset, '\x7b' :: (w ++ '"' :: r)⟩ = .ok (.object members, p) := by
  have hskip : (Place.advance ⟨offset, '\x7b' :: (w ++ '"' :: r)⟩ 1).skipBlanks =
      ⟨offset + 1 + w.length, '"' :: r⟩ :=
    skipBlanks_append hw rfl _
  have hend : ('"' :: r).head? ≠ some '\x7d' := by simp
  rw [readValue]
  simp only [hskip, if_neg hdepth, if_neg hend, h]
  rfl

/-- Behind the last item stands the closing bracket. -/
theorem readItems_last (hw : ∀ c ∈ w, Place.isBlank c = true)
    (h : readValue depth fuel p = .ok (v, ⟨offset, w ++ ']' :: r⟩)) :
    readItems depth (fuel + 1) p = .ok ([v], ⟨offset + w.length + 1, r⟩) := by
  have hskip : Place.skipBlanks ⟨offset, w ++ ']' :: r⟩ = ⟨offset + w.length, ']' :: r⟩ :=
    skipBlanks_append hw rfl _
  rw [readItems, h]
  simp only [bind, Except.bind, hskip]
  rfl

/-- Behind any other item stand a comma and the items that follow. -/
theorem readItems_more (hw : ∀ c ∈ w, Place.isBlank c = true) (hr : r.head?.any Place.isBlank = false)
    (h : readValue depth fuel p = .ok (v, ⟨offset, ',' :: (w ++ r)⟩))
    (hrest : readItems depth fuel ⟨offset + 1 + w.length, r⟩ = .ok (vs, q)) :
    readItems depth (fuel + 1) p = .ok (v :: vs, q) := by
  have hskip : Place.skipBlanks ⟨offset, ',' :: (w ++ r)⟩ = ⟨offset, ',' :: (w ++ r)⟩ :=
    skipBlanks_of_head rfl _
  have hnext : (Place.advance ⟨offset, ',' :: (w ++ r)⟩ 1).skipBlanks = ⟨offset + 1 + w.length, r⟩ :=
    skipBlanks_append hw hr _
  rw [readItems, h]
  simp only [bind, Except.bind, hskip, hnext, hrest]
  rfl

/-- How the reader goes on behind the value of a member. -/
def afterMember (depth fuel : Nat) (found : OrderedMap Text Value) (p : Place) :
    Except ReadError (OrderedMap Text Value × Place) :=
  match p.rest with
  | '\x7d' :: _ => pure (found, p.advance 1)
  | ',' :: _ => readMembers depth fuel found (p.advance 1).skipBlanks
  | _ => p.fail .expectingComma

/-- A member is a name, a colon, a blank and a value. -/
theorem readMembers_member (found : OrderedMap Text Value) {name : Text} {start : Nat}
    (ht : t.head?.any Place.isBlank = false)
    (hname : readString start [] (start + 1) s = .ok (name, ⟨offset, ':' :: ' ' :: t⟩))
    (h : readValue depth fuel ⟨offset + 2, t⟩ = .ok (v, p)) :
    readMembers depth (fuel + 1) found ⟨start, '"' :: s⟩ =
      afterMember depth fuel (found.insert name v) p.skipBlanks := by
  have hcolon : Place.skipBlanks ⟨offset, ':' :: ' ' :: t⟩ = ⟨offset, ':' :: ' ' :: t⟩ :=
    skipBlanks_of_head rfl _
  have hvalue : (Place.advance ⟨offset, ':' :: ' ' :: t⟩ 1).skipBlanks = ⟨offset + 2, t⟩ :=
    skipBlanks_append isBlank_of_mem_space ht _
  rw [readMembers]
  simp only [hname, bind, Except.bind, hcolon, List.head?_cons, if_true, hvalue, h]
  rfl

/-- Behind the last member stands the closing brace. -/
theorem afterMember_close (found : OrderedMap Text Value) (hw : ∀ c ∈ w, Place.isBlank c = true) :
    afterMember depth fuel found (Place.skipBlanks ⟨last, w ++ '\x7d' :: r⟩) =
      .ok (found, ⟨last + w.length + 1, r⟩) := by
  have hskip : Place.skipBlanks ⟨last, w ++ '\x7d' :: r⟩ = ⟨last + w.length, '\x7d' :: r⟩ :=
    skipBlanks_append hw rfl _
  rw [hskip]
  rfl

/-- Behind any other member stand a comma and the members that follow. -/
theorem afterMember_comma (found : OrderedMap Text Value) (hw : ∀ c ∈ w, Place.isBlank c = true)
    (hr : r.head?.any Place.isBlank = false) :
    afterMember depth fuel found (Place.skipBlanks ⟨last, ',' :: (w ++ r)⟩) =
      readMembers depth fuel found ⟨last + 1 + w.length, r⟩ := by
  have hskip : Place.skipBlanks ⟨last, ',' :: (w ++ r)⟩ = ⟨last, ',' :: (w ++ r)⟩ :=
    skipBlanks_of_head rfl _
  have hnext : (Place.advance ⟨last, ',' :: (w ++ r)⟩ 1).skipBlanks = ⟨last + 1 + w.length, r⟩ :=
    skipBlanks_append hw hr _
  rw [hskip, ← hnext]
  rfl

end Steps

/-! ### Values -/

/-- The value is read back from its text, wherever it stands, if what follows does not go on with
a number. -/
def ReadsBack (depth : Nat) (v : Value) : Prop :=
  ∀ level fuel offset r, r.head?.any continuesNumber = false → 2 * (v.renderAt level).length ≤ fuel →
    ∃ next, readValue depth fuel ⟨offset, v.renderAt level ++ r⟩ = .ok (v, ⟨next, r⟩)

theorem readsBack_plain (hv : IsPlain v) (depth : Nat) : ReadsBack depth v := by
  intro level fuel offset r hr hfuel
  obtain ⟨c, t, ht, hc⟩ := hv.exists_renderAt level
  obtain ⟨fuel, rfl⟩ : ∃ n, fuel = n + 1 := ⟨fuel - 1, by
    rw [ht, List.length_cons] at hfuel
    omega⟩
  have hne : ∀ d : Char, d.isDigit = false → d ∉ "-ntfNI".toList → c ≠ d := by
    rintro d hdigit hmem rfl
    exact hc.elim (fun h => by rw [hdigit] at h; cases h) hmem
  have hread : readPlain ⟨offset, v.renderAt level ++ r⟩ = .ok (v, _) :=
    hv.readPlain_renderAt level hr
  refine ⟨_, Eq.trans ?_ hread⟩
  rw [ht]
  exact readValue_plain (hne _ rfl (by decide)) (hne _ rfl (by decide)) (hne _ rfl (by decide))

theorem readsBack_string (depth : Nat) (s : Text) : ReadsBack depth (.string s) := by
  intro level fuel offset r _ hfuel
  obtain ⟨fuel, rfl⟩ : ∃ n, fuel = n + 1 := by
    refine ⟨fuel - 1, ?_⟩
    simp only [renderAt, Json.string, List.length_append, List.length_cons] at hfuel
    omega
  obtain ⟨next, hs⟩ := readString_string offset (offset + 1) s r
  have htext : (Value.string s).renderAt level ++ r = '"' :: (s.flatMap stringChar ++ '"' :: r) := by
    simp [renderAt, Json.string]
  exact ⟨next, by rw [htext]; exact readValue_string hs⟩

/-- The items of an array are read back up to its end. -/
theorem readItems_render {vs : List Value} (hv : ∀ w ∈ v :: vs, w.IsReadable height)
    (h : ∀ w ∈ v :: vs, ReadsBack depth w) (level outer offset fuel : Nat) (r : Text)
    (hfuel : 2 * (v.renderAt level ++ renderItems level vs).length < fuel) :
    ∃ next, readItems depth fuel
        ⟨offset, v.renderAt level ++ (renderItems level vs ++ (newLine outer ++ ']' :: r))⟩ =
      .ok (v :: vs, ⟨next, r⟩) := by
  induction vs generalizing v offset fuel with
  | nil =>
    obtain ⟨fuel, rfl⟩ : ∃ n, fuel = n + 1 := ⟨fuel - 1, by omega⟩
    rw [renderItems, List.append_nil] at hfuel
    obtain ⟨next, hnext⟩ := h v List.mem_cons_self level fuel offset
      (renderItems level [] ++ (newLine outer ++ ']' :: r)) rfl (Nat.le_of_lt_succ hfuel)
    exact ⟨_, readItems_last isBlank_of_mem_newLine hnext⟩
  | cons w vs ih =>
    obtain ⟨fuel, rfl⟩ : ∃ n, fuel = n + 1 := ⟨fuel - 1, by omega⟩
    obtain ⟨-, hv⟩ := List.forall_mem_cons.mp hv
    obtain ⟨hfirst, h⟩ := List.forall_mem_cons.mp h
    have htext : renderItems level (w :: vs) ++ (newLine outer ++ ']' :: r) =
        ',' :: (newLine level ++ (w.renderAt level ++ (renderItems level vs ++
          (newLine outer ++ ']' :: r)))) := by
      simp [renderItems]
    have hlength : (renderItems level (w :: vs)).length =
        1 + (newLine level).length + (w.renderAt level ++ renderItems level vs).length := by
      simp [renderItems]
      omega
    rw [List.length_append, hlength] at hfuel
    obtain ⟨next, hnext⟩ := hfirst level fuel offset (renderItems level (w :: vs) ++
      (newLine outer ++ ']' :: r)) rfl (by omega)
    rw [htext] at hnext ⊢
    obtain ⟨last, hlast⟩ := ih hv h (next + 1 + (newLine level).length) fuel (by omega)
    exact ⟨last, readItems_more isBlank_of_mem_newLine
      (head?_renderAt (hv w List.mem_cons_self) level _) hnext hlast⟩

/-- The text of a member starts with the quote of its name. -/
theorem renderMember_append (level : Nat) (m : Text × Value) (r : Text) :
    renderMember level m ++ r =
      '"' :: (m.1.flatMap stringChar ++ '"' :: ':' :: ' ' :: (m.2.renderAt level ++ r)) := by
  obtain ⟨name, v⟩ := m
  simp [renderMember, Json.string]

theorem length_renderMember (level : Nat) (m : Text × Value) :
    (m.2.renderAt level).length + 4 ≤ (renderMember level m).length := by
  have h := congrArg List.length (renderMember_append level m [])
  simp only [List.append_nil, List.length_append, List.length_cons] at h
  omega

theorem not_mem_keys_of_nodup {found ms : List (Text × Value)} {m : Text × Value}
    (h : (OrderedMap.keys (found ++ m :: ms)).Nodup) : m.1 ∉ OrderedMap.keys found := by
  intro hm
  rw [OrderedMap.keys, List.map_append, List.nodup_append] at h
  exact h.2.2 _ hm _ List.mem_cons_self rfl

/-- A member is read back, and the reader goes on behind its value. -/
theorem exists_readMembers_renderMember (found : OrderedMap Text Value) {m : Text × Value}
    (hm : m.2.IsReadable height) (h : ReadsBack depth m.2) (level offset fuel : Nat)
    (hr : r.head?.any continuesNumber = false) (hfuel : 2 * (renderMember level m).length ≤ fuel) :
    ∃ next, readMembers depth (fuel + 1) found ⟨offset, renderMember level m ++ r⟩ =
      afterMember depth fuel (found.insert m.1 m.2) (Place.skipBlanks ⟨next, r⟩) := by
  have hlength := length_renderMember level m
  obtain ⟨colon, hname⟩ := readString_string offset (offset + 1) m.1
    (':' :: ' ' :: (m.2.renderAt level ++ r))
  obtain ⟨next, hnext⟩ := h level fuel (colon + 2) r hr (by omega)
  rw [renderMember_append]
  exact ⟨next, readMembers_member found (head?_renderAt hm level r) hname hnext⟩

/-- The members of an object are read back up to its end, behind those found before. -/
theorem readMembers_render (found : List (Text × Value)) {m : Text × Value} {ms : List (Text × Value)}
    (hm : ∀ n ∈ m :: ms, n.2.IsReadable height) (h : ∀ n ∈ m :: ms, ReadsBack depth n.2)
    (hnames : (OrderedMap.keys (found ++ m :: ms)).Nodup) (level outer offset fuel : Nat) (r : Text)
    (hfuel : 2 * (renderMember level m ++ renderMembers level ms).length < fuel) :
    ∃ next, readMembers depth fuel found
        ⟨offset, renderMember level m ++ (renderMembers level ms ++ (newLine outer ++ '\x7d' :: r))⟩ =
      .ok (found ++ m :: ms, ⟨next, r⟩) := by
  induction ms generalizing found m offset fuel with
  | nil =>
    obtain ⟨fuel, rfl⟩ : ∃ n, fuel = n + 1 := ⟨fuel - 1, by omega⟩
    rw [renderMembers, List.append_nil] at hfuel
    obtain ⟨next, hnext⟩ := exists_readMembers_renderMember (r := newLine outer ++ '\x7d' :: r) found
      (hm m List.mem_cons_self) (h m List.mem_cons_self) level offset fuel rfl (by omega)
    rw [OrderedMap.insert_of_not_mem (not_mem_keys_of_nodup hnames),
      afterMember_close _ isBlank_of_mem_newLine] at hnext
    exact ⟨_, hnext⟩
  | cons n ms ih =>
    obtain ⟨fuel, rfl⟩ : ∃ n, fuel = n + 1 := ⟨fuel - 1, by omega⟩
    obtain ⟨hfirst, hm⟩ := List.forall_mem_cons.mp hm
    obtain ⟨hread, h⟩ := List.forall_mem_cons.mp h
    have htext : renderMembers level (n :: ms) ++ (newLine outer ++ '\x7d' :: r) =
        ',' :: (newLine level ++ (renderMember level n ++ (renderMembers level ms ++
          (newLine outer ++ '\x7d' :: r)))) := by
      simp [renderMembers]
    have hlength : (renderMembers level (n :: ms)).length =
        1 + (newLine level).length + (renderMember level n ++ renderMembers level ms).length := by
      simp [renderMembers]
      omega
    have hquote : (renderMember level n ++ (renderMembers level ms ++
        (newLine outer ++ '\x7d' :: r))).head?.any Place.isBlank = false := by
      rw [renderMember_append]
      rfl
    rw [List.length_append, hlength] at hfuel
    obtain ⟨next, hnext⟩ := exists_readMembers_renderMember found hfirst hread level offset fuel
      (r := renderMembers level (n :: ms) ++ (newLine outer ++ '\x7d' :: r)) rfl (by omega)
    rw [OrderedMap.insert_of_not_mem (not_mem_keys_of_nodup hnames), htext,
      afterMember_comma _ isBlank_of_mem_newLine hquote] at hnext
    rw [List.append_cons] at hnames
    obtain ⟨last, hlast⟩ := ih (found ++ [m]) hm h hnames (next + 1 + (newLine level).length)
      fuel (by omega)
    rw [List.append_assoc, List.singleton_append] at hlast
    rw [htext]
    exact ⟨last, hnext.trans hlast⟩

theorem readsBack_array {items : List Value} (hdepth : depth ≠ maxDepth)
    (hitems : ∀ v ∈ items, v.IsReadable height) (h : ∀ v ∈ items, ReadsBack (depth + 1) v) :
    ReadsBack depth (.array items) := by
  intro level fuel offset r hr hfuel
  cases items with
  | nil =>
    obtain ⟨fuel, rfl⟩ : ∃ n, fuel = n + 1 := ⟨fuel - 1, by simp [renderAt] at hfuel; omega⟩
    exact ⟨_, readValue_emptyArray hdepth⟩
  | cons v vs =>
    have htext : (Value.array (v :: vs)).renderAt level ++ r =
        '[' :: (newLine (level + 1) ++ (v.renderAt (level + 1) ++ (renderItems (level + 1) vs ++
          (newLine level ++ ']' :: r)))) := by
      simp [renderAt]
    have hlength : ((Value.array (v :: vs)).renderAt level).length =
        2 + (newLine (level + 1)).length + (newLine level).length +
          (v.renderAt (level + 1) ++ renderItems (level + 1) vs).length := by
      simp [renderAt]
      omega
    obtain ⟨fuel, rfl⟩ : ∃ n, fuel = n + 1 := ⟨fuel - 1, by omega⟩
    obtain ⟨next, hnext⟩ := readItems_render hitems h (level + 1) level
      (offset + 1 + (newLine (level + 1)).length) fuel r (by omega)
    obtain ⟨c, t, ht, hc⟩ := exists_renderAt (hitems v List.mem_cons_self) (level + 1)
    refine ⟨next, ?_⟩
    rw [htext]
    refine readValue_array hdepth isBlank_of_mem_newLine
      (head?_renderAt (hitems v List.mem_cons_self) _ _) ?_ hnext
    rw [ht]
    exact fun hend => ne_of_startsValue hc rfl (Option.some.inj hend)

theorem readsBack_object {members : List (Text × Value)} (hdepth : depth ≠ maxDepth)
    (hnames : (OrderedMap.keys members).Nodup) (hmembers : ∀ m ∈ members, m.2.IsReadable height)
    (h : ∀ m ∈ members, ReadsBack (depth + 1) m.2) : ReadsBack depth (.object members) := by
  intro level fuel offset r hr hfuel
  cases members with
  | nil =>
    obtain ⟨fuel, rfl⟩ : ∃ n, fuel = n + 1 := ⟨fuel - 1, by simp [renderAt] at hfuel; omega⟩
    exact ⟨_, readValue_emptyObject hdepth⟩
  | cons m ms =>
    have htext : (Value.object (m :: ms)).renderAt level ++ r =
        '\x7b' :: (newLine (level + 1) ++ (renderMember (level + 1) m ++
          (renderMembers (level + 1) ms ++ (newLine level ++ '\x7d' :: r)))) := by
      simp [renderAt]
    have hlength : ((Value.object (m :: ms)).renderAt level).length =
        2 + (newLine (level + 1)).length + (newLine level).length +
          (renderMember (level + 1) m ++ renderMembers (level + 1) ms).length := by
      simp [renderAt]
      omega
    obtain ⟨fuel, rfl⟩ : ∃ n, fuel = n + 1 := ⟨fuel - 1, by omega⟩
    obtain ⟨next, hnext⟩ := readMembers_render [] hmembers h hnames (level + 1) level
      (offset + 1 + (newLine (level + 1)).length) fuel r (by omega)
    refine ⟨next, ?_⟩
    rw [renderMember_append] at hnext
    rw [htext, renderMember_append]
    exact readValue_object hdepth isBlank_of_mem_newLine hnext

theorem readsBack_of_isReadable (hv : v.IsReadable height) {depth : Nat}
    (hdepth : depth + height ≤ maxDepth) : ReadsBack depth v := by
  induction hv generalizing depth with
  | plain h => exact readsBack_plain h depth
  | string s => exact readsBack_string depth s
  | array hitems ih =>
    exact readsBack_array (by omega) hitems fun v hv => ih v hv (by omega)
  | object hnames hmembers ih =>
    exact readsBack_object (by omega) hnames hmembers fun m hm => ih m hm (by omega)

/-- **A document is read as the value that it was written from.** -/
theorem read_render (hv : v.IsReadable height) (hheight : height ≤ maxDepth) : read v.render = .ok v := by
  obtain ⟨c, t, ht, hc⟩ := exists_renderAt hv 0
  have hhead : v.render.head? ≠ some '\ufeff' := by
    rw [Value.render, ht]
    exact fun h => ne_of_startsValue hc (by decide) (Option.some.inj h)
  have hskip : Place.skipBlanks ⟨0, v.render⟩ = ⟨0, v.render⟩ := by
    refine skipBlanks_of_head ?_ 0
    have := head?_renderAt hv 0 []
    rwa [List.append_nil] at this
  obtain ⟨next, hnext⟩ := (readsBack_of_isReadable hv (Nat.le_trans (Nat.zero_add height).le hheight)) 0
    (2 * v.render.length + 2) 0 [] rfl (by rw [Value.render]; omega)
  rw [List.append_nil] at hnext
  rw [read, if_neg hhead, hskip]
  simp only [bind, Except.bind, Value.render] at hnext ⊢
  rw [hnext]
  rfl

end SqlAssist.Json
