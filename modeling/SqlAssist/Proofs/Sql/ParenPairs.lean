import SqlAssist.Proofs.Sql.ClosedGroup
import SqlAssist.Proofs.Sql.LevelExtension

/-!
# Pairs of parentheses

A text is read from left to right with a stack (`Pairing`): a parenthesis that opens
is put on it, one that closes is the partner of the one put there last, and one that
finds the stack empty has no partner. What is left on the stack stays open.

Three scans of the library see parentheses in other ways. The backward scan for the
levels around the end of a text stops as soon as it has them all; the scan for the
start of the innermost level follows the depth alone; and the mask looks ahead from
each parenthesis that opens for the one that closes it. **`enclosing_unmatched`** says
that they all find the parentheses that the stack is left with.

A text is taken apart by `groupInduction`, a closed group or one other character at
a time, and the stack is left by a closed group as it was. A text that closes nothing
from before it works on its own part of the stack (`foldl_step_under`), so that what
it finds is what it finds by itself.
-/

namespace SqlAssist

namespace Paren

/-! ### Groups -/

/-- Where a group is closed stand what it holds and the parenthesis that closes it. -/
theorem closes_eq_true_iff {k : Nat} {t : Text} :
    closes k t = true ↔ ∃ x r, t = x ++ ')' :: r ∧ Closing k x := by
  constructor
  · intro h
    induction t generalizing k with
    | nil => cases h
    | cons c t ih =>
      rw [closes] at h
      split_ifs at h with ho hc hk
      · obtain ⟨x, r, rfl, hx⟩ := ih h
        exact ⟨'(' :: x, r, by rw [ho]; rfl, (closing_open_iff k x).mpr hx⟩
      · exact ⟨[], t, by rw [hc]; rfl, (closing_nil_iff k).mpr hk⟩
      · obtain ⟨x, r, rfl, hx⟩ := ih h
        exact ⟨')' :: x, r, by rw [hc]; rfl, (closing_close_iff k x).mpr ⟨k - 1, by omega, hx⟩⟩
      · obtain ⟨x, r, rfl, hx⟩ := ih h
        exact ⟨c :: x, r, rfl, (closing_other_iff ho hc k x).mpr hx⟩
  · rintro ⟨x, r, rfl, hx⟩
    have := closes_closing_append hx 0 (')' :: r)
    rw [Nat.zero_add] at this
    rw [this]
    rfl

/-- Induction over a text by its closed groups and what stands outside of them. -/
@[elab_as_elim]
theorem groupInduction {P : Text → Prop} (nil : P [])
    (single : ∀ c r, (c = '(' → closes 0 r = false) → P r → P (c :: r))
    (group : ∀ x r, Balanced x → P r → P ('(' :: (x ++ ')' :: r))) (t : Text) : P t := by
  induction hn : t.length using Nat.strongRecOn generalizing t with
  | ind n ih =>
    subst hn
    cases t with
    | nil => exact nil
    | cons c r =>
      by_cases hg : c = '(' ∧ closes 0 r = true
      · obtain ⟨rfl, hr⟩ := hg
        obtain ⟨x, r, rfl, hx⟩ := closes_eq_true_iff.mp hr
        refine group x r hx (ih _ ?_ r rfl)
        simp only [List.length_cons, List.length_append]
        omega
      · exact single c r (fun hc => Bool.eq_false_iff.mpr fun hr => hg ⟨hc, hr⟩)
          (ih _ (Nat.lt_succ_self _) r rfl)

theorem maskGroups_single {c : Char} {r : Text} (h : c = '(' → closes 0 r = false) :
    maskGroups (c :: r) = c :: maskGroups r := by
  rw [maskGroups, maskFrom, if_neg (by simpa using h), maskGroups]

theorem maskGroups_group {x : Text} (h : Balanced x) (r : Text) :
    maskGroups ('(' :: (x ++ ')' :: r)) = '(' :: (Text.blank x ++ ')' :: maskGroups r) :=
  maskFrom_group h r

/-! ### The stack -/

/-- A text as read with a stack. -/
structure Pairing where
  /-- The number of characters read. -/
  offset : Nat
  /-- The offsets of the parentheses that are open, the innermost first. -/
  opens : List Nat
  /-- The offsets of the parentheses that are closed, each with that of its partner. -/
  pairs : List (Nat × Nat)
  deriving DecidableEq, Repr

namespace Pairing

/-- One more character is read. -/
def step (m : Pairing) (c : Char) : Pairing :=
  if c = '(' then ⟨m.offset + 1, m.offset :: m.opens, m.pairs⟩
  else if c = ')' then
    match m.opens with
    | [] => ⟨m.offset + 1, [], m.pairs⟩
    | i :: is => ⟨m.offset + 1, is, (i, m.offset) :: m.pairs⟩
  else ⟨m.offset + 1, m.opens, m.pairs⟩

/-- The text is read, its first character standing at `start`. -/
def read (start : Nat) (t : Text) : Pairing :=
  t.foldl step ⟨start, [], []⟩

/-- A text is read from its first character on. -/
def ofText (t : Text) : Pairing :=
  read 0 t

/-- The place stands strictly between two partners. -/
def Within (m : Pairing) (i : Nat) : Prop :=
  ∃ p ∈ m.pairs, p.1 < i ∧ i < p.2

instance (m : Pairing) (i : Nat) : Decidable (m.Within i) :=
  inferInstanceAs (Decidable (∃ p ∈ m.pairs, p.1 < i ∧ i < p.2))

/-- The stack and the pairs, found on top of others. -/
def under (m : Pairing) (is : List Nat) (ps : List (Nat × Nat)) : Pairing :=
  ⟨m.offset, m.opens ++ is, m.pairs ++ ps⟩

variable {m : Pairing} {a : Nat} {t x r : Text}

@[simp] theorem step_open (m : Pairing) :
    m.step '(' = ⟨m.offset + 1, m.offset :: m.opens, m.pairs⟩ := rfl

@[simp] theorem step_close_nil (a : Nat) (ps : List (Nat × Nat)) :
    step ⟨a, [], ps⟩ ')' = ⟨a + 1, [], ps⟩ := rfl

@[simp] theorem step_close_cons (a i : Nat) (is : List Nat) (ps : List (Nat × Nat)) :
    step ⟨a, i :: is, ps⟩ ')' = ⟨a + 1, is, (i, a) :: ps⟩ := rfl

theorem step_other {c : Char} (ho : c ≠ '(') (hc : c ≠ ')') (m : Pairing) :
    m.step c = ⟨m.offset + 1, m.opens, m.pairs⟩ := by
  rw [step, if_neg ho, if_neg hc]

theorem offset_step (m : Pairing) (c : Char) : (m.step c).offset = m.offset + 1 := by
  obtain ⟨a, _ | ⟨i, is⟩, ps⟩ := m <;> simp only [step] <;> split_ifs <;> rfl

theorem offset_foldl (t : Text) (m : Pairing) : (t.foldl step m).offset = m.offset + t.length := by
  induction t generalizing m with
  | nil => rfl
  | cons c t ih => rw [List.foldl_cons, ih, offset_step, List.length_cons, Nat.add_right_comm, Nat.add_assoc]

theorem length_opens_step (m : Pairing) (c : Char) :
    (m.step c).opens.length = depthStep m.opens.length c := by
  obtain ⟨a, _ | ⟨i, is⟩, ps⟩ := m <;> simp only [step, depthStep] <;> split_ifs <;> simp

theorem length_opens_foldl (t : Text) (m : Pairing) :
    (t.foldl step m).opens.length = t.foldl depthStep m.opens.length := by
  induction t generalizing m with
  | nil => rfl
  | cons c t ih => rw [List.foldl_cons, ih, length_opens_step, List.foldl_cons]

/-- A text that closes at most the parentheses at hand, or finds none below them, leaves what is
below alone. -/
theorem foldl_step_under (t : Text) (m : Pairing) (is : List Nat) (ps : List (Nat × Nat))
    (h : ClosesAtMost m.opens.length t ∨ is = []) :
    t.foldl step (m.under is ps) = (t.foldl step m).under is ps := by
  induction t generalizing m with
  | nil => rfl
  | cons c t ih =>
    rw [List.foldl_cons, List.foldl_cons]
    by_cases ho : c = '('
    · subst ho
      exact ih (m.step '(') (h.imp_left (closesAtMost_open_iff _ t).mp)
    by_cases hc : c = ')'
    · subst hc
      obtain ⟨a, _ | ⟨i, js⟩, qs⟩ := m
      · have his : is = [] := h.resolve_left fun h => by
          obtain ⟨j, hj, -⟩ := (closesAtMost_close_iff _ t).mp h
          cases hj
        subst his
        exact ih ⟨a + 1, [], qs⟩ (Or.inr rfl)
      · refine ih ⟨a + 1, js, (i, a) :: qs⟩ (h.imp_left fun h => ?_)
        obtain ⟨j, hj, ht⟩ := (closesAtMost_close_iff _ t).mp h
        rwa [← Nat.succ.inj hj] at ht
    · rw [step_other ho hc, step_other ho hc]
      exact ih ⟨m.offset + 1, m.opens, m.pairs⟩ (h.imp_left (closesAtMost_other_iff ho hc _ t).mp)

/-- What a reading has found behind the place `a` where it started. -/
structure Found (a : Nat) (m : Pairing) : Prop where
  /-- The open parentheses stand there, the innermost last. -/
  opens : m.opens.Pairwise (· > ·) ∧ ∀ i ∈ m.opens, a ≤ i ∧ i < m.offset
  /-- So do the pairs, and each closes what it opens. -/
  pairs : ∀ p ∈ m.pairs, a ≤ p.1 ∧ p.1 < p.2 ∧ p.2 < m.offset
  /-- A parenthesis that has a partner is no longer open. -/
  apart : ∀ p ∈ m.pairs, p.1 ∉ m.opens

theorem Found.step (h : Found a m) (ha : a ≤ m.offset) (c : Char) : Found a (m.step c) := by
  obtain ⟨⟨hsorted, hopens⟩, hpairs, hapart⟩ := h
  by_cases ho : c = '('
  · subst ho
    refine ⟨⟨List.pairwise_cons.mpr ⟨fun i hi => (hopens i hi).2, hsorted⟩, ?_⟩, ?_, ?_⟩
    · refine List.forall_mem_cons.mpr ⟨⟨ha, Nat.lt_succ_self _⟩, fun i hi => ?_⟩
      exact ⟨(hopens i hi).1, Nat.lt_succ_of_lt (hopens i hi).2⟩
    · exact fun p hp => ⟨(hpairs p hp).1, (hpairs p hp).2.1, Nat.lt_succ_of_lt (hpairs p hp).2.2⟩
    · intro p hp hmem
      obtain ⟨-, hlt, hlast⟩ := hpairs p hp
      rcases List.mem_cons.mp hmem with he | hmem
      · omega
      · exact hapart p hp hmem
  by_cases hc : c = ')'
  · subst hc
    obtain ⟨b, _ | ⟨i, is⟩, ps⟩ := m
    · exact ⟨⟨.nil, nofun⟩,
        fun p hp => ⟨(hpairs p hp).1, (hpairs p hp).2.1, Nat.lt_succ_of_lt (hpairs p hp).2.2⟩, nofun⟩
    · obtain ⟨hi, his⟩ := List.pairwise_cons.mp hsorted
      obtain ⟨hib, hisb⟩ := List.forall_mem_cons.mp hopens
      refine ⟨⟨his, fun j hj => ⟨(hisb j hj).1, Nat.lt_succ_of_lt (hisb j hj).2⟩⟩, ?_, ?_⟩
      · refine List.forall_mem_cons.mpr ⟨⟨hib.1, hib.2, Nat.lt_succ_self b⟩, fun p hp => ?_⟩
        exact ⟨(hpairs p hp).1, (hpairs p hp).2.1, Nat.lt_succ_of_lt (hpairs p hp).2.2⟩
      · refine List.forall_mem_cons.mpr ⟨fun hmem => Nat.lt_irrefl i (hi i hmem), fun p hp hmem => ?_⟩
        exact hapart p hp (List.mem_cons_of_mem i hmem)
  · rw [step_other ho hc]
    exact ⟨⟨hsorted, fun i hi => ⟨(hopens i hi).1, Nat.lt_succ_of_lt (hopens i hi).2⟩⟩,
      fun p hp => ⟨(hpairs p hp).1, (hpairs p hp).2.1, Nat.lt_succ_of_lt (hpairs p hp).2.2⟩, hapart⟩

theorem found_foldl (t : Text) (h : Found a m) (ha : a ≤ m.offset) : Found a (t.foldl Pairing.step m) := by
  induction t generalizing m with
  | nil => exact h
  | cons c t ih =>
    refine ih (h.step ha c) ?_
    rw [offset_step]
    exact Nat.le_succ_of_le ha

theorem found_read (a : Nat) (t : Text) : Found a (read a t) :=
  found_foldl t ⟨⟨.nil, nofun⟩, nofun, nofun⟩ (Nat.le_refl a)

theorem offset_read (a : Nat) (t : Text) : (read a t).offset = a + t.length :=
  offset_foldl t ⟨a, [], []⟩

/-- A balanced text leaves nothing open. -/
theorem opens_read_balanced (h : Balanced x) (a : Nat) : (read a x).opens = [] := by
  have := length_opens_foldl x ⟨a, [], []⟩
  rw [show ([] : List Nat).length = 0 + 0 from rfl, foldl_depthStep_closing 0 h] at this
  exact List.length_eq_zero_iff.mp this

/-- Read on: what has been read stays below. -/
theorem foldl_step_eq_under (h : ClosesAtMost 0 t ∨ m.opens = []) :
    t.foldl step m = (read m.offset t).under m.opens m.pairs :=
  foldl_step_under t ⟨m.offset, [], []⟩ m.opens m.pairs h

/-- A closed group is read: its parentheses are partners. -/
theorem foldl_step_group (hx : Balanced x) (r : Text) (m : Pairing) :
    ('(' :: (x ++ ')' :: r)).foldl step m =
      r.foldl step ⟨m.offset + x.length + 2, m.opens,
        (m.offset, m.offset + x.length + 1) :: ((read (m.offset + 1) x).pairs ++ m.pairs)⟩ := by
  have hread : x.foldl step (m.step '(') =
      ⟨m.offset + x.length + 1, m.offset :: m.opens, (read (m.offset + 1) x).pairs ++ m.pairs⟩ := by
    rw [foldl_step_eq_under (Or.inl hx.atMost), under, opens_read_balanced hx, offset_read, step_open,
      Nat.add_right_comm]
    rfl
  rw [List.foldl_cons, List.foldl_append, hread, List.foldl_cons, step_close_cons]

/-- Behind a character that starts no closed group the text is paired as by itself. -/
theorem pairs_read_single {c : Char} (h : c = '(' → closes 0 r = false) (a : Nat) :
    (read a (c :: r)).pairs = (read (a + 1) r).pairs := by
  have hstep : (step ⟨a, [], []⟩ c).offset = a + 1 ∧ (step ⟨a, [], []⟩ c).pairs = [] ∧
      (ClosesAtMost 0 r ∨ (step ⟨a, [], []⟩ c).opens = []) := by
    refine ⟨offset_step _ c, ?_⟩
    by_cases ho : c = '('
    · subst ho
      exact ⟨rfl, Or.inl ((closes_eq_false_iff 0 r).mp (h rfl))⟩
    · simp only [step, if_neg ho]
      split_ifs <;> exact ⟨rfl, Or.inr rfl⟩
  obtain ⟨hoffset, hpairs, hr⟩ := hstep
  rw [read, List.foldl_cons, foldl_step_eq_under hr, hoffset, under, hpairs, List.append_nil]

theorem pairs_read_group (hx : Balanced x) (r : Text) (a : Nat) :
    (read a ('(' :: (x ++ ')' :: r))).pairs =
      (read (a + x.length + 2) r).pairs ++ (a, a + x.length + 1) :: (read (a + 1) x).pairs := by
  rw [read, foldl_step_group hx, foldl_step_eq_under (Or.inr rfl), under, List.append_nil]

theorem mem_pairs_foldl {p : Nat × Nat} (hp : p ∈ m.pairs) (t : Text) : p ∈ (t.foldl step m).pairs := by
  induction t generalizing m with
  | nil => exact hp
  | cons c t ih =>
    refine ih ?_
    obtain ⟨a, _ | ⟨i, is⟩, ps⟩ := m <;> simp only [step] <;> split_ifs
    · exact hp
    · exact hp
    · exact hp
    · exact hp
    · exact List.mem_cons_of_mem _ hp
    · exact hp

theorem ofText_append (s t : Text) : ofText (s ++ t) = t.foldl step (ofText s) :=
  List.foldl_append

theorem ofText_concat (t : Text) (c : Char) : ofText (t ++ [c]) = (ofText t).step c := by
  rw [ofText_append]
  rfl

theorem offset_ofText (t : Text) : (ofText t).offset = t.length := by
  rw [ofText, offset_read, Nat.zero_add]

theorem mem_opens_of_closes_eq_false (t : Text) (hr : closes 0 r = false) :
    t.length ∈ (ofText (t ++ '(' :: r)).opens := by
  rw [ofText_append, List.foldl_cons,
    foldl_step_eq_under (Or.inl ((closes_eq_false_iff 0 r).mp hr)), under]
  simp [offset_ofText]

/-- The parentheses around a balanced text are partners. -/
theorem mem_pairs_group (t : Text) (hx : Balanced x) (r : Text) :
    (t.length, t.length + x.length + 1) ∈ (ofText (t ++ '(' :: (x ++ ')' :: r))).pairs := by
  rw [ofText_append, foldl_step_group hx, offset_ofText]
  exact mem_pairs_foldl List.mem_cons_self r

theorem exists_mem_pairs_of_closes (t : Text) (hr : closes 0 r = true) :
    ∃ j, (t.length, j) ∈ (ofText (t ++ '(' :: r)).pairs := by
  obtain ⟨x, r, rfl, hx⟩ := closes_eq_true_iff.mp hr
  exact ⟨_, mem_pairs_group t hx r⟩

/-- A parenthesis is left on the stack unless its group is closed. -/
theorem mem_opens_iff (t r : Text) :
    t.length ∈ (ofText (t ++ '(' :: r)).opens ↔ closes 0 r = false := by
  refine ⟨fun h => Bool.eq_false_iff.mpr fun hr => ?_, mem_opens_of_closes_eq_false t⟩
  obtain ⟨j, hj⟩ := exists_mem_pairs_of_closes t hr
  exact (found_read 0 _).apart _ hj h

/-- It has a partner if its group is closed. -/
theorem exists_mem_pairs_iff (t r : Text) :
    (∃ j, (t.length, j) ∈ (ofText (t ++ '(' :: r)).pairs) ↔ closes 0 r = true := by
  refine ⟨fun ⟨j, hj⟩ => ?_, exists_mem_pairs_of_closes t⟩
  have hopens := mt (mem_opens_iff t r).mpr ((found_read 0 _).apart _ hj)
  exact Bool.of_not_eq_false hopens

end Pairing

/-! ### The backward scans -/

theorem enclosing_concat_open (t : Text) : enclosing (t ++ ['(']) = enclosing t ++ [t.length] := by
  have hjoin := Nest.join_texts_ofText t
  rw [Nest.texts] at hjoin
  rw [enclosing_eq_openOffsets, enclosing_eq_openOffsets, Nest.ofText_append_singleton, Nest.step_open,
    List.reverse_cons, openOffsets_concat, hjoin, Nat.zero_add]

theorem enclosing_concat_close (t : Text) : enclosing (t ++ [')']) = (enclosing t).dropLast := by
  rw [enclosing_eq_openOffsets, enclosing_eq_openOffsets, Nest.ofText_append_singleton]
  obtain ⟨cur, _ | ⟨u, us⟩⟩ := Nest.ofText t
  · rfl
  · rw [Nest.step_close_cons, List.reverse_cons, openOffsets_concat, List.dropLast_concat]

theorem enclosing_concat_other {c : Char} (ho : c ≠ '(') (hc : c ≠ ')') (t : Text) :
    enclosing (t ++ [c]) = enclosing t := by
  rw [enclosing_eq_openOffsets, enclosing_eq_openOffsets, Nest.ofText_append_singleton,
    Nest.step_other ho hc]

/-- The backward scan finds what the stack is left with. -/
theorem opens_ofText (t : Text) : (Pairing.ofText t).opens = (enclosing t).reverse := by
  induction t using List.reverseRecOn with
  | nil => rfl
  | append_singleton t c ih =>
    have hoffset := Pairing.offset_ofText t
    rw [Pairing.ofText_concat]
    generalize Pairing.ofText t = m at ih hoffset ⊢
    obtain ⟨a, is, ps⟩ := m
    obtain rfl : is = (enclosing t).reverse := ih
    obtain rfl : a = t.length := hoffset
    by_cases ho : c = '('
    · subst ho
      rw [Pairing.step_open, enclosing_concat_open, List.reverse_concat]
    by_cases hc : c = ')'
    · subst hc
      rw [enclosing_concat_close, ← List.tail_reverse]
      cases (enclosing t).reverse <;> rfl
    · rw [Pairing.step_other ho hc, enclosing_concat_other ho hc]

theorem getElem?_of_mem_enclosing {t : Text} {i : Nat} (h : i ∈ enclosing t) : t[i]? = some '(' := by
  induction t using List.reverseRecOn with
  | nil => exact absurd h List.not_mem_nil
  | append_singleton t c ih =>
    have hfront : i ∈ enclosing t → (t ++ [c])[i]? = some '(' := fun h => by
      have hi := ih h
      rwa [List.getElem?_append_left (List.getElem?_eq_some_iff.mp hi).1]
    by_cases ho : c = '('
    · subst ho
      rw [enclosing_concat_open, List.mem_append, List.mem_singleton] at h
      rcases h with h | rfl
      · exact hfront h
      · exact List.getElem?_concat_length
    by_cases hc : c = ')'
    · subst hc
      rw [enclosing_concat_close] at h
      exact hfront (List.mem_of_mem_dropLast h)
    · rw [enclosing_concat_other ho hc] at h
      exact hfront h

theorem lt_length_of_mem_enclosing {t : Text} {i : Nat} (h : i ∈ enclosing t) : i < t.length :=
  (List.getElem?_eq_some_iff.mp (getElem?_of_mem_enclosing h)).1

/-- A parenthesis encloses the end of the text if the mask, looking ahead, finds its group open. -/
theorem mem_enclosing_iff {t : Text} {i : Nat} :
    i ∈ enclosing t ↔ t[i]? = some '(' ∧ closes 0 (t.drop (i + 1)) = false := by
  have hopen : t[i]? = some '(' → (i ∈ enclosing t ↔ closes 0 (t.drop (i + 1)) = false) := fun h => by
    obtain ⟨ht, hi⟩ := Text.append_cons_of_getElem? h
    have := Pairing.mem_opens_iff (t.take i) (t.drop (i + 1))
    rwa [← ht, hi, opens_ofText, List.mem_reverse] at this
  exact ⟨fun h => ⟨getElem?_of_mem_enclosing h, (hopen (getElem?_of_mem_enclosing h)).mp h⟩,
    fun h => (hopen h.1).mpr h.2⟩

/-- It does so if it has no partner. -/
theorem mem_enclosing_iff_not_mem_pairs {t : Text} {i : Nat} :
    i ∈ enclosing t ↔ t[i]? = some '(' ∧ ∀ j, (i, j) ∉ (Pairing.ofText t).pairs := by
  rw [mem_enclosing_iff]
  refine and_congr_right fun h => ?_
  obtain ⟨ht, hi⟩ := Text.append_cons_of_getElem? h
  have := Pairing.exists_mem_pairs_iff (t.take i) (t.drop (i + 1))
  rw [← ht, hi] at this
  rw [← not_exists, this, Bool.not_eq_true]

/-- Walks backward over the reversed text with the depth of its end. The place behind the first
character where the depth comes below `least`; the start of the text if there is none. -/
def startBelow (least depth : Int) : Text → Nat
  | [] => 0
  | c :: r =>
    let depth := if c = ')' then depth + 1 else if c = '(' then depth - 1 else depth
    if depth < least then r.length + 1 else startBelow least depth r

/-- From the end of a text backward nothing leads out of the outermost level. -/
theorem startBelow_zero (t : Text) {d : Int} (h : depth t ≤ d) : startBelow 0 d t.reverse = 0 := by
  induction t using List.reverseRecOn generalizing d with
  | nil => rfl
  | append_singleton t c ih =>
    rw [depth_concat, depthStep] at h
    rw [List.reverse_concat, startBelow]
    by_cases ho : c = '('
    · subst ho
      rw [if_pos rfl] at h
      simp only [if_neg (show ¬ '(' = ')' by decide), if_true]
      rw [if_neg (by omega), ih (by omega)]
    by_cases hc : c = ')'
    · subst hc
      rw [if_neg ho, if_pos rfl] at h
      simp only [if_true]
      rw [if_neg (by omega), ih (by omega)]
    · rw [if_neg ho, if_neg hc] at h
      simp only [if_neg ho, if_neg hc]
      rw [if_neg (by omega), ih (by omega)]

/-- The walk that stops below a depth stops at the parenthesis that opens the level of that depth. -/
theorem startBelow_reverse (t : Text) {k : Nat} (h : k < depth t) :
    startBelow (k + 1) (depth t) t.reverse = (enclosing t).getD k 0 + 1 := by
  induction t using List.reverseRecOn with
  | nil => cases h
  | append_singleton t c ih =>
    have hlength := length_enclosing t
    rw [depth_concat, depthStep] at h ⊢
    rw [List.reverse_concat, startBelow]
    by_cases ho : c = '('
    · subst ho
      rw [if_pos rfl] at h ⊢
      simp only [if_neg (show ¬ '(' = ')' by decide), if_true]
      rw [enclosing_concat_open]
      by_cases hk : k = depth t
      · -- the parenthesis just passed opens the level
        rw [if_pos (by omega), List.length_reverse, List.getD_append_right _ _ _ _ (by omega),
          show k - (enclosing t).length = 0 by omega]
        rfl
      · rw [if_neg (by omega), List.getD_append _ _ _ _ (by omega), ← ih (by omega)]
        simp
    by_cases hc : c = ')'
    · subst hc
      rw [if_neg ho, if_pos rfl] at h ⊢
      have hback : ((depth t - 1 : Nat) : Int) + 1 = depth t := by omega
      simp only [if_true]
      rw [if_neg (by omega), hback, ih (by omega), enclosing_concat_close, List.getD_eq_getElem?_getD,
        List.getD_eq_getElem?_getD, List.getElem?_dropLast, if_pos (by omega)]
    · rw [if_neg ho, if_neg hc] at h ⊢
      simp only [if_neg ho, if_neg hc]
      rw [if_neg (by omega), ih h, enclosing_concat_other ho hc]

theorem levelStart_eq_startBelow (t : Text) :
    levelStart t = startBelow (depth t) (depth t) t.reverse := by
  have hlength := length_enclosing t
  rw [levelStart]
  cases hd : depth t with
  | zero =>
    rw [List.length_eq_zero_iff.mp (hlength.trans hd)]
    exact (startBelow_zero t (by omega)).symm
  | succ k =>
    have hlast : (enclosing t).getLast? = some ((enclosing t).getD k 0) := by
      rw [List.getLast?_eq_getElem?, hlength, hd, Nat.add_sub_cancel, List.getD_eq_getElem?_getD,
        List.getElem?_eq_getElem (by omega)]
      rfl
    have := startBelow_reverse t (k := k) (by omega)
    rw [hd] at this
    rw [hlast]
    exact this.symm

/-! ### The mask -/

theorem ClosesAtMost.append {k : Nat} {x y : Text} (hx : ClosesAtMost k x) (hy : ClosesAtMost 0 y) :
    ClosesAtMost k (x ++ y) := by
  intro p hp
  rcases List.prefix_or_prefix_of_prefix hp (List.prefix_append x y) with hp | ⟨q, rfl⟩
  · exact hx p hp
  · have hcx := hx x List.prefix_rfl
    have hcy := hy q ((List.prefix_append_right_inj x).mp hp)
    rw [List.count_append, List.count_append]
    omega

/-- In front of a text that closes nothing from before it the mask stops short. -/
theorem maskGroups_append (u : Text) {y : Text} (hy : ClosesAtMost 0 y) :
    maskGroups (u ++ y) = maskGroups u ++ maskGroups y := by
  induction u using groupInduction with
  | nil => rfl
  | single c r h ih =>
    have hc : c = '(' → closes 0 (r ++ y) = false := fun hc =>
      (closes_eq_false_iff 0 _).mpr (ClosesAtMost.append ((closes_eq_false_iff 0 r).mp (h hc)) hy)
    rw [List.cons_append, maskGroups_single h, maskGroups_single hc, ih, List.cons_append]
  | group x r hx ih =>
    have hassoc : '(' :: (x ++ ')' :: r) ++ y = '(' :: (x ++ ')' :: (r ++ y)) := by simp
    rw [hassoc, maskGroups_group hx, maskGroups_group hx, ih]
    simp

/-- A parenthesis whose group is open is left alone, and so is what the text holds on either side. -/
theorem maskGroups_append_open (u : Text) {r : Text} (hr : closes 0 r = false) :
    maskGroups (u ++ '(' :: r) = maskGroups u ++ '(' :: maskGroups r := by
  have hopen : ClosesAtMost 0 ('(' :: r) := by
    rw [← closes_eq_false_iff, closes, if_pos rfl, closes_eq_false_iff]
    intro p hp
    exact ((closes_eq_false_iff 0 r).mp hr p hp).trans (by omega)
  rw [maskGroups_append u hopen, maskGroups_single fun _ => hr]

/-- **The backward walk finds the unmatched parentheses**: those that the stack is left with, the
outermost first, which are those that the mask leaves open. The innermost level starts where the
walk by the depth alone stops. -/
theorem enclosing_unmatched (t : Text) :
    enclosing t = (Pairing.ofText t).opens.reverse ∧
      (enclosing t).Pairwise (· < ·) ∧
      (∀ i ∈ enclosing t, t[i]? = some '(') ∧
      (enclosing t).length = depth t ∧
      (∀ i, i ∈ enclosing t ↔ t[i]? = some '(' ∧ ∀ j, (i, j) ∉ (Pairing.ofText t).pairs) ∧
      (∀ i, i ∈ enclosing t ↔ t[i]? = some '(' ∧ closes 0 (t.drop (i + 1)) = false) ∧
      (∀ i ∈ enclosing t,
        maskGroups t = maskGroups (t.take i) ++ '(' :: maskGroups (t.drop (i + 1))) ∧
      levelStart t = startBelow (depth t) (depth t) t.reverse := by
  have hopens : enclosing t = (Pairing.ofText t).opens.reverse := by
    rw [opens_ofText, List.reverse_reverse]
  have hsorted : (enclosing t).Pairwise (· < ·) := by
    rw [hopens, List.pairwise_reverse]
    exact (Pairing.found_read 0 t).opens.1
  have hmask : ∀ i ∈ enclosing t,
      maskGroups t = maskGroups (t.take i) ++ '(' :: maskGroups (t.drop (i + 1)) := fun i hi => by
    obtain ⟨hopen, hcloses⟩ := mem_enclosing_iff.mp hi
    have ht := (Text.append_cons_of_getElem? hopen).1
    exact (congrArg maskGroups ht).trans (maskGroups_append_open (t.take i) hcloses)
  exact ⟨hopens, hsorted, fun _ => getElem?_of_mem_enclosing, length_enclosing t,
    fun _ => mem_enclosing_iff_not_mem_pairs, fun _ => mem_enclosing_iff, hmask,
    levelStart_eq_startBelow t⟩

/-- A closing parenthesis without a partner, a closed group, and two that stay open. -/
theorem enclosing_unmatched_beside_group :
    2 ∈ enclosing "a)(b(c)d(".toList ∧
      maskGroups "a)(b(c)d(".toList = "a)".toList ++ '(' :: maskGroups "b(c)d(".toList := by
  have hmem : 2 ∈ enclosing "a)(b(c)d(".toList := by decide
  exact ⟨hmem, (enclosing_unmatched "a)(b(c)d(".toList).2.2.2.2.2.2.1 2 hmem⟩

end Paren

end SqlAssist
