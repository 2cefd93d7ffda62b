import SqlAssist.Proofs.Sql.GroupMask
import Mathlib.Data.List.Nodup

/-!
# Where a level ends

The text of a level past the cursor is put together from two scans: the offsets of the
open parentheses come from a backward scan of what stands before the cursor, and a
counter runs through what follows it. Here the two are compared with one matching by
a stack over the whole text.

A level that a parenthesis opens is what the whole text has between that parenthesis
and its partner, or up to the end if it has none (`groupEnd`). Both scans together read
on from the parenthesis as one would (`extended_atDepth_succ`), and the place of the
cursor is left out of the result: **`extended_eq_group`**.

No parenthesis opens the outermost level, and none should close it. Before the cursor
one that has no partner (`IsStray`) is passed over. Behind the cursor the first one
ends the level, and what stands behind it is not found. **`outermost_extended`** says
that this is the only case in which the level is not all of the text, and
`outermost_cut_at_stray` is such a text.
-/

namespace SqlAssist

namespace Paren

variable {n i j : Nat} {s t u x r : Text}

/-! ### The scan behind the cursor -/

theorem untilClosed_of_closes_eq_false (h : closes n t = false) : untilClosed n t = t := by
  induction t generalizing n with
  | nil => rfl
  | cons c t ih =>
    rw [closes] at h
    rw [untilClosed]
    split_ifs at h ⊢ with ho hc hn
    · rw [ih h]
    · rw [ih h]
    · rw [ih h]

/-- It stops in front of the parenthesis that closes the group. -/
theorem untilClosed_closing (hx : Closing n x) (r : Text) : untilClosed n (x ++ ')' :: r) = x := by
  have hscan := untilClosed_closing_append hx 0 (')' :: r)
  rw [Nat.zero_add] at hscan
  rw [hscan]
  simp [untilClosed]

/-- A text that does not close the group is passed, and leaves its own parentheses to be closed. -/
theorem untilClosed_append (h : ClosesAtMost n u) (t : Text) :
    untilClosed n (u ++ t) = u ++ untilClosed (u.foldl depthStep n) t := by
  induction u generalizing n with
  | nil => rfl
  | cons c u ih =>
    rw [List.cons_append, untilClosed, List.foldl_cons, depthStep]
    by_cases ho : c = '('
    · subst ho
      rw [if_pos rfl, if_pos rfl, ih ((closesAtMost_open_iff n u).mp h), List.cons_append]
    by_cases hc : c = ')'
    · subst hc
      obtain ⟨k, rfl, hu⟩ := (closesAtMost_close_iff n u).mp h
      rw [if_neg ho, if_pos rfl, if_neg (Nat.succ_ne_zero k), if_neg ho, if_pos rfl,
        Nat.add_sub_cancel, ih hu, List.cons_append]
    · rw [if_neg ho, if_neg hc, if_neg ho, if_neg hc, ih ((closesAtMost_other_iff ho hc n u).mp h),
        List.cons_append]

/-! ### Partners -/

namespace Pairing

variable {m : Pairing} {a : Nat}

/-- A parenthesis gets one partner only: it is no longer open when it has one. -/
theorem nodup_pairs_step (h : Found a m) (hm : (m.pairs.map Prod.fst).Nodup) (c : Char) :
    ((m.step c).pairs.map Prod.fst).Nodup := by
  obtain ⟨b, _ | ⟨i, is⟩, ps⟩ := m <;> simp only [step] <;> split_ifs
  · exact hm
  · exact hm
  · exact hm
  · exact hm
  · rw [List.map_cons, List.nodup_cons]
    refine ⟨fun hi => ?_, hm⟩
    obtain ⟨p, hp, hpi⟩ := List.mem_map.mp hi
    apply h.apart p hp
    rw [hpi]
    exact List.mem_cons_self
  · exact hm

theorem nodup_pairs_foldl (t : Text) (h : Found a m) (ha : a ≤ m.offset)
    (hm : (m.pairs.map Prod.fst).Nodup) : ((t.foldl step m).pairs.map Prod.fst).Nodup := by
  induction t generalizing m with
  | nil => exact hm
  | cons c t ih =>
    refine ih (h.step ha c) ?_ (nodup_pairs_step h hm c)
    rw [offset_step]
    exact Nat.le_succ_of_le ha

theorem eq_of_mem_pairs {k : Nat} (hj : (i, j) ∈ (ofText t).pairs) (hk : (i, k) ∈ (ofText t).pairs) :
    j = k := by
  have hnodup : ((ofText t).pairs.map Prod.fst).Nodup :=
    nodup_pairs_foldl t ⟨⟨.nil, nofun⟩, nofun, nofun⟩ (Nat.le_refl 0) List.nodup_nil
  exact congrArg Prod.snd (List.inj_on_of_nodup_map hnodup hj hk rfl)

end Pairing

/-- Where the group ends that the parenthesis at a place opens: at its partner, or with the text if
it has none. -/
def groupEnd (t : Text) (i : Nat) : Nat :=
  ((Pairing.ofText t).pairs.lookup i).getD t.length

theorem groupEnd_of_mem_pairs (h : (i, j) ∈ (Pairing.ofText t).pairs) : groupEnd t i = j := by
  rw [groupEnd]
  cases hlookup : (Pairing.ofText t).pairs.lookup i with
  | none =>
    have := List.lookup_eq_none_iff.mp hlookup (i, j) h
    simp at this
  | some k =>
    obtain ⟨before, after, hpairs, -⟩ := List.lookup_eq_some_iff.mp hlookup
    have hk : (i, k) ∈ (Pairing.ofText t).pairs := by
      rw [hpairs]
      exact List.mem_append_right _ List.mem_cons_self
    exact Pairing.eq_of_mem_pairs hk h

theorem groupEnd_of_not_mem_pairs (h : ∀ j, (i, j) ∉ (Pairing.ofText t).pairs) :
    groupEnd t i = t.length := by
  have hlookup : (Pairing.ofText t).pairs.lookup i = none := by
    rw [List.lookup_eq_none_iff]
    rintro ⟨k, j⟩ hp
    simp only [bne_iff_ne, ne_eq]
    rintro rfl
    exact h j hp
  rw [groupEnd, hlookup, Option.getD_none]

/-- The scan from behind a parenthesis reads what its group holds. -/
theorem untilClosed_drop (h : t[i]? = some '(') :
    untilClosed 0 (t.drop (i + 1)) = t.slice (i + 1) (groupEnd t i) := by
  obtain ⟨ht, hi⟩ := Text.append_cons_of_getElem? h
  have hpartner := Pairing.exists_mem_pairs_iff (t.take i) (t.drop (i + 1))
  rw [← ht, hi] at hpartner
  cases hr : closes 0 (t.drop (i + 1)) with
  | true =>
    obtain ⟨x, r, hx, hbalanced⟩ := closes_eq_true_iff.mp hr
    have hmem := Pairing.mem_pairs_group (t.take i) hbalanced r
    rw [← hx, ← ht, hi] at hmem
    rw [groupEnd_of_mem_pairs hmem, Text.slice, hx, untilClosed_closing hbalanced]
    simp
  | false =>
    have hnone : ∀ j, (i, j) ∉ (Pairing.ofText t).pairs := by
      intro j hj
      have := hpartner.mp ⟨j, hj⟩
      rw [hr] at this
      cases this
    rw [groupEnd_of_not_mem_pairs hnone, Text.slice, untilClosed_of_closes_eq_false hr,
      ← List.length_drop, List.take_length]

/-! ### The parentheses that open the levels -/

/-- Behind an open parenthesis the levels are those of what follows. -/
theorem exists_enclosing_append_open (s : Text) (hu : ClosesAtMost 0 u) :
    ∃ is, is.length = depth u ∧ enclosing (s ++ '(' :: u) = enclosing s ++ s.length :: is := by
  have hopens : (Pairing.ofText (s ++ '(' :: u)).opens =
      (Pairing.read (s.length + 1) u).opens ++ s.length :: (Pairing.ofText s).opens := by
    rw [Pairing.ofText_append, List.foldl_cons, Pairing.foldl_step_eq_under (Or.inl hu),
      Pairing.under, Pairing.step_open, Pairing.offset_ofText]
  refine ⟨(Pairing.read (s.length + 1) u).opens.reverse, ?_, ?_⟩
  · rw [List.length_reverse]
    exact Pairing.length_opens_foldl u ⟨s.length + 1, [], []⟩
  · rw [opens_ofText, opens_ofText] at hopens
    rw [← List.reverse_reverse (enclosing (s ++ '(' :: u)), hopens]
    simp

theorem nodup_enclosing (t : Text) : (enclosing t).Nodup := by
  rw [← List.nodup_reverse, ← opens_ofText]
  exact (Pairing.found_read 0 t).opens.1.imp Nat.ne_of_gt

/-- The parentheses open behind one that stays open are those of the levels inside of its own. -/
theorem depth_drop_of_enclosing {k : Nat} (h : (enclosing t)[k]? = some i) :
    depth (t.drop (i + 1)) = (enclosing t).length - (k + 1) := by
  obtain ⟨hopen, hcloses⟩ := mem_enclosing_iff.mp (List.mem_of_getElem? h)
  obtain ⟨ht, hi⟩ := Text.append_cons_of_getElem? hopen
  obtain ⟨is, hlength, henclosing⟩ :=
    exists_enclosing_append_open (t.take i) ((closes_eq_false_iff 0 _).mp hcloses)
  rw [← ht, hi] at henclosing
  have hk : k = (enclosing (t.take i)).length := by
    apply (List.getElem?_inj (List.getElem?_eq_some_iff.mp h).1 (nodup_enclosing t)).mp
    rw [h, henclosing, List.getElem?_append_right (Nat.le_refl _), Nat.sub_self]
    rfl
  rw [henclosing, List.length_append, List.length_cons, hk, ← hlength]
  omega

/-! ### Parentheses that close nothing -/

/-- The parenthesis at a place closes a group that no other one has opened. -/
def IsStray (t : Text) (i : Nat) : Prop :=
  t[i]? = some ')' ∧ ∀ p ∈ (Pairing.ofText t).pairs, p.2 ≠ i

instance (t : Text) (i : Nat) : Decidable (IsStray t i) :=
  inferInstanceAs (Decidable (_ ∧ _))

theorem IsStray.lt_length (h : IsStray t i) : i < t.length :=
  (List.getElem?_eq_some_iff.mp h.1).1

/-- A closing parenthesis has no partner if nothing is open in front of it. -/
theorem isStray_append_iff (t r : Text) : IsStray (t ++ ')' :: r) t.length ↔ depth t = 0 := by
  have hlength : (Pairing.ofText t).opens.length = depth t := Pairing.length_opens_foldl t ⟨0, [], []⟩
  have hoffset := Pairing.offset_ofText t
  have hearlier : ∀ p ∈ (Pairing.ofText t).pairs, p.2 < t.length := by
    intro p hp
    rw [← hoffset]
    exact ((Pairing.found_read 0 t).pairs p hp).2.2
  rw [IsStray, Pairing.ofText_append, List.foldl_cons, ← hlength]
  generalize Pairing.ofText t = m at *
  obtain ⟨a, _ | ⟨i, is⟩, ps⟩ := m
  · obtain rfl : a = t.length := hoffset
    rw [Pairing.step_close_nil, Pairing.foldl_step_eq_under (Or.inr rfl)]
    constructor
    · intro _
      rfl
    · intro _
      refine ⟨by simp, fun p hp => ?_⟩
      rcases List.mem_append.mp hp with hp | hp
      · -- found behind the parenthesis
        have hlater := (Pairing.found_read (t.length + 1) r).pairs p hp
        omega
      · exact (hearlier p hp).ne
  · obtain rfl : a = t.length := hoffset
    rw [Pairing.step_close_cons]
    constructor
    · rintro ⟨-, hpairs⟩
      exact absurd rfl (hpairs (i, t.length) (Pairing.mem_pairs_foldl List.mem_cons_self r))
    · intro hnil
      cases hnil

theorem isStray_iff : IsStray t i ↔ t[i]? = some ')' ∧ depth (t.take i) = 0 := by
  have hclose : t[i]? = some ')' → (IsStray t i ↔ depth (t.take i) = 0) := by
    intro h
    obtain ⟨ht, hi⟩ := Text.append_cons_of_getElem? h
    have := isStray_append_iff (t.take i) (t.drop (i + 1))
    rwa [← ht, hi] at this
  constructor
  · intro h
    exact ⟨h.1, (hclose h.1).mp h⟩
  · rintro ⟨h, hdepth⟩
    exact (hclose h).mpr hdepth

theorem IsStray.of_append (h : IsStray (t ++ r) i) (hi : i < t.length) : IsStray t i := by
  rw [isStray_iff, List.getElem?_append_left hi, List.take_append_of_le_length hi.le] at h
  exact isStray_iff.mpr h

theorem depth_append (s t : Text) : depth (s ++ t) = t.foldl depthStep (depth s) := by
  rw [depth, depth, List.foldl_append]

theorem closes_of_foldl_eq_zero (h : x.foldl depthStep n = 0) (r : Text) :
    closes n (x ++ ')' :: r) = true := by
  induction x generalizing n with
  | nil =>
    obtain rfl : n = 0 := h
    rfl
  | cons c x ih =>
    rw [List.foldl_cons, depthStep] at h
    rw [List.cons_append, closes]
    split_ifs at h ⊢
    · exact ih h
    · rfl
    · exact ih h
    · exact ih h

/-- What follows closes more than is open in front of it if one of its parentheses is stray. -/
theorem closes_of_isStray (hi : s.length ≤ i) (h : IsStray (s ++ t) i) : closes (depth s) t = true := by
  obtain ⟨k, rfl⟩ := Nat.exists_eq_add_of_le hi
  rw [isStray_iff, List.getElem?_append_right hi, Nat.add_sub_cancel_left, List.take_length_add_append,
    depth_append] at h
  rw [(Text.append_cons_of_getElem? h.1).1]
  exact closes_of_foldl_eq_zero h.2 _

/-- The scan behind the cursor stops at the first stray parenthesis. -/
theorem exists_first_isStray (h : closes (depth s) t = true) :
    ∃ x r, t = x ++ ')' :: r ∧ untilClosed (depth s) t = x ∧ IsStray (s ++ t) (s.length + x.length) ∧
      ∀ i, s.length ≤ i → i < s.length + x.length → ¬ IsStray (s ++ t) i := by
  obtain ⟨x, r, rfl, hx⟩ := closes_eq_true_iff.mp h
  refine ⟨x, r, rfl, untilClosed_closing hx r, ?_, ?_⟩
  · rw [← List.append_assoc, ← List.length_append, isStray_append_iff, depth_append]
    have hclosed := foldl_depthStep_closing 0 hx
    rwa [Nat.zero_add] at hclosed
  · intro i hi hlt hstray
    rw [← List.append_assoc] at hstray
    have hcloses := closes_of_isStray hi (hstray.of_append (by rwa [List.length_append]))
    rw [(closes_eq_false_iff _ _).mpr hx.atMost] at hcloses
    cases hcloses

end Paren

namespace Level

variable {s c : Text} {k a : Nat}

/-- A level that a parenthesis opens is read on from there, wherever the cursor stands. -/
theorem extended_atDepth_succ (h : (Paren.enclosing s)[k]? = some a) (c : Text) :
    (atDepth s (k + 1)).extended c =
      Paren.maskGroups (Paren.untilClosed 0 ((s ++ c).drop (a + 1))) := by
  have hmem := List.mem_of_getElem? h
  have hcloses := (Paren.mem_enclosing_iff.mp hmem).2
  have hstart : (atDepth s (k + 1)).start = a + 1 := by
    show (Paren.enclosing s).getD k 0 + 1 = a + 1
    rw [List.getD_eq_getElem?_getD, h, Option.getD_some]
  rw [List.drop_append_of_le_length (Paren.lt_length_of_mem_enclosing hmem),
    Paren.untilClosed_append ((Paren.closes_eq_false_iff 0 _).mp hcloses), extended, hstart]
  show Paren.maskGroups (s.drop (a + 1) ++
    Paren.untilClosed ((Paren.enclosing s).length - (k + 1)) c) = _
  rw [← Paren.depth_drop_of_enclosing h]
  rfl

/-- **A level is the whole group around the cursor**: what the text has between the parenthesis that
opens the level and its partner, or up to the end if it has none. So it is the same for every
cursor behind that parenthesis and in its group, and so are its tables. -/
theorem extended_eq_group (h : (Paren.enclosing s)[k]? = some a) (c : Text) :
    (atDepth s (k + 1)).extended c =
        Paren.maskGroups ((s ++ c).slice (a + 1) (Paren.groupEnd (s ++ c) a)) ∧
      ∀ (s' c' : Text) (k' : Nat), s' ++ c' = s ++ c → (Paren.enclosing s')[k']? = some a →
        (atDepth s' (k' + 1)).extended c' = (atDepth s (k + 1)).extended c ∧
          Resolution.ofText ((atDepth s' (k' + 1)).extended c').upper =
            Resolution.ofText ((atDepth s (k + 1)).extended c).upper := by
  constructor
  · have hmem := List.mem_of_getElem? h
    rw [extended_atDepth_succ h, Paren.untilClosed_drop]
    rw [List.getElem?_append_left (Paren.lt_length_of_mem_enclosing hmem)]
    exact Paren.getElem?_of_mem_enclosing hmem
  · intro s' c' k' htext h'
    have hsame : (atDepth s' (k' + 1)).extended c' = (atDepth s (k + 1)).extended c := by
      rw [extended_atDepth_succ h, extended_atDepth_succ h', htext]
    exact ⟨hsame, by rw [hsame]⟩

/-- The cursor stands in a call and, further on, behind it, in a subquery that is closed later. -/
theorem extended_eq_group_of_subquery :
    (Paren.enclosing "x (SELECT f(".toList)[0]? = some 2 ∧
      (Paren.enclosing "x (SELECT f(b), ".toList)[0]? = some 2 ∧
      (atDepth "x (SELECT f(".toList 1).extended "b), c FROM t) y".toList =
        Paren.maskGroups "SELECT f(b), c FROM t".toList ∧
      (atDepth "x (SELECT f(b), ".toList 1).extended "c FROM t) y".toList =
        (atDepth "x (SELECT f(".toList 1).extended "b), c FROM t) y".toList := by
  have hopen : (Paren.enclosing "x (SELECT f(".toList)[0]? = some 2 := by decide
  have hopen' : (Paren.enclosing "x (SELECT f(b), ".toList)[0]? = some 2 := by decide
  have hgroup : Text.slice ("x (SELECT f(".toList ++ "b), c FROM t) y".toList) (2 + 1)
      (Paren.groupEnd ("x (SELECT f(".toList ++ "b), c FROM t) y".toList) 2) =
        "SELECT f(b), c FROM t".toList := by decide
  obtain ⟨hlevel, hsame⟩ := extended_eq_group hopen "b), c FROM t) y".toList
  rw [hgroup] at hlevel
  exact ⟨hopen, hopen', hlevel, (hsame "x (SELECT f(b), ".toList "c FROM t) y".toList 0 rfl hopen').1⟩

theorem extended_atDepth_zero (s c : Text) :
    (atDepth s 0).extended c = Paren.maskGroups (s ++ Paren.untilClosed (Paren.depth s) c) := by
  rw [← Paren.length_enclosing]
  rfl

theorem extended_eq_of_not_isStray (h : ∀ i, s.length ≤ i → ¬ Paren.IsStray (s ++ c) i) :
    (atDepth s 0).extended c = Paren.maskGroups (s ++ c) := by
  have hcloses : Paren.closes (Paren.depth s) c = false := by
    rw [Bool.eq_false_iff]
    intro hcloses
    obtain ⟨x, r, -, -, hstray, -⟩ := Paren.exists_first_isStray hcloses
    exact h _ (Nat.le_add_right _ _) hstray
  rw [extended_atDepth_zero, Paren.untilClosed_of_closes_eq_false hcloses]

theorem extended_eq_of_isStray {i : Nat} (hi : s.length ≤ i) (hstray : Paren.IsStray (s ++ c) i)
    (hfirst : ∀ j, s.length ≤ j → j < i → ¬ Paren.IsStray (s ++ c) j) :
    (atDepth s 0).extended c = Paren.maskGroups ((s ++ c).take i) := by
  obtain ⟨x, r, hc, hx, hstray', hfirst'⟩ :=
    Paren.exists_first_isStray (Paren.closes_of_isStray hi hstray)
  have hplace : i = s.length + x.length := by
    apply Nat.le_antisymm
    · exact Nat.le_of_not_lt fun hlt => hfirst _ (Nat.le_add_right _ _) hlt hstray'
    · exact Nat.le_of_not_lt fun hlt => hfirst' i hi hlt hstray
  rw [extended_atDepth_zero, hx, hplace, List.take_length_add_append, hc, List.take_left]

theorem not_isStray_of_extended_eq (h : (atDepth s 0).extended c = Paren.maskGroups (s ++ c)) {i : Nat}
    (hi : s.length ≤ i) : ¬ Paren.IsStray (s ++ c) i := by
  intro hstray
  obtain ⟨x, r, rfl, hx, -⟩ := Paren.exists_first_isStray (Paren.closes_of_isStray hi hstray)
  -- the mask keeps lengths, and the scan has left out the stray parenthesis
  have hlength := congrArg List.length h
  rw [extended_atDepth_zero, hx, Paren.length_maskGroups, Paren.length_maskGroups] at hlength
  simp at hlength

/-- Cursors with the same stray parentheses behind them see the same text. -/
theorem extended_eq_of_same_strays {s' c' : Text} (htext : s' ++ c' = s ++ c)
    (h : ∀ i, Paren.IsStray (s ++ c) i → (s.length ≤ i ↔ s'.length ≤ i)) :
    (atDepth s' 0).extended c' = (atDepth s 0).extended c := by
  by_cases hbehind : ∃ i, s.length ≤ i ∧ Paren.IsStray (s ++ c) i
  · obtain ⟨i, hi, hstray⟩ := hbehind
    obtain ⟨x, r, -, -, hplace, hfirst⟩ :=
      Paren.exists_first_isStray (Paren.closes_of_isStray hi hstray)
    have hle : s.length ≤ s.length + x.length := Nat.le_add_right _ _
    have hfirst' : ∀ j, s'.length ≤ j → j < s.length + x.length → ¬ Paren.IsStray (s ++ c) j := by
      intro j hj hlt hstray
      exact hfirst j ((h j hstray).mpr hj) hlt hstray
    rw [extended_eq_of_isStray hle hplace hfirst]
    rw [← htext] at hplace hfirst' ⊢
    refine extended_eq_of_isStray ?_ hplace hfirst'
    rw [htext] at hplace
    exact (h _ hplace).mp hle
  · have hnone : ∀ i, s.length ≤ i → ¬ Paren.IsStray (s ++ c) i := fun i hi hstray =>
      hbehind ⟨i, hi, hstray⟩
    rw [extended_eq_of_not_isStray hnone, ← htext]
    apply extended_eq_of_not_isStray
    intro i hi hstray
    rw [htext] at hstray
    exact hnone i ((h i hstray).mpr hi) hstray

/-- **The outermost level goes on to the next stray parenthesis**: it is all of the text exactly if
no parenthesis behind the cursor is without a partner, and ends in front of the first one that is.
So its tables are the same for all cursors between which none of these stands. -/
theorem outermost_extended (s c : Text) :
    ((atDepth s 0).extended c = Paren.maskGroups (s ++ c) ↔
        ∀ i, s.length ≤ i → ¬ Paren.IsStray (s ++ c) i) ∧
      (∀ i, s.length ≤ i → Paren.IsStray (s ++ c) i →
        (∀ j, s.length ≤ j → j < i → ¬ Paren.IsStray (s ++ c) j) →
          (atDepth s 0).extended c = Paren.maskGroups ((s ++ c).take i)) ∧
      ∀ s' c' : Text, s' ++ c' = s ++ c →
        (∀ i, Paren.IsStray (s ++ c) i → (s.length ≤ i ↔ s'.length ≤ i)) →
          Resolution.ofText ((atDepth s' 0).extended c').upper =
            Resolution.ofText ((atDepth s 0).extended c).upper := by
  refine ⟨⟨fun h i => not_isStray_of_extended_eq h, extended_eq_of_not_isStray⟩, ?_, ?_⟩
  · intro i hi hstray hfirst
    exact extended_eq_of_isStray hi hstray hfirst
  · intro s' c' htext hsame
    rw [extended_eq_of_same_strays htext hsame]

/-- The cursor stands behind a stray parenthesis and in a group, and a second one follows the
table; a cursor in front of the group sees as much. -/
theorem outermost_extended_between_strays :
    (atDepth "a) (b".toList 0).extended ") FROM t) u".toList =
        Paren.maskGroups "a) (b) FROM t".toList ∧
      Resolution.ofText ((atDepth "a) ".toList 0).extended "(b) FROM t) u".toList).upper =
        Resolution.ofText ((atDepth "a) (b".toList 0).extended ") FROM t) u".toList).upper := by
  have hstray : ∀ i < 16, Paren.IsStray "a) (b) FROM t) u".toList i → i = 1 ∨ i = 13 := by
    decide
  have hstrays : ∀ i, Paren.IsStray ("a) (b".toList ++ ") FROM t) u".toList) i → i = 1 ∨ i = 13 :=
    fun i hi => hstray i (Paren.IsStray.lt_length hi) hi
  obtain ⟨-, hends, hsame⟩ := outermost_extended "a) (b".toList ") FROM t) u".toList
  constructor
  · refine hends 13 (by decide) (by decide) fun j hj hlt hstray => ?_
    have hlength : "a) (b".toList.length = 5 := rfl
    rcases hstrays j hstray with rfl | rfl <;> omega
  · refine hsame "a) ".toList "(b) FROM t) u".toList rfl fun i hi => ?_
    rcases hstrays i hi with rfl | rfl <;> decide

/-- A stray parenthesis hides the table behind it from the cursor in front of it, and not from the
cursor that has passed it. -/
theorem outermost_cut_at_stray :
    (atDepth "SELECT a".toList 0).extended ") FROM t".toList ≠
        Paren.maskGroups ("SELECT a".toList ++ ") FROM t".toList) ∧
      (Resolution.ofText ((atDepth "SELECT a".toList 0).extended ") FROM t".toList).upper).tables = [] ∧
      (Resolution.ofText ((atDepth "SELECT a)".toList 0).extended " FROM t".toList).upper).tables =
        [("T".toList, { table := "T".toList })] := by
  decide

end Level

end SqlAssist
