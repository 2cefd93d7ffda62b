import SqlAssist.Proofs.Sql.LevelEnd
import SqlAssist.Proofs.Sql.LevelPartition
import SqlAssist.Proofs.Sql.ParenGap

/-!
# White space put in beside a parenthesis

White space is put in at one place of a text. No scan for parentheses sees it: the same groups are
closed, so that the masked text is the masked one with white space in it
(`exists_maskFrom_insert`), and the same parentheses are open, those behind the place moved on by the
length of the white space (`enclosing_insert`). So each level is as it was, or has the white space in
it (`text_insert`).

If the place stands beside a parenthesis, the masked texts of the levels are `Widened`: the white
space in them stands beside the parenthesis or, where that is masked itself, goes on with other white
space. That is so for the levels before the cursor (`masked_insert`), and past it whether the place
stands before the cursor (`extended_insert`) or behind it (`extended_insert_behind`). A widened text
has the same clause, and the same tables unless the white space counts (`Widened.ofText_upper`).
-/

namespace SqlAssist

variable {w x r : Text}

/-! ### Masks -/

namespace Paren

theorem closes_insert (hw : IsGap w) (n : Nat) (x r : Text) :
    closes n (x ++ (w ++ r)) = closes n (x ++ r) := by
  induction x generalizing n with
  | nil => exact closes_closing_append hw.2.balanced n r
  | cons c x ih => simp only [List.cons_append, closes, ih]

/-- White space in a text is white space in the masked text. -/
theorem exists_maskFrom_insert (hw : IsGap w) (n : Nat) (x r : Text) :
    ∃ g, IsGap g ∧ maskFrom n (x ++ (w ++ r)) =
      (maskFrom n (x ++ r)).take x.length ++ (g ++ (maskFrom n (x ++ r)).drop x.length) := by
  induction x generalizing n with
  | nil =>
    cases n with
    | zero => exact ⟨w, hw, maskFrom_blank_append hw.2 r⟩
    | succ n =>
      have hblank : IsGap (Text.blank w) :=
        ⟨fun h => hw.1 (List.map_eq_nil_iff.mp h), Text.isBlank_blank w⟩
      exact ⟨Text.blank w, hblank, maskFrom_closing_append hw.2.balanced n r⟩
  | cons c x ih =>
    have hcons : ∀ (d : Char) (m : Nat), ∃ g, IsGap g ∧ d :: maskFrom m (x ++ (w ++ r)) =
        (d :: maskFrom m (x ++ r)).take (x.length + 1) ++
          (g ++ (d :: maskFrom m (x ++ r)).drop (x.length + 1)) := by
      intro d m
      obtain ⟨g, hg, hmask⟩ := ih m
      exact ⟨g, hg, congrArg (d :: ·) hmask⟩
    cases n with
    | zero =>
      rw [List.cons_append, List.cons_append, maskFrom, maskFrom, closes_insert hw]
      exact hcons _ _
    | succ n =>
      rw [List.cons_append, List.cons_append, maskFrom, maskFrom]
      split_ifs
      · exact hcons _ _
      · exact hcons _ _
      · exact hcons _ _
      · exact hcons _ _

/-- A character of a masked text is the one of the text, or else white space. -/
theorem getElem?_maskGroups_cases (t : Text) {i : Nat} {c d : Char} (h : t[i]? = some c)
    (hd : (maskGroups t)[i]? = some d) : d = c ∨ Text.isSpace d = true := by
  rw [getElem?_maskGroups t 0 i, h, Option.map_some, Option.some.injEq] at hd
  split_ifs at hd
  · rw [← hd]
    exact Or.inr (Text.isBlank_blank [c] _ List.mem_cons_self)
  · exact Or.inl hd.symm

theorem untilClosed_prefix (n : Nat) (t : Text) : untilClosed n t <+: t := by
  induction t generalizing n with
  | nil => exact List.prefix_refl []
  | cons c t ih =>
    rw [untilClosed]
    split_ifs
    · exact List.cons_prefix_cons.mpr ⟨rfl, ih _⟩
    · exact List.nil_prefix
    · exact List.cons_prefix_cons.mpr ⟨rfl, ih _⟩
    · exact List.cons_prefix_cons.mpr ⟨rfl, ih _⟩

end Paren

/-- The texts part in front of a parenthesis that opens a group, or of nothing, or behind one that
closes a group. -/
def PartAtParen (x r : Text) : Prop :=
  x.getLast? = some ')' ∨ ∀ c, r.head? = some c → c = '('

theorem PartAtParen.prefix_right {t : Text} (h : PartAtParen x r) (ht : t <+: r) : PartAtParen x t := by
  refine h.imp_right fun hr c hc => hr c ?_
  obtain ⟨u, rfl⟩ := ht
  rw [List.head?_append, hc]
  rfl

/-- The first of two masked texts is the second one with white space put in at a place where it has
no part in the levels: beside other white space, or at a parenthesis. -/
structure Widened (n : Nat) (s t : Text) : Prop where
  /-- White space is put in. -/
  exists_blank : ∃ g, IsBlank g ∧ s = t.take n ++ (g ++ t.drop n)
  /-- It goes on with other white space, or stands at a parenthesis. -/
  place : Relaid s t ∨ MeetAtParen (t.take n) (t.drop n)

namespace Widened

variable {n : Nat} {s t : Text}

theorem refl (n : Nat) (t : Text) : Widened n t t :=
  ⟨⟨[], .nil, (List.take_append_drop n t).symm⟩, Or.inl (.refl _ _ t)⟩

/-- White space that goes on with other white space is of no account. -/
theorem relaid_of_space {g u v : Text} (hg : IsGap g)
    (h : u.getLast?.any Text.isSpace = true ∨ v.head?.any Text.isSpace = true) :
    Relaid (u ++ (g ++ v)) (u ++ v) := by
  rcases h with h | h
  · cases hlast : u.getLast? with
    | none => simp [hlast] at h
    | some c =>
      have hc : Text.isSpace c = true := by simpa [hlast] using h
      obtain ⟨u, rfl⟩ := List.getLast?_eq_some_iff.mp hlast
      have hrun : Relaid ((c :: g) ++ v) ([c] ++ v) :=
        .gap ⟨List.cons_ne_nil _ _, hg.2.cons hc⟩ ⟨List.cons_ne_nil _ _, IsBlank.nil.cons hc⟩
          (.refl _ _ v)
      have happend := hrun.append_left u
      rwa [List.append_assoc, List.append_assoc]
  · cases v with
    | nil => cases h
    | cons c v =>
      have hc : Text.isSpace c = true := h
      have hblank : IsBlank (g ++ [c]) :=
        List.forall_mem_append.mpr ⟨hg.2, List.forall_mem_singleton.mpr hc⟩
      have hrun : Relaid ((g ++ [c]) ++ v) ([c] ++ v) :=
        .gap ⟨by simp, hblank⟩ ⟨List.cons_ne_nil _ _, IsBlank.nil.cons hc⟩ (.refl _ _ v)
      rw [List.append_assoc] at hrun
      exact hrun.append_left u

/-- Where a text parts at a parenthesis, its masked text does so too, or at the white space that the
mask makes of the parenthesis in a closed group. -/
theorem maskGroups_parts (h : PartAtParen x r) :
    let e := Paren.maskGroups (x ++ r)
    ((e.take x.length).getLast?.any Text.isSpace = true ∨
      (e.drop x.length).head?.any Text.isSpace = true) ∨
      MeetAtParen (e.take x.length) (e.drop x.length) := by
  intro e
  have hlength : List.length e = x.length + r.length := by
    rw [Paren.length_maskGroups, List.length_append]
  rcases h with h | h
  · obtain ⟨u, rfl⟩ := List.getLast?_eq_some_iff.mp h
    have hi : u.length < List.length e := by
      rw [hlength, List.length_append, List.length_singleton]
      omega
    have hlast : (e.take (u ++ [')']).length).getLast? = some e[u.length] := by
      simp [List.getLast?_take, List.getElem?_eq_getElem hi]
    have hclose : (u ++ [')'] ++ r)[u.length]? = some ')' := by simp
    rw [MeetAtParen, hlast]
    rcases Paren.getElem?_maskGroups_cases _ hclose (List.getElem?_eq_getElem hi) with hd | hd
    · rw [hd]
      exact Or.inr (Or.inl rfl)
    · exact Or.inl (Or.inl hd)
  · cases r with
    | nil =>
      have hnil : e.drop x.length = [] := List.drop_of_length_le (Nat.le_of_eq hlength)
      rw [hnil]
      exact Or.inr (Or.inr fun c hc => absurd hc.symm (Option.some_ne_none c))
    | cons c r =>
      obtain rfl : c = '(' := h c rfl
      have hi : x.length < List.length e := by
        rw [hlength, List.length_cons]
        omega
      have hopen : (x ++ '(' :: r)[x.length]? = some '(' := by simp
      have hdrop := List.drop_eq_getElem_cons hi
      rcases Paren.getElem?_maskGroups_cases _ hopen (List.getElem?_eq_getElem hi) with hd | hd
      · rw [hdrop, hd]
        exact Or.inr (Or.inr fun c hc => (Option.some.inj hc).symm)
      · rw [hdrop]
        exact Or.inl (Or.inr hd)

theorem of_maskGroups (hw : IsGap w) (h : PartAtParen x r) :
    Widened x.length (Paren.maskGroups (x ++ (w ++ r))) (Paren.maskGroups (x ++ r)) := by
  obtain ⟨g, hg, hmask⟩ := Paren.exists_maskFrom_insert hw 0 x r
  refine ⟨⟨g, hg.2, hmask⟩, (maskGroups_parts h).imp_left fun hspace => ?_⟩
  have hrelaid := relaid_of_space hg hspace
  rw [List.take_append_drop] at hrelaid
  rwa [Paren.maskGroups, hmask]

theorem eq_or_gap (h : Widened n s t) : s = t ∨ Relaid s t ∨
    ∃ g, IsGap g ∧ s = t.take n ++ (g ++ t.drop n) ∧ MeetAtParen (t.take n) (t.drop n) := by
  obtain ⟨⟨g, hg, hs⟩, hplace⟩ := h
  by_cases hne : g = []
  · rw [hne, List.nil_append, List.take_append_drop] at hs
    exact Or.inl hs
  · exact Or.inr (hplace.imp_right fun hmeet => ⟨g, ⟨hne, hg⟩, hs, hmeet⟩)

/-- A property of masked texts that white space does not change there. -/
theorem congr {α : Type} {f : Text → α} (h : Widened n s t) (hrelaid : Relaid s t → f s = f t)
    (hgap : ∀ w x r, IsGap w → MeetAtParen x r → f (x ++ (w ++ r)) = f (x ++ r)) : f s = f t := by
  rcases h.eq_or_gap with rfl | hsame | ⟨g, hg, hs, hmeet⟩
  · rfl
  · exact hrelaid hsame
  · have heq := hgap g _ _ hg hmeet
    rwa [← hs, List.take_append_drop] at heq

theorem any_startsClause (h : Widened n s t) :
    s.wordStarts.any Level.startsClause = t.wordStarts.any Level.startsClause :=
  h.congr (f := fun t => t.wordStarts.any Level.startsClause) Level.any_startsClause_relaid
    fun _ _ _ => Level.any_startsClause_gap

theorem any_isTargetOnly (h : Widened n s t) :
    (Text.afterEachKeywords Clause.insertWords s).any Clause.isTargetOnly =
      (Text.afterEachKeywords Clause.insertWords t).any Clause.isTargetOnly :=
  h.congr (f := fun t => (Text.afterEachKeywords Clause.insertWords t).any Clause.isTargetOnly)
    Clause.any_isTargetOnly_relaid fun _ _ _ => Clause.any_isTargetOnly_gap

theorem classify (h : Widened n s t) : Clause.classify s = Clause.classify t :=
  h.congr Clause.classify_alike fun _ _ _ => Clause.classify_gap

/-- The tables are the same unless the white space counts. -/
theorem ofText_upper (h : Widened n s t)
    (hc : ¬ Resolution.Counts (Text.upper (t.take n)) (Text.upper (t.drop n))) :
    Resolution.ofText s.upper = Resolution.ofText t.upper := by
  rcases h.eq_or_gap with rfl | hsame | ⟨g, hg, hs, hmeet⟩
  · rfl
  · exact Resolution.ofText_relaid (Text.upper_alike (fun _ => id) hsame)
  · have heq := Resolution.ofText_gap hg hmeet.upper hc
    rwa [← Text.upper_of_isBlank hg.2, ← Text.upper_append, ← Text.upper_append, ← Text.upper_append,
      ← hs, List.take_append_drop] at heq

end Widened

/-! ### Levels -/

namespace Paren

/-- Where a character stands when `n` others are put in at `a`. -/
def shifted (a n i : Nat) : Nat := if i < a then i else i + n

theorem opens_foldl_shifted {a n : Nat} {m m' : Pairing} (t : Text) (hoffset : m'.offset = m.offset + n)
    (ha : a ≤ m.offset) (hopens : m'.opens = m.opens.map (shifted a n)) :
    (t.foldl Pairing.step m').opens = (t.foldl Pairing.step m).opens.map (shifted a n) := by
  induction t generalizing m m' with
  | nil => exact hopens
  | cons c t ih =>
    rw [List.foldl_cons, List.foldl_cons]
    refine ih ?_ ?_ ?_
    · rw [Pairing.offset_step, Pairing.offset_step, hoffset, Nat.add_right_comm]
    · rw [Pairing.offset_step]
      exact Nat.le_succ_of_le ha
    · obtain ⟨b, is, ps⟩ := m
      obtain ⟨b', is', ps'⟩ := m'
      obtain rfl : b' = b + n := hoffset
      obtain rfl : is' = is.map (shifted a n) := hopens
      simp only [Pairing.step]
      split_ifs
      · have hb : shifted a n b = b + n := if_neg (Nat.not_lt.mpr ha)
        rw [List.map_cons, hb]
      · cases is <;> rfl
      · rfl

/-- White space moves the open parentheses behind it. -/
theorem enclosing_insert (hw : IsGap w) (p q : Text) :
    enclosing (p ++ (w ++ q)) = (enclosing (p ++ q)).map (shifted p.length w.length) := by
  have hfront : (Pairing.ofText p).opens.map (shifted p.length w.length) = (Pairing.ofText p).opens := by
    refine List.map_congr_left (fun i hi => ?_) |>.trans (List.map_id _)
    have hlt := ((Pairing.found_read 0 p).opens.2 i hi).2
    rw [Pairing.offset_read, Nat.zero_add] at hlt
    exact if_pos hlt
  have hgap : (w.foldl Pairing.step (Pairing.ofText p)).opens = (Pairing.ofText p).opens := by
    rw [Pairing.foldl_step_eq_under (Or.inl hw.2.balanced.atMost), Pairing.under,
      Pairing.opens_read_balanced hw.2.balanced]
    rfl
  have hopens : (Pairing.ofText (p ++ (w ++ q))).opens =
      (Pairing.ofText (p ++ q)).opens.map (shifted p.length w.length) := by
    rw [Pairing.ofText_append, List.foldl_append, Pairing.ofText_append]
    refine opens_foldl_shifted q ?_ ?_ ?_
    · rw [Pairing.offset_foldl]
    · rw [Pairing.offset_ofText]
    · rw [hgap, hfront]
  rwa [opens_ofText, opens_ofText, List.map_reverse, List.reverse_inj] at hopens

theorem depth_insert (hw : IsGap w) (p q : Text) : depth (p ++ (w ++ q)) = depth (p ++ q) := by
  rw [← length_enclosing, ← length_enclosing, enclosing_insert hw, List.length_map]

end Paren

namespace Level

variable {p q : Text} {k : Nat}

theorem start_atDepth {s : Text} {i : Nat} (h : (Paren.enclosing s)[k]? = some i) :
    (atDepth s (k + 1)).start = i + 1 := by
  show (Paren.enclosing s).getD k 0 + 1 = i + 1
  rw [List.getD_eq_getElem?_getD, h, Option.getD_some]

theorem start_insert (hw : IsGap w) (h : k ≤ Paren.depth (p ++ q)) :
    (atDepth (p ++ (w ++ q)) k).start =
      if (atDepth (p ++ q) k).start ≤ p.length then (atDepth (p ++ q) k).start
      else (atDepth (p ++ q) k).start + w.length := by
  cases k with
  | zero => exact (if_pos (Nat.zero_le _)).symm
  | succ k =>
    rw [← Paren.length_enclosing] at h
    have hopen := List.getElem?_eq_getElem h
    have hopen' : (Paren.enclosing (p ++ (w ++ q)))[k]? =
        some (Paren.shifted p.length w.length (Paren.enclosing (p ++ q))[k]) := by
      rw [Paren.enclosing_insert hw, List.getElem?_map, hopen, Option.map_some]
    rw [start_atDepth hopen, start_atDepth hopen', Paren.shifted]
    split_ifs <;> omega

theorem stop_insert (hw : IsGap w) (p q : Text) (k : Nat) :
    (atDepth (p ++ (w ++ q)) k).stop =
      if (atDepth (p ++ q) k).stop < p.length then (atDepth (p ++ q) k).stop
      else (atDepth (p ++ q) k).stop + w.length := by
  show (Paren.enclosing (p ++ (w ++ q))).getD k (p ++ (w ++ q)).length =
    if (Paren.enclosing (p ++ q)).getD k (p ++ q).length < p.length then
      (Paren.enclosing (p ++ q)).getD k (p ++ q).length
    else (Paren.enclosing (p ++ q)).getD k (p ++ q).length + w.length
  have hlength : (p ++ (w ++ q)).length = Paren.shifted p.length w.length (p ++ q).length := by
    simp only [Paren.shifted, List.length_append]
    split_ifs <;> omega
  rw [Paren.enclosing_insert hw, hlength, List.getD_map]
  rfl

/-- The texts part at a parenthesis as before if the first one is read from the start of a level on:
no level starts right behind a parenthesis that closes a group. -/
theorem partAtParen_drop_start {s c u : Text} (h : PartAtParen u r) (hk : k ≤ Paren.depth s)
    (hu : u <+: s ++ c) (hle : (atDepth s k).start ≤ u.length) :
    PartAtParen (u.drop (atDepth s k).start) r := by
  refine h.imp_left fun hlast => ?_
  suffices hne : (atDepth s k).start ≠ u.length by
    rw [List.getLast?_drop, if_neg (by omega), hlast]
  intro hstart
  cases k with
  | zero =>
    obtain rfl : u = [] := List.length_eq_zero_iff.mp hstart.symm
    cases hlast
  | succ k =>
    rw [← Paren.length_enclosing] at hk
    have hopen := Paren.getElem?_of_mem_enclosing (List.getElem_mem hk)
    have hplace : (Paren.enclosing s)[k] + 1 = u.length := by
      rw [← hstart, start_atDepth (List.getElem?_eq_getElem hk)]
    have hlt := (List.getElem?_eq_some_iff.mp hopen).1
    obtain ⟨v, hv⟩ := hu
    have hsame : (u ++ v)[(Paren.enclosing s)[k]]? = u[(Paren.enclosing s)[k]]? :=
      List.getElem?_append_left (by omega)
    rw [List.getLast?_eq_getElem?, ← hplace, Nat.add_sub_cancel, ← hsame, hv,
      List.getElem?_append_left hlt, hopen] at hlast
    exact absurd (Option.some.inj hlast) (by decide)

theorem text_insert (hw : IsGap w) (hk : k ≤ Paren.depth (p ++ q)) :
    (atDepth (p ++ (w ++ q)) k).text = (atDepth (p ++ q) k).text ∨
      (atDepth (p ++ q) k).start ≤ p.length ∧ ∃ m,
        (atDepth (p ++ q) k).text = p.drop (atDepth (p ++ q) k).start ++ q.take m ∧
        (atDepth (p ++ (w ++ q)) k).text = p.drop (atDepth (p ++ q) k).start ++ (w ++ q.take m) := by
  have hstart := start_insert hw hk
  have hstop := stop_insert hw p q k
  have hle := (start_le_stop_le hk).1
  have htext : ∀ s, (atDepth s k).text = (s.drop (atDepth s k).start).take
      ((atDepth s k).stop - (atDepth s k).start) := fun s => rfl
  rw [htext, htext, hstart, hstop]
  generalize (atDepth (p ++ q) k).start = a at hle ⊢
  generalize (atDepth (p ++ q) k).stop = b at hle ⊢
  by_cases ha : a ≤ p.length
  · rw [if_pos ha, List.drop_append_of_le_length ha, List.drop_append_of_le_length ha]
    by_cases hb : b < p.length
    · rw [if_pos hb, List.take_append_of_le_length (by simp; omega),
        List.take_append_of_le_length (by simp; omega)]
      exact Or.inl rfl
    · rw [if_neg hb]
      have hfront : (p.drop a).length = p.length - a := List.length_drop
      refine Or.inr ⟨ha, b - p.length, ?_, ?_⟩
      · rw [List.take_append, List.take_of_length_le (by omega), hfront]
        congr 2
        omega
      · rw [List.take_append, List.take_of_length_le (by omega), List.take_append,
          List.take_of_length_le (by omega), hfront]
        congr 3
        omega
  · have hlength : b + w.length - (a + w.length) = b - a := by omega
    rw [if_neg ha, if_neg (show ¬ b < p.length by omega), Text.drop_insert (by omega), hlength]
    exact Or.inl rfl

theorem masked_insert (hw : IsGap w) (h : PartAtParen p q) (hk : k ≤ Paren.depth (p ++ q)) :
    ∃ n, Widened n (atDepth (p ++ (w ++ q)) k).masked (atDepth (p ++ q) k).masked := by
  rw [masked, masked]
  rcases text_insert hw hk with htext | ⟨hle, m, htext, htext'⟩
  · rw [htext]
    exact ⟨0, .refl _ _⟩
  · rw [htext, htext']
    have hpart : PartAtParen p (q.take m) := h.prefix_right (List.take_prefix m q)
    exact ⟨_, .of_maskGroups hw (partAtParen_drop_start hpart hk (c := []) (by simp) hle)⟩

theorem extended_atDepth_eq (s c : Text) (k : Nat) :
    (atDepth s k).extended c = Paren.maskGroups
      (s.drop (atDepth s k).start ++ Paren.untilClosed (Paren.depth s - k) c) := by
  rw [← Paren.length_enclosing]
  rfl

theorem extended_insert (hw : IsGap w) {c : Text} (h : PartAtParen p (q ++ c))
    (hk : k ≤ Paren.depth (p ++ q)) :
    Widened (p.length - (atDepth (p ++ q) k).start) ((atDepth (p ++ (w ++ q)) k).extended c)
      ((atDepth (p ++ q) k).extended c) := by
  have hstart := start_insert hw hk
  rw [extended_atDepth_eq, extended_atDepth_eq, hstart, Paren.depth_insert hw]
  by_cases hle : (atDepth (p ++ q) k).start ≤ p.length
  · rw [if_pos hle, List.drop_append_of_le_length hle, List.drop_append_of_le_length hle,
      ← List.length_drop, List.append_assoc, List.append_assoc, List.append_assoc]
    have hpart : PartAtParen p (q ++ Paren.untilClosed (Paren.depth (p ++ q) - k) c) :=
      h.prefix_right ((List.prefix_append_right_inj q).mpr (Paren.untilClosed_prefix _ c))
    exact .of_maskGroups hw (partAtParen_drop_start hpart hk (c := []) (by simp) hle)
  · rw [if_neg hle, Text.drop_insert (by omega)]
    exact .refl _ _

theorem extended_insert_behind (hw : IsGap w) {s : Text} (h : PartAtParen (s ++ p) q)
    (hk : k ≤ Paren.depth s) :
    Widened (s.length + p.length - (atDepth s k).start) ((atDepth s k).extended (p ++ (w ++ q)))
      ((atDepth s k).extended (p ++ q)) := by
  have hle : (atDepth s k).start ≤ s.length := (start_le_stop_le hk).1.trans (start_le_stop_le hk).2
  rw [extended_atDepth_eq, extended_atDepth_eq]
  cases hcloses : Paren.closes (Paren.depth s - k) p with
  | true =>
    -- the level is closed in front of the white space
    obtain ⟨x, r, rfl, hx⟩ := Paren.closes_eq_true_iff.mp hcloses
    have huntil : ∀ t, Paren.untilClosed (Paren.depth s - k) ((x ++ ')' :: r) ++ t) = x := by
      intro t
      rw [List.append_assoc]
      exact Paren.untilClosed_closing hx (r ++ t)
    rw [huntil, huntil]
    exact .refl _ _
  | false =>
    have huntil := Paren.untilClosed_append ((Paren.closes_eq_false_iff _ p).mp hcloses)
    have hgap : ∀ n t, Paren.untilClosed n (w ++ t) = w ++ Paren.untilClosed n t :=
      Paren.untilClosed_closing_append hw.2.balanced
    have hlength : s.length + p.length - (atDepth s k).start =
        ((s ++ p).drop (atDepth s k).start).length := by
      rw [List.length_drop, List.length_append]
    have hsplit : ∀ t, s.drop (atDepth s k).start ++ (p ++ t) =
        (s ++ p).drop (atDepth s k).start ++ t := by
      intro t
      rw [List.drop_append_of_le_length hle, List.append_assoc]
    have hpart := h.prefix_right
      (Paren.untilClosed_prefix (p.foldl Paren.depthStep (Paren.depth s - k)) q)
    rw [huntil, huntil, hgap, hsplit, hsplit, hlength]
    refine .of_maskGroups hw (partAtParen_drop_start hpart hk (c := p) (List.prefix_refl _) ?_)
    rw [List.length_append]
    omega

end Level

end SqlAssist
