import SqlAssist.Proofs.Lists
import SqlAssist.Proofs.Sql.Matching

/-!
# Matches at the end of a text

A line feed behind a text changes little of what patterns match in it. Most patterns never look
whether the text ends (`Pattern.ignoresFeed`, which is computed): such a pattern matches what it
matched before, and what it matches besides takes the line feed (`Pattern.filter_ends_feed`). If it
cannot end with a line feed, nothing changes (`Pattern.ends_feed`).

Of other patterns it only counts how far the best match reaches inside the text
(`Pattern.IsSteadyAt`).
-/

namespace SqlAssist

/-- The spot with a line feed behind the text. -/
def Spot.feed (s : Spot) : Spot :=
  { s with rest := s.rest ++ ['\n'] }

/-- The text goes on behind the spot. -/
def Spot.hasRest (s : Spot) : Bool :=
  !s.rest.isEmpty

@[simp] theorem Spot.hasRest_feed (s : Spot) : s.feed.hasRest = true := by
  simp [Spot.hasRest, Spot.feed]

theorem Spot.rest_of_not_hasRest {s : Spot} (h : s.hasRest = false) : s.rest = [] := by
  simpa [Spot.hasRest] using h

namespace Pattern

variable {a b : Pattern} {s e : Spot} {x : Text}

/-! ### The last character of a match -/

/-- Some test that the pattern can end with admits the character. -/
def canEnd (c : Char) : Pattern → Bool
  | one p => p c
  | seq a b => b.canEnd c || (b.canSkip && a.canEnd c)
  | alt a b => a.canEnd c || b.canEnd c
  | many a | reluctant a => a.canEnd c
  | empty | ahead _ | notAhead _ | behind _ | notBehind _ | wordEdge | textEnd => false

/-- A match ends with a character that a last test admits. -/
theorem Takes.canEnd {c : Char} (h : a.Takes s x e) (hc : x.getLast? = some c) :
    a.canEnd c = true := by
  induction h with
  | empty _ | manyNil _ _ | reluctantNil _ _ | test _ _ => cases hc
  | one _ hp =>
    obtain rfl := Option.some.inj hc
    exact hp
  | @seq _ _ _ _ _ _ y _ hb iha ihb =>
    rw [Pattern.canEnd, Bool.or_eq_true, Bool.and_eq_true]
    rw [List.getLast?_append] at hc
    cases hy : y.getLast? with
    | none =>
      rw [hy] at hc
      exact Or.inr ⟨(hb.canSkip (List.getLast?_eq_none_iff.mp hy)).1, iha hc⟩
    | some d =>
      rw [hy] at hc
      exact Or.inl (ihb (hy.trans hc))
  | altLeft _ ih => rw [Pattern.canEnd, ih hc, Bool.true_or]
  | altRight _ ih => rw [Pattern.canEnd, ih hc, Bool.or_true]
  | @manyCons _ _ _ _ _ y _ _ ha hrest | @reluctantCons _ _ _ _ _ y _ _ ha hrest =>
    rw [List.getLast?_append] at hc
    cases hy : y.getLast? with
    | none =>
      rw [hy] at hc
      exact ha hc
    | some d =>
      rw [hy] at hc
      exact hrest (hy.trans hc)

/-- A pattern that cannot end with a line feed leaves the one behind the text. -/
theorem hasRest_of_mem_ends_feed (ha : a.canEnd '\n' = false) (h : e ∈ a.ends s.feed) :
    e.hasRest = true := by
  by_contra hrest
  obtain ⟨x, hx, -⟩ := exists_moves h
  have hlast : x.getLast? = some '\n' := by
    have hall := hx.rest
    rw [Spot.rest_of_not_hasRest (Bool.eq_false_iff.mpr hrest), List.append_nil] at hall
    rw [← hall]
    exact List.getLast?_concat
  rw [(takes_of_moves h hx).canEnd hlast] at ha
  cases ha

/-! ### Patterns that ignore the line feed -/

/-- The pattern does not look whether the text ends: a repetition takes a character each time, and
what is looked for ahead does not end with a line feed. -/
def ignoresFeed : Pattern → Bool
  | seq a b | alt a b => a.ignoresFeed && b.ignoresFeed
  | many a | reluctant a => a.ignoresFeed && !a.canSkip
  | ahead a | notAhead a => a.ignoresFeed && !a.canEnd '\n'
  | textEnd => false
  | empty | one _ | behind _ | notBehind _ | wordEdge => true

/-- Only from places in the text can places in the text be reached. -/
theorem filter_flatMap_feed {l' l : List Spot} {f g : Spot → List Spot}
    (hl : l'.filter Spot.hasRest = l.map Spot.feed)
    (hend : ∀ e, e.hasRest = false → (f e).filter Spot.hasRest = [])
    (hf : ∀ e ∈ l, (f e.feed).filter Spot.hasRest = (g e).map Spot.feed) :
    (l'.flatMap f).filter Spot.hasRest = (l.flatMap g).map Spot.feed := by
  have hdrop : ∀ m : List Spot, (m.flatMap f).filter Spot.hasRest =
      (m.filter Spot.hasRest).flatMap fun e => (f e).filter Spot.hasRest := by
    intro m
    induction m with
    | nil => rfl
    | cons e m ih =>
      rw [List.flatMap_cons, List.filter_append, ih]
      cases he : e.hasRest with
      | true => rw [List.filter_cons_of_pos he, List.flatMap_cons]
      | false => rw [hend e he, List.filter_cons_of_neg (by simp [he]), List.nil_append]
  rw [hdrop, hl, List.flatMap_map, List.map_flatMap]
  exact List.flatMap_congr hf

theorem filter_ends_of_not_hasRest (a : Pattern) (hs : s.hasRest = false) :
    (a.ends s).filter Spot.hasRest = [] := by
  refine List.filter_eq_nil_iff.mpr fun e he => ?_
  have hle := length_rest_le he
  rw [Spot.rest_of_not_hasRest hs] at hle
  simp [Spot.hasRest, List.length_eq_zero_iff.mp (Nat.le_zero.mp hle)]

section Repetitions

variable {step : Spot → List Spot} {fuel fuel' : Text}

theorem step_eq_nil (hlt : ∀ s, ∀ e ∈ step s, e.rest.length < s.rest.length) (hs : s.rest = []) :
    step s = [] := by
  refine List.eq_nil_iff_forall_not_mem.mpr fun e he => ?_
  have := hlt s e he
  rw [hs] at this
  exact absurd this (Nat.not_lt_zero _)

theorem repeatMany_of_no_step (h : step s = []) : repeatMany step fuel s [] = [s] := by
  cases fuel with
  | nil => rfl
  | cons c fuel => rw [repeatMany_cons, h, List.flatMap_nil, List.nil_append]

theorem repeatReluctant_of_no_step (h : step s = []) : repeatReluctant step fuel s [] = [s] := by
  cases fuel with
  | nil => rfl
  | cons c fuel => rw [repeatReluctant_cons, h, List.flatMap_nil]

/-- With a round for each character left, a repetition ends where no step can be taken. -/
theorem repeatMany_eq_rounds (hlt : ∀ s, ∀ e ∈ step s, e.rest.length < s.rest.length)
    (hfuel : s.rest.length ≤ fuel.length) :
    repeatMany step fuel s [] = (step s).flatMap (repeatMany step fuel.tail · []) ++ [s] := by
  cases fuel with
  | nil =>
    have hs : step s = [] := step_eq_nil hlt (List.length_eq_zero_iff.mp (Nat.le_zero.mp hfuel))
    rw [hs]
    rfl
  | cons c fuel => exact repeatMany_cons step c fuel s

theorem repeatReluctant_eq_rounds (hlt : ∀ s, ∀ e ∈ step s, e.rest.length < s.rest.length)
    (hfuel : s.rest.length ≤ fuel.length) :
    repeatReluctant step fuel s [] =
      s :: (step s).flatMap (repeatReluctant step fuel.tail · []) := by
  cases fuel with
  | nil =>
    have hs : step s = [] := step_eq_nil hlt (List.length_eq_zero_iff.mp (Nat.le_zero.mp hfuel))
    rw [hs]
    rfl
  | cons c fuel => exact repeatReluctant_cons step c fuel s

/-- A step that ignores the line feed, and the rounds after it. -/
theorem filter_rounds_feed {rounds' rounds : Spot → List Spot}
    (hstep : ∀ s, (step s.feed).filter Spot.hasRest = (step s).map Spot.feed)
    (hlt : ∀ s, ∀ e ∈ step s, e.rest.length < s.rest.length)
    (hlast : ∀ e, step e = [] → rounds' e = [e])
    (hnext : ∀ e ∈ step s, (rounds' e.feed).filter Spot.hasRest = (rounds e).map Spot.feed) :
    ((step s.feed).flatMap rounds').filter Spot.hasRest =
      ((step s).flatMap rounds).map Spot.feed := by
  refine filter_flatMap_feed (hstep s) (fun e he => ?_) hnext
  rw [hlast e (step_eq_nil hlt (Spot.rest_of_not_hasRest he)), List.filter_singleton, he]
  rfl

/-- Where steps take a character each time and ignore the line feed, any number of steps does. The
line feed is one character more, and takes one round more. -/
theorem filter_repeatMany_feed
    (hstep : ∀ s, (step s.feed).filter Spot.hasRest = (step s).map Spot.feed)
    (hlt : ∀ s, ∀ e ∈ step s, e.rest.length < s.rest.length)
    (hfuel' : s.rest.length < fuel'.length) (hfuel : s.rest.length ≤ fuel.length) :
    (repeatMany step fuel' s.feed []).filter Spot.hasRest =
      (repeatMany step fuel s []).map Spot.feed := by
  induction fuel' generalizing fuel s with
  | nil => exact absurd hfuel' (Nat.not_lt_zero _)
  | cons c fuel' ih =>
    have hnext : ∀ e ∈ step s, (repeatMany step fuel' e.feed []).filter Spot.hasRest =
        (repeatMany step fuel.tail e []).map Spot.feed := by
      intro e he
      have hle := hlt s e he
      rw [List.length_cons] at hfuel'
      refine ih (by omega) ?_
      rw [List.length_tail]
      omega
    rw [repeatMany_cons, repeatMany_eq_rounds hlt hfuel, List.filter_append, List.map_append,
      filter_rounds_feed hstep hlt (fun _ => repeatMany_of_no_step) hnext]
    simp

theorem filter_repeatReluctant_feed
    (hstep : ∀ s, (step s.feed).filter Spot.hasRest = (step s).map Spot.feed)
    (hlt : ∀ s, ∀ e ∈ step s, e.rest.length < s.rest.length)
    (hfuel' : s.rest.length < fuel'.length) (hfuel : s.rest.length ≤ fuel.length) :
    (repeatReluctant step fuel' s.feed []).filter Spot.hasRest =
      (repeatReluctant step fuel s []).map Spot.feed := by
  induction fuel' generalizing fuel s with
  | nil => exact absurd hfuel' (Nat.not_lt_zero _)
  | cons c fuel' ih =>
    have hnext : ∀ e ∈ step s, (repeatReluctant step fuel' e.feed []).filter Spot.hasRest =
        (repeatReluctant step fuel.tail e []).map Spot.feed := by
      intro e he
      have hle := hlt s e he
      rw [List.length_cons] at hfuel'
      refine ih (by omega) ?_
      rw [List.length_tail]
      omega
    rw [repeatReluctant_cons, repeatReluctant_eq_rounds hlt hfuel,
      List.filter_cons_of_pos (Spot.hasRest_feed s), List.map_cons,
      filter_rounds_feed hstep hlt (fun _ => repeatReluctant_of_no_step) hnext]

end Repetitions

theorem eq_map_feed (hend : a.canEnd '\n' = false)
    (hends : (a.ends s.feed).filter Spot.hasRest = (a.ends s).map Spot.feed) :
    a.ends s.feed = (a.ends s).map Spot.feed := by
  rw [← hends, eq_comm, List.filter_eq_self]
  exact fun e => hasRest_of_mem_ends_feed hend

/-- What ignores the line feed matches what it matches without it, and besides only what takes the
line feed. -/
theorem filter_ends_feed (h : a.ignoresFeed = true) (s : Spot) :
    (a.ends s.feed).filter Spot.hasRest = (a.ends s).map Spot.feed := by
  induction a generalizing s with
  | empty => exact List.filter_cons_of_pos (Spot.hasRest_feed s)
  | one p =>
    obtain ⟨offset, before, rest⟩ := s
    cases rest with
    | nil =>
      simp only [ends, endsBefore, Spot.feed, List.nil_append]
      split_ifs <;> rfl
    | cons c r =>
      simp only [ends, endsBefore, Spot.feed, List.cons_append]
      split_ifs
      · exact List.filter_cons_of_pos (Spot.hasRest_feed ⟨offset + 1, some c, r⟩)
      · rfl
  | seq a b iha ihb =>
    obtain ⟨ha, hb⟩ := (Bool.and_eq_true _ _).mp h
    rw [ends_seq, ends_seq]
    exact filter_flatMap_feed (iha ha s) (fun e => filter_ends_of_not_hasRest b) fun e _ => ihb hb e
  | alt a b iha ihb =>
    obtain ⟨ha, hb⟩ := (Bool.and_eq_true _ _).mp h
    rw [ends_alt, ends_alt, List.filter_append, List.map_append, iha ha, ihb hb]
  | many a ih =>
    obtain ⟨ha, hskip⟩ := (Bool.and_eq_true _ _).mp h
    have hlt : ∀ s, ∀ e ∈ a.ends s, e.rest.length < s.rest.length := fun s e =>
      length_rest_lt (by simpa using hskip)
    exact filter_repeatMany_feed (ih ha) hlt (by simp [Spot.feed]) (Nat.le_refl _)
  | reluctant a ih =>
    obtain ⟨ha, hskip⟩ := (Bool.and_eq_true _ _).mp h
    have hlt : ∀ s, ∀ e ∈ a.ends s, e.rest.length < s.rest.length := fun s e =>
      length_rest_lt (by simpa using hskip)
    exact filter_repeatReluctant_feed (ih ha) hlt (by simp [Spot.feed]) (Nat.le_refl _)
  | ahead a ih | notAhead a ih =>
    obtain ⟨ha, hend⟩ := (Bool.and_eq_true _ _).mp h
    have hends : a.ends s.feed = (a.ends s).map Spot.feed :=
      eq_map_feed (by simpa using hend) (ih ha s)
    have hempty : (a.endsBefore s.feed []).isEmpty = (a.endsBefore s []).isEmpty :=
      (congrArg List.isEmpty hends).trans List.isEmpty_map
    rw [ends, ends, endsBefore, endsBefore, hempty]
    split_ifs <;> simp
  | behind p | notBehind p =>
    have hbefore : s.feed.before = s.before := rfl
    rw [ends, ends, endsBefore, endsBefore, hbefore]
    split_ifs <;> simp
  | wordEdge =>
    have hrest : s.feed.rest.head?.any Text.isWordChar = s.rest.head?.any Text.isWordChar := by
      obtain ⟨offset, before, rest⟩ := s
      cases rest with
      | nil => rfl
      | cons c r => rfl
    have hbefore : s.feed.before = s.before := rfl
    rw [ends, ends, endsBefore, endsBefore, hbefore, hrest]
    split_ifs <;> simp
  | textEnd => cases h

/-- What ignores the line feed and cannot end with one matches what it matches without it. -/
theorem ends_feed (h : a.ignoresFeed = true) (hend : a.canEnd '\n' = false) (s : Spot) :
    a.ends s.feed = (a.ends s).map Spot.feed :=
  eq_map_feed hend (filter_ends_feed h s)

/-! ### How far a best match reaches -/

theorem length?_le {n : Nat} (h : a.length? s = some n) : n ≤ s.rest.length := by
  obtain ⟨x, e, -, hx, rfl⟩ := exists_moves_of_length? h
  rw [hx.rest, List.length_append]
  omega

/-- With a line feed behind the text the best match reaches as far inside the text as without it. -/
def IsSteadyAt (a : Pattern) (s : Spot) : Prop :=
  (a.length? s.feed).map (min · s.rest.length) = a.length? s

theorem isSteadyAt_of_ignoresFeed (h : a.ignoresFeed = true) (hend : a.canEnd '\n' = false)
    (s : Spot) : a.IsSteadyAt s := by
  have hlength : a.length? s.feed = a.length? s := by
    rw [length?, ends_feed h hend, List.head?_map, Option.map_map]
    rfl
  rw [IsSteadyAt, hlength]
  cases hn : a.length? s with
  | none => rfl
  | some n => exact congrArg some (Nat.min_eq_left (length?_le hn))

theorem length?_one (p : Char → Bool) (s : Spot) :
    (one p).length? s = if s.rest.head?.any p then some 1 else none := by
  obtain ⟨offset, before, rest⟩ := s
  cases rest with
  | nil => rfl
  | cons c r =>
    by_cases hc : p c = true
    · simp [length?, ends, endsBefore, hc]
    · simp [length?, ends, endsBefore, hc]

theorem isSteadyAt_one (p : Char → Bool) (hs : s.rest ≠ []) : (one p).IsSteadyAt s := by
  obtain ⟨offset, before, rest⟩ := s
  obtain ⟨c, r, rfl⟩ := List.exists_cons_of_ne_nil hs
  rw [IsSteadyAt, length?_one, length?_one]
  by_cases hc : p c = true
  · simp [Spot.feed, hc]
  · simp [Spot.feed, hc]

/-- Two patterns match together from the first match of the one that the other goes on from. -/
theorem length?_seq (a b : Pattern) (s : Spot) :
    (seq a b).length? s =
      (a.ends s).findSome? fun m => (b.length? m).map (m.offset - s.offset + ·) := by
  have hhead : ∀ m ∈ a.ends s, ((b.ends m).head?.map fun e => e.offset - s.offset) =
      (b.length? m).map (m.offset - s.offset + ·) := by
    intro m hm
    obtain ⟨x, hx, -⟩ := exists_moves hm
    rw [length?, Option.map_map]
    refine Option.map_congr fun e he => ?_
    obtain ⟨y, hy, -⟩ := exists_moves (List.mem_of_head? he)
    rw [Function.comp_apply, hy.offset, hx.offset]
    omega
  rw [length?, ends_seq, List.head?_flatMap, List.map_findSome?]
  exact findSome?_congr hhead

/-- A pattern that leaves the line feed may stand before any other. -/
theorem isSteadyAt_seq (ha : a.ignoresFeed = true) (hend : a.canEnd '\n' = false)
    (hb : ∀ m ∈ a.ends s, b.IsSteadyAt m) : (seq a b).IsSteadyAt s := by
  rw [IsSteadyAt, length?_seq, length?_seq, ends_feed ha hend, List.findSome?_map,
    List.map_findSome?]
  refine findSome?_congr fun m hm => ?_
  obtain ⟨x, hx, -⟩ := exists_moves hm
  -- Both reach as far behind the first match, which lies in the text.
  rw [Function.comp_apply, Function.comp_apply, ← hb m hm, Option.map_map, Option.map_map]
  refine Option.map_congr fun n _ => ?_
  simp only [Function.comp_apply, Spot.feed, hx.rest, hx.offset, List.length_append]
  omega

end Pattern

end SqlAssist
