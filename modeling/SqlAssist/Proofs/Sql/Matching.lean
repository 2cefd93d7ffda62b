import SqlAssist.Sql.Pattern
import Mathlib.Data.List.Basic
import Mathlib.Logic.Relation
import Mathlib.Tactic.SplitIfs

/-!
# What patterns match

Matching lists the ends of all matches, best first, by putting them in front of a list
of others. For what a pattern can match the order does not matter: the list is described
by its members, one equivalence for each constructor (`mem_ends_seq`, `mem_ends_alt` and
so on), with a chain of matches for a repetition (`reflTransGen_of_mem_ends_many`).

How a match is put together is the relation `Pattern.Takes`, with the outcome of tests left
open; each end that is listed has such a match (`exists_takes_of_mem_ends`). What is computed
from the shape of a pattern is proved by induction on it, with one case for a round of a
repetition: the pieces are made of the characters that one of the tests admits (`Takes.uses`),
and they begin with a character that one of the first tests admits (`Takes.canStart`). With
these a rule is ruled out, or a piece of it is known to be free of quotes, by evaluation.
-/

namespace SqlAssist

/-- From the spot to another one the text goes on by `x`. -/
structure Spot.Moves (s : Spot) (x : Text) (e : Spot) : Prop where
  /-- What follows is `x` and then what follows at the end. -/
  rest : s.rest = x ++ e.rest
  /-- The offset grows by as many characters. -/
  offset : e.offset = s.offset + x.length

namespace Spot.Moves

variable {s m e : Spot} {x y : Text}

theorem refl (s : Spot) : s.Moves [] s := ⟨rfl, rfl⟩

theorem trans (h : s.Moves x m) (h' : m.Moves y e) : s.Moves (x ++ y) e where
  rest := by rw [h.rest, h'.rest, List.append_assoc]
  offset := by
    rw [h'.offset, h.offset, List.length_append]
    omega

theorem unique (h : s.Moves x e) (h' : s.Moves y e) : x = y :=
  List.append_cancel_right (h.rest.symm.trans h'.rest)

theorem take_length (h : s.Moves x e) : s.rest.take x.length = x := by
  rw [h.rest, List.take_left]

end Spot.Moves

namespace Pattern

variable {a b : Pattern} {p : Char → Bool} {s e : Spot}

/-! ### The list of ends -/

/-- What puts its own results in front of others does so along a list. -/
theorem foldr_eq_flatMap {f : Spot → List Spot → List Spot} (hf : ∀ s o, f s o = f s [] ++ o)
    (l others : List Spot) : l.foldr f others = l.flatMap (f · []) ++ others := by
  induction l with
  | nil => rfl
  | cons s l ih => rw [List.foldr_cons, hf, ih, List.flatMap_cons, List.append_assoc]

theorem repeatMany_eq_append (step : Spot → List Spot) (fuel : Text) (s : Spot)
    (others : List Spot) :
    repeatMany step fuel s others = repeatMany step fuel s [] ++ others := by
  induction fuel generalizing s others with
  | nil => rfl
  | cons c fuel ih =>
    rw [repeatMany, repeatMany, foldr_eq_flatMap ih, foldr_eq_flatMap ih _ [s], List.append_assoc]
    rfl

theorem repeatReluctant_eq_append (step : Spot → List Spot) (fuel : Text) (s : Spot)
    (others : List Spot) :
    repeatReluctant step fuel s others = repeatReluctant step fuel s [] ++ others := by
  induction fuel generalizing s others with
  | nil => rfl
  | cons c fuel ih =>
    rw [repeatReluctant, repeatReluctant, foldr_eq_flatMap ih, foldr_eq_flatMap ih _ []]
    simp

theorem repeatMany_cons (step : Spot → List Spot) (c : Char) (fuel : Text) (s : Spot) :
    repeatMany step (c :: fuel) s [] = (step s).flatMap (repeatMany step fuel · []) ++ [s] := by
  rw [repeatMany, foldr_eq_flatMap (repeatMany_eq_append step fuel)]

theorem repeatReluctant_cons (step : Spot → List Spot) (c : Char) (fuel : Text) (s : Spot) :
    repeatReluctant step (c :: fuel) s [] =
      s :: (step s).flatMap (repeatReluctant step fuel · []) := by
  rw [repeatReluctant, foldr_eq_flatMap (repeatReluctant_eq_append step fuel), List.append_nil]

theorem endsBefore_eq_append (a : Pattern) (s : Spot) (others : List Spot) :
    a.endsBefore s others = a.ends s ++ others := by
  unfold ends
  induction a generalizing s others with
  | empty => rfl
  | one p =>
    rw [endsBefore, endsBefore]
    split
    · split_ifs <;> rfl
    · rfl
  | seq a b iha ihb =>
    rw [endsBefore, endsBefore, foldr_eq_flatMap ihb, foldr_eq_flatMap ihb _ [], List.append_nil]
  | alt a b iha ihb =>
    rw [endsBefore, endsBefore, iha, ihb, iha s (b.endsBefore s []), List.append_assoc]
  | many a _ => exact repeatMany_eq_append _ _ _ _
  | reluctant a _ => exact repeatReluctant_eq_append _ _ _ _
  | ahead a _ | notAhead a _ =>
    rw [endsBefore, endsBefore]
    split_ifs <;> rfl
  | behind p | notBehind p | wordEdge | textEnd =>
    rw [endsBefore, endsBefore]
    split_ifs <;> rfl

theorem ends_seq (a b : Pattern) (s : Spot) : (seq a b).ends s = (a.ends s).flatMap b.ends := by
  rw [ends, endsBefore, foldr_eq_flatMap (endsBefore_eq_append b · ·), List.append_nil]
  rfl

theorem ends_alt (a b : Pattern) (s : Spot) : (alt a b).ends s = a.ends s ++ b.ends s := by
  rw [ends, endsBefore, endsBefore_eq_append]
  rfl

/-! ### Members -/

theorem mem_ends_empty : e ∈ empty.ends s ↔ e = s := List.mem_singleton

theorem mem_ends_one :
    e ∈ (one p).ends s ↔ ∃ c r, s.rest = c :: r ∧ p c = true ∧ e = ⟨s.offset + 1, some c, r⟩ := by
  rw [ends, endsBefore]
  cases h : s.rest with
  | nil => simp
  | cons c r =>
    by_cases hc : p c = true
    · simp [hc]
    · simp [hc]

theorem mem_ends_seq : e ∈ (seq a b).ends s ↔ ∃ m ∈ a.ends s, e ∈ b.ends m := by
  rw [ends_seq, List.mem_flatMap]

theorem mem_ends_alt : e ∈ (alt a b).ends s ↔ e ∈ a.ends s ∨ e ∈ b.ends s := by
  rw [ends_alt, List.mem_append]

theorem mem_ends_all_cons {as : List Pattern} :
    e ∈ (all (a :: as)).ends s ↔ ∃ m ∈ a.ends s, e ∈ (all as).ends m := by
  cases as with
  | nil =>
    simp only [all, mem_ends_empty]
    simp
  | cons b as => exact mem_ends_seq

theorem mem_ends_any_cons {as : List Pattern} :
    e ∈ (any (a :: as)).ends s ↔ e ∈ a.ends s ∨ e ∈ (any as).ends s := by
  cases as with
  | nil =>
    have : (any []).ends s = [] := rfl
    rw [this]
    simp [any]
  | cons b as => exact mem_ends_alt

theorem mem_ends_all_append {as bs : List Pattern} :
    e ∈ (all (as ++ bs)).ends s ↔ ∃ m ∈ (all as).ends s, e ∈ (all bs).ends m := by
  induction as generalizing s with
  | nil =>
    simp only [all, mem_ends_empty]
    simp
  | cons a as ih =>
    rw [List.cons_append, mem_ends_all_cons]
    constructor
    · rintro ⟨m, hm, he⟩
      obtain ⟨m', hm', he⟩ := ih.mp he
      exact ⟨m', mem_ends_all_cons.mpr ⟨m, hm, hm'⟩, he⟩
    · rintro ⟨m', hm', he⟩
      obtain ⟨m, hm, hm'⟩ := mem_ends_all_cons.mp hm'
      exact ⟨m, hm, ih.mpr ⟨m', hm', he⟩⟩

/-- The pattern only looks at where the spot is. -/
def isTest : Pattern → Bool
  | ahead _ | notAhead _ | behind _ | notBehind _ | wordEdge | textEnd => true
  | empty | one _ | seq _ _ | alt _ _ | many _ | reluctant _ => false

theorem eq_of_mem_ends_of_test (ha : a.isTest = true) (h : e ∈ a.ends s) : e = s := by
  rw [ends] at h
  cases a with
  | empty | one _ | seq _ _ | alt _ _ | many _ | reluctant _ => cases ha
  | ahead _ | notAhead _ | behind _ | notBehind _ | wordEdge | textEnd =>
    rw [endsBefore] at h
    split_ifs at h
    all_goals first
      | exact List.mem_singleton.mp h
      | exact absurd h List.not_mem_nil

/-- The ends of a repetition come by matches one after the other. -/
theorem reflTransGen_of_mem_repeatMany {step : Spot → List Spot} {fuel : Text}
    (h : e ∈ repeatMany step fuel s []) : Relation.ReflTransGen (fun x y => y ∈ step x) s e := by
  induction fuel generalizing s with
  | nil =>
    obtain rfl := List.mem_singleton.mp h
    exact .refl
  | cons c fuel ih =>
    rw [repeatMany_cons, List.mem_append, List.mem_flatMap, List.mem_singleton] at h
    rcases h with ⟨m, hm, he⟩ | rfl
    · exact .head hm (ih he)
    · exact .refl

theorem reflTransGen_of_mem_repeatReluctant {step : Spot → List Spot} {fuel : Text}
    (h : e ∈ repeatReluctant step fuel s []) : Relation.ReflTransGen (fun x y => y ∈ step x) s e := by
  induction fuel generalizing s with
  | nil =>
    obtain rfl := List.mem_singleton.mp h
    exact .refl
  | cons c fuel ih =>
    rw [repeatReluctant_cons, List.mem_cons, List.mem_flatMap] at h
    rcases h with rfl | ⟨m, hm, he⟩
    · exact .refl
    · exact .head hm (ih he)

theorem reflTransGen_of_mem_ends_many (h : e ∈ (many a).ends s) :
    Relation.ReflTransGen (fun x y => y ∈ a.ends x) s e := reflTransGen_of_mem_repeatMany h

theorem reflTransGen_of_mem_ends_reluctant (h : e ∈ (reluctant a).ends s) :
    Relation.ReflTransGen (fun x y => y ∈ a.ends x) s e := reflTransGen_of_mem_repeatReluctant h

/-- A repetition gets past any characters that it can match one by one. -/
theorem exists_mem_ends_many {v w : Text} (hstep : ∀ m c r, m.rest = c :: r → p c = true →
    ∃ m' ∈ a.ends m, m'.rest = r) (hs : s.rest = v ++ w) (hv : ∀ c ∈ v, p c = true) :
    ∃ m ∈ (many a).ends s, m.rest = w := by
  have hrun : ∀ (fuel v : Text) (s : Spot), s.rest = v ++ w → (∀ c ∈ v, p c = true) →
      v.length ≤ fuel.length → ∃ m ∈ repeatMany (a.endsBefore · []) fuel s [], m.rest = w := by
    intro fuel
    induction fuel with
    | nil =>
      intro v s hs _ hl
      obtain rfl : v = [] := List.length_eq_zero_iff.mp (Nat.le_zero.mp hl)
      exact ⟨s, List.mem_singleton.mpr rfl, hs⟩
    | cons f fuel ih =>
      intro v s hs hv hl
      rw [repeatMany_cons]
      cases v with
      | nil => exact ⟨s, by simp, hs⟩
      | cons c v =>
        obtain ⟨hc, hv⟩ := List.forall_mem_cons.mp hv
        obtain ⟨m, hm, hrest⟩ := hstep s c (v ++ w) hs hc
        obtain ⟨m', hm', hw⟩ := ih v m hrest hv (Nat.le_of_succ_le_succ hl)
        exact ⟨m', List.mem_append_left _ (List.mem_flatMap.mpr ⟨m, hm, hm'⟩), hw⟩
  refine hrun s.rest v s hs hv ?_
  rw [hs, List.length_append]
  omega

/-! ### How a match is put together -/

/-- The pattern can match the piece between the two spots. What tests find is left open, so more
pieces are taken than matched. -/
inductive Takes : Pattern → Spot → Text → Spot → Prop
  /-- The empty piece. -/
  | empty (s : Spot) : Takes empty s [] s
  /-- The character that follows. -/
  | one {p : Char → Bool} {s : Spot} {c : Char} {r : Text} :
      s.rest = c :: r → p c = true → Takes (one p) s [c] ⟨s.offset + 1, some c, r⟩
  /-- A piece of the first, then one of the second. -/
  | seq {a b : Pattern} {s m e : Spot} {x y : Text} :
      Takes a s x m → Takes b m y e → Takes (seq a b) s (x ++ y) e
  /-- A piece of the first. -/
  | altLeft {a b : Pattern} {s e : Spot} {x : Text} : Takes a s x e → Takes (alt a b) s x e
  /-- A piece of the second. -/
  | altRight {a b : Pattern} {s e : Spot} {x : Text} : Takes b s x e → Takes (alt a b) s x e
  /-- No round. -/
  | manyNil (a : Pattern) (s : Spot) : Takes (many a) s [] s
  /-- A round, then more of them. -/
  | manyCons {a : Pattern} {s m e : Spot} {x y : Text} :
      Takes a s x m → Takes (many a) m y e → Takes (many a) s (x ++ y) e
  /-- No round of the reluctant repetition. -/
  | reluctantNil (a : Pattern) (s : Spot) : Takes (reluctant a) s [] s
  /-- A round of it, then more of them. -/
  | reluctantCons {a : Pattern} {s m e : Spot} {x y : Text} :
      Takes a s x m → Takes (reluctant a) m y e → Takes (reluctant a) s (x ++ y) e
  /-- A look at where the spot is, whatever it finds. -/
  | test {a : Pattern} (s : Spot) : a.isTest = true → Takes a s [] s

theorem Takes.moves {x : Text} (h : a.Takes s x e) : s.Moves x e := by
  induction h with
  | empty _ | manyNil _ _ | reluctantNil _ _ | test _ _ => exact .refl _
  | one hs _ => exact ⟨hs, rfl⟩
  | seq _ _ ha hb | manyCons _ _ ha hb | reluctantCons _ _ ha hb => exact ha.trans hb
  | altLeft _ ih | altRight _ ih => exact ih

/-- Pieces taken one after the other are taken by the repetition. -/
theorem exists_takes_many (h : Relation.ReflTransGen (fun s e => ∃ x, a.Takes s x e) s e) :
    ∃ x, (many a).Takes s x e := by
  induction h using Relation.ReflTransGen.head_induction_on with
  | refl => exact ⟨[], .manyNil a e⟩
  | head hround _ hrest =>
    obtain ⟨x, hx⟩ := hround
    obtain ⟨y, hy⟩ := hrest
    exact ⟨x ++ y, .manyCons hx hy⟩

theorem exists_takes_reluctant (h : Relation.ReflTransGen (fun s e => ∃ x, a.Takes s x e) s e) :
    ∃ x, (reluctant a).Takes s x e := by
  induction h using Relation.ReflTransGen.head_induction_on with
  | refl => exact ⟨[], .reluctantNil a e⟩
  | head hround _ hrest =>
    obtain ⟨x, hx⟩ := hround
    obtain ⟨y, hy⟩ := hrest
    exact ⟨x ++ y, .reluctantCons hx hy⟩

/-- Each end that is listed is the end of a match. -/
theorem exists_takes_of_mem_ends (h : e ∈ a.ends s) : ∃ x, a.Takes s x e := by
  induction a generalizing s e with
  | empty =>
    obtain rfl := mem_ends_empty.mp h
    exact ⟨[], .empty e⟩
  | one p =>
    obtain ⟨c, r, hs, hc, rfl⟩ := mem_ends_one.mp h
    exact ⟨[c], .one hs hc⟩
  | seq a b iha ihb =>
    obtain ⟨m, hm, he⟩ := mem_ends_seq.mp h
    obtain ⟨x, hx⟩ := iha hm
    obtain ⟨y, hy⟩ := ihb he
    exact ⟨x ++ y, .seq hx hy⟩
  | alt a b iha ihb =>
    rcases mem_ends_alt.mp h with h | h
    · exact (iha h).imp fun _ => .altLeft
    · exact (ihb h).imp fun _ => .altRight
  | many a ih =>
    exact exists_takes_many ((reflTransGen_of_mem_ends_many h).lift id fun _ _ => ih)
  | reluctant a ih =>
    exact exists_takes_reluctant ((reflTransGen_of_mem_ends_reluctant h).lift id fun _ _ => ih)
  | ahead a _ | notAhead a _ | behind p | notBehind p | wordEdge | textEnd =>
    obtain rfl := eq_of_mem_ends_of_test rfl h
    exact ⟨[], .test e rfl⟩

/-- The piece of a match is the text between its spots. -/
theorem takes_of_moves {x : Text} (h : e ∈ a.ends s) (hx : s.Moves x e) : a.Takes s x e := by
  obtain ⟨y, hy⟩ := exists_takes_of_mem_ends h
  exact hx.unique hy.moves ▸ hy

/-! ### What a match is made of -/

/-- Some test of the pattern admits the character. -/
def uses (c : Char) : Pattern → Bool
  | one p => p c
  | seq a b | alt a b => a.uses c || b.uses c
  | many a | reluctant a => a.uses c
  | empty | ahead _ | notAhead _ | behind _ | notBehind _ | wordEdge | textEnd => false

theorem Takes.uses {x : Text} {c : Char} (h : a.Takes s x e) (hc : c ∈ x) : a.uses c = true := by
  induction h with
  | empty _ | manyNil _ _ | reluctantNil _ _ | test _ _ => cases hc
  | one _ hp =>
    obtain rfl := List.mem_singleton.mp hc
    exact hp
  | seq _ _ iha ihb =>
    rw [Pattern.uses, Bool.or_eq_true]
    exact (List.mem_append.mp hc).imp iha ihb
  | altLeft _ ih => rw [Pattern.uses, ih hc, Bool.true_or]
  | altRight _ ih => rw [Pattern.uses, ih hc, Bool.or_true]
  | manyCons _ _ ha hrest | reluctantCons _ _ ha hrest => exact (List.mem_append.mp hc).elim ha hrest

/-- The piece of a match is made of characters that some test admits. -/
theorem exists_moves (h : e ∈ a.ends s) : ∃ x, s.Moves x e ∧ ∀ c ∈ x, a.uses c = true := by
  obtain ⟨x, hx⟩ := exists_takes_of_mem_ends h
  exact ⟨x, hx.moves, fun _ => hx.uses⟩

/-- A match never goes back. -/
theorem length_rest_le (h : e ∈ a.ends s) : e.rest.length ≤ s.rest.length := by
  obtain ⟨x, hx, -⟩ := exists_moves h
  rw [hx.rest, List.length_append]
  omega

/-- The pattern can match the empty piece. -/
def canSkip : Pattern → Bool
  | one _ => false
  | seq a b => a.canSkip && b.canSkip
  | alt a b => a.canSkip || b.canSkip
  | empty | many _ | reluctant _ => true
  | ahead _ | notAhead _ | behind _ | notBehind _ | wordEdge | textEnd => true

theorem canSkip_of_isTest (ha : a.isTest = true) : a.canSkip = true := by
  cases a with
  | empty | one _ | seq _ _ | alt _ _ | many _ | reluctant _ => cases ha
  | ahead _ | notAhead _ | behind _ | notBehind _ | wordEdge | textEnd => rfl

/-- A match of the empty piece stays where it is. -/
theorem Takes.canSkip {x : Text} (h : a.Takes s x e) (hx : x = []) : a.canSkip = true ∧ e = s := by
  induction h with
  | empty _ | manyNil _ _ | reluctantNil _ _ => exact ⟨rfl, rfl⟩
  | one _ _ => cases hx
  | seq _ _ iha ihb =>
    obtain ⟨hxa, hxb⟩ := List.append_eq_nil_iff.mp hx
    obtain ⟨ha, rfl⟩ := iha hxa
    obtain ⟨hb, rfl⟩ := ihb hxb
    exact ⟨by rw [Pattern.canSkip, ha, hb, Bool.and_true], rfl⟩
  | altLeft _ ih => exact (ih hx).imp_left fun h => by rw [Pattern.canSkip, h, Bool.true_or]
  | altRight _ ih => exact (ih hx).imp_left fun h => by rw [Pattern.canSkip, h, Bool.or_true]
  | manyCons _ _ ha hrest | reluctantCons _ _ ha hrest =>
    obtain ⟨hxa, hxrest⟩ := List.append_eq_nil_iff.mp hx
    exact ⟨rfl, (hrest hxrest).2.trans (ha hxa).2⟩
  | test _ ha => exact ⟨canSkip_of_isTest ha, rfl⟩

/-- A pattern that cannot match the empty piece takes a character. -/
theorem length_rest_lt (ha : a.canSkip = false) (h : e ∈ a.ends s) :
    e.rest.length < s.rest.length := by
  obtain ⟨x, hx⟩ := exists_takes_of_mem_ends h
  have hpos : 0 < x.length := List.length_pos_iff.mpr fun hnil => by
    rw [(hx.canSkip hnil).1] at ha
    cases ha
  rw [hx.moves.rest, List.length_append]
  omega

/-- Some test that the pattern can begin with admits the character. -/
def canStart (c : Char) : Pattern → Bool
  | one p => p c
  | seq a b => a.canStart c || (a.canSkip && b.canStart c)
  | alt a b => a.canStart c || b.canStart c
  | many a | reluctant a => a.canStart c
  | empty | ahead _ | notAhead _ | behind _ | notBehind _ | wordEdge | textEnd => false

/-- A match begins with a character that a first test admits. -/
theorem Takes.canStart {x : Text} {c : Char} (h : a.Takes s x e) (hc : x.head? = some c) :
    a.canStart c = true := by
  induction h with
  | empty _ | manyNil _ _ | reluctantNil _ _ | test _ _ => cases hc
  | one _ hp =>
    obtain rfl := Option.some.inj hc
    exact hp
  | @seq _ _ _ _ _ x _ ha _ iha ihb =>
    rw [Pattern.canStart, Bool.or_eq_true, Bool.and_eq_true]
    cases x with
    | nil => exact Or.inr ⟨(ha.canSkip rfl).1, ihb hc⟩
    | cons d x => exact Or.inl (iha hc)
  | altLeft _ ih => rw [Pattern.canStart, ih hc, Bool.true_or]
  | altRight _ ih => rw [Pattern.canStart, ih hc, Bool.or_true]
  | @manyCons _ _ _ _ x _ _ _ ha hrest | @reluctantCons _ _ _ _ x _ _ _ ha hrest =>
    cases x with
    | nil => exact hrest hc
    | cons d x => exact ha hc

/-- A match stays where it is or begins at a character that a first test admits. -/
theorem canStart_of_mem_ends (h : e ∈ a.ends s) :
    (a.canSkip = true ∧ e = s) ∨ ∃ c r, s.rest = c :: r ∧ a.canStart c = true := by
  obtain ⟨x, hx⟩ := exists_takes_of_mem_ends h
  cases x with
  | nil => exact Or.inl (hx.canSkip rfl)
  | cons c x => exact Or.inr ⟨c, x ++ e.rest, hx.moves.rest, hx.canStart rfl⟩

/-! ### Given characters -/

theorem mem_ends_char {c : Char} :
    e ∈ (char c).ends s ↔ ∃ r, s.rest = c :: r ∧ e = ⟨s.offset + 1, some c, r⟩ := by
  rw [char, mem_ends_one]
  constructor
  · rintro ⟨d, r, hs, hd, he⟩
    obtain rfl := beq_iff_eq.mp hd
    exact ⟨r, hs, he⟩
  · rintro ⟨r, hs, he⟩
    exact ⟨c, r, hs, beq_self_eq_true c, he⟩

theorem rest_of_mem_ends_all_char {t : Text} (h : e ∈ (all (t.map char)).ends s) :
    s.rest = t ++ e.rest := by
  induction t generalizing s with
  | nil => rw [mem_ends_empty.mp h, List.nil_append]
  | cons c t ih =>
    obtain ⟨m, hm, he⟩ := mem_ends_all_cons.mp h
    obtain ⟨r, hs, rfl⟩ := mem_ends_char.mp hm
    rw [hs, List.cons_append, ← ih he]

/-- A keyword stands for its letters, ignoring case. -/
theorem exists_moves_of_mem_ends_keyword {k : String} (h : e ∈ (keyword k).ends s) :
    ∃ x, s.Moves x e ∧ x.map Text.letterKey = k.toList := by
  rw [keyword] at h
  generalize k.toList = t at h ⊢
  induction t generalizing s with
  | nil =>
    obtain rfl := mem_ends_empty.mp h
    exact ⟨[], .refl e, rfl⟩
  | cons c t ih =>
    obtain ⟨m, hm, he⟩ := mem_ends_all_cons.mp h
    obtain ⟨d, r, hs, hd, rfl⟩ := mem_ends_one.mp hm
    obtain ⟨x, hx, hxt⟩ := ih he
    have hstep : s.Moves [d] ⟨s.offset + 1, some d, r⟩ := ⟨hs, rfl⟩
    refine ⟨d :: x, hstep.trans hx, ?_⟩
    rw [List.map_cons, hxt, beq_iff_eq.mp hd]

/-! ### Best matches -/

/-- The best match at a spot goes on by a piece of the text. -/
theorem exists_moves_of_length? {n : Nat} (h : a.length? s = some n) :
    ∃ x e, e ∈ a.ends s ∧ s.Moves x e ∧ n = x.length := by
  obtain ⟨e, he, rfl⟩ := Option.map_eq_some_iff.mp h
  have hmem : e ∈ a.ends s := List.mem_of_head? he
  obtain ⟨x, hx, -⟩ := exists_moves hmem
  exact ⟨x, e, hmem, hx, by rw [hx.offset, Nat.add_sub_cancel_left]⟩

theorem exists_length?_of_mem_ends (h : e ∈ a.ends s) : ∃ n, a.length? s = some n := by
  rw [length?]
  cases hends : a.ends s with
  | nil => exact absurd (hends ▸ h) List.not_mem_nil
  | cons m l => exact ⟨m.offset - s.offset, rfl⟩

/-- A pattern that no first test lets begin does not match. -/
theorem length?_eq_none {c : Char} {r : Text} (hs : s.rest = c :: r) (hskip : a.canSkip = false)
    (hstart : a.canStart c = false) : a.length? s = none := by
  have hends : a.ends s = [] := by
    refine List.eq_nil_iff_forall_not_mem.mpr fun e he => ?_
    rcases canStart_of_mem_ends he with ⟨h, -⟩ | ⟨d, r', h, hd⟩
    · rw [hskip] at h
      cases h
    · rw [hs] at h
      obtain ⟨rfl, -⟩ := List.cons.inj h
      rw [hstart] at hd
      cases hd
  rw [length?, hends]
  rfl

end Pattern

end SqlAssist
