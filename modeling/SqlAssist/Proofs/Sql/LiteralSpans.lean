import SqlAssist.Proofs.Sql.Literal

/-!
# The literals of a text

The scan that looks ahead for a doubled quote finds literals one after the other: `spans`
lists where each starts and stops, and whether a quote closes it or the text ends first.
Blanking is one pass, but it hides just what lies strictly between the quotes of a literal
(`getElem?_blankFrom`).

A plainer automaton needs no look ahead: each occurrence of the open quote closes the
literal, and the second quote of a doubled one opens it again (`toggle`). The two part ways
between the quotes of a doubled one only, where no other character stands. So they have the
same quote open at the end (`openQuoteFrom_eq_foldl`), and at every character that is no
quote they agree whether it is inside a literal (`exists_covers_iff`).

What the automaton knows of a text is one state, so from where it has no quote open a text
is blanked as it is by itself, quotes apart: a cursor that falls between the quotes of a
doubled one cuts the literal into two. **`blank_spec`** puts these facts together.
-/

namespace SqlAssist.Literal

/-! ### Spans -/

/-- A literal of a text: where it starts, where it stops, and whether a quote closes it. -/
structure Span where
  /-- The offset of the quote that opens it. -/
  start : Nat
  /-- The offset just past its last character. -/
  stop : Nat
  /-- Its last character is the quote that closes it. -/
  closed : Bool
  deriving DecidableEq, Repr

namespace Span

/-- The character at the offset belongs to the literal. -/
def Covers (s : Span) (i : Nat) : Prop := s.start ≤ i ∧ i < s.stop

/-- The quote that opens or closes the literal stands at the offset. -/
def IsEdge (s : Span) (i : Nat) : Prop := i = s.start ∨ s.closed = true ∧ i + 1 = s.stop

/-- The character at the offset is one of the contents. -/
def Hides (s : Span) (i : Nat) : Prop := s.Covers i ∧ ¬ s.IsEdge i

instance (s : Span) (i : Nat) : Decidable (s.Covers i) :=
  inferInstanceAs (Decidable (_ ∧ _))

instance (s : Span) (i : Nat) : Decidable (s.IsEdge i) :=
  inferInstanceAs (Decidable (_ ∨ _))

instance (s : Span) (i : Nat) : Decidable (s.Hides i) :=
  inferInstanceAs (Decidable (_ ∧ _))

end Span

/-- The literals of a text that starts at the offset, read with the given quote open since `start`.
-/
def spansFrom : Option Char → (start offset : Nat) → Text → List Span
  | none, _, _, [] => []
  | some _, start, offset, [] => [⟨start, offset, false⟩]
  | none, _, offset, c :: r => spansFrom (opened c) offset (offset + 1) r
  | some q, start, offset, [c] => [⟨start, offset + 1, c = q⟩]
  | some q, start, offset, c :: d :: r =>
    if c = q then
      if d = q then spansFrom (some q) start (offset + 2) r
      else ⟨start, offset + 1, true⟩ :: spansFrom none start (offset + 1) (d :: r)
    else spansFrom (some q) start (offset + 1) (d :: r)

/-- The literals of a text, from left to right. -/
def spans (t : Text) : List Span :=
  spansFrom none 0 0 t

section Spans

variable {o : Option Char} {q c : Char} {t r : Text} {start offset : Nat} {s : Span}

theorem spansFrom_other (h : c ≠ q) (start offset : Nat) (r : Text) :
    spansFrom (some q) start offset (c :: r) = spansFrom (some q) start (offset + 1) r := by
  cases r with
  | nil => simp [spansFrom, h]
  | cons d r => simp [spansFrom, h]

theorem spansFrom_pair (q : Char) (start offset : Nat) (r : Text) :
    spansFrom (some q) start offset (q :: q :: r) = spansFrom (some q) start (offset + 2) r := by
  simp [spansFrom]

theorem spansFrom_close (h : r.head? ≠ some q) (start offset : Nat) :
    spansFrom (some q) start offset (q :: r) =
      ⟨start, offset + 1, true⟩ :: spansFrom none start (offset + 1) r := by
  cases r with
  | nil => simp [spansFrom]
  | cons d r =>
    have hd : d ≠ q := fun e => h (by rw [e]; rfl)
    simp [spansFrom, hd]

/-- A literal that is read started where the open one did, or starts further on. -/
theorem start_of_mem_spansFrom (ho : IsState o) (h : s ∈ spansFrom o start offset t) :
    o.isSome = true ∧ s.start = start ∨ offset ≤ s.start := by
  induction o, t, ho using scanInduction generalizing start offset with
  | nil o =>
    cases o with
    | none => exact absurd h List.not_mem_nil
    | some q =>
      obtain rfl := List.mem_singleton.mp h
      exact Or.inl ⟨rfl, rfl⟩
  | outside c r ih =>
    rcases ih h with ⟨-, hstart⟩ | hle
    · exact Or.inr hstart.ge
    · exact Or.inr (Nat.le_of_succ_le hle)
  | inside q c r hq hc ih =>
    rw [spansFrom_other hc] at h
    exact (ih h).imp_right Nat.le_of_succ_le
  | pair q r hq ih =>
    rw [spansFrom_pair] at h
    exact (ih h).imp_right fun hle => by omega
  | close q r hq hr ih =>
    rw [spansFrom_close hr, List.mem_cons] at h
    rcases h with rfl | h
    · exact Or.inl ⟨rfl, rfl⟩
    · rcases ih h with ⟨hnone, -⟩ | hle
      · cases hnone
      · exact Or.inr (Nat.le_of_succ_le hle)

/-- A literal that is open is read to a quote that closes it, or to the end of the text. -/
theorem exists_mem_spansFrom (ho : IsState o) (hopen : o.isSome = true) (start offset : Nat)
    (t : Text) : ∃ s ∈ spansFrom o start offset t,
      s.start = start ∧ offset ≤ s.stop ∧ (s.closed = true → offset < s.stop) := by
  induction o, t, ho using scanInduction generalizing offset with
  | nil o =>
    obtain ⟨q, rfl⟩ := Option.isSome_iff_exists.mp hopen
    exact ⟨_, List.mem_singleton_self _, rfl, Nat.le_refl _, nofun⟩
  | outside c r => cases hopen
  | inside q c r hq hc ih =>
    obtain ⟨s, hs, hstart, hle, hlt⟩ := ih hopen (offset + 1)
    exact ⟨s, spansFrom_other hc .. ▸ hs, hstart, by omega, fun h => by have := hlt h; omega⟩
  | pair q r hq ih =>
    obtain ⟨s, hs, hstart, hle, hlt⟩ := ih hopen (offset + 2)
    exact ⟨s, spansFrom_pair .. ▸ hs, hstart, by omega, fun h => by have := hlt h; omega⟩
  | close q r hq hr =>
    rw [spansFrom_close hr]
    exact ⟨_, List.mem_cons_self, rfl, Nat.le_succ _, fun _ => Nat.lt_succ_self _⟩

/-- The end of the text lies inside a literal if the text ends before one is closed. -/
theorem any_spansFrom (ho : IsState o) (start offset : Nat) (t : Text) :
    (spansFrom o start offset t).any (!·.closed) = (openQuoteFrom o t).isSome := by
  induction o, t, ho using scanInduction generalizing start offset with
  | nil o => cases o <;> rfl
  | outside c r ih => exact ih offset (offset + 1)
  | inside q c r hq hc ih => rw [spansFrom_other hc, openQuoteFrom_other hc, ih]
  | pair q r hq ih => rw [spansFrom_pair, openQuoteFrom_pair, ih]
  | close q r hq hr ih =>
    rw [spansFrom_close hr, openQuoteFrom_close hr, List.any_cons, ih]
    rfl

end Spans

/-! ### What is blanked -/

section Blanked

variable {o : Option Char} {q : Char} {t : Text} {start offset i : Nat}

theorem Span.not_covers_of_lt {s : Span} (h : i < s.start) : ¬ s.Covers i :=
  fun hcovers => Nat.not_le_of_lt h hcovers.1

theorem Span.not_hides_of_le {s : Span} (h : i ≤ s.start) : ¬ s.Hides i := by
  rintro ⟨⟨hle, -⟩, hedge⟩
  exact hedge (Or.inl (Nat.le_antisymm h hle))

/-- A character that an open literal goes on behind is one of its contents. -/
theorem exists_hides (hq : isQuote q = true) (hstart : start < i) (hi : i < offset) (t : Text) :
    ∃ s ∈ spansFrom (some q) start offset t, s.Hides i := by
  obtain ⟨s, hs, rfl, hle, hlt⟩ := exists_mem_spansFrom (isState_some hq) rfl start offset t
  refine ⟨s, hs, ⟨by omega, by omega⟩, ?_⟩
  rintro (h | ⟨hclosed, h⟩)
  · omega
  · have := hlt hclosed
    omega

/-- A character outside literals is none of the contents, also if it opens one. -/
theorem not_hides_opener (c : Char) (offset : Nat) (t : Text) :
    ¬ ∃ s ∈ spansFrom (opened c) offset (offset + 1) t, s.Hides offset := by
  rintro ⟨s, hs, hhides⟩
  refine Span.not_hides_of_le ?_ hhides
  rcases start_of_mem_spansFrom (isState_opened c) hs with ⟨-, h⟩ | h
  · exact h.ge
  · exact Nat.le_of_succ_le h

/-- The quote that closes a literal is none of the contents. -/
theorem not_hides_closer (start offset : Nat) (t : Text) :
    ¬ ∃ s ∈ ⟨start, offset + 1, true⟩ :: spansFrom none start (offset + 1) t, s.Hides offset := by
  rintro ⟨s, hs, hhides⟩
  rcases List.mem_cons.mp hs with rfl | hs
  · exact hhides.2 (Or.inr ⟨rfl, rfl⟩)
  · have hle := (start_of_mem_spansFrom isState_none hs).resolve_left nofun
    exact Span.not_hides_of_le (Nat.le_of_succ_le hle) hhides

/-- Behind the quote that closes a literal, only later literals have contents. -/
theorem exists_hides_behind_closer (start offset i : Nat) (t : Text) :
    (∃ s ∈ ⟨start, offset + 1, true⟩ :: spansFrom none start (offset + 1) t,
        s.Hides (offset + (i + 1))) ↔
      ∃ s ∈ spansFrom none start (offset + 1) t, s.Hides (offset + (i + 1)) := by
  have hle : offset + 1 ≤ offset + (i + 1) := by omega
  have hfirst : ¬ (⟨start, offset + 1, true⟩ : Span).Hides (offset + (i + 1)) := fun h =>
    Nat.not_lt_of_le hle h.1.2
  rw [List.exists_mem_cons_iff, or_iff_right hfirst]

/-- The contents of literals are blanked, and nothing else. -/
theorem getElem?_blankFrom (ho : IsState o) (start offset : Nat)
    (hstart : o.isSome = true → start < offset) (i : Nat) :
    (blankFrom o t)[i]? = t[i]?.map fun c =>
      if ∃ s ∈ spansFrom o start offset t, s.Hides (offset + i) then ' ' else c := by
  induction o, t, ho using scanInduction generalizing start offset i with
  | nil o => cases o <;> rfl
  | outside c r ih =>
    cases i with
    | zero =>
      exact congrArg some (if_neg (not_hides_opener c offset r)).symm
    | succ i =>
      have hrest := ih offset (offset + 1) (fun _ => Nat.lt_succ_self offset) i
      rw [Nat.add_assoc, Nat.add_comm 1] at hrest
      exact hrest
  | inside q c r hq hc ih =>
    have hlt := hstart rfl
    rw [blankFrom_other hc, spansFrom_other hc]
    cases i with
    | zero => exact congrArg some (if_pos (exists_hides hq hlt (Nat.lt_succ_self offset) r)).symm
    | succ i =>
      have hrest := ih start (offset + 1) (fun _ => Nat.lt_succ_of_lt hlt) i
      rw [Nat.add_assoc, Nat.add_comm 1] at hrest
      exact hrest
  | pair q r hq ih =>
    have hlt := hstart rfl
    rw [blankFrom_pair, spansFrom_pair]
    match i with
    | 0 => exact congrArg some (if_pos (exists_hides hq hlt (by omega) r)).symm
    | 1 => exact congrArg some (if_pos (exists_hides hq (by omega) (by omega) r)).symm
    | i + 2 =>
      have hrest := ih start (offset + 2) (fun _ => by omega) i
      rw [Nat.add_assoc, Nat.add_comm 2] at hrest
      exact hrest
  | close q r hq hr ih =>
    rw [blankFrom_close hr, spansFrom_close hr]
    cases i with
    | zero =>
      exact congrArg some (if_neg (not_hides_closer start offset r)).symm
    | succ i =>
      have hrest := ih start (offset + 1) nofun i
      rw [Nat.add_assoc, Nat.add_comm 1] at hrest
      simp only [exists_hides_behind_closer]
      exact hrest

end Blanked

/-! ### The plain automaton -/

/-- The quote that is open behind one more character: the next occurrence closes a literal, whatever
follows it. -/
def toggle (o : Option Char) (c : Char) : Option Char :=
  match o with
  | none => opened c
  | some q => if c = q then none else some q

section Automaton

variable {o : Option Char} {q c : Char} {t u v : Text} {start offset i : Nat}

theorem toggle_none (c : Char) : toggle none c = opened c := rfl

theorem toggle_other (h : c ≠ q) : toggle (some q) c = some q := if_neg h

theorem toggle_close (q : Char) : toggle (some q) q = none := if_pos rfl

theorem isState_toggle (ho : IsState o) (c : Char) : IsState (toggle o c) := by
  cases o with
  | none => exact isState_opened c
  | some q =>
    rw [toggle]
    split_ifs
    · exact isState_none
    · exact ho

theorem isState_foldl_toggle (ho : IsState o) (t : Text) : IsState (t.foldl toggle o) := by
  induction t generalizing o with
  | nil => exact ho
  | cons c t ih => exact ih (isState_toggle ho c)

/-- The second quote of a doubled one opens the literal again. -/
theorem foldl_toggle_pair (hq : isQuote q = true) (r : Text) :
    (q :: q :: r).foldl toggle (some q) = r.foldl toggle (some q) := by
  rw [List.foldl_cons, List.foldl_cons, toggle_close, toggle_none, opened, if_pos hq]

/-- Looking ahead or not, the same quote is open at the end. -/
theorem openQuoteFrom_eq_foldl (ho : IsState o) (t : Text) : openQuoteFrom o t = t.foldl toggle o := by
  induction o, t, ho using scanInduction with
  | nil o => exact openQuoteFrom_nil o
  | outside c r ih => exact ih
  | inside q c r hq hc ih => rw [openQuoteFrom_other hc, List.foldl_cons, toggle_other hc, ih]
  | pair q r hq ih => rw [openQuoteFrom_pair, foldl_toggle_pair hq, ih]
  | close q r hq hr ih => rw [openQuoteFrom_close hr, List.foldl_cons, toggle_close, ih]

/-- A literal that starts further on does not cover the character before. -/
theorem not_covers_before (start offset : Nat) (t : Text) :
    ¬ ∃ s ∈ spansFrom none start (offset + 1) t, s.Covers offset := by
  rintro ⟨s, hs, hcovers⟩
  have hle := (start_of_mem_spansFrom isState_none hs).resolve_left nofun
  exact Span.not_covers_of_lt hle hcovers

/-- Behind the quote that closes a literal, only later literals cover a character. -/
theorem exists_covers_behind_closer (start offset i : Nat) (t : Text) :
    (∃ s ∈ ⟨start, offset + 1, true⟩ :: spansFrom none start (offset + 1) t,
        s.Covers (offset + (i + 1))) ↔
      ∃ s ∈ spansFrom none start (offset + 1) t, s.Covers (offset + (i + 1)) := by
  have hle : offset + 1 ≤ offset + (i + 1) := by omega
  have hfirst : ¬ (⟨start, offset + 1, true⟩ : Span).Covers (offset + (i + 1)) := fun h =>
    Nat.not_lt_of_le hle h.2
  rw [List.exists_mem_cons_iff, or_iff_right hfirst]

/-- A character that is no quote belongs to a literal where the automaton has a quote open. -/
theorem exists_covers_iff (ho : IsState o) (start offset : Nat)
    (hstart : o.isSome = true → start < offset) (hc : isQuote c = false) (hi : t[i]? = some c) :
    (∃ s ∈ spansFrom o start offset t, s.Covers (offset + i)) ↔
      ((t.take i).foldl toggle o).isSome = true := by
  induction o, t, ho using scanInduction generalizing start offset i with
  | nil o => cases hi
  | outside d r ih =>
    cases i with
    | zero =>
      obtain rfl : d = c := Option.some.inj hi
      have hopened : opened d = none := if_neg (Bool.eq_false_iff.mp hc)
      rw [spansFrom, hopened]
      exact iff_of_false (not_covers_before offset offset r) nofun
    | succ i =>
      have hrest := ih offset (offset + 1) (fun _ => Nat.lt_succ_self offset) hi
      rw [Nat.add_assoc, Nat.add_comm 1] at hrest
      exact hrest
  | inside q d r hq hd ih =>
    have hlt := hstart rfl
    rw [spansFrom_other hd]
    cases i with
    | zero =>
      obtain ⟨s, hs, hhides⟩ := exists_hides hq hlt (Nat.lt_succ_self offset) r
      exact iff_of_true ⟨s, hs, hhides.1⟩ rfl
    | succ i =>
      have hrest := ih start (offset + 1) (fun _ => Nat.lt_succ_of_lt hlt) hi
      rw [Nat.add_assoc, Nat.add_comm 1] at hrest
      rw [List.take_succ_cons, List.foldl_cons, toggle_other hd]
      exact hrest
  | pair q r hq ih =>
    have hlt := hstart rfl
    rw [spansFrom_pair]
    match i with
    | 0 | 1 =>
      obtain rfl : q = c := Option.some.inj hi
      rw [hq] at hc
      cases hc
    | i + 2 =>
      have hrest := ih start (offset + 2) (fun _ => by omega) hi
      rw [Nat.add_assoc, Nat.add_comm 2] at hrest
      rw [List.take_succ_cons, List.take_succ_cons, foldl_toggle_pair hq]
      exact hrest
  | close q r hq hr ih =>
    rw [spansFrom_close hr]
    cases i with
    | zero =>
      obtain rfl : q = c := Option.some.inj hi
      rw [hq] at hc
      cases hc
    | succ i =>
      have hrest := ih start (offset + 1) nofun hi
      rw [Nat.add_assoc, Nat.add_comm 1] at hrest
      rw [List.take_succ_cons, List.foldl_cons, toggle_close, exists_covers_behind_closer]
      exact hrest

/-- A character that is no quote is blanked where the automaton has a quote open. -/
theorem getElem?_blank_of_not_quote (hc : isQuote c = false) (hi : t[i]? = some c) :
    (blank t)[i]? = some (if ((t.take i).foldl toggle none).isSome then ' ' else c) := by
  obtain ⟨hlt, hget⟩ := List.getElem?_eq_some_iff.mp hi
  have hsplit : t = t.take i ++ c :: t.drop (i + 1) := by
    rw [← hget, List.getElem_cons_drop, List.take_append_drop]
  have hlength : (blankFrom none (t.take i)).length = i := by
    rw [length_blankFrom isState_none, List.length_take, Nat.min_eq_left hlt.le]
  -- Outside quotes the scan goes on from the state behind the characters before.
  have hblank : blank t = blankFrom none (t.take i) ++
      blankFrom ((t.take i).foldl toggle none) (c :: t.drop (i + 1)) := by
    rw [blank, ← openQuoteFrom_eq_foldl isState_none, ← blankFrom_append isState_none _ (by exact hc),
      ← hsplit]
  rw [hblank, List.getElem?_append_right hlength.le, hlength, Nat.sub_self]
  have hstate := isState_foldl_toggle isState_none (t.take i)
  cases ho : (t.take i).foldl toggle none with
  | none => rfl
  | some q =>
    have hne : c ≠ q := by
      rintro rfl
      rw [ho] at hstate
      rw [hstate c rfl] at hc
      cases hc
    rw [blankFrom_other hne]
    rfl

/-- What is seen and is neither a quote nor a space stands where the automaton has no quote open. -/
theorem getElem?_blank_eq_some_iff (hc : isQuote c = false) (hspace : c ≠ ' ') :
    (blank t)[i]? = some c ↔ t[i]? = some c ∧ (t.take i).foldl toggle none = none := by
  constructor
  · intro h
    have hi : t[i]? = some c := by
      have hseen := getElem?_blankFrom (t := t) isState_none 0 0 nofun i
      rw [← blank, h, eq_comm, Option.map_eq_some_iff] at hseen
      obtain ⟨d, hd, hdc⟩ := hseen
      split_ifs at hdc
      · exact absurd hdc.symm hspace
      · rwa [← hdc]
    have hblank := getElem?_blank_of_not_quote hc hi
    rw [h, Option.some.injEq] at hblank
    split_ifs at hblank with hopen
    · exact absurd hblank hspace
    · exact ⟨hi, by simpa using hopen⟩
  · rintro ⟨hi, hstate⟩
    rw [getElem?_blank_of_not_quote hc hi, hstate]
    rfl

/-- So a character that is no quote is seen behind a text that leaves no literal open as it is seen
by itself. -/
theorem getElem?_blank_append (hu : isOpen u = false) (hc : isQuote c = false) (hi : v[i]? = some c) :
    (blank (u ++ v))[u.length + i]? = (blank v)[i]? := by
  have huv : (u ++ v)[u.length + i]? = some c := by
    rw [List.getElem?_append_right (Nat.le_add_right _ _), Nat.add_sub_cancel_left, hi]
  have hstate : u.foldl toggle none = none := by
    rw [← openQuoteFrom_eq_foldl isState_none, isOpen_eq_false_iff.mp hu]
  rw [getElem?_blank_of_not_quote hc huv, getElem?_blank_of_not_quote hc hi, List.take_length_add_append,
    List.foldl_append, hstate]

theorem blankFrom_blankFrom (ho : IsState o) (t : Text) : blankFrom o (blankFrom o t) = blankFrom o t := by
  induction o, t, ho using scanInduction with
  | nil o => cases o <;> rfl
  | outside c r ih => exact congrArg (c :: ·) ih
  | inside q c r hq hc ih =>
    rw [blankFrom_other hc, blankFrom_other (ne_space_of_isQuote hq), ih]
  | pair q r hq ih =>
    rw [blankFrom_pair, blankFrom_other (ne_space_of_isQuote hq),
      blankFrom_other (ne_space_of_isQuote hq), ih]
  | close q r hq hr ih =>
    have hhead : (blankFrom none r).head? ≠ some q := (head?_blank r).symm ▸ hr
    rw [blankFrom_close hr, blankFrom_close hhead, ih]

end Automaton

/-- **Blanking is what the plain automaton says**: the contents of the literals are blanked and
nothing else, once and for all, and no literal is opened or closed by it. Wherever no quote stands,
a character belongs to a literal if the automaton has a quote open, which needs no look ahead. So
behind a text that leaves no literal open, quotes apart, a text is blanked as it is by itself. -/
theorem blank_spec (t : Text) :
    (blank t).length = t.length ∧
      (∀ i : Nat, (blank t)[i]? =
        t[i]?.map fun c => if ∃ s ∈ spans t, s.Hides i then ' ' else c) ∧
      blank (blank t) = blank t ∧
      isOpen (blank t) = isOpen t ∧
      isOpen t = (spans t).any (!·.closed) ∧
      (∀ (i : Nat) (c : Char), t[i]? = some c → isQuote c = false →
        ((∃ s ∈ spans t, s.Covers i) ↔ ((t.take i).foldl toggle none).isSome = true)) ∧
      isOpen t = (t.foldl toggle none).isSome ∧
      ∀ u v : Text, t = u ++ v → isOpen u = false →
        ∀ (i : Nat) (c : Char), v[i]? = some c → isQuote c = false →
          (blank t)[u.length + i]? = (blank v)[i]? := by
  refine ⟨length_blank t, ?_, blankFrom_blankFrom isState_none t, isOpen_blank t,
    (any_spansFrom isState_none 0 0 t).symm, ?_, ?_, ?_⟩
  · intro i
    have hi := getElem?_blankFrom (t := t) isState_none 0 0 nofun i
    rwa [Nat.zero_add] at hi
  · intro i c hi hc
    have hcovers := exists_covers_iff isState_none 0 0 nofun hc hi
    rwa [Nat.zero_add] at hcovers
  · rw [isOpen, openQuoteFrom_eq_foldl isState_none]
  · rintro u v rfl hu i c hi hc
    exact getElem?_blank_append hu hc hi

/-- Doubled quotes, an empty literal and one that the text leaves open, and a cut between the quotes
of a doubled one: the quotes there are seen in one half and not in the whole text. -/
example :
    spans "a='it''s' \"\" 'b".toList = [⟨2, 9, true⟩, ⟨10, 12, true⟩, ⟨13, 15, false⟩] ∧
      blank "'a''b;' ;".toList = "'     ' ;".toList ∧ blank "'b;' ;".toList = "'  ' ;".toList := by
  decide

end SqlAssist.Literal
