import SqlAssist.Proofs.Text.Search
import SqlAssist.Sql.Statement
import Mathlib.Data.List.Forall2

/-!
# Scanning literals

A text is read with a quote open or with none, and what a character does depends on
the one behind it: a quote that closes a literal is half of a doubled one if the same
quote follows. `scanInduction` lists what can happen, and what is said of the scan is
proved by it.

Outside literals the scan starts afresh. A text that leaves no literal open can be put
in front of another one, and each is blanked by itself as long as no quote stands where
they meet (`blank_append`); a character that blanking leaves and that is no quote
stands where no literal is open (`exists_append_of_blank`). So a semicolon that
is seen in the blanked text cuts the text into two that are scanned apart, which is what
a statement is (`beforeCursor_append`, `exists_beforeCursor`). Whether a literal is open
at the end of a text is seen in the blanked text, too (`isOpen_blank`).
-/

namespace SqlAssist

namespace Literal

/-! ### Quotes -/

theorem isQuote_iff {c : Char} : isQuote c = true ↔ c = '\'' ∨ c = '"' := by
  rw [isQuote, Bool.or_eq_true, decide_eq_true_iff, decide_eq_true_iff]

/-- Characters of a class that holds neither quote are no quotes. -/
theorem no_quote_of_forall {p : Char → Bool} {t : Text} (hp : p '\'' = false ∧ p '"' = false)
    (h : ∀ c ∈ t, p c = true) : ∀ c ∈ t, isQuote c = false := by
  intro c hc
  rw [← Bool.not_eq_true, isQuote_iff]
  rintro (rfl | rfl)
  · exact Bool.false_ne_true (hp.1.symm.trans (h _ hc))
  · exact Bool.false_ne_true (hp.2.symm.trans (h _ hc))

/-! ### Steps of the scan -/

section Steps

variable {q c : Char} {r : Text}

theorem blankFrom_other (h : c ≠ q) (r : Text) :
    blankFrom (some q) (c :: r) = ' ' :: blankFrom (some q) r := by
  cases r with
  | nil => simp [blankFrom, h]
  | cons d r => simp [blankFrom, h]

theorem blankFrom_pair (q : Char) (r : Text) :
    blankFrom (some q) (q :: q :: r) = ' ' :: ' ' :: blankFrom (some q) r := by
  simp [blankFrom]

theorem blankFrom_close (h : r.head? ≠ some q) : blankFrom (some q) (q :: r) = q :: blankFrom none r := by
  cases r with
  | nil => simp [blankFrom]
  | cons d r =>
    have hd : d ≠ q := fun e => h (by rw [e]; rfl)
    simp [blankFrom, hd]

theorem openQuoteFrom_nil (o : Option Char) : openQuoteFrom o [] = o := by
  cases o <;> rfl

theorem openQuoteFrom_other (h : c ≠ q) (r : Text) :
    openQuoteFrom (some q) (c :: r) = openQuoteFrom (some q) r := by
  cases r with
  | nil => simp [openQuoteFrom, h]
  | cons d r => simp [openQuoteFrom, h]

theorem openQuoteFrom_pair (q : Char) (r : Text) :
    openQuoteFrom (some q) (q :: q :: r) = openQuoteFrom (some q) r := by
  simp [openQuoteFrom]

theorem openQuoteFrom_close (h : r.head? ≠ some q) :
    openQuoteFrom (some q) (q :: r) = openQuoteFrom none r := by
  cases r with
  | nil => simp [openQuoteFrom]
  | cons d r =>
    have hd : d ≠ q := fun e => h (by rw [e]; rfl)
    simp [openQuoteFrom, hd]

/-- A literal is opened by a quote. -/
def IsState (o : Option Char) : Prop := ∀ q, o = some q → isQuote q = true

theorem isState_none : IsState none := fun _ h => nomatch h

theorem isState_some (hq : isQuote q = true) : IsState (some q) := by
  rintro _ ⟨⟩
  exact hq

/-- The quote that is open behind a character outside literals. -/
def opened (c : Char) : Option Char := if isQuote c then some c else none

theorem isState_opened (c : Char) : IsState (opened c) := by
  unfold opened
  split_ifs with h
  · exact isState_some h
  · exact isState_none

end Steps

/-- A text is scanned in five kinds of steps: it is at its end; a character is outside
literals; one is inside and is no quote that closes; a doubled quote is inside; a quote
closes the literal. -/
theorem scanInduction {motive : (o : Option Char) → Text → IsState o → Prop}
    (nil : ∀ o ho, motive o [] ho)
    (outside : ∀ c r, motive (opened c) r (isState_opened c) → motive none (c :: r) isState_none)
    (inside : ∀ q c r (hq : isQuote q = true), c ≠ q → motive (some q) r (isState_some hq) →
      motive (some q) (c :: r) (isState_some hq))
    (pair : ∀ q r (hq : isQuote q = true), motive (some q) r (isState_some hq) →
      motive (some q) (q :: q :: r) (isState_some hq))
    (close : ∀ q r (hq : isQuote q = true), r.head? ≠ some q → motive none r isState_none →
      motive (some q) (q :: r) (isState_some hq))
    (o : Option Char) (t : Text) (ho : IsState o) : motive o t ho := by
  induction hn : t.length using Nat.strongRecOn generalizing o t with
  | ind n ih =>
    subst hn
    cases t with
    | nil => exact nil o ho
    | cons c r =>
      cases o with
      | none => exact outside c r (ih _ (Nat.lt_succ_self _) _ r _ rfl)
      | some q =>
        have hq : isQuote q = true := ho q rfl
        by_cases hc : c = q
        · subst hc
          by_cases hr : r.head? = some c
          · obtain ⟨r, rfl⟩ := List.head?_eq_some_iff.mp hr
            exact pair c r hq (ih _ (Nat.lt_succ_of_lt (Nat.lt_succ_self _)) _ r _ rfl)
          · exact close c r hq hr (ih _ (Nat.lt_succ_self _) _ r _ rfl)
        · exact inside q c r hq hc (ih _ (Nat.lt_succ_self _) _ r _ rfl)

/-! ### Texts one after the other -/

section Append

variable {o : Option Char} {t u r : Text}

theorem length_blankFrom (ho : IsState o) (t : Text) : (blankFrom o t).length = t.length := by
  induction o, t, ho using scanInduction with
  | nil o => cases o <;> rfl
  | outside c r ih => exact congrArg (· + 1) ih
  | inside q c r hq hc ih =>
    rw [blankFrom_other hc, List.length_cons, List.length_cons, ih]
  | pair q r hq ih =>
    rw [blankFrom_pair]
    simp only [List.length_cons, ih]
  | close q r hq hr ih =>
    rw [blankFrom_close hr, List.length_cons, List.length_cons, ih]

theorem length_blank (t : Text) : (blank t).length = t.length :=
  length_blankFrom isState_none t

/-- A quote that closes a literal still closes it with a text behind it that starts with
no quote. -/
theorem head?_append_ne {q : Char} (hq : isQuote q = true) (hu : u.head? ≠ some q)
    (hr : r.head?.any isQuote = false) : (u ++ r).head? ≠ some q := by
  cases u with
  | nil =>
    intro h
    rw [List.nil_append] at h
    rw [h] at hr
    exact absurd hq (by simpa using hr)
  | cons d u => exact hu

/-- Only the first character of the rest can follow a closing quote at the end. -/
theorem exists_cons_of_head?_append {q : Char} (hu : u.head? ≠ some q)
    (h : (u ++ r).head? = some q) : u = [] ∧ ∃ v, r = q :: v := by
  cases u with
  | nil => exact ⟨rfl, List.head?_eq_some_iff.mp h⟩
  | cons d u => exact absurd h hu

/-- Behind a text that leaves no literal open the scan starts afresh. A quote that closes the last
literal and one behind it are taken for a doubled one, which is as good as a new literal. -/
theorem openQuoteFrom_append (ho : IsState o) (h : openQuoteFrom o u = none) (r : Text) :
    openQuoteFrom o (u ++ r) = openQuoteFrom none r := by
  induction o, u, ho using scanInduction with
  | nil o =>
    rw [openQuoteFrom_nil] at h
    rw [h]
    rfl
  | outside c u ih => exact ih h
  | inside q c u hq hc ih =>
    rw [openQuoteFrom_other hc] at h
    rw [List.cons_append, openQuoteFrom_other hc, ih h]
  | pair q u hq ih =>
    rw [openQuoteFrom_pair] at h
    rw [List.cons_append, List.cons_append, openQuoteFrom_pair, ih h]
  | close q u hq hu ih =>
    rw [openQuoteFrom_close hu] at h
    -- Across the end the quote is the first of a doubled one, and the literal stays open.
    by_cases hur : (u ++ r).head? = some q
    · obtain ⟨rfl, r, rfl⟩ := exists_cons_of_head?_append hu hur
      rw [List.cons_append, List.nil_append, openQuoteFrom_pair, openQuoteFrom, hq]
      rfl
    · rw [List.cons_append, openQuoteFrom_close hur, ih h]

theorem blankFrom_append (ho : IsState o) (u : Text) (hr : r.head?.any isQuote = false) :
    blankFrom o (u ++ r) = blankFrom o u ++ blankFrom (openQuoteFrom o u) r := by
  induction o, u, ho using scanInduction with
  | nil o =>
    rw [List.nil_append, openQuoteFrom_nil]
    cases o <;> rfl
  | outside c u ih => exact congrArg (c :: ·) ih
  | inside q c u hq hc ih =>
    rw [List.cons_append, blankFrom_other hc, blankFrom_other hc, openQuoteFrom_other hc, ih,
      List.cons_append]
  | pair q u hq ih =>
    rw [List.cons_append, List.cons_append, blankFrom_pair, blankFrom_pair, openQuoteFrom_pair, ih,
      List.cons_append, List.cons_append]
  | close q u hq hu ih =>
    rw [List.cons_append, blankFrom_close (head?_append_ne hq hu hr), blankFrom_close hu,
      openQuoteFrom_close hu, ih, List.cons_append]

theorem isOpen_eq_false_iff : isOpen u = false ↔ openQuoteFrom none u = none := by
  rw [isOpen, Option.isSome_eq_false_iff, Option.isNone_iff_eq_none]

theorem blank_append (hu : isOpen u = false) (hr : r.head?.any isQuote = false) :
    blank (u ++ r) = blank u ++ blank r := by
  rw [blank, blankFrom_append isState_none u hr, isOpen_eq_false_iff.mp hu]
  rfl

theorem isOpen_append (hu : isOpen u = false) (r : Text) : isOpen (u ++ r) = isOpen r := by
  rw [isOpen, openQuoteFrom_append isState_none (isOpen_eq_false_iff.mp hu)]
  rfl

end Append

/-! ### Texts without quotes -/

section NoQuote

variable {t : Text}

theorem openQuoteFrom_of_no_quote (h : ∀ c ∈ t, isQuote c = false) : openQuoteFrom none t = none := by
  induction t with
  | nil => rfl
  | cons c t ih =>
    obtain ⟨hc, ht⟩ := List.forall_mem_cons.mp h
    rw [openQuoteFrom, hc]
    exact ih ht

theorem isOpen_of_no_quote (h : ∀ c ∈ t, isQuote c = false) : isOpen t = false :=
  isOpen_eq_false_iff.mpr (openQuoteFrom_of_no_quote h)

theorem blank_of_no_quote (h : ∀ c ∈ t, isQuote c = false) : blank t = t := by
  rw [blank]
  induction t with
  | nil => rfl
  | cons c t ih =>
    obtain ⟨hc, ht⟩ := List.forall_mem_cons.mp h
    rw [blankFrom, hc]
    exact congrArg (c :: ·) (ih ht)

end NoQuote

/-! ### What is seen in a blanked text -/

section Seen

variable {o : Option Char} {c : Char} {t u v : Text}

theorem ne_space_of_isQuote {q : Char} (hq : isQuote q = true) : ' ' ≠ q := by
  rintro rfl
  exact absurd hq (by decide)

theorem head?_blank (t : Text) : (blank t).head? = t.head? := by
  cases t <;> rfl

/-- Behind a text that leaves no literal open, what is seen of the rest depends on what is seen
of it by itself. -/
theorem blankFrom_append_congr {w : Text} (ho : IsState o) (h : openQuoteFrom o u = none)
    (hvw : blank v = blank w) : blankFrom o (u ++ v) = blankFrom o (u ++ w) := by
  have hhead : v.head? = w.head? := by rw [← head?_blank, hvw, head?_blank]
  induction o, u, ho using scanInduction with
  | nil o =>
    rw [openQuoteFrom_nil] at h
    rw [h]
    exact hvw
  | outside c u ih => exact congrArg (c :: ·) (ih h)
  | inside q c u hq hc ih =>
    rw [openQuoteFrom_other hc] at h
    rw [List.cons_append, List.cons_append, blankFrom_other hc, blankFrom_other hc, ih h]
  | pair q u hq ih =>
    rw [openQuoteFrom_pair] at h
    simp only [List.cons_append, blankFrom_pair, ih h]
  | close q u hq hu ih =>
    rw [openQuoteFrom_close hu] at h
    have huv : (u ++ v).head? = (u ++ w).head? := by rw [List.head?_append, List.head?_append, hhead]
    by_cases hq' : (u ++ v).head? = some q
    · obtain ⟨rfl, v, rfl⟩ := exists_cons_of_head?_append hu hq'
      obtain ⟨w, rfl⟩ := List.head?_eq_some_iff.mp (hhead.symm.trans rfl)
      have htail : blankFrom (some q) v = blankFrom (some q) w := by
        rw [blank, blank, blankFrom, blankFrom, hq] at hvw
        exact (List.cons.inj hvw).2
      simp only [List.cons_append, List.nil_append, blankFrom_pair, htail]
    · rw [List.cons_append, List.cons_append, blankFrom_close hq', blankFrom_close (huv ▸ hq'), ih h]

/-- What is seen of a character is the character itself or a space. -/
theorem forall₂_blankFrom (ho : IsState o) (t : Text) :
    List.Forall₂ (fun d c => d = c ∨ d = ' ') (blankFrom o t) t := by
  induction o, t, ho using scanInduction with
  | nil o => cases o <;> exact .nil
  | outside c r ih => exact .cons (Or.inl rfl) ih
  | inside q c r hq hc ih =>
    rw [blankFrom_other hc]
    exact .cons (Or.inr rfl) ih
  | pair q r hq ih =>
    rw [blankFrom_pair]
    exact .cons (Or.inr rfl) (.cons (Or.inr rfl) ih)
  | close q r hq hr ih =>
    rw [blankFrom_close hr]
    exact .cons (Or.inl rfl) ih

/-- Quotes are seen only where the text has them. -/
theorem no_quote_drop_blankFrom (ho : IsState o) {n : Nat} (h : ∀ c ∈ t.drop n, isQuote c = false) :
    ∀ c ∈ (blankFrom o t).drop n, isQuote c = false := by
  have hall := List.forall₂_drop n (forall₂_blankFrom ho t)
  generalize (blankFrom o t).drop n = l, t.drop n = r at h hall ⊢
  induction hall with
  | nil => exact h
  | cons hd _ ih =>
    obtain ⟨hc, hr⟩ := List.forall_mem_cons.mp h
    refine List.forall_mem_cons.mpr ⟨?_, ih hr⟩
    rcases hd with rfl | rfl
    · exact hc
    · decide

/-- Where no quote is seen from an offset on and no literal is open at the end, none is open at the
offset, and everything behind it is seen. -/
theorem drop_blankFrom (ho : IsState o) {n : Nat}
    (hseen : ∀ c ∈ (blankFrom o t).drop n, isQuote c = false) (hend : openQuoteFrom o t = none) :
    (n = 0 → o = none) ∧ (blankFrom o t).drop n = t.drop n := by
  induction o, t, ho using scanInduction generalizing n with
  | nil o =>
    rw [openQuoteFrom_nil] at hend
    rw [hend]
    exact ⟨fun _ => rfl, rfl⟩
  | outside c r ih =>
    cases n with
    | zero =>
      obtain ⟨-, hr⟩ := List.forall_mem_cons.mp hseen
      exact ⟨fun _ => rfl, congrArg (c :: ·) (ih (n := 0) hr hend).2⟩
    | succ n => exact ⟨nofun, (ih hseen hend).2⟩
  | inside q c r hq hc ih =>
    rw [openQuoteFrom_other hc] at hend
    rw [blankFrom_other hc] at hseen ⊢
    cases n with
    | zero => exact absurd ((ih (n := 0) (List.forall_mem_cons.mp hseen).2 hend).1 rfl) nofun
    | succ n => exact ⟨nofun, (ih hseen hend).2⟩
  | pair q r hq ih =>
    rw [openQuoteFrom_pair] at hend
    rw [blankFrom_pair] at hseen ⊢
    match n with
    | 0 =>
      have hr := (List.forall_mem_cons.mp (List.forall_mem_cons.mp hseen).2).2
      exact absurd ((ih (n := 0) hr hend).1 rfl) nofun
    | 1 => exact absurd ((ih (n := 0) (List.forall_mem_cons.mp hseen).2 hend).1 rfl) nofun
    | n + 2 => exact ⟨nofun, (ih hseen hend).2⟩
  | close q r hq hr ih =>
    rw [openQuoteFrom_close hr] at hend
    rw [blankFrom_close hr] at hseen ⊢
    cases n with
    | zero =>
      have hquote := (List.forall_mem_cons.mp hseen).1
      rw [hq] at hquote
      cases hquote
    | succ n => exact ⟨nofun, (ih hseen hend).2⟩

theorem openQuoteFrom_blankFrom (ho : IsState o) (t : Text) :
    openQuoteFrom o (blankFrom o t) = openQuoteFrom o t := by
  induction o, t, ho using scanInduction with
  | nil o => cases o <;> rfl
  | outside c r ih => exact ih
  | inside q c r hq hc ih =>
    rw [blankFrom_other hc, openQuoteFrom_other (ne_space_of_isQuote hq), openQuoteFrom_other hc, ih]
  | pair q r hq ih =>
    rw [blankFrom_pair, openQuoteFrom_other (ne_space_of_isQuote hq),
      openQuoteFrom_other (ne_space_of_isQuote hq), openQuoteFrom_pair, ih]
  | close q r hq hr ih =>
    have hhead : (blankFrom none r).head? ≠ some q := (head?_blank r).symm ▸ hr
    rw [blankFrom_close hr, openQuoteFrom_close hhead, openQuoteFrom_close hr, ih]

/-- Whether a literal is open at the end is seen in the blanked text. -/
theorem isOpen_blank (t : Text) : isOpen (blank t) = isOpen t := by
  rw [isOpen, blank, openQuoteFrom_blankFrom isState_none, isOpen]

/-- What is seen in a blanked text and is no quote stands outside literals. -/
theorem exists_append_of_blankFrom (ho : IsState o) (hc : isQuote c = false) (hspace : c ≠ ' ')
    (h : blankFrom o t = u ++ c :: v) :
    ∃ p r, t = p ++ c :: r ∧ blankFrom o p = u ∧ openQuoteFrom o p = none ∧ blank r = v := by
  induction o, t, ho using scanInduction generalizing u with
  | nil o => cases o <;> simp [blankFrom] at h
  | outside d r ih =>
    rcases List.cons_eq_append_iff.mp h with ⟨rfl, e⟩ | ⟨u, rfl, hr⟩
    · obtain ⟨rfl, rfl⟩ := List.cons.inj e
      have hopened : opened c = none := by simp [opened, hc]
      exact ⟨[], r, rfl, rfl, rfl, congrArg (blankFrom · r) hopened.symm⟩
    · obtain ⟨p, r, rfl, hp, ho, hv⟩ := ih hr
      exact ⟨d :: p, r, rfl, congrArg (d :: ·) hp, ho, hv⟩
  | inside q d r hq hd ih =>
    rw [blankFrom_other hd] at h
    rcases List.cons_eq_append_iff.mp h with ⟨rfl, e⟩ | ⟨u, rfl, hr⟩
    · exact absurd (List.cons.inj e).1 hspace
    · obtain ⟨p, r, rfl, hp, ho, hv⟩ := ih hr
      exact ⟨d :: p, r, rfl, by rw [blankFrom_other hd, hp], by rw [openQuoteFrom_other hd, ho], hv⟩
  | pair q r hq ih =>
    rw [blankFrom_pair] at h
    rcases List.cons_eq_append_iff.mp h with ⟨rfl, e⟩ | ⟨u, rfl, h'⟩
    · exact absurd (List.cons.inj e).1 hspace
    rcases List.cons_eq_append_iff.mp h' with ⟨rfl, e⟩ | ⟨u, rfl, hr⟩
    · exact absurd (List.cons.inj e).1 hspace
    · obtain ⟨p, r, rfl, hp, ho, hv⟩ := ih hr
      exact ⟨q :: q :: p, r, rfl, by rw [blankFrom_pair, hp], by rw [openQuoteFrom_pair, ho], hv⟩
  | close q r hq hr ih =>
    rw [blankFrom_close hr] at h
    rcases List.cons_eq_append_iff.mp h with ⟨rfl, e⟩ | ⟨u, rfl, h'⟩
    · obtain ⟨rfl, -⟩ := List.cons.inj e
      rw [hq] at hc
      cases hc
    · obtain ⟨p, r, rfl, hp, ho, hv⟩ := ih h'
      have hhead : p.head? ≠ some q := by
        cases p with
        | nil => exact nofun
        | cons f p => exact hr
      exact ⟨q :: p, r, rfl, by rw [blankFrom_close hhead, hp], by rw [openQuoteFrom_close hhead, ho],
        hv⟩

theorem exists_append_of_blank (hc : isQuote c = false) (hspace : c ≠ ' ')
    (h : blank t = u ++ c :: v) :
    ∃ p r, t = p ++ c :: r ∧ blank p = u ∧ isOpen p = false ∧ blank r = v := by
  obtain ⟨p, r, ht, hp, ho, hr⟩ := exists_append_of_blankFrom isState_none hc hspace h
  exact ⟨p, r, ht, hp, isOpen_eq_false_iff.mpr ho, hr⟩

end Seen

end Literal

/-! ### Statements -/

namespace Statement

variable {s t : Text}

theorem blank_semicolon_append (hs : Literal.isOpen s = false) (t : Text) :
    Literal.blank (s ++ ';' :: t) = Literal.blank s ++ ';' :: Literal.blank t :=
  Literal.blank_append hs rfl

/-- Nothing is left of a statement that has ended before the cursor. -/
theorem beforeCursor_append (hs : Literal.isOpen s = false) (t : Text) :
    beforeCursor (s ++ ';' :: t) = beforeCursor t := by
  rw [beforeCursor, blank_semicolon_append hs, Text.lastOffset_append_cons, Literal.length_blank,
    List.append_cons, ← List.drop_drop]
  have hlength : s.length + 1 = (s ++ [';']).length := by simp
  rw [hlength, List.drop_left, beforeCursor]

/-- Behind the cursor, nothing is left of the statements after its own. -/
theorem afterCursor_append (hs : Literal.isOpen s = false) (t : Text) :
    afterCursor (s ++ ';' :: t) = afterCursor s := by
  have hle : Text.firstOffset ';' (Literal.blank s) ≤ s.length := by
    rw [← Literal.length_blank s]
    exact (List.takeWhile_prefix _).length_le
  rw [afterCursor, blank_semicolon_append hs, Text.firstOffset_append_cons, afterCursor,
    List.take_append_of_le_length hle]

/-- The cursor's statement is what follows the last semicolon outside literals. -/
theorem exists_beforeCursor (t : Text) :
    (';' ∉ Literal.blank t ∧ beforeCursor t = t) ∨
      ∃ s r, t = s ++ ';' :: r ∧ Literal.isOpen s = false ∧ ';' ∉ Literal.blank r ∧
        beforeCursor t = r := by
  by_cases h : ';' ∈ Literal.blank t
  · obtain ⟨u, v, hblank, hv⟩ := Text.exists_append_cons_of_mem h
    obtain ⟨s, r, rfl, -, hs, rfl⟩ := Literal.exists_append_of_blank (by decide) (by decide) hblank
    have hr : beforeCursor r = r := by
      rw [beforeCursor, Text.lastOffset_eq_zero hv, List.drop_zero]
    exact Or.inr ⟨s, r, rfl, hs, hv, (beforeCursor_append hs r).trans hr⟩
  · refine Or.inl ⟨h, ?_⟩
    rw [beforeCursor, Text.lastOffset_eq_zero h, List.drop_zero]

/-- What is seen of the cursor's statement is what is seen of it in the whole text. -/
theorem blank_beforeCursor (t : Text) :
    Literal.blank (beforeCursor t) =
      (Literal.blank t).drop (Text.lastOffset ';' (Literal.blank t)) := by
  rcases exists_beforeCursor t with ⟨h, hstatement⟩ | ⟨s, r, rfl, hs, hr, hstatement⟩
  · rw [hstatement, Text.lastOffset_eq_zero h, List.drop_zero]
  · have hlength : (Literal.blank s).length + 1 = (Literal.blank s ++ [';']).length := by simp
    rw [hstatement, blank_semicolon_append hs, Text.lastOffset_append_cons,
      Text.lastOffset_eq_zero hr, Nat.add_zero, List.append_cons, hlength, List.drop_left]

/-- A literal that is open at the cursor is one of the cursor's statement. -/
theorem isOpen_beforeCursor (t : Text) : Literal.isOpen (beforeCursor t) = Literal.isOpen t := by
  rcases exists_beforeCursor t with ⟨-, hstatement⟩ | ⟨s, r, rfl, hs, -, hstatement⟩
  · rw [hstatement]
  · rw [hstatement, Literal.isOpen_append hs]
    rfl

end Statement

end SqlAssist
