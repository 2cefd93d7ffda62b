import SqlAssist.Completion.Snippet
import SqlAssist.Proofs.Text.Search
import SqlAssist.Proofs.Text.Words
import Mathlib.Data.List.Basic
import Mathlib.Data.List.Induction

/-!
# Snippets in the editor's notation

A snippet is read as an editor reads it (`read?`): a backslash takes the meaning of the mark behind
it, and a dollar sign opens a tab stop with its number and its default text. What is written is read
back: the inserted text and the tab stops, whatever the pieces hold (**`snippet_read`**).

Writing goes through the tab stops in the order of their offsets. The stops of pieces stand in that
order from the start, those with empty default texts included, so the snippet is the notation of one
piece after the other (`snippet_build`). In it a mark of a text stands behind a backslash, and no text
can open a tab stop, or close one (`readPlain_escape`).
-/

namespace SqlAssist

/-! ### The places of tab stops -/

namespace Piece

variable {ps before after : List Piece} {s : TabStop} {index offset : Nat} {d u : Text}

/-- The default text of a tab stop. -/
def defaultText? : Piece → Option Text
  | text _ => none
  | stop d => some d

/-- The default texts of the tab stops, in order. -/
def defaults (ps : List Piece) : List Text :=
  ps.filterMap defaultText?

/-- The text that pieces insert. -/
def insertedBy (ps : List Piece) : Text :=
  ps.flatMap inserted

@[simp] theorem defaults_text (t : Text) (ps : List Piece) : defaults (text t :: ps) = defaults ps :=
  rfl

@[simp] theorem defaults_stop (d : Text) (ps : List Piece) :
    defaults (stop d :: ps) = d :: defaults ps := rfl

theorem defaults_append (ps qs : List Piece) : defaults (ps ++ qs) = defaults ps ++ defaults qs :=
  List.filterMap_append

@[simp] theorem insertedBy_nil : insertedBy [] = [] := rfl

@[simp] theorem insertedBy_text (t : Text) (ps : List Piece) :
    insertedBy (text t :: ps) = t ++ insertedBy ps := rfl

@[simp] theorem insertedBy_stop (d : Text) (ps : List Piece) :
    insertedBy (stop d :: ps) = d ++ insertedBy ps := rfl

theorem insertedBy_append (ps qs : List Piece) :
    insertedBy (ps ++ qs) = insertedBy ps ++ insertedBy qs :=
  List.flatMap_append

theorem stopsFrom_append (index offset : Nat) (ps qs : List Piece) :
    stopsFrom index offset (ps ++ qs) =
      stopsFrom index offset ps ++
        stopsFrom (index + (defaults ps).length) (offset + (insertedBy ps).length) qs := by
  induction ps generalizing index offset with
  | nil => rfl
  | cons p ps ih =>
    cases p with
    | text t =>
      rw [List.cons_append, stopsFrom, stopsFrom, ih, defaults_text, insertedBy_text,
        List.length_append, Nat.add_assoc]
    | stop d =>
      rw [List.cons_append, stopsFrom, stopsFrom, ih, defaults_stop, insertedBy_stop,
        List.length_append, List.length_cons, Nat.add_assoc, Nat.add_assoc, Nat.add_comm 1]
      rfl

theorem map_defaultText_stopsFrom (index offset : Nat) (ps : List Piece) :
    (stopsFrom index offset ps).map (·.defaultText) = defaults ps := by
  induction ps generalizing index offset with
  | nil => rfl
  | cons p ps ih =>
    cases p with
    | text t => exact ih ..
    | stop d => exact congrArg (d :: ·) (ih ..)

theorem map_index_stopsFrom (index offset : Nat) (ps : List Piece) :
    (stopsFrom index offset ps).map (·.index) =
      (List.range' index (stopsFrom index offset ps).length).map Nat.cast := by
  induction ps generalizing index offset with
  | nil => rfl
  | cons p ps ih =>
    cases p with
    | text t => exact ih ..
    | stop d => exact congrArg (_ :: ·) (ih ..)

/-- A tab stop stands right behind what the pieces in front of its own insert. -/
theorem exists_of_mem_stopsFrom (h : s ∈ stopsFrom index offset ps) :
    ∃ before d after, ps = before ++ stop d :: after ∧ s.defaultText = d ∧
      s.offset = (offset + (insertedBy before).length : Nat) := by
  induction ps generalizing index offset with
  | nil => exact absurd h List.not_mem_nil
  | cons p ps ih =>
    cases p with
    | text t =>
      obtain ⟨before, d, after, rfl, hd, hoffset⟩ := ih h
      refine ⟨text t :: before, d, after, rfl, hd, ?_⟩
      rw [hoffset, insertedBy_text, List.length_append, Nat.add_assoc]
    | stop d =>
      rcases List.mem_cons.mp h with rfl | h
      · exact ⟨[], d, ps, rfl, rfl, rfl⟩
      · obtain ⟨before, d', after, rfl, hd, hoffset⟩ := ih h
        refine ⟨stop d :: before, d', after, rfl, hd, ?_⟩
        rw [hoffset, insertedBy_stop, List.length_append, Nat.add_assoc]

/-- A tab stop starts behind the default text of another one. -/
def StartsBehind (b a : TabStop) : Prop :=
  a.offset + (a.defaultText.length : Int) ≤ b.offset

theorem pairwise_stopsFrom (index offset : Nat) (ps : List Piece) :
    (stopsFrom index offset ps).Pairwise fun a b => StartsBehind b a := by
  induction ps generalizing index offset with
  | nil => exact .nil
  | cons p ps ih =>
    cases p with
    | text t => exact ih ..
    | stop d =>
      refine List.pairwise_cons.mpr ⟨fun s hs => ?_, ih ..⟩
      obtain ⟨before, -, -, -, -, hoffset⟩ := exists_of_mem_stopsFrom hs
      rw [StartsBehind, hoffset]
      push_cast
      omega

/-- The tab stops lie in the text as the pieces were put together. -/
structure ArePlaced (ps : List Piece) (t : Text) (stops : List TabStop) : Prop where
  /-- The text is what the pieces insert. -/
  inserted : t = insertedBy ps
  /-- They are numbered from one on. -/
  numbered : stops.map (·.index) = (List.range' 1 stops.length).map Nat.cast
  /-- They have the default texts of the pieces, in order. -/
  defaults : stops.map (·.defaultText) = defaults ps
  /-- Each starts behind the default texts of those in front of it. -/
  apart : stops.Pairwise fun a b => StartsBehind b a
  /-- Each starts where the pieces in front of its own end. -/
  offset : ∀ before d after, ps = before ++ stop d :: after →
    stops[(Piece.defaults before).length]? =
      some ⟨(Piece.defaults before).length + 1, d, (insertedBy before).length⟩
  /-- Each covers its default text. -/
  covers : ∀ s ∈ stops, 0 ≤ s.offset ∧
    t.slice s.offset.toNat (s.offset.toNat + s.defaultText.length) = s.defaultText

theorem arePlaced_build (ps : List Piece) (label : Text) (detail : Option Text) :
    ArePlaced ps (build ps label detail).insertText (build ps label detail).stops where
  inserted := rfl
  numbered := map_index_stopsFrom 1 0 ps
  defaults := map_defaultText_stopsFrom 1 0 ps
  apart := pairwise_stopsFrom 1 0 ps
  offset := by
    rintro before d after rfl
    have hlength : (stopsFrom 1 0 before).length = (Piece.defaults before).length := by
      rw [← map_defaultText_stopsFrom 1 0 before, List.length_map]
    rw [build, stopsFrom_append, stopsFrom, ← hlength, List.getElem?_append_right (Nat.le_refl _),
      Nat.sub_self, List.getElem?_cons_zero, Nat.zero_add, Nat.add_comm 1]
    rfl
  covers := by
    intro s hs
    obtain ⟨before, d, after, rfl, rfl, hoffset⟩ := exists_of_mem_stopsFrom hs
    have htext : (build (before ++ stop s.defaultText :: after) label detail).insertText =
        insertedBy before ++ (s.defaultText ++ insertedBy after) := insertedBy_append ..
    rw [hoffset, htext, Text.slice]
    refine ⟨Int.natCast_nonneg _, ?_⟩
    simp

end Piece

/-! ### Reading a snippet -/

namespace Snippet

open Candidate

/-- A character that has a meaning of its own in a snippet. -/
def isMark (c : Char) : Bool :=
  c = '\\' || c = '$' || c = '\x7d'

/-- The text in front of the first dollar sign or closing brace that no backslash stands before, and
the rest from there on. A backslash takes the meaning of the mark behind it; in front of other
characters it stands for itself. -/
def readPlain : Text → Text × Text
  | [] => ([], [])
  | '\\' :: c :: r =>
    if isMark c then (c :: (readPlain r).1, (readPlain r).2)
    else ('\\' :: (readPlain (c :: r)).1, (readPlain (c :: r)).2)
  | c :: r =>
    if c = '$' || c = '\x7d' then ([], c :: r) else (c :: (readPlain r).1, (readPlain r).2)

/-- The number and the default text of the tab stop at the start of a text, and what follows. -/
def readStop? : Text → Option (Nat × Text × Text)
  | '$' :: '\x7b' :: r =>
    match r.takeWhile Char.isDigit, r.dropWhile Char.isDigit with
    | digit :: digits, ':' :: s =>
      match readPlain s with
      | (d, '\x7d' :: rest) => some (Nat.ofDigitChars 10 (digit :: digits) 0, d, rest)
      | _ => none
    | _, _ => none
  | _ => none

theorem length_readPlain_le (t : Text) : (readPlain t).2.length ≤ t.length := by
  fun_induction readPlain t with
  | case1 => exact Nat.le_refl 0
  | case2 c r hc ih => simp only [List.length_cons]; omega
  | case3 c r hc ih => simp only [List.length_cons] at ih ⊢; omega
  | case4 c r hnot hc => exact Nat.le_refl _
  | case5 c r hnot hc ih => simp only [List.length_cons]; omega

theorem length_readStop?_lt {t d r : Text} {n : Nat} (h : readStop? t = some (n, d, r)) :
    r.length < t.length := by
  unfold readStop? at h
  split at h
  · next u =>
    split at h
    · next digit digits s _ hdrop =>
      split at h
      · next d' r' hplain =>
        obtain ⟨-, -, rfl⟩ : _ ∧ _ ∧ r' = r := by simpa using h
        have hread : (r'.length + 1) ≤ s.length := by
          simpa [hplain] using length_readPlain_le s
        have hafter : s.length + 1 ≤ u.length := by
          simpa [hdrop] using (List.dropWhile_sublist Char.isDigit (l := u)).length_le
        simp only [List.length_cons]
        omega
      · cases h
    · cases h
  · cases h

/-- The text that a snippet inserts and its tab stops, read from an offset of that text on. -/
def readFrom? (offset : Nat) (t : Text) : Option (Text × List TabStop) :=
  if (readPlain t).2.isEmpty then some ((readPlain t).1, [])
  else
    match _h : readStop? (readPlain t).2 with
    | none => none
    | some (index, d, r) =>
      (readFrom? (offset + (readPlain t).1.length + d.length) r).map fun p =>
        ((readPlain t).1 ++ d ++ p.1, ⟨index, d, offset + (readPlain t).1.length⟩ :: p.2)
termination_by t.length
decreasing_by exact Nat.lt_of_lt_of_le (length_readStop?_lt _h) (length_readPlain_le t)

/-- The text that a snippet inserts and its tab stops. -/
def read? (t : Text) : Option (Text × List TabStop) :=
  readFrom? 0 t

/-! ### What is written is read -/

variable {u r d t : Text} {index offset : Nat}

/-- A text that is at its end, or at the start or the end of a tab stop. -/
def AtEdge (r : Text) : Prop :=
  r.head?.all fun c => c = '$' || c = '\x7d'

theorem readPlain_of_atEdge (hr : AtEdge r) : readPlain r = ([], r) := by
  cases r with
  | nil => rfl
  | cons c r =>
    have hc : (c = '$' || c = '\x7d') = true := hr
    have hslash : c ≠ '\\' := by rintro rfl; simp at hc
    rw [readPlain, if_pos hc]
    exact fun _ _ h _ => hslash h

/-- No text can open a tab stop, or close one. -/
theorem readPlain_escape (t : Text) (hr : AtEdge r) : readPlain (escape t ++ r) = (t, r) := by
  induction t with
  | nil => exact readPlain_of_atEdge hr
  | cons c t ih =>
    -- A mark is read together with its own backslash, so a text that ends in backslashes leaves none
    -- for what follows it.
    have hcons : escape (c :: t) ++ r = escapeChar c ++ (escape t ++ r) := by
      rw [escape, List.flatMap_cons, List.append_assoc]
      rfl
    rw [hcons]
    by_cases hc : isMark c = true
    · have hchar : escapeChar c = ['\\', c] := if_pos hc
      rw [hchar]
      show readPlain ('\\' :: c :: (escape t ++ r)) = (c :: t, r)
      rw [readPlain, if_pos hc, ih]
    · have hchar : escapeChar c = [c] := if_neg hc
      rw [hchar]
      show readPlain (c :: (escape t ++ r)) = (c :: t, r)
      simp only [isMark, Bool.or_eq_true, decide_eq_true_eq, not_or] at hc
      rw [readPlain, ih, if_neg (by simp [hc])]
      exact fun _ _ h _ => hc.1.1 h

theorem escape_append (t u : Text) : escape (t ++ u) = escape t ++ escape u :=
  List.flatMap_append

theorem readFrom?_of_atEnd (h : readPlain t = (u, [])) : readFrom? offset t = some (u, []) := by
  rw [readFrom?, h]
  rfl

theorem readFrom?_of_stop (h : readPlain t = (u, r)) {s : Text}
    (hstop : readStop? r = some (index, d, s)) :
    readFrom? offset t = (readFrom? (offset + u.length + d.length) s).map fun p =>
      (u ++ d ++ p.1, ⟨index, d, offset + u.length⟩ :: p.2) := by
  have hr : r.isEmpty = false := by
    cases r with
    | nil => cases hstop
    | cons c r => rfl
  rw [readFrom?, h, if_neg (by simp [hr])]
  split
  · next hnone => rw [hstop] at hnone; cases hnone
  · next index' d' s' hsome =>
    obtain ⟨rfl, rfl, rfl⟩ : index = index' ∧ d = d' ∧ s = s' := by
      simpa using hstop.symm.trans hsome
    rfl

/-- The number of a tab stop is read up to the colon, its default text up to the brace. -/
theorem readStop?_stopText (index : Nat) (d : Text) (offset : Int) (r : Text) :
    readStop? (stopText ⟨index, d, offset⟩ ++ r) = some (index, d, r) := by
  have hdigits : ∀ c ∈ Nat.toDigits 10 index, c.isDigit = true := fun c hc =>
    Nat.isDigit_of_mem_toDigits (by decide) (by decide) hc
  have hne : Nat.toDigits 10 index ≠ [] := Nat.toDigits_ne_nil
  obtain ⟨digit, digits, hcons⟩ := List.exists_cons_of_ne_nil hne
  have htext : stopText ⟨index, d, offset⟩ ++ r = '$' :: '\x7b' ::
      (Nat.toDigits 10 index ++ ':' :: (escape d ++ '\x7d' :: r)) := by
    simp [stopText, Text.ofInt, Text.ofNat]
  have hnumber : Nat.ofDigitChars 10 (digit :: digits) 0 = index :=
    hcons ▸ Nat.ofDigitChars_ten_toDigits
  have hplain : readPlain (escape d ++ '\x7d' :: r) = (d, '\x7d' :: r) := readPlain_escape d rfl
  rw [htext, readStop?, Text.takeWhile_append_stop hdigits rfl,
    Text.dropWhile_append_stop hdigits rfl, hcons]
  simp only [hplain, hnumber]

/-! ### Pieces in the editor's notation -/

variable {ps : List Piece}

/-- Pieces in the editor's notation, one after the other; the first tab stop has the number `index`. -/
def written (index : Nat) : List Piece → Text
  | [] => []
  | .text t :: ps => escape t ++ written index ps
  | .stop d :: ps => stopText ⟨index, d, 0⟩ ++ written (index + 1) ps

/-- The text `a` is written already and `b` is what follows up to the pieces. -/
theorem snippetFrom_stopsFrom (a b : Text) (index : Nat) (ps : List Piece) :
    snippetFrom (a ++ b ++ Piece.insertedBy ps) a.length
        (Piece.stopsFrom index (a.length + b.length) ps) =
      escape b ++ written index ps := by
  induction ps generalizing a b index with
  | nil =>
    rw [Piece.stopsFrom, snippetFrom, written, Text.after, List.append_assoc, Text.offsetOf_length,
      List.drop_left, Piece.insertedBy_nil, List.append_nil, List.append_nil]
  | cons p ps ih =>
    cases p with
    | text t =>
      have h := ih a (b ++ t) index
      rw [List.length_append, ← Nat.add_assoc, ← List.append_assoc, escape_append] at h
      rw [Piece.stopsFrom, Piece.insertedBy_text, ← List.append_assoc, h, written,
        List.append_assoc]
    | stop d =>
      have hstart : (a ++ b ++ (d ++ Piece.insertedBy ps)).offsetOf a.length = a.length := by
        rw [List.append_assoc, Text.offsetOf_length]
      have hoffset : (a ++ b ++ (d ++ Piece.insertedBy ps)).offsetOf
          ((a.length + b.length : Nat) : Int) = a.length + b.length := by
        rw [← List.length_append, Text.offsetOf_length]
      have hslice :
          (a ++ b ++ (d ++ Piece.insertedBy ps)).slice a.length (a.length + b.length) = b := by
        rw [Text.slice, List.append_assoc, List.drop_left, Nat.add_sub_cancel_left, List.take_left]
      -- Behind the stop nothing waits to be written: its default text has been.
      have hrest : snippetFrom (a ++ b ++ (d ++ Piece.insertedBy ps))
          (((a.length + b.length : Nat) : Int) + d.length)
          (Piece.stopsFrom (index + 1) (a.length + b.length + d.length) ps) =
            written (index + 1) ps := by
        simpa [escape, Nat.add_assoc, Int.add_assoc] using ih (a ++ b ++ d) [] (index + 1)
      rw [Piece.stopsFrom, Piece.insertedBy_stop, snippetFrom, hstart, hoffset, hslice, hrest,
        written, List.append_assoc]
      rfl

/-- A snippet is the notation of one piece after the other. -/
theorem snippet_build (ps : List Piece) (label : Text) (detail : Option Text) :
    (Piece.build ps label detail).snippet = written 1 ps := by
  -- Nothing is moved, so two stops at one offset, the first of them empty, stay in their order.
  have hsorted : (Piece.stopsFrom 1 0 ps).Pairwise fun a b => decide (a.offset ≤ b.offset) = true :=
    (Piece.pairwise_stopsFrom 1 0 ps).imp fun {a b} (h : a.offset + _ ≤ b.offset) =>
      decide_eq_true (by omega)
  have h : (Piece.build ps label detail).snippet =
      snippetFrom (Piece.insertedBy ps) 0
        ((Piece.stopsFrom 1 0 ps).mergeSort fun a b => decide (a.offset ≤ b.offset)) := rfl
  rw [h, List.mergeSort_of_pairwise hsorted]
  exact snippetFrom_stopsFrom [] [] 1 ps

/-- The text `b` is written in front of the pieces. -/
theorem readFrom?_written (b : Text) (index offset : Nat) (ps : List Piece) :
    readFrom? offset (escape b ++ written index ps) =
      some (b ++ Piece.insertedBy ps, Piece.stopsFrom index (offset + b.length) ps) := by
  induction ps generalizing b index offset with
  | nil =>
    rw [written, readFrom?_of_atEnd (readPlain_escape b rfl), Piece.insertedBy_nil, List.append_nil]
    rfl
  | cons p ps ih =>
    cases p with
    | text t =>
      rw [written, ← List.append_assoc, ← escape_append, ih, List.append_assoc, List.length_append,
        ← Nat.add_assoc]
      rfl
    | stop d =>
      have hplain : readPlain (escape b ++ (stopText ⟨index, d, 0⟩ ++ written (index + 1) ps)) =
          (b, stopText ⟨index, d, 0⟩ ++ written (index + 1) ps) := readPlain_escape b rfl
      have h := ih [] (index + 1) (offset + b.length + d.length)
      have hnil : escape [] ++ written (index + 1) ps = written (index + 1) ps := rfl
      rw [hnil] at h
      rw [written, readFrom?_of_stop hplain (readStop?_stopText ..), h, Option.map_some,
        Piece.insertedBy_stop, List.append_assoc]
      rfl

/-- The tab stops of a built snippet are placed as its pieces were put together, and reading the
snippet gives the inserted text with these tab stops; a candidate that is no snippet reads as its
inserted text, without tab stops. -/
theorem snippet_read (pieces : List Piece) (label : Text) (detail : Option Text) :
    Piece.ArePlaced pieces (Piece.build pieces label detail).insertText
        (Piece.build pieces label detail).stops ∧
      read? (Piece.build pieces label detail).snippet =
        some ((Piece.build pieces label detail).insertText,
          (Piece.build pieces label detail).stops) ∧
      ∀ c : Candidate, c.isSnippet = false → read? c.snippet = some (c.insertText, []) := by
  refine ⟨Piece.arePlaced_build pieces label detail, ?_, fun c hc => ?_⟩
  · rw [snippet_build]
    exact readFrom?_written [] 1 0 pieces
  · have hplain : c.snippet = escape c.insertText := by
      rw [snippet, if_neg (by simp [hc])]
    have h := readFrom?_written c.insertText 1 0 []
    rw [written, List.append_nil, Piece.insertedBy_nil, List.append_nil] at h
    rw [hplain]
    exact h

/-- A text that ends in a backslash, an empty default text and a default text that looks like a tab
stop. -/
theorem snippet_read_marks :
    read? "\\\\$\x7b1:\x7d$\x7b2:\\$\x7b9:x\\\x7d\x7d".toList =
        some ("\\$\x7b9:x\x7d".toList, [⟨1, [], 1⟩, ⟨2, "$\x7b9:x\x7d".toList, 1⟩]) ∧
      read? "\\$\x7b1:x\\\x7d".toList = some ("$\x7b1:x\x7d".toList, []) := by
  obtain ⟨-, hread, hplain⟩ :=
    snippet_read [.text ['\\'], .stop [], .stop "$\x7b9:x\x7d".toList] [] none
  rw [snippet_build] at hread
  exact ⟨hread, hplain ⟨[], "$\x7b1:x\x7d".toList, .field, none, false, []⟩ rfl⟩

end Snippet

end SqlAssist
