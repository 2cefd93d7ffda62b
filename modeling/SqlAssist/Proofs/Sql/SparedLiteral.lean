import SqlAssist.Proofs.Sql.Quoted
import SqlAssist.Proofs.Text.Words

/-!
# Literals in masked texts

Comments are found by the lexical rules, literals by their own scan. Masking spares the
literals of a text (`SparesLiterals`) if it takes nothing away that is seen outside them.

That is so where literals are plainly quoted and no comment opens outside them
(`IsPlainlyQuoted.sparesLiterals`): going from lexeme to lexeme, each starts where no literal
is open. A dollar tag is looked for in what is seen of the text, since no quote is part
of a tag (`dollarTag?_blank`).

In a text that is spared, the end is taken for the inside of a comment only if it is
the inside of a literal (`isOpen_of_spares`): a line comment at the end would lie in a
literal and would have blanked the quote that closes it.
-/

namespace SqlAssist

/-! ### Dollar tags -/

namespace Lexicon

variable {name w t : Text}

/-- What can stand between the dollar signs of a tag. -/
def IsTagName (name : Text) : Prop :=
  name = [] ∨ name.head?.any isTagStart = true ∧ ∀ c ∈ name, Text.isWordChar c = true

theorem IsTagName.no_quote (h : IsTagName name) : ∀ c ∈ name, Literal.isQuote c = false := by
  rcases h with rfl | ⟨-, hword⟩
  · exact fun c hc => absurd hc List.not_mem_nil
  · exact Literal.no_quote_of_forall (by decide) hword

theorem isWordChar_dollar : Text.isWordChar '$' = false := by decide

/-- The tag is read over a name that is followed by a dollar sign. -/
theorem dollarTag?_tag (h : IsTagName name) (w : Text) :
    dollarTag? ('$' :: (name ++ '$' :: w)) = some ('$' :: name ++ ['$']) := by
  have hread : (if (name ++ '$' :: w).head?.any isTagStart then Text.firstWord (name ++ '$' :: w) else []) =
      name := by
    rcases h with rfl | ⟨hhead, hword⟩
    · rfl
    · have hstart : (name ++ '$' :: w).head?.any isTagStart = true := by
        cases name with
        | nil => cases hhead
        | cons c name => exact hhead
      have hstop : ('$' :: w).head?.any Text.isWordChar = false := isWordChar_dollar
      rw [if_pos hstart, Text.firstWord, Text.takeWhile_append_stop hword hstop]
  rw [dollarTag?]
  simp only [hread, List.drop_left]
  rfl

theorem isTagName_firstWord (r : Text) :
    IsTagName (if r.head?.any isTagStart then Text.firstWord r else []) ∧
      (if r.head?.any isTagStart then Text.firstWord r else []) <+: r := by
  split_ifs with hstart
  · have hpre : Text.firstWord r <+: r := List.takeWhile_prefix _
    refine ⟨?_, hpre⟩
    cases hword : Text.firstWord r with
    | nil => exact Or.inl rfl
    | cons c v =>
      have hall : ∀ d ∈ c :: v, Text.isWordChar d = true := fun d hd =>
        List.mem_takeWhile_imp (hword ▸ hd : d ∈ Text.firstWord r)
      obtain ⟨w, rfl⟩ := hword ▸ hpre
      exact Or.inr ⟨hstart, hall⟩
  · exact ⟨Or.inl rfl, List.nil_prefix⟩

theorem exists_of_dollarTag? {tag : Text} (h : dollarTag? t = some tag) :
    ∃ name w, IsTagName name ∧ t = '$' :: (name ++ '$' :: w) := by
  unfold dollarTag? at h
  split at h
  · rename_i r
    have hname := isTagName_firstWord r
    dsimp only at h
    generalize (if r.head?.any isTagStart then Text.firstWord r else []) = name at h hname
    split_ifs at h with hend
    obtain ⟨htag, v, rfl⟩ := hname
    rw [List.drop_left] at hend
    obtain ⟨w, rfl⟩ := List.head?_eq_some_iff.mp hend
    exact ⟨name, w, htag, rfl⟩
  · cases h

/-- A dollar tag holds no quote, so it is seen. -/
theorem dollarTag?_blank {tag : Text} (h : dollarTag? t = some tag) :
    t.head?.any Literal.isQuote = false ∧ ∃ tag, dollarTag? (Literal.blank t) = some tag := by
  obtain ⟨name, w, hname, rfl⟩ := exists_of_dollarTag? h
  have hblank : Literal.blank (name ++ '$' :: w) = name ++ '$' :: Literal.blank w := by
    rw [Literal.blank_append (Literal.isOpen_of_no_quote hname.no_quote) rfl,
      Literal.blank_of_no_quote hname.no_quote]
    rfl
  have hseen := dollarTag?_tag hname (Literal.blank w)
  rw [← hblank] at hseen
  exact ⟨rfl, _, hseen⟩

end Lexicon

/-! ### Plainly quoted texts -/

namespace Comment

open Lexicon

variable {a t : Text}

/-- Masking takes nothing away that is seen outside literals. -/
def SparesLiterals (t : Text) : Prop := Literal.blank (mask t) = Literal.blank t

/-- Outside the literals of the text nothing opens a comment or a quotation of another kind, and no
literal of it can be read in another way. -/
structure IsPlainlyQuoted (t : Text) : Prop where
  /-- Outside literals stands no marker of a comment. -/
  no_marker : hasMarker (Literal.blank t) = false
  /-- A quote does not follow a backslash. -/
  no_escape : ¬ ['\\', '\''] <:+: t ∧ ¬ ['\\', '"'] <:+: t
  /-- Outside literals stand no quotes of another kind. -/
  no_other_quote : (Literal.blank t).any isOtherQuote = false
  /-- Nor do dollar tags. -/
  no_tag : ∀ r ∈ (Literal.blank t).tails, dollarTag? r = none
  /-- A quote does not follow `WITH`. -/
  no_with : ∀ r ∈ t.tails, ¬ "WITH'".toList <+: r.map Text.letterKey

instance (t : Text) : Decidable (IsPlainlyQuoted t) :=
  decidable_of_iff
    (hasMarker (Literal.blank t) = false ∧ (¬ ['\\', '\''] <:+: t ∧ ¬ ['\\', '"'] <:+: t) ∧
      (Literal.blank t).any isOtherQuote = false ∧
      (∀ r ∈ (Literal.blank t).tails, dollarTag? r = none) ∧
      ∀ r ∈ t.tails, ¬ "WITH'".toList <+: r.map Text.letterKey)
    ⟨fun ⟨hmarker, hescape, hquote, htag, hwith⟩ => ⟨hmarker, hescape, hquote, htag, hwith⟩,
      fun h => ⟨h.no_marker, h.no_escape, h.no_other_quote, h.no_tag, h.no_with⟩⟩

theorem hasMarker_blank_of_opensComment (h : OpensComment t) :
    t.head?.any Literal.isQuote = false ∧ hasMarker (Literal.blank t) = true := by
  rw [hasMarker_iff]
  rcases h with (⟨r, rfl⟩ | ⟨r, rfl⟩) | ⟨n, hn⟩
  · exact ⟨rfl, Or.inl ⟨[], _, rfl⟩⟩
  · exact ⟨rfl, Or.inr (Or.inr List.mem_cons_self)⟩
  · obtain ⟨r, rfl⟩ := prefix_of_blockCommentLength? hn
    exact ⟨rfl, Or.inr (Or.inl ⟨[], _, rfl⟩)⟩

namespace IsPlainlyQuoted

variable {r : Text}

theorem not_opensComment (h : IsPlainlyQuoted (a ++ r)) (ha : Literal.isOpen a = false) :
    ¬ OpensComment r := by
  intro hopens
  obtain ⟨hhead, hmarker⟩ := hasMarker_blank_of_opensComment hopens
  have hseen : hasMarker (Literal.blank (a ++ r)) = true := by
    rw [Literal.blank_append ha hhead]
    exact hasMarker_mono (List.suffix_append _ _).isInfix hmarker
  rw [h.no_marker] at hseen
  cases hseen

theorem readsAlike (h : IsPlainlyQuoted (a ++ r)) (ha : Literal.isOpen a = false) : ReadsAlike r where
  no_escape q hq hi := by
    have hinfix := hi.trans (List.suffix_append a r).isInfix
    rcases Literal.isQuote_iff.mp hq with rfl | rfl
    · exact h.no_escape.1 hinfix
    · exact h.no_escape.2 hinfix
  no_other_quote c hc hhead := by
    obtain ⟨r, rfl⟩ := List.head?_eq_some_iff.mp hhead
    have hquote : (c :: r).head?.any Literal.isQuote = false := isQuote_of_isOtherQuote hc
    have hany := List.any_eq_false.mp h.no_other_quote c
    rw [Literal.blank_append ha hquote] at hany
    exact hany (List.mem_append_right _ List.mem_cons_self) hc
  no_tag := by
    by_contra htag
    obtain ⟨tag, htag⟩ := Option.ne_none_iff_exists'.mp htag
    obtain ⟨hhead, seen, hseen⟩ := dollarTag?_blank htag
    have hsuffix : Literal.blank r <:+ Literal.blank (a ++ r) := by
      rw [Literal.blank_append ha hhead]
      exact List.suffix_append _ _
    rw [h.no_tag _ ((List.mem_tails _ _).mpr hsuffix)] at hseen
    cases hseen
  no_with := h.no_with r ((List.mem_tails _ _).mpr (List.suffix_append a r))

end IsPlainlyQuoted

/-- Where literals are plainly quoted, each ends for the lexical rules where it ends for the scan, and
masking spares it. -/
theorem blank_maskFrom (ht : IsPlainlyQuoted t) (before : Option Char) (r : Text) :
    ∀ a, t = a ++ r → Literal.isOpen a = false →
      Literal.blank (maskFrom before r) = Literal.blank r := by
  induction before, r using lexemeInduction with
  | nil before => exact fun _ _ _ => rfl
  | lexeme before kind x r hx ih =>
    rintro a rfl ha
    -- No literal is open behind `a`, so what opens a comment here would be seen.
    have hk : kind = .code := by_contra fun hk => ht.not_opensComment ha (hx.opensComment hk)
    subst hk
    rw [maskFrom_lexeme hx, if_pos rfl]
    rcases hx.isOpen_eq_false_or (ht.readsAlike ha) with hclosed | ⟨q, u, happend, hq, hu⟩
    · have hax : Literal.isOpen (a ++ x) = false := (Literal.isOpen_append ha x).trans hclosed
      have hrest := ih (a ++ x) (List.append_assoc a x r).symm hax
      exact Literal.blankFrom_append_congr Literal.isState_none
        (Literal.isOpen_eq_false_iff.mp hclosed) hrest
    -- Whatever is masked behind a quote that does not come again, only the quote is seen.
    · obtain ⟨c, y, rfl⟩ := List.exists_cons_of_ne_nil hx.ne_nil
      obtain ⟨rfl, rfl⟩ := List.cons.inj happend
      have hrest : c ∉ y ++ r := hu
      have hmasked : c ∉ y ++ maskFrom (c :: y).getLast? r := by
        intro hmem
        refine hu (List.mem_append.mpr ((List.mem_append.mp hmem).imp_right ?_))
        exact mem_of_mem_maskFrom fun e => Literal.ne_space_of_isQuote hq e.symm
      rw [List.cons_append, List.cons_append, Literal.blank_of_not_mem hq hmasked,
        Literal.blank_of_not_mem hq hrest, List.length_append, List.length_append, length_maskFrom]

theorem IsPlainlyQuoted.sparesLiterals (h : IsPlainlyQuoted t) : SparesLiterals t := by
  rw [SparesLiterals, mask_eq_maskFrom]
  exact blank_maskFrom h none t [] rfl rfl

/-! ### The end of a spared text -/

theorem isQuote_of_mem_blank {c : Char} (h : c ∈ Text.blank t) : Literal.isQuote c = false := by
  obtain ⟨d, -, rfl⟩ := List.mem_map.mp h
  rw [Text.blankChar, Text.isLineBreak]
  split_ifs with hd
  · rcases Bool.or_eq_true_iff.mp hd with hd | hd
    · rw [of_decide_eq_true hd]
      decide
    · rw [of_decide_eq_true hd]
      decide
  · decide

/-- In a text that masking spares, a line comment at the end would open where a marker is seen. -/
theorem not_lineComment_of_spares (hm : hasMarker (Literal.blank t) = false) (h : SparesLiterals t)
    (hclosed : Literal.isOpen t = false) : (kinds t).getLast? ≠ some .lineComment := by
  intro hlast
  obtain ⟨a, x, m, rfl, hx, hlength, hmask⟩ := exists_of_getLast?_kindsFrom none t hlast
  -- The comment is blanked, and still no quote has been taken away; so it has none outside literals.
  have hseen : ∀ c ∈ (Literal.blank (a ++ x)).drop a.length, Literal.isQuote c = false := by
    rw [← h, mask_eq_maskFrom, hmask, ← hlength]
    refine Literal.no_quote_drop_blankFrom Literal.isState_none ?_
    rw [List.drop_left]
    exact fun c => isQuote_of_mem_blank
  have hend : (Literal.blank (a ++ x)).drop a.length = x :=
    (Literal.drop_blankFrom Literal.isState_none hseen
      (Literal.isOpen_eq_false_iff.mp hclosed)).2.trans List.drop_left
  have hsuffix : x <:+ Literal.blank (a ++ x) := by
    have hdrop := List.drop_suffix a.length (Literal.blank (a ++ x))
    rwa [hend] at hdrop
  have hmarker := hasMarker_mono hsuffix.isInfix (hasMarker_of_opensComment (Or.inl hx))
  rw [hm] at hmarker
  cases hmarker

/-- So the end of such a text is not taken for a comment's. -/
theorem isOpen_of_spares (hm : hasMarker (Literal.blank t) = false) (h : SparesLiterals t)
    (hclosed : Literal.isOpen t = false) : isOpen t = false := by
  have hblock : Text.hasInfix "/*".toList (Literal.blank (mask t)) = false := by
    rw [h]
    rw [hasMarker, Bool.or_eq_false_iff, Bool.or_eq_false_iff] at hm
    exact hm.1.2
  rw [isOpen, if_neg (not_lineComment_of_spares hm h hclosed), hblock, ite_self]

end Comment

end SqlAssist
