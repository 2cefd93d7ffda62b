import SqlAssist.Proofs.Sql.ClauseSearch
import SqlAssist.Proofs.Sql.ParenEdge
import SqlAssist.Proofs.Sql.Registration

/-!
# White space at a parenthesis

White space is put between two parts of a masked text that meet at a parenthesis. The clause is the
same (`classify_gap`), and so is what tells a level with a clause and a column list
(`any_startsClause_gap`, `any_isTargetOnly_gap`): each of these reads whole words, and a word ends at
a parenthesis with or without white space.

The tables are the same but in two places (`Counts`). `FROM` and `JOIN` have to be followed by white
space, so in front of a group the space makes a table of it. And an alias has to follow white space,
so behind a group the space makes an alias of the next word. Anywhere else the tables are the same:
**`ofText_gap`**.
-/

namespace SqlAssist

variable {w x r : Text}

namespace MeetAtParen

theorem gap_iff (hw : IsGap w) : MeetAtParen x (w ++ r) ↔ MeetAtParen x r := by
  rw [MeetAtParen, MeetAtParen, hw.trimStart_append]

theorem gap (hw : IsGap w) (h : MeetAtParen x r) : MeetAtParen x (w ++ r) :=
  (gap_iff hw).mpr h

theorem trimStart_right (h : MeetAtParen x r) : MeetAtParen x r.trimStart := by
  have htwice : r.trimStart.trimStart = r.trimStart := List.dropWhile_idempotent Text.isSpace r
  rwa [MeetAtParen, htwice]

theorem apart (h : MeetAtParen x r) : Text.Apart x r := by
  rcases h with h | h
  · left
    rw [h]
    decide
  · exact Or.inr (head?_any withinWords_isWordChar (Or.inr h : MeetAtParen [] r))

end MeetAtParen

/-! ### Words and keywords -/

namespace Text

variable {α : Type}

/-- Words start in corresponding places with and without the space. -/
theorem map_wordStarts_gap (hw : IsGap w) (h : MeetAtParen x r) {f : Text → α}
    (hf : ∀ y ∈ x.wordStarts, f (y ++ (w ++ r)) = f (y ++ r)) :
    (x ++ (w ++ r)).wordStarts.map f = (x ++ r).wordStarts.map f := by
  have hgap : (w ++ r).wordStarts = r.wordStarts := wordStartsFrom_gap_append hw false r
  rw [wordStarts_append (h.gap hw).apart, wordStarts_append h.apart, hgap, List.map_append,
    List.map_append, List.map_map, List.map_map]
  exact congrArg (· ++ r.wordStarts.map f) (List.map_congr_left hf)

/-- What is read behind keywords is the same with and without the space, if it is the same inside of
the first part and nothing is read off a parenthesis. -/
theorem afterKeywords?_gap (hw : IsGap w) (h : MeetAtParen x r) (ks : List Text) (hks : [] ∉ ks)
    {f : Option Text → α}
    (hf : ∀ z, z ≠ [] → MeetAtParen z r → f (some (z ++ (w ++ r))) = f (some (z ++ r)))
    (hstart : MeetAtParen [] r → f (some r.trimStart) = f none) :
    ∀ y ∈ x.wordStarts, f (afterKeywords? ks (y ++ (w ++ r))) = f (afterKeywords? ks (y ++ r)) := by
  intro y hy
  obtain ⟨hsuffix, hne⟩ := suffix_of_mem_wordStarts hy
  have hmeet : MeetAtParen y r := h.suffix hsuffix hne
  rcases afterKeywords?_meet hne (hmeet.gap hw) hmeet (hw.trimStart_append r) (hw.head?_isSpace r) ks
      hks
    with heq | ⟨z, hz, -, hzr, -, hfirst, hsecond⟩ | ⟨hparen, -, -, hfirst, hsecond⟩
  · rw [heq]
  · rw [hfirst, hsecond, hf z hz hzr]
  · rw [hfirst, hsecond, hw.trimStart_append]
    exact hstart ((MeetAtParen.gap_iff hw).mp hparen)

theorem firstWord_gap (hw : IsGap w) (h : MeetAtParen x r) :
    (x ++ (w ++ r)).firstWord = (x ++ r).firstWord := by
  rw [firstWord_meet (h.gap hw), firstWord_meet h]

theorem firstWord_trimStart_paren (h : MeetAtParen [] r) : firstWord r.trimStart = [] :=
  takeWhile_append_stop (w := []) nofun (h.head?_trimStart withinWords_isWordChar)

end Text

/-! ### Clauses -/

namespace Level

open Text

theorem any_startsClause_gap (hw : IsGap w) (h : MeetAtParen x r) :
    (x ++ (w ++ r)).wordStarts.any startsClause = (x ++ r).wordStarts.any startsClause := by
  have hby : ∀ k : Text, k ≠ [] → ∀ y ∈ x.wordStarts,
      (afterKeywords? [k] (y ++ (w ++ r))).any (fun t => isKeyword "BY".toList t.firstWord) =
        (afterKeywords? [k] (y ++ r)).any (fun t => isKeyword "BY".toList t.firstWord) := by
    intro k hk
    refine afterKeywords?_gap hw h [k] (by simpa using hk.symm)
      (f := fun o => o.any fun t => isKeyword "BY".toList t.firstWord) (fun z _ hz => ?_) (fun hr => ?_)
    · simp only [Option.any_some, firstWord_gap hw hz]
    · simp only [Option.any_some, firstWord_trimStart_paren hr]
      rfl
  have hmap : (x ++ (w ++ r)).wordStarts.map startsClause = (x ++ r).wordStarts.map startsClause := by
    refine map_wordStarts_gap hw h fun y hy => ?_
    obtain ⟨hsuffix, hne⟩ := suffix_of_mem_wordStarts hy
    simp only [startsClause, firstWord_gap hw (h.suffix hsuffix hne), List.any_cons, List.any_nil,
      hby "GROUP".toList (by decide) y hy, hby "ORDER".toList (by decide) y hy]
  simpa [List.any_map] using congrArg (List.any · id) hmap

end Level

namespace Clause

open Text

theorem isTargetOnly_gap (hw : IsGap w) (h : MeetAtParen x r) :
    isTargetOnly (x ++ (w ++ r)) = isTargetOnly (x ++ r) := by
  obtain ⟨htake, hdrop⟩ := (h.gap hw).takeWhile_append withinWords_isPathChar
  obtain ⟨htake', hdrop'⟩ := h.takeWhile_append withinWords_isPathChar
  rw [isTargetOnly, isTargetOnly, htake, htake', hdrop, hdrop', List.all_append, List.all_append,
    List.all_append, List.all_eq_true.mpr hw.2, Bool.true_and]

theorem any_isTargetOnly_gap (hw : IsGap w) (h : MeetAtParen x r) :
    (afterEachKeywords insertWords (x ++ (w ++ r))).any isTargetOnly =
      (afterEachKeywords insertWords (x ++ r)).any isTargetOnly := by
  have hparen : MeetAtParen [] r → isTargetOnly r.trimStart = false := by
    intro hr
    have hword : r.trimStart.takeWhile isPathChar = [] :=
      takeWhile_append_stop (w := []) nofun (hr.head?_trimStart withinWords_isPathChar)
    rw [isTargetOnly, hword]
    rfl
  have hread := afterKeywords?_gap hw h insertWords (by decide) (f := fun o => o.any isTargetOnly)
    (fun z _ hz => isTargetOnly_gap hw hz) hparen
  rw [any_afterEachKeywords, any_afterEachKeywords]
  exact congrArg (List.any · id) (map_wordStarts_gap hw h hread)

end Clause

/-! ### Single spaces -/

namespace MeetAtParen

theorem prefix_right {p : Text} (h : MeetAtParen x r) (hp : p <+: r) : MeetAtParen x p := by
  refine h.imp_right fun hr c hc => hr c ?_
  obtain ⟨q, rfl⟩ := hp
  have hne : p.trimStart ≠ [] := by
    rintro e
    rw [e] at hc
    cases hc
  rwa [Text.trimStart_append, if_neg hne, List.head?_append_of_ne_nil _ hne]

theorem upper (h : MeetAtParen x r) : MeetAtParen x.upper r.upper := by
  rcases h with h | h
  · left
    obtain ⟨u, rfl⟩ := List.getLast?_eq_some_iff.mp h
    rw [Text.upper_append]
    exact List.getLast?_concat
  · refine Or.inr fun c hc => ?_
    rw [Text.trimStart_upper] at hc
    cases htrim : r.trimStart with
    | nil =>
      rw [htrim] at hc
      cases hc
    | cons d t =>
      obtain rfl : d = '(' := h d (by rw [htrim]; rfl)
      rw [htrim] at hc
      exact (Option.some.inj hc).symm

end MeetAtParen

namespace Text

/-- The texts are the same, but for one space at a parenthesis. -/
def OneSpace (s t : Text) : Prop :=
  s = t ∨ ∃ u v, s = u ++ ' ' :: v ∧ t = u ++ v ∧ MeetAtParen u v

/-- A text that does not start with white space meets another one where it did. -/
theorem meetAtParen_collapse (h : MeetAtParen x r) (hr : r.head?.any isSpace = false) :
    MeetAtParen (collapseFrom false x) r.collapseSpace := by
  refine h.imp (fun hx => ?_) (fun hparen c hc => ?_)
  · obtain ⟨u, rfl⟩ := List.getLast?_eq_some_iff.mp hx
    rw [collapseFrom_append]
    exact List.getLast?_concat
  · cases r with
    | nil => cases hc
    | cons d t =>
      have hd : isSpace d = false := hr
      have hstay : ∀ u : Text, trimStart (d :: u) = d :: u := fun u =>
        List.dropWhile_cons_of_neg (by simp [hd])
      rw [collapseSpace_cons hd, hstay] at hc
      rw [hstay] at hparen
      exact hparen c hc

theorem OneSpace.of_append {u v : Text} (h : MeetAtParen u v) : OneSpace (u ++ ' ' :: v) (u ++ v) :=
  Or.inr ⟨u, v, rfl, rfl, h⟩

theorem collapseSpace_gap (hw : IsGap w) (h : MeetAtParen x r) :
    OneSpace (collapseSpace (x ++ (w ++ r))) (collapseSpace (x ++ r)) := by
  have hcollapse := collapseFrom_append false x
  rw [collapseSpace, collapseSpace, hcollapse, hcollapse, collapseFrom_blank_append _ hw.2, if_neg hw.1]
  cases x.foldl (fun _ c => isSpace c) false with
  | true => exact Or.inl rfl
  | false =>
    rw [if_neg Bool.false_ne_true, collapseFrom_true]
    cases hr : r.head?.any isSpace with
    | true =>
      -- the space goes on with another one
      obtain ⟨c, t, rfl⟩ := List.exists_cons_of_ne_nil (l := r) (by rintro rfl; cases hr)
      have hc : isSpace c = true := hr
      have hmore := collapseSpace_cons_of_isSpace hc t
      rw [collapseSpace] at hmore
      rw [hmore, trimStart_cons_of_isSpace hc]
      exact Or.inl rfl
    | false =>
      rw [trimStart_of_not_space hr]
      exact .of_append (meetAtParen_collapse h hr)

theorem OneSpace.trimEnd {s t : Text} (h : OneSpace s t) :
    OneSpace (Text.trimEnd s) (Text.trimEnd t) := by
  rcases h with rfl | ⟨u, v, rfl, rfl, h⟩
  · exact Or.inl rfl
  · have hprefix : Text.trimEnd v <+: v := by
      have hreverse := List.reverse_prefix.mpr (List.dropWhile_suffix isSpace (l := v.reverse))
      rwa [List.reverse_reverse] at hreverse
    have hspace : isSpace ' ' = true := by decide
    rw [trimEnd_append, trimEnd_append, trimEnd_cons]
    by_cases hv : Text.trimEnd v = []
    · simp only [hspace, hv, and_self, if_true]
      exact Or.inl rfl
    · simp only [hv, and_false, if_false, if_neg (List.cons_ne_nil _ _)]
      exact .of_append (h.prefix_right hprefix)

theorem OneSpace.upper {s t : Text} (h : OneSpace s t) : OneSpace s.upper t.upper := by
  rcases h with rfl | ⟨u, v, rfl, rfl, h⟩
  · exact Or.inl rfl
  · have hspace : upperChar ' ' = [' '] := upperChar_of_isSpace (by decide)
    rw [upper_append, upper_append, upper_cons, hspace]
    exact .of_append h.upper

end Text

namespace Clause

open Text

theorem startsBy_of_paren (h : MeetAtParen [] r) : startsBy r = false := by
  cases r with
  | nil => rfl
  | cons c t =>
    by_cases hc : c = ' '
    · subst hc
      have ht : MeetAtParen [] t := h
      have hword : firstWord t = [] :=
        takeWhile_append_stop (w := []) nofun (ht.head?_any withinWords_isWordChar)
      simp [startsBy, hword]
    · simp [startsBy, hc]

theorem startsBy_oneSpace {u v : Text} (h : MeetAtParen u v) :
    startsBy (u ++ ' ' :: v) = startsBy (u ++ v) := by
  have hspace : MeetAtParen u (' ' :: v) := h.gap (w := [' ']) (by decide)
  cases u with
  | nil => exact (startsBy_of_paren hspace).trans (startsBy_of_paren h).symm
  | cons c z =>
    by_cases hc : c = ' '
    · subst hc
      simp only [List.cons_append, startsBy, firstWord_meet (h.tail (by decide)),
        firstWord_meet (hspace.tail (by decide))]
    · simp [startsBy, hc]

theorem ofKeyword?_oneSpace {u v : Text} (h : MeetAtParen u v) :
    ofKeyword? (u ++ ' ' :: v) = ofKeyword? (u ++ v) := by
  have hspace : MeetAtParen u (' ' :: v) := h.gap (w := [' ']) (by decide)
  have hafter : MeetAtParen u.afterWord v := h.dropWhile (by decide)
  rw [ofKeyword?_eq, ofKeyword?_eq, firstWord_meet hspace, firstWord_meet h, afterWord_meet hspace,
    afterWord_meet h, startsBy_oneSpace hafter]

theorem classify_gap (hw : IsGap w) (h : MeetAtParen x r) :
    classify (x ++ (w ++ r)) = classify (x ++ r) := by
  have hspace : OneSpace (normalize (x ++ (w ++ r))) (normalize (x ++ r)) := by
    rw [normalize_eq, normalize_eq, trimStart_append x, trimStart_append x, hw.trimStart_append]
    split_ifs
    · exact Or.inl rfl
    · exact (collapseSpace_gap hw h.trimStart).trimEnd.upper
  have hkeywords : ∀ {s t : Text}, OneSpace s t → keywords s = keywords t := by
    rintro s t (rfl | ⟨u, v, rfl, rfl, hmeet⟩)
    · rfl
    · have hmap := map_wordStarts_gap (w := [' ']) (by decide) hmeet fun y hy =>
        have ⟨hsuffix, hne⟩ := suffix_of_mem_wordStarts hy
        ofKeyword?_oneSpace (hmeet.suffix hsuffix hne)
      have hfilter := congrArg (List.filterMap id) hmap
      rw [List.filterMap_map, List.filterMap_map] at hfilter
      exact congrArg (List.foldl addTo []) hfilter
  rw [classify, classify, hkeywords hspace]

end Clause

/-! ### Aliases -/

namespace Target

variable {s t : Text}

/-- Behind white space the text would start with an alias. -/
def BeginsAlias (r : Text) : Prop :=
  r.head?.any Text.isSpace = false ∧ (withAlias none (' ' :: r)).1.properAlias.isSome = true

instance (r : Text) : Decidable (BeginsAlias r) :=
  inferInstanceAs (Decidable (_ ∧ _))

/-- How much white space a text starts with does not matter to a name behind it. -/
theorem readSpacedName?_congr (htrim : s.trimStart = t.trimStart)
    (hspace : s.head?.any Text.isSpace = t.head?.any Text.isSpace) :
    readSpacedName? s = readSpacedName? t := by
  have hs := Text.length_trimStart_eq_iff s
  rw [hspace, ← Text.length_trimStart_eq_iff t, htrim] at hs
  simp only [readSpacedName?, htrim, hs]

theorem readAlias?_congr (htrim : s.trimStart = t.trimStart)
    (hspace : s.head?.any Text.isSpace = t.head?.any Text.isSpace) : readAlias? s = readAlias? t := by
  rw [readAlias?, readAlias?, readSpacedName?_congr htrim hspace]

theorem afterComma?_congr (htrim : s.trimStart = t.trimStart) : afterComma? s = afterComma? t := by
  rw [afterComma?, afterComma?, htrim]

theorem withAlias_none (t : Text) :
    withAlias none t = (readAlias? t).elim (⟨none, none⟩, t) fun p => (⟨none, some p.1⟩, p.2) := by
  rw [withAlias]
  cases readAlias? t <;> rfl

theorem sameItem_congr (htrim : s.trimStart = t.trimStart)
    (hspace : s.head?.any Text.isSpace = t.head?.any Text.isSpace) : SameItem s t := by
  have hs := withAlias_none s
  have ht := withAlias_none t
  rw [readAlias?_congr htrim hspace] at hs
  cases h : readAlias? t with
  | none =>
    rw [h] at hs ht
    constructor
    · rw [hs, ht]
      rfl
    · rw [hs, ht]
      exact afterComma?_congr htrim
  | some p =>
    rw [h] at hs ht
    exact ⟨by rw [hs, ht]; rfl, by rw [hs, ht]; rfl⟩

theorem readAlias?_of_not_space (h : r.head?.any Text.isSpace = false) : readAlias? r = none := by
  rw [readAlias?, readSpacedName?, if_pos (Or.inl ((Text.length_trimStart_eq_iff r).mpr h))]

/-- An alias starts with a character of a name. -/
theorem head?_of_readAlias? {p : Text × Text} (h : readAlias? t = some p) :
    t.trimStart.head?.any Text.isNameChar = true := by
  cases hword : readSpacedName? t with
  | none =>
    rw [readAlias?, hword] at h
    cases h
  | some q =>
    rw [readSpacedName?] at hword
    split_ifs at hword with hnone
    cases htrim : t.trimStart with
    | nil => simp [htrim] at hnone
    | cons c u =>
      by_contra hc
      have hc : Text.isNameChar c = false := by simpa using hc
      simp [htrim, hc] at hnone

/-- White space behind a group changes nothing unless an alias follows it. -/
theorem sameItem_gap (hw : IsGap w) (h : ¬ BeginsAlias r) : SameItem (w ++ r) r := by
  cases hr : r.head?.any Text.isSpace with
  | true => exact sameItem_congr (hw.trimStart_append r) ((hw.head?_isSpace r).trans hr.symm)
  | false =>
    have hspace : readAlias? (w ++ r) = readAlias? (' ' :: r) :=
      readAlias?_congr (hw.trimStart_append r) (hw.head?_isSpace r)
    have hnone : withAlias none r = (⟨none, none⟩, r) := by
      rw [withAlias_none, readAlias?_of_not_space hr]
      rfl
    have hproper : (withAlias none (' ' :: r)).1.properAlias = none := by
      by_contra hsome
      exact h ⟨hr, Option.isSome_iff_ne_none.mpr hsome⟩
    cases halias : readAlias? (' ' :: r) with
    | none =>
      have hgap : withAlias none (w ++ r) = (⟨none, none⟩, w ++ r) := by
        rw [withAlias_none, hspace, halias]
        rfl
      constructor
      · rw [hgap, hnone]
      · rw [hgap, hnone]
        exact afterComma?_congr (hw.trimStart_append r)
    | some p =>
      -- the alias is a reserved word, so that the list ends with and without the white space
      have hgap : withAlias none (w ++ r) = (⟨none, some p.1⟩, p.2) := by
        rw [withAlias_none, hspace, halias]
        rfl
      have hreserved : (⟨none, some p.1⟩ : Target).properAlias = none := by
        rwa [withAlias_none, halias] at hproper
      have hword := head?_of_readAlias? halias
      have hcomma : afterComma? r = none := by
        apply afterComma?_of_head?_ne
        intro hhead
        have htrim : Text.trimStart (' ' :: r) = Text.trimStart r := rfl
        rw [htrim, hhead] at hword
        exact absurd hword (by decide)
      constructor
      · rw [hgap, hnone, entry, entry, hreserved]
        rfl
      · rw [hgap, hnone, next?, next?, if_pos ⟨rfl, hreserved⟩, hcomma]
        rfl

end Target

/-! ### Tables -/

namespace Resolution

open Text

/-- The text ends with `FROM` or `JOIN`. -/
def EndsInOpener (x : Text) : Prop :=
  ∃ y ∈ x.wordStarts, isKeyword "FROM".toList y = true ∨ isKeyword "JOIN".toList y = true

instance (x : Text) : Decidable (EndsInOpener x) :=
  inferInstanceAs (Decidable (∃ y ∈ x.wordStarts, _ ∨ _))

/-- The text ends with a group that is an item behind `FROM` or `JOIN` and has no alias yet. -/
def AwaitsAlias (x : Text) : Prop :=
  ∃ y ∈ x.wordStarts, (∃ t, afterKeywords? ["FROM".toList] y = some t ∧ Target.EndsInGroup t) ∨
    ∃ t, afterKeywords? ["JOIN".toList] y = some t ∧ Target.afterGroup? t = some []

/-- White space between the texts counts: it makes a group an item behind `FROM` or `JOIN`, or it
makes a word the alias of a group. -/
def Counts (x r : Text) : Prop :=
  EndsInOpener x ∧ (Target.afterGroup? r).isSome = true ∨ AwaitsAlias x ∧ Target.BeginsAlias r

theorem targetsAt_eq (t : Text) :
    targetsAt t = (afterKeywords? ["FROM".toList] t).elim
      (((afterKeywords? ["JOIN".toList] t).bind Target.read?).toList.map (·.1))
      fun u => Target.readList (u.length + 1) u := by
  rw [targetsAt]
  cases afterKeywords? ["FROM".toList] t <;> cases afterKeywords? ["JOIN".toList] t <;> rfl

theorem readName?_of_paren (h : MeetAtParen [] r) : Target.readName? r = none := by
  have hword : r.takeWhile isNameChar = [] :=
    takeWhile_append_stop (w := []) nofun (h.head?_any withinWords_isNameChar)
  simp [Target.readName?, hword]

theorem readNamed?_of_paren (h : MeetAtParen [] r) : Target.readNamed? r = none := by
  rw [Target.readNamed?, readName?_of_paren h]
  rfl

/-- At a parenthesis stands no item but a group. -/
theorem read?_of_paren (h : MeetAtParen [] r) (hgroup : Target.afterGroup? r = none) :
    Target.read? r = none := by
  rw [Target.read?, readNamed?_of_paren h, hgroup]
  rfl

theorem not_group_of_opener (hc : ¬ Counts x r) (hx : EndsInOpener x) :
    Target.afterGroup? r = none := by
  by_contra hgroup
  exact hc (Or.inl ⟨hx, Option.isSome_iff_ne_none.mpr hgroup⟩)

variable {y : Text}

/-- What stands behind a `JOIN` is the same item. -/
theorem joined_gap (hw : IsGap w) (h : MeetAtParen x r) (hc : ¬ Counts x r) (hy : y ∈ x.wordStarts) :
    ((afterKeywords? ["JOIN".toList] (y ++ (w ++ r))).bind Target.read?).map (·.1.entry) =
      ((afterKeywords? ["JOIN".toList] (y ++ r)).bind Target.read?).map (·.1.entry) := by
  obtain ⟨hsuffix, hne⟩ := suffix_of_mem_wordStarts hy
  have hmeet : MeetAtParen y r := h.suffix hsuffix hne
  rcases afterKeywords?_meet hne (hmeet.gap hw) hmeet (hw.trimStart_append r) (hw.head?_isSpace r)
      ["JOIN".toList] (by decide)
    with heq | ⟨z, hz, hzg, hzr, hjoin, hfirst, hsecond⟩ | ⟨hparen, hhead, hend, hfirst, hsecond⟩
  · rw [heq]
  · rw [hfirst, hsecond, Option.bind_some, Option.bind_some]
    by_cases hgroup : Target.afterGroup? z = some []
    · have halias : ¬ Target.BeginsAlias r := fun ha =>
        hc (Or.inr ⟨⟨y, hy, Or.inr ⟨z, hjoin, hgroup⟩⟩, ha⟩)
      rw [Target.read?_meet_group hz hzg hgroup, Target.read?_meet_group hz hzr hgroup, Option.map_some,
        Option.map_some, (Target.sameItem_gap hw halias).entry]
    · have hreadg := Target.map_fst_of_readOn (Target.read?_meet hz hzg hgroup)
      have hreadr := Target.map_fst_of_readOn (Target.read?_meet hz hzr hgroup)
      have hentry := congrArg (Option.map Target.entry) (hreadg.trans hreadr.symm)
      rwa [Option.map_map, Option.map_map] at hentry
  · have hgroup := not_group_of_opener hc ⟨y, hy, Or.inr (hend _ rfl).2⟩
    have hread := read?_of_paren ((MeetAtParen.gap_iff hw).mp hparen) hgroup
    rw [hfirst, hsecond, Option.bind_some, hw.trimStart_append, trimStart_of_not_space hhead, hread]
    rfl

/-- What stands behind a `FROM` or `JOIN` are the same items. -/
theorem targetsAt_gap (hw : IsGap w) (h : MeetAtParen x r) (hc : ¬ Counts x r) (hy : y ∈ x.wordStarts) :
    (targetsAt (y ++ (w ++ r))).map Target.entry = (targetsAt (y ++ r)).map Target.entry := by
  obtain ⟨hsuffix, hne⟩ := suffix_of_mem_wordStarts hy
  have hmeet : MeetAtParen y r := h.suffix hsuffix hne
  have hjoined := congrArg Option.toList (joined_gap hw h hc hy)
  rw [targetsAt_eq, targetsAt_eq]
  rcases afterKeywords?_meet hne (hmeet.gap hw) hmeet (hw.trimStart_append r) (hw.head?_isSpace r)
      ["FROM".toList] (by decide)
    with heq | ⟨z, hz, hzg, hzr, hfrom, hfirst, hsecond⟩ | ⟨hparen, hhead, hend, hfirst, hsecond⟩
  · rw [heq]
    cases afterKeywords? ["FROM".toList] (y ++ r) with
    | none =>
      rw [Option.toList_map, Option.toList_map] at hjoined
      rwa [Option.elim_none, Option.elim_none, List.map_map, List.map_map]
    | some t => rfl
  · rw [hfirst, hsecond, Option.elim_some, Option.elim_some]
    refine Target.readList_meet hz hzg hzr (hw.trimStart_append r) (fun hgroup => ?_)
      (Nat.lt_succ_self _) (Nat.lt_succ_self _)
    exact Target.sameItem_gap hw fun ha => hc (Or.inr ⟨⟨y, hy, Or.inl ⟨z, hfrom, hgroup⟩⟩, ha⟩)
  · obtain ⟨hword, hkey⟩ := hend _ rfl
    have hgroup := not_group_of_opener hc ⟨y, hy, Or.inl hkey⟩
    have hread := read?_of_paren ((MeetAtParen.gap_iff hw).mp hparen) hgroup
    have hother : isKeyword "JOIN".toList y = false := by
      rw [isKeyword, beq_iff_eq] at hkey
      rw [isKeyword, hkey]
      decide
    have hjoin : afterKeywords? ["JOIN".toList] (y ++ r) = none := by
      rw [afterKeywords?, firstWord_meet hmeet, hword, hother]
      rfl
    rw [hfirst, hsecond, hw.trimStart_append, trimStart_of_not_space hhead, hjoin, Option.elim_some,
      Target.readList_succ, hread]
    rfl

theorem targets_gap (hw : IsGap w) (h : MeetAtParen x r) (hc : ¬ Counts x r) :
    (targets (x ++ (w ++ r))).map Target.entry = (targets (x ++ r)).map Target.entry := by
  have hmap := map_wordStarts_gap hw h (f := fun t => (targetsAt t).map Target.entry)
    fun y hy => targetsAt_gap hw h hc hy
  rw [targets, targets, List.map_flatMap, List.map_flatMap, List.flatMap_def, List.flatMap_def, hmap]

/-- Nothing but an item or a name is read off, so a parenthesis alone gives nothing. -/
theorem findSome?_gap {α : Type} (hw : IsGap w) (h : MeetAtParen x r) (ks : List Text) (hks : [] ∉ ks)
    {f : Text → Option (α × Text)} (hparen : ∀ t, MeetAtParen [] t → f t = none)
    (hf : ∀ z a, MeetAtParen z a → Option.Rel (Target.ReadOn a) (f z) (f (z ++ a))) :
    (afterEachKeywords ks (x ++ (w ++ r))).findSome? (fun t => (f t).map (·.1)) =
      (afterEachKeywords ks (x ++ r)).findSome? fun t => (f t).map (·.1) := by
  have hread := afterKeywords?_gap hw h ks hks (f := fun o => o.bind fun t => (f t).map (·.1))
    (fun z _ hz => ?_) (fun hr => ?_)
  · rw [findSome?_afterEachKeywords, findSome?_afterEachKeywords, map_wordStarts_gap hw h hread]
  · have hgap := Target.map_fst_of_readOn (hf z _ (hz.gap hw))
    exact hgap.trans (Target.map_fst_of_readOn (hf z r hz)).symm
  · rw [Option.bind_some, hparen _ hr.trimStart_right]
    rfl

theorem updated?_gap (hw : IsGap w) (h : MeetAtParen x r) :
    updated? (x ++ (w ++ r)) = updated? (x ++ r) :=
  findSome?_gap hw h _ (by decide) (fun _ => readNamed?_of_paren) fun _ _ => Target.readNamed?_meet

theorem firstName?_gap (hw : IsGap w) (h : MeetAtParen x r) (ks : List Text) (hks : [] ∉ ks) :
    firstName? ks (x ++ (w ++ r)) = firstName? ks (x ++ r) :=
  findSome?_gap hw h ks hks (fun _ => readName?_of_paren) fun _ _ => Target.readName?_meet

/-- **White space at a parenthesis** changes no table, unless it stands between `FROM` or `JOIN` and
a group or between a group and its alias. -/
theorem ofText_gap (hw : IsGap w) (h : MeetAtParen x r) (hc : ¬ Counts x r) :
    ofText (x ++ (w ++ r)) = ofText (x ++ r) := by
  have htables := foldl_registerTarget_congr (targets_gap hw h hc) []
  simp only [ofText, htables, updated?_gap hw h,
    firstName?_gap hw h ["DELETE".toList, "FROM".toList] (by decide),
    firstName?_gap hw h ["INSERT".toList, "INTO".toList] (by decide)]

end Resolution

end SqlAssist
