import SqlAssist.Proofs.Sql.KeywordRuns
import SqlAssist.Proofs.Sql.TableClause

/-!
# Reading up to a parenthesis

A text is read by itself up to a parenthesis: words, names and aliases end in front of one,
and white space is looked past. So where two texts meet at a parenthesis (`MeetAtParen`),
what is read off the first does not depend on the second. Each reader has a lemma of this
kind, and what follows its piece meets the second text at a parenthesis, too.

There are two exceptions. A keyword has to be followed by white space, so if the first text
ends with one, the white space that the second starts with decides (`afterKeywords?_meet`).
And the alias of a group is read off the second text if the first ends with the group
(`read?_meet`).
-/

namespace SqlAssist

/-- The texts meet at a parenthesis: one closes at the end of the first, or behind white space
nothing but one that opens starts the second. -/
def MeetAtParen (y a : Text) : Prop :=
  y.getLast? = some ')' ∨ ∀ c, a.trimStart.head? = some c → c = '('

namespace MeetAtParen

variable {y a : Text} {c : Char} {p : Char → Bool}

theorem tail (h : MeetAtParen (c :: y) a) (hc : c ≠ ')') : MeetAtParen y a := by
  refine h.imp_left fun hlast => ?_
  cases y with
  | nil => exact absurd (Option.some.inj hlast) hc
  | cons d y => exact hlast

theorem dropWhile (hp : p ')' = false) (h : MeetAtParen y a) : MeetAtParen (y.dropWhile p) a := by
  induction y with
  | nil => exact h
  | cons c y ih =>
    rw [List.dropWhile_cons]
    split_ifs with hc
    · refine ih (h.tail ?_)
      rintro rfl
      rw [hp] at hc
      cases hc
    · exact h

theorem trimStart (h : MeetAtParen y a) : MeetAtParen y.trimStart a :=
  h.dropWhile (by decide)

/-- Behind white space no word goes on from the first text in the second. -/
theorem head?_trimStart (hp : WithinWords p) (h : MeetAtParen [] a) :
    a.trimStart.head?.any p = false := by
  cases hhead : a.trimStart.head? with
  | none => rfl
  | some c =>
    rw [h.resolve_left nofun c hhead]
    exact hp.group

theorem suffix (h : MeetAtParen y a) {z : Text} (hz : z <:+ y) (hne : z ≠ []) : MeetAtParen z a := by
  obtain ⟨u, rfl⟩ := hz
  rwa [MeetAtParen, List.getLast?_append_of_ne_nil u hne] at h

theorem head?_any (hp : WithinWords p) (h : MeetAtParen [] a) : a.head?.any p = false := by
  cases a with
  | nil => rfl
  | cons c a =>
    by_cases hc : Text.isSpace c = true
    · exact hp.space c hc
    · have htrim := h.head?_trimStart hp
      rwa [Text.trimStart, List.dropWhile_cons_of_neg hc] at htrim

theorem head?_ne (h : MeetAtParen [] a) (hp : Text.isPathChar c = true) : a.head? ≠ some c := by
  intro e
  have hany := h.head?_any withinWords_isPathChar
  rw [e] at hany
  exact Bool.false_ne_true (hany.symm.trans hp)

/-- A run of word characters ends where the texts meet. -/
theorem takeWhile_append (hp : WithinWords p) (h : MeetAtParen y a) :
    (y ++ a).takeWhile p = y.takeWhile p ∧ (y ++ a).dropWhile p = y.dropWhile p ++ a := by
  induction y with
  | nil =>
    have hhead := h.head?_any hp
    have htake := Text.takeWhile_append_stop (w := []) nofun hhead
    have hdrop := Text.dropWhile_append_stop (w := []) nofun hhead
    exact ⟨htake, hdrop⟩
  | cons c y ih =>
    rw [List.cons_append, List.takeWhile_cons, List.takeWhile_cons, List.dropWhile_cons,
      List.dropWhile_cons]
    split_ifs with hc
    · have hne : c ≠ ')' := by
        rintro rfl
        rw [hp.close] at hc
        cases hc
      obtain ⟨htake, hdrop⟩ := ih (h.tail hne)
      exact ⟨by rw [htake], hdrop⟩
    · exact ⟨rfl, rfl⟩

end MeetAtParen

/-- A reader that stops in the middle of a text stops there whichever of two texts stands behind:
the results are the rest of the text alone, with the one text and with the other. -/
def GoesOn (a b : Text) (alone first second : Option Text) : Prop :=
  ∃ z, z ≠ [] ∧ MeetAtParen z a ∧ MeetAtParen z b ∧
    alone = some z ∧ first = some (z ++ a) ∧ second = some (z ++ b)

namespace Text

variable {y a b : Text} {ks : List Text}

theorem firstWord_meet (h : MeetAtParen y a) : (y ++ a).firstWord = y.firstWord :=
  (h.takeWhile_append withinWords_isWordChar).1

theorem afterWord_meet (h : MeetAtParen y a) : (y ++ a).afterWord = y.afterWord ++ a :=
  (h.takeWhile_append withinWords_isWordChar).2

/-- Behind a keyword where the texts meet the white space decides, if it is the last one. -/
theorem afterKeywords?_meet_end {k : Text} (hkey : isKeyword k y.firstWord = true)
    (hend : y.afterWord = []) (ha : MeetAtParen y a) (hb : MeetAtParen y b)
    (hab : a.trimStart = b.trimStart) (hspace : a.head?.any isSpace = true) (hks : [] ∉ ks) :
    afterKeywords? (k :: ks) (y ++ a) = afterKeywords? (k :: ks) (y ++ b) ∨
      (b.head?.any isSpace = false ∧ afterKeywords? (k :: ks) (y ++ a) = some a.trimStart ∧
        afterKeywords? (k :: ks) (y ++ b) = none) := by
  have hparen : MeetAtParen y.afterWord a := ha.dropWhile (by decide)
  rw [hend] at hparen
  simp only [afterKeywords?, firstWord_meet ha, firstWord_meet hb, afterWord_meet ha,
    afterWord_meet hb, hkey, hend, List.nil_append, hspace, Bool.true_and, if_true]
  by_cases hbspace : b.head?.any isSpace = true
  · rw [if_pos hbspace, hab]
    exact Or.inl rfl
  · rw [if_neg hbspace]
    cases ks with
    | nil => exact Or.inr ⟨Bool.eq_false_iff.mpr hbspace, rfl, rfl⟩
    | cons k' ks =>
      have hk' : k' ≠ [] := fun e => hks (e ▸ List.mem_cons_self)
      rw [afterKeywords?_of_no_word hk' (hparen.head?_trimStart withinWords_isWordChar)]
      exact Or.inl rfl

/-- What follows keywords at the start of texts that begin alike: the same; or a rest of the common
part and what each goes on with; or, if the common part is the last keyword, what the text that goes
on with white space goes on with. -/
theorem afterKeywords?_meet (hy : y ≠ []) (ha : MeetAtParen y a) (hb : MeetAtParen y b)
    (hab : a.trimStart = b.trimStart) (hspace : a.head?.any isSpace = true) (ks : List Text)
    (hks : [] ∉ ks) :
    afterKeywords? ks (y ++ a) = afterKeywords? ks (y ++ b) ∨
      GoesOn a b (afterKeywords? ks y) (afterKeywords? ks (y ++ a)) (afterKeywords? ks (y ++ b)) ∨
      (MeetAtParen [] a ∧ b.head?.any isSpace = false ∧
        (∀ k, ks = [k] → y.firstWord = y ∧ isKeyword k y = true) ∧
        afterKeywords? ks (y ++ a) = some a.trimStart ∧ afterKeywords? ks (y ++ b) = none) := by
  induction ks generalizing y with
  | nil => exact Or.inr (Or.inl ⟨y, hy, ha, hb, rfl, rfl, rfl⟩)
  | cons k ks ih =>
    obtain ⟨-, hks⟩ : [] ≠ k ∧ [] ∉ ks := by rwa [List.mem_cons, not_or] at hks
    have haw : MeetAtParen y.afterWord a := ha.dropWhile (by decide)
    have hbw : MeetAtParen y.afterWord b := hb.dropWhile (by decide)
    by_cases hkey : isKeyword k y.firstWord = true
    · by_cases hend : y.afterWord = []
      · have hword : y.firstWord = y := by
          have happend := firstWord_append_afterWord y
          rwa [hend, List.append_nil] at happend
        rcases afterKeywords?_meet_end hkey hend ha hb hab hspace hks with h | ⟨hbspace, h, h'⟩
        · exact Or.inl h
        · rw [hend] at haw
          rw [hword] at hkey
          refine Or.inr (Or.inr ⟨haw, hbspace, fun k' hk' => ⟨hword, ?_⟩, h, h'⟩)
          rwa [← (List.cons.inj hk').1]
      · simp only [afterKeywords?, firstWord_meet ha, firstWord_meet hb, afterWord_meet ha,
          afterWord_meet hb, hkey, Bool.true_and, List.head?_append_of_ne_nil _ hend]
        by_cases hhead : y.afterWord.head?.any isSpace = true
        · rw [if_pos hhead, if_pos hhead, if_pos hhead, trimStart_append, trimStart_append]
          by_cases htrim : y.afterWord.trimStart = []
          · rw [if_pos htrim, if_pos htrim, hab]
            exact Or.inl rfl
          · rw [if_neg htrim, if_neg htrim]
            rcases ih htrim haw.trimStart hbw.trimStart hks with h | h | ⟨hparen, hbs, -, h, h'⟩
            · exact Or.inl h
            · exact Or.inr (Or.inl h)
            · refine Or.inr (Or.inr ⟨hparen, hbs, ?_, h, h'⟩)
              -- the white space decides behind the last keyword only
              rintro k' hk'
              rw [(List.cons.inj hk').2] at h'
              cases h'
        · rw [if_neg hhead, if_neg hhead]
          exact Or.inl rfl
    · simp only [Bool.not_eq_true] at hkey
      simp only [afterKeywords?, firstWord_meet ha, firstWord_meet hb, hkey, Bool.false_and]
      exact Or.inl rfl

end Text

namespace Target

variable {α : Type} {y z a b : Text} {g : Target}

/-- The same was read off both texts, and what follows in the second goes on with `a`. -/
def ReadOn (a : Text) (p q : α × Text) : Prop :=
  q = (p.1, p.2 ++ a) ∧ MeetAtParen p.2 a

theorem ReadOn.exists_eq {p q : α × Text} (h : ReadOn a p q) :
    ∃ x r, p = (x, r) ∧ q = (x, r ++ a) ∧ MeetAtParen r a :=
  ⟨p.1, p.2, rfl, h.1, h.2⟩

theorem map_fst_of_readOn {o o' : Option (α × Text)} (h : Option.Rel (ReadOn a) o o') :
    o'.map (·.1) = o.map (·.1) := by
  cases h with
  | none => rfl
  | some hpq => rw [hpq.1]; rfl

theorem moreParts_meet_of_head?_ne (h : MeetAtParen y a) (hy : y.head? ≠ some '.') (n m : Nat) :
    ReadOn a (moreParts n y) (moreParts m (y ++ a)) := by
  have hya : (y ++ a).head? ≠ some '.' := by
    cases y with
    | nil => exact h.head?_ne (by decide)
    | cons c r => exact hy
  rw [moreParts_of_head?_ne hy, moreParts_of_head?_ne hya]
  exact ⟨rfl, h⟩

theorem moreParts_meet (h : MeetAtParen y a) {n m : Nat} (hn : y.length ≤ n)
    (hm : (y ++ a).length ≤ m) : ReadOn a (moreParts n y) (moreParts m (y ++ a)) := by
  induction n generalizing y m with
  | zero =>
    obtain rfl : y = [] := List.length_eq_zero_iff.mp (by omega)
    exact moreParts_meet_of_head?_ne h nofun 0 m
  | succ n ih =>
    by_cases hdot : y.head? = some '.'
    · obtain ⟨r, rfl⟩ := List.head?_eq_some_iff.mp hdot
      have hr : MeetAtParen r a := h.tail (by decide)
      have hrest : MeetAtParen (r.dropWhile Text.isNameChar) a := hr.dropWhile (by decide)
      obtain ⟨htake, hdrop⟩ := hr.takeWhile_append withinWords_isNameChar
      have hle := (List.dropWhile_suffix Text.isNameChar (l := r)).length_le
      simp only [List.cons_append, List.length_cons, List.length_append] at hn hm
      obtain ⟨m, rfl⟩ : ∃ k, m = k + 1 := ⟨m - 1, by omega⟩
      rw [List.cons_append]
      simp only [moreParts, htake, hdrop]
      split_ifs with hpart
      · exact ⟨rfl, h⟩
      · obtain ⟨hmore, hend⟩ := ih hrest (m := m) (by omega) (by rw [List.length_append]; omega)
        rw [hmore]
        exact ⟨rfl, hend⟩
    · exact moreParts_meet_of_head?_ne h hdot _ m

theorem readName?_meet (h : MeetAtParen y a) :
    Option.Rel (ReadOn a) (readName? y) (readName? (y ++ a)) := by
  obtain ⟨htake, hdrop⟩ := h.takeWhile_append withinWords_isNameChar
  obtain ⟨hmore, hrest⟩ := moreParts_meet (h.dropWhile (p := Text.isNameChar) (by decide))
    (Nat.le_refl _) (Nat.le_refl _)
  simp only [readName?, htake, hdrop, hmore]
  split_ifs
  · exact .none
  · exact .some ⟨rfl, hrest⟩

theorem readSpacedName?_meet (h : MeetAtParen y a) :
    Option.Rel (ReadOn a) (readSpacedName? y) (readSpacedName? (y ++ a)) := by
  by_cases hy : y.trimStart = []
  · -- the text is white space, and no name comes behind it
    have hparen : MeetAtParen [] a := hy ▸ h.trimStart
    have hword : a.trimStart.takeWhile Text.isNameChar = [] :=
      Text.takeWhile_append_stop (w := []) nofun (hparen.head?_trimStart withinWords_isNameChar)
    simp only [readSpacedName?, Text.trimStart_append, hy, hword, List.takeWhile_nil,
      List.isEmpty_nil, or_true, if_true]
    exact .none
  · obtain ⟨htake, hdrop⟩ := h.trimStart.takeWhile_append withinWords_isNameChar
    simp only [readSpacedName?, Text.trimStart_append, if_neg hy, htake, hdrop,
      List.length_append, Nat.add_right_cancel_iff]
    split_ifs
    · exact .none
    · exact .some ⟨rfl, h.trimStart.dropWhile (by decide)⟩

theorem readAlias?_meet (h : MeetAtParen y a) :
    Option.Rel (ReadOn a) (readAlias? y) (readAlias? (y ++ a)) := by
  have hs := readSpacedName?_meet h
  rw [readAlias?, readAlias?]
  generalize readSpacedName? y = o at hs ⊢
  generalize readSpacedName? (y ++ a) = o' at hs ⊢
  cases hs with
  | none => exact .none
  | some hpq =>
    obtain ⟨word, rest, rfl, rfl, hrest⟩ := hpq.exists_eq
    simp only
    split_ifs
    · have hs' := readSpacedName?_meet hrest
      generalize readSpacedName? rest = o at hs' ⊢
      generalize readSpacedName? (rest ++ a) = o' at hs' ⊢
      cases hs' with
      | none => exact .some ⟨rfl, hrest⟩
      | some hpq => exact .some hpq
    · exact .some ⟨rfl, hrest⟩

theorem withAlias_meet (name : Option Text) (h : MeetAtParen y a) :
    ReadOn a (withAlias name y) (withAlias name (y ++ a)) := by
  have hs := readAlias?_meet h
  rw [withAlias, withAlias]
  generalize readAlias? y = o at hs ⊢
  generalize readAlias? (y ++ a) = o' at hs ⊢
  cases hs with
  | none => exact ⟨rfl, h⟩
  | some hpq =>
    obtain ⟨word, rest, rfl, rfl, hrest⟩ := hpq.exists_eq
    exact ⟨rfl, hrest⟩

theorem readNamed?_meet (h : MeetAtParen y a) :
    Option.Rel (ReadOn a) (readNamed? y) (readNamed? (y ++ a)) := by
  have hs := readName?_meet h
  rw [readNamed?, readNamed?]
  generalize readName? y = o at hs ⊢
  generalize readName? (y ++ a) = o' at hs ⊢
  cases hs with
  | none => exact .none
  | some hpq =>
    obtain ⟨name, rest, rfl, rfl, hrest⟩ := hpq.exists_eq
    exact .some (withAlias_meet (some name) hrest)

/-- What follows a group; if the first text ends with the group, that is the second. -/
theorem afterGroup?_meet (hy : y ≠ []) (h : MeetAtParen y a) :
    Option.Rel (fun r r' => r' = r ++ a ∧ (r ≠ [] → MeetAtParen r a)) (afterGroup? y)
      (afterGroup? (y ++ a)) := by
  obtain ⟨c, r, rfl⟩ := List.exists_cons_of_ne_nil hy
  rw [List.cons_append]
  by_cases hc : c = '('
  · subst hc
    have hr : MeetAtParen r a := h.tail (by decide)
    by_cases hblank : Text.trimStart r = []
    · have hparen : MeetAtParen [] a := hblank ▸ hr.trimStart
      rw [afterGroup?_of_trimStart (r := r) (by simp [hblank]),
        afterGroup?_of_trimStart (r := r ++ a)]
      · exact .none
      · rw [Text.trimStart_append, if_pos hblank]
        intro e
        exact absurd (hparen.resolve_left nofun _ e) (by decide)
    · have htrim : Text.trimStart (r ++ a) = Text.trimStart r ++ a := by
        rw [Text.trimStart_append, if_neg hblank]
      by_cases hclose : (Text.trimStart r).head? = some ')'
      · obtain ⟨u, hu⟩ := List.head?_eq_some_iff.mp hclose
        have hsuffix : u <:+ r := (hu ▸ List.suffix_cons _ _).trans (List.dropWhile_suffix _)
        rw [afterGroup?, afterGroup?, htrim, hu]
        exact .some ⟨rfl, hr.suffix hsuffix⟩
      · rw [afterGroup?_of_trimStart hclose, afterGroup?_of_trimStart]
        · exact .none
        · rwa [htrim, List.head?_append_of_ne_nil _ hblank]
  · rw [afterGroup?_of_head?_ne (by simpa using hc), afterGroup?_of_head?_ne (by simpa using hc)]
    exact .none

theorem readNamed?_of_afterGroup? (h : afterGroup? y = some z) : readNamed? y = none := by
  have hhead : y.head? = some '(' := by
    by_contra hne
    rw [afterGroup?_of_head?_ne hne] at h
    cases h
  obtain ⟨r, rfl⟩ := List.head?_eq_some_iff.mp hhead
  rfl

/-- Behind a group at the end of the first text an alias is read off the second. -/
theorem read?_meet_group (hy : y ≠ []) (h : MeetAtParen y a) (hgroup : afterGroup? y = some []) :
    read? (y ++ a) = some (withAlias none a) := by
  have hn := readNamed?_meet h
  have hg := afterGroup?_meet hy h
  rw [readNamed?_of_afterGroup? hgroup] at hn
  rw [hgroup] at hg
  rw [read?]
  generalize readNamed? (y ++ a) = o at hn ⊢
  generalize afterGroup? (y ++ a) = o' at hg ⊢
  cases hn
  cases hg with
  | some hr => rw [hr.1]; rfl

theorem read?_meet (hy : y ≠ []) (h : MeetAtParen y a) (hgroup : afterGroup? y ≠ some []) :
    Option.Rel (ReadOn a) (read? y) (read? (y ++ a)) := by
  have hn := readNamed?_meet h
  have hg := afterGroup?_meet hy h
  rw [read?, read?]
  generalize readNamed? y = o at hn ⊢
  generalize readNamed? (y ++ a) = o' at hn ⊢
  cases hn with
  | some hpq => exact .some hpq
  | none =>
    generalize afterGroup? y = o at hg hgroup ⊢
    generalize afterGroup? (y ++ a) = o' at hg ⊢
    cases hg with
    | none => exact .none
    | some hr =>
      obtain ⟨rfl, hrest⟩ := hr
      exact .some (withAlias_meet none (hrest fun e => hgroup (congrArg some e)))

theorem afterComma?_meet (ha : MeetAtParen y a) (hb : MeetAtParen y b)
    (hab : a.trimStart = b.trimStart) :
    afterComma? (y ++ a) = afterComma? (y ++ b) ∨
      GoesOn a b (afterComma? y) (afterComma? (y ++ a)) (afterComma? (y ++ b)) := by
  have htrim := Text.trimStart_append y
  by_cases hblank : y.trimStart = []
  · have hcomma : afterComma? (y ++ a) = afterComma? (y ++ b) := by
      rw [afterComma?, afterComma?, htrim, htrim, if_pos hblank, if_pos hblank, hab]
    exact Or.inl hcomma
  · simp only [if_neg hblank] at htrim
    by_cases hc : y.trimStart.head? = some ','
    · obtain ⟨r, hr⟩ := List.head?_eq_some_iff.mp hc
      have hra : MeetAtParen r a := (hr ▸ ha.trimStart).tail (by decide)
      have hrb : MeetAtParen r b := (hr ▸ hb.trimStart).tail (by decide)
      have hcomma : ∀ c, afterComma? (y ++ c) = some (Text.trimStart (r ++ c)) := by
        intro c
        rw [afterComma?, htrim, hr]
        rfl
      rw [hcomma, hcomma, Text.trimStart_append, Text.trimStart_append]
      by_cases hrblank : Text.trimStart r = []
      · rw [if_pos hrblank, if_pos hrblank, hab]
        exact Or.inl rfl
      · rw [if_neg hrblank, if_neg hrblank]
        refine Or.inr ⟨_, hrblank, hra.trimStart, hrb.trimStart, ?_, rfl, rfl⟩
        rw [afterComma?, hr]
        rfl
    · have hnone : ∀ c, afterComma? (y ++ c) = none := by
        intro c
        apply afterComma?_of_head?_ne
        rwa [htrim, List.head?_append_of_ne_nil _ hblank]
      rw [hnone, hnone]
      exact Or.inl rfl

/-! ### Lists -/

/-- What follows the comma behind an item of a list. Behind a reserved word the list does not
go on. -/
def next? (item : Target × Text) : Option Text :=
  if item.1.aliasName.isSome ∧ item.1.properAlias = none then none else afterComma? item.2

theorem readList_succ (n : Nat) (t : Text) :
    readList (n + 1) t = (read? t).elim [] fun item => item.1 :: (next? item).elim [] (readList n) := by
  rw [readList]
  cases read? t with
  | none => rfl
  | some item =>
    simp only [next?, Option.elim_some]
    split_ifs
    · rfl
    · cases afterComma? item.2 <;> rfl

/-- The text is a list, and its last item is a group without an alias. -/
inductive EndsInGroup : Text → Prop where
  /-- The group is the only item. -/
  | group {t : Text} : afterGroup? t = some [] → EndsInGroup t
  /-- The group ends the list behind an item and a comma. -/
  | comma {t r : Text} {item : Target × Text} :
      read? t = some item → next? item = some r → EndsInGroup r → EndsInGroup t

/-- The texts go on an item without an alias in the same way. -/
structure SameItem (a b : Text) : Prop where
  /-- The same alias is read off both. -/
  entry : (withAlias none a).1.entry = (withAlias none b).1.entry
  /-- The list goes on with the same. -/
  next : next? (withAlias none a) = next? (withAlias none b)

theorem length_next?_lt {item : Target × Text} {t r : Text} (h : read? t = some item)
    (hr : next? item = some r) : r.length < t.length := by
  obtain ⟨g, rest⟩ := item
  rw [next?] at hr
  split_ifs at hr
  exact Nat.lt_of_lt_of_le (length_afterComma?_lt hr) (length_read?_le h)

theorem next?_meet (g : Target) (ha : MeetAtParen y a) (hb : MeetAtParen y b)
    (hab : a.trimStart = b.trimStart) :
    next? (g, y ++ a) = next? (g, y ++ b) ∨
      GoesOn a b (next? (g, y)) (next? (g, y ++ a)) (next? (g, y ++ b)) := by
  simp only [next?]
  split_ifs
  · exact Or.inl rfl
  · exact afterComma?_meet ha hb hab

/-- The same items are read off two texts that begin alike, unless the alias behind a group where
they part is another one. -/
theorem readList_meet (hy : y ≠ []) (ha : MeetAtParen y a) (hb : MeetAtParen y b)
    (hab : a.trimStart = b.trimStart) (hgroup : EndsInGroup y → SameItem a b) {n m : Nat}
    (hn : (y ++ a).length < n) (hm : (y ++ b).length < m) :
    (readList n (y ++ a)).map entry = (readList m (y ++ b)).map entry := by
  induction n generalizing y m with
  | zero => omega
  | succ n ih =>
    obtain ⟨m, rfl⟩ : ∃ k, m = k + 1 := ⟨m - 1, by omega⟩
    have hsame : ∀ {p q : Target × Text}, read? (y ++ a) = some p → read? (y ++ b) = some q →
        next? p = next? q →
        ((next? p).elim [] (readList n)).map entry = ((next? q).elim [] (readList m)).map entry := by
      intro p q hp hq hpq
      cases hnext : next? q with
      | none => rw [hpq, hnext]; rfl
      | some r =>
        have hra := length_next?_lt hp (hpq.trans hnext)
        have hrb := length_next?_lt hq hnext
        rw [hpq, hnext, Option.elim_some, Option.elim_some,
          readList_relaid (.refl _ _ r) n m (by omega) (by omega)]
    rw [readList_succ, readList_succ]
    by_cases hend : afterGroup? y = some []
    · have hra := read?_meet_group hy ha hend
      have hrb := read?_meet_group hy hb hend
      obtain ⟨hentry, hnext⟩ := hgroup (.group hend)
      have htail := hsame hra hrb hnext
      rw [hra, hrb, Option.elim_some, Option.elim_some, List.map_cons, List.map_cons, hentry, htail]
    · have hra := read?_meet hy ha hend
      have hrb := read?_meet hy hb hend
      generalize hry : read? y = o at hra hrb
      generalize hoa : read? (y ++ a) = oa at hra hsame ⊢
      generalize hob : read? (y ++ b) = ob at hrb hsame ⊢
      cases hra with
      | none =>
        cases hrb
        rfl
      | some hpa =>
        obtain ⟨g, r, rfl, rfl, hra⟩ := hpa.exists_eq
        cases hrb with
        | some hpb =>
          obtain ⟨rfl, hrb⟩ := hpb
          rw [Option.elim_some, Option.elim_some, List.map_cons, List.map_cons]
          rcases next?_meet g hra hrb hab with hnext | ⟨z, hz, hza, hzb, hnext, hnexta, hnextb⟩
          · rw [hsame rfl rfl hnext]
          · have hla := length_next?_lt hoa hnexta
            have hlb := length_next?_lt hob hnextb
            have htail := ih hz hza hzb (fun hend => hgroup (.comma hry hnext hend)) (m := m)
              (by omega) (by omega)
            rw [hnexta, hnextb, Option.elim_some, Option.elim_some, htail]

end Target

end SqlAssist
