import SqlAssist.Proofs.Sql.Identifier
import SqlAssist.Proofs.Sql.Layout
import SqlAssist.Proofs.Text.Lines

/-!
# Tables behind `FROM`

A table as a piece of syntax: `FromItem` says what may be written and `FromItem.text`
how. A table may have a schema in front and an alias behind, with or without `AS`;
white space is free, as long as words stay apart.

Its name and its alias are read off wherever they end (`readName?_name_append`,
`readAlias?_text_append`), and the name is split into its parts (`ofName_name`).
-/

namespace SqlAssist

/-- White space between words. -/
abbrev Gap := { w : Text // IsGap w }

/-- White space, or nothing, next to a comma. -/
abbrev Blank := { w : Text // IsBlank w }

/-! ### Syntax -/

/-- An alias behind a table. -/
structure AliasPart where
  /-- The white space behind the table. -/
  gap : Gap
  /-- The white space behind an `AS`, if there is one. -/
  behindAs : Option Gap
  /-- The alias. -/
  name : Identifier

/-- A table, perhaps with a schema and an alias. -/
structure FromItem where
  /-- The schema. -/
  schema : Option Identifier
  /-- The table. -/
  table : Identifier
  /-- The alias. -/
  aliasPart : Option AliasPart

namespace AliasPart

/-- The alias as written. -/
def text (a : AliasPart) : Text :=
  a.gap.1 ++ (a.behindAs.elim [] fun g => "AS".toList ++ g.1) ++ a.name.text

/-- The alias in capitals. -/
def upper (a : AliasPart) : AliasPart :=
  { a with name := a.name.upper }

end AliasPart

namespace FromItem

/-- The name of the table, behind that of its schema if there is one. -/
def name (i : FromItem) : Text :=
  TableRef.qualify (i.schema.map (·.text)) i.table.text

/-- The table as written. -/
def text (i : FromItem) : Text :=
  i.name ++ i.aliasPart.elim [] AliasPart.text

/-- The table in capitals. -/
def upper (i : FromItem) : FromItem :=
  ⟨i.schema.map .upper, i.table.upper, i.aliasPart.map .upper⟩

/-- The target that the item stands for. -/
def target (i : FromItem) : Target :=
  ⟨some i.name, i.aliasPart.map (·.name.text)⟩

/-- The item can be referred to by the name, whatever the case: by its alias or its bare table. -/
def Registers (i : FromItem) (k : Identifier) : Prop :=
  i.table.text.upper = k.text.upper ∨ ∃ a ∈ i.aliasPart, a.name.text.upper = k.text.upper

end FromItem

theorem FromItem.name_of_schema (s table : Identifier) (a : Option AliasPart) :
    (FromItem.mk (some s) table a).name = s.text ++ '.' :: table.text := by
  obtain ⟨c, v, hs⟩ := List.exists_cons_of_ne_nil s.ne_nil
  simp [name, TableRef.qualify, hs]

/-! ### Capitals -/

theorem Gap.upper (g : Gap) : Text.upper g.1 = g.1 :=
  Text.upper_of_isBlank g.2.2

theorem AliasPart.text_upper (a : AliasPart) : a.upper.text = a.text.upper := by
  obtain ⟨gap, behindAs, name⟩ := a
  cases behindAs with
  | none => simp [text, upper, Text.upper_append, Gap.upper, Identifier.upper_text]
  | some g =>
    have has : Text.upper "AS".toList = "AS".toList := by decide
    simp only [text, upper, Option.elim_some, Text.upper_append, Gap.upper, Identifier.upper_text, has]

namespace FromItem

theorem name_upper (i : FromItem) : i.upper.name = i.name.upper := by
  obtain ⟨schema, table, aliasPart⟩ := i
  cases schema with
  | none => rfl
  | some s =>
    have hdot : Text.upperChar '.' = ['.'] := by decide
    rw [upper, Option.map_some, name_of_schema, name_of_schema, Text.upper_append, Text.upper_cons,
      hdot]
    rfl

theorem text_upper (i : FromItem) : i.upper.text = i.text.upper := by
  rw [text, text, Text.upper_append, name_upper]
  refine congrArg (i.name.upper ++ ·) ?_
  rw [upper]
  cases i.aliasPart with
  | none => rfl
  | some a => exact a.text_upper

end FromItem

/-! ### Words -/

namespace Text

/-- The words of the text are names, or among the given ones. -/
def NamesOr (ks : List Text) (t : Text) : Prop :=
  ∀ w ∈ words t, w ∈ ks ∨ ∃ k : Identifier, w = k.text

theorem NamesOr.append {ks : List Text} {u r : Text} (h : Apart u r) (hu : NamesOr ks u)
    (hr : NamesOr ks r) : NamesOr ks (u ++ r) := by
  intro w hw
  rw [words_append h, List.mem_append] at hw
  exact hw.elim (hu w) (hr w)

theorem NamesOr.mono {ks ks' : List Text} {t : Text} (hks : ∀ k ∈ ks, k ∈ ks') (h : NamesOr ks t) :
    NamesOr ks' t :=
  fun w hw => (h w hw).imp_left (hks w)

theorem namesOr_of_no_word {ks : List Text} {t : Text} (h : ∀ c ∈ t, isWordChar c = false) :
    NamesOr ks t := by
  intro w hw
  rw [words_of_no_word h] at hw
  exact absurd hw List.not_mem_nil

theorem namesOr_of_mem {ks : List Text} {k : Text} (h : IsWord k) (hk : k ∈ ks) : NamesOr ks k := by
  intro w hw
  rw [words_of_word h, List.mem_singleton] at hw
  exact Or.inl (hw ▸ hk)

theorem namesOr_identifier (ks : List Text) (k : Identifier) : NamesOr ks k.text := by
  intro w hw
  rw [words_of_word k.isWord, List.mem_singleton] at hw
  exact Or.inr ⟨k, hw⟩

theorem namesOr_blank {ks : List Text} {w : Text} (h : IsBlank w) : NamesOr ks w :=
  namesOr_of_no_word fun c hc => isWordChar_eq_false_of_isSpace (h c hc)

theorem namesOr_nil (ks : List Text) : NamesOr ks [] :=
  namesOr_of_no_word fun _ h => absurd h List.not_mem_nil

/-- A reserved word that is not among the given ones is no word of the text. -/
theorem NamesOr.isKeyword_eq_false {ks : List Text} {t k : Text} (h : NamesOr ks t)
    (hk : k.lower ∈ reservedWords) (hks : ∀ w ∈ ks, isKeyword k w = false) :
    ∀ w ∈ words t, isKeyword k w = false := by
  intro w hw
  rcases h w hw with hw | ⟨i, rfl⟩
  · exact hks w hw
  · exact i.isKeyword_eq_false hk

theorem NamesOr.blank_append {ks : List Text} {w r : Text} (hw : IsBlank w) (h : NamesOr ks r) :
    NamesOr ks (w ++ r) :=
  (namesOr_blank hw).append (apart_blank_left hw) h

theorem NamesOr.cons {ks : List Text} {c : Char} {r : Text} (hc : isWordChar c = false) (h : NamesOr ks r) :
    NamesOr ks (c :: r) := by
  have hsingle : ∀ d ∈ [c], isWordChar d = false := List.forall_mem_singleton.mpr hc
  exact (namesOr_of_no_word hsingle).append (apart_of_no_word_left hsingle) h

end Text

theorem Gap.head?_any {p : Char → Bool} (hp : ∀ c, Text.isSpace c = true → p c = false) (g : Gap)
    (r : Text) : (g.1 ++ r).head?.any p = false := by
  obtain ⟨w, hw⟩ := g
  obtain ⟨c, v, rfl, hc, -⟩ := hw.exists_cons
  exact hp c hc

theorem Gap.apart (u : Text) (g : Gap) (r : Text) : Text.Apart u (g.1 ++ r) :=
  Or.inr (g.head?_any (fun _ => Text.isWordChar_eq_false_of_isSpace) r)

theorem Gap.apart_word (g : Gap) (r : Text) : Text.Apart g.1 r :=
  Text.apart_blank_left g.2.2

/-- One of the given words may stand before a gap. -/
theorem Text.NamesOr.word_append {ks : List Text} {k r : Text} (hword : IsWord k) (hk : k ∈ ks) (g : Gap)
    (h : NamesOr ks r) : NamesOr ks (k ++ (g.1 ++ r)) :=
  (namesOr_of_mem hword hk).append (g.apart _ _) (h.blank_append g.2.2)

open Text in
theorem AliasPart.namesOr_text (a : AliasPart) : NamesOr ["AS".toList] a.text := by
  obtain ⟨gap, behindAs, name⟩ := a
  have hname := namesOr_identifier ["AS".toList] name
  cases behindAs with
  | none =>
    simp only [text, Option.elim_none, List.append_nil]
    exact hname.blank_append gap.2.2
  | some g =>
    simp only [text, Option.elim_some, List.append_assoc]
    exact (hname.word_append (by decide) List.mem_cons_self g).blank_append gap.2.2

open Text in
theorem FromItem.namesOr_name (ks : List Text) (i : FromItem) : NamesOr ks i.name := by
  obtain ⟨schema, table, aliasPart⟩ := i
  have htable := namesOr_identifier ks table
  cases schema with
  | none => exact htable
  | some s =>
    have hdot : isWordChar '.' = false := by decide
    rw [name_of_schema]
    exact (namesOr_identifier ks s).append (Or.inr hdot) (htable.cons hdot)

/-- A name starts with a character of its first part. -/
theorem FromItem.exists_cons (i : FromItem) : ∃ c v, i.name = c :: v ∧ Text.isNameChar c = true := by
  obtain ⟨schema, table, aliasPart⟩ := i
  cases schema with
  | none =>
    obtain ⟨c, v, ht⟩ := List.exists_cons_of_ne_nil table.ne_nil
    exact ⟨c, v, ht, table.isWord.isNameChar c (ht ▸ List.mem_cons_self)⟩
  | some s =>
    obtain ⟨c, v, hs⟩ := List.exists_cons_of_ne_nil s.ne_nil
    refine ⟨c, v ++ '.' :: table.text, ?_, s.isWord.isNameChar c (hs ▸ List.mem_cons_self)⟩
    rw [name_of_schema, hs]
    rfl

/-! ### References -/

theorem Identifier.dot_not_mem (k : Identifier) : '.' ∉ k.text :=
  fun h => absurd (k.chars '.' h) (by decide)

namespace FromItem

/-- The table that the item refers to. -/
def ref (i : FromItem) : TableRef :=
  { table := i.table.text, schema := i.schema.map (·.text) }

theorem ofName_name (i : FromItem) : TableRef.ofName i.name = i.ref := by
  obtain ⟨schema, table, aliasPart⟩ := i
  have htable : Text.split '.' table.text = [table.text] := Text.split_of_not_mem table.dot_not_mem
  have hne : ¬ table.text.isEmpty = true := by simpa using table.ne_nil
  cases schema with
  | none =>
    have hname : (FromItem.mk none table aliasPart).name = table.text := rfl
    simp [hname, TableRef.ofName, htable, hne, ref]
  | some s =>
    simp [name_of_schema, TableRef.ofName, Text.split_append_cons s.dot_not_mem, htable, ref, table.ne_nil,
      s.ne_nil]

end FromItem

/-! ### Reading -/

namespace Target

theorem trimStart_gap_append (g : Gap) {w : Text} (hw : Text.IsWord w) (r : Text) :
    Text.trimStart (g.1 ++ (w ++ r)) = w ++ r := by
  refine Text.dropWhile_append_stop g.2.2 ?_
  obtain ⟨c, v, rfl⟩ := List.exists_cons_of_ne_nil hw.1
  exact Text.isSpace_eq_false_of_isNameChar (hw.isNameChar c List.mem_cons_self)

/-- A name behind white space is read off. -/
theorem readSpacedName?_gap_append (g : Gap) {w r : Text} (hw : Text.IsWord w)
    (hr : r.head?.any Text.isNameChar = false) :
    readSpacedName? (g.1 ++ (w ++ r)) = some (w, r) := by
  have hlen : (w ++ r).length ≠ (g.1 ++ (w ++ r)).length := by
    have := List.length_pos_iff.mpr g.2.1
    simp only [List.length_append]
    omega
  have hempty : ¬ w.isEmpty = true := by simpa using hw.1
  simp only [readSpacedName?, trimStart_gap_append g hw, Text.takeWhile_append_stop hw.isNameChar hr,
    Text.dropWhile_append_stop hw.isNameChar hr, hlen, hempty, Bool.false_eq_true, or_self, if_false]

/-- An alias is read off, whether an `AS` stands before it or not. -/
theorem readAlias?_text_append (a : AliasPart) {r : Text} (hr : r.head?.any Text.isNameChar = false) :
    readAlias? (a.text ++ r) = some (a.name.text, r) := by
  obtain ⟨gap, behindAs, name⟩ := a
  have hname : ∀ g : Gap, readSpacedName? (g.1 ++ (name.text ++ r)) = some (name.text, r) := fun g =>
    readSpacedName?_gap_append g name.isWord hr
  have has : Text.isKeyword "AS".toList name.text = false := name.isKeyword_eq_false (by decide)
  cases behindAs with
  | none =>
    have htext : (AliasPart.mk gap none name).text ++ r = gap.1 ++ (name.text ++ r) := by
      simp [AliasPart.text]
    rw [htext, readAlias?, hname gap]
    simp only [has, Bool.false_eq_true, if_false]
  | some g =>
    have htext : (AliasPart.mk gap (some g) name).text ++ r =
        gap.1 ++ ("AS".toList ++ (g.1 ++ (name.text ++ r))) := by
      simp [AliasPart.text]
    have hspaced := readSpacedName?_gap_append gap (w := "AS".toList) (r := g.1 ++ (name.text ++ r))
      (by decide) (g.head?_any (fun _ => Text.isNameChar_eq_false_of_isSpace) _)
    have hself : Text.isKeyword "AS".toList "AS".toList = true := by decide
    rw [htext, readAlias?, hspaced]
    simp only [hself, if_true, hname g]
    rfl

/-- The name of a table is read off, with its schema. -/
theorem readName?_name_append (i : FromItem) {r : Text} (hr : r.head?.any Text.isPathChar = false) :
    readName? (i.name ++ r) = some (i.name, r) := by
  have hname : r.head?.any Text.isNameChar = false := by
    cases r with
    | nil => rfl
    | cons c r => exact (Text.isNameChar_of_isPathChar_eq_false hr).1
  have hdot : r.head? ≠ some '.' := by
    cases r with
    | nil => simp
    | cons c r => simpa using (Text.isNameChar_of_isPathChar_eq_false hr).2
  obtain ⟨schema, table, aliasPart⟩ := i
  have hchars := table.isWord.isNameChar
  have hempty : ¬ table.text.isEmpty = true := by simpa using table.ne_nil
  cases schema with
  | none =>
    have htext : (FromItem.mk none table aliasPart).name = table.text := rfl
    simp only [htext, readName?, Text.takeWhile_append_stop hchars hname,
      Text.dropWhile_append_stop hchars hname, hempty, Bool.false_eq_true, if_false,
      moreParts_of_head?_ne hdot, List.append_nil]
  | some s =>
    have hschars := s.isWord.isNameChar
    have hsempty : ¬ s.text.isEmpty = true := by simpa using s.ne_nil
    have hnext : ('.' :: (table.text ++ r)).head?.any Text.isNameChar = false :=
      show Text.isNameChar '.' = false by decide
    simp only [FromItem.name_of_schema, List.append_assoc, List.cons_append, readName?,
      Text.takeWhile_append_stop hschars hnext, Text.dropWhile_append_stop hschars hnext, hsempty,
      Bool.false_eq_true, if_false, List.length_cons, moreParts,
      Text.takeWhile_append_stop hchars hname, Text.dropWhile_append_stop hchars hname, hempty,
      moreParts_of_head?_ne hdot, List.append_nil]

end Target

end SqlAssist
