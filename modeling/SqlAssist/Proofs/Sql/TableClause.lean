import SqlAssist.Proofs.Document.WordRuns
import SqlAssist.Proofs.Sql.FromItem

/-!
# The grammar of `FROM` and `JOIN`

A list of tables behind `FROM`, followed by joins of any kind, with or without a
condition, as a piece of syntax: `TableClause` says what may be written and
`TableClause.text` how. In the place of a table a blanked subquery may stand.

The scan finds what was written: **`targets_text`** gives the targets of such a
clause, in order, and nothing else. An alias is read greedily, so that the word
behind an item without one is taken for its alias at first. In this grammar it is
`JOIN`, a kind of join or `ON`, all of which are reserved and end the list; all that
is asked of the text behind a list is that it goes on in such a way (`EndsList`).
-/

namespace SqlAssist

/-! ### Syntax -/

/-- What stands in the place of a table. -/
inductive TableItem where
  /-- A table. -/
  | table (item : FromItem)
  /-- A subquery whose text is blanked, perhaps with an alias. -/
  | group (inside : Blank) (aliasPart : Option AliasPart)

/-- A further item of a list, with its comma. -/
structure ListedTable where
  /-- The white space before the comma. -/
  before : Blank
  /-- The white space behind the comma. -/
  after : Blank
  /-- The item. -/
  item : TableItem

/-- The kinds of joins. -/
inductive JoinKind where
  /-- `LEFT JOIN`. -/
  | left
  /-- `RIGHT JOIN`. -/
  | right
  /-- `FULL JOIN`. -/
  | full
  /-- `INNER JOIN`. -/
  | inner
  /-- `CROSS JOIN`. -/
  | cross
  /-- `NATURAL JOIN`. -/
  | natural

/-- The condition of a join: names, dots, equals signs and white space. -/
structure Condition where
  /-- The condition as written. -/
  text : Text
  /-- It has no other characters. -/
  chars : ∀ c ∈ text, Text.isIdentifierChar c = true ∨ c = '.' ∨ c = '=' ∨ Text.isSpace c = true
  /-- None of its words is reserved. -/
  not_reserved : ∀ w ∈ Text.words text, w.lower ∉ reservedWords

/-- A condition behind its `ON`. -/
structure OnPart where
  /-- The white space before the `ON`. -/
  before : Gap
  /-- The white space behind the `ON`. -/
  after : Gap
  /-- The condition. -/
  condition : Condition

/-- A joined item. -/
structure JoinedTable where
  /-- The white space before the join. -/
  before : Gap
  /-- The kind of the join and the white space behind it, if it is given. -/
  kind : Option (JoinKind × Gap)
  /-- The white space behind the `JOIN`. -/
  after : Gap
  /-- The item. -/
  item : TableItem
  /-- The condition, if there is one. -/
  onPart : Option OnPart

/-- A list of items behind `FROM` and the items joined to it. -/
structure TableClause where
  /-- The white space before the `FROM`. -/
  before : Gap
  /-- The white space behind the `FROM`. -/
  after : Gap
  /-- The first item. -/
  first : TableItem
  /-- The other items of the list. -/
  listed : List ListedTable
  /-- The joined items. -/
  joined : List JoinedTable

namespace TableItem

/-- The name of a table; none for a subquery. -/
def name : TableItem → Option Text
  | table item => some item.name
  | group _ _ => none

/-- The item without its alias, as written. -/
def source : TableItem → Text
  | table item => item.name
  | group inside _ => '(' :: (inside.1 ++ [')'])

/-- The alias, if there is one. -/
def aliasPart : TableItem → Option AliasPart
  | table item => item.aliasPart
  | group _ aliasPart => aliasPart

/-- The item as written. -/
def text (i : TableItem) : Text :=
  i.source ++ i.aliasPart.elim [] AliasPart.text

/-- The target that the item stands for. -/
def target (i : TableItem) : Target :=
  ⟨i.name, i.aliasPart.map (·.name.text)⟩

end TableItem

/-- The item behind its comma, as written. -/
def ListedTable.text (l : ListedTable) : Text :=
  l.before.1 ++ ',' :: (l.after.1 ++ l.item.text)

/-- The word before `JOIN`. -/
def JoinKind.keyword : JoinKind → Text
  | left => "LEFT".toList
  | right => "RIGHT".toList
  | full => "FULL".toList
  | inner => "INNER".toList
  | cross => "CROSS".toList
  | natural => "NATURAL".toList

/-- The condition behind its `ON`, as written. -/
def OnPart.text (o : OnPart) : Text :=
  o.before.1 ++ ("ON".toList ++ (o.after.1 ++ o.condition.text))

namespace JoinedTable

/-- The kind of the join, as written. -/
def kindText (j : JoinedTable) : Text :=
  j.kind.elim [] fun k => k.1.keyword ++ k.2.1

/-- What stands behind the item, as written. -/
def onText (j : JoinedTable) : Text :=
  j.onPart.elim [] OnPart.text

/-- The join as written. -/
def text (j : JoinedTable) : Text :=
  j.before.1 ++ (j.kindText ++ ("JOIN".toList ++ (j.after.1 ++ (j.item.text ++ j.onText))))

end JoinedTable

namespace TableClause

/-- All items, in order. -/
def items (q : TableClause) : List TableItem :=
  q.first :: (q.listed.map (·.item) ++ q.joined.map (·.item))

/-- The clause as written. -/
def text (q : TableClause) : Text :=
  q.before.1 ++ ("FROM".toList ++ (q.after.1 ++
    (q.first.text ++ (q.listed.flatMap (·.text) ++ q.joined.flatMap (·.text)))))

end TableClause

/-! ### Words -/

open Text

variable {ks : List Text}

theorem AliasPart.head?_any (a : AliasPart) {p : Char → Bool} (hp : ∀ c, isSpace c = true → p c = false)
    (r : Text) : (a.text ++ r).head?.any p = false := by
  rw [text, List.append_assoc, List.append_assoc]
  exact a.gap.head?_any hp _

theorem TableItem.namesOr_text (i : TableItem) : NamesOr ["AS".toList] i.text := by
  have hsource : NamesOr ["AS".toList] i.source := by
    cases i with
    | table item => exact item.namesOr_name _
    | group inside aliasPart =>
      refine namesOr_of_no_word fun c hc => ?_
      rcases List.mem_cons.mp hc with rfl | hc
      · decide
      · rcases List.mem_append.mp hc with hc | hc
        · exact isWordChar_eq_false_of_isSpace (inside.2 c hc)
        · exact List.mem_singleton.mp hc ▸ by decide
  rw [text]
  cases i.aliasPart with
  | none =>
    rw [Option.elim_none, List.append_nil]
    exact hsource
  | some a =>
    have hhead := a.head?_any (fun _ => isWordChar_eq_false_of_isSpace) []
    rw [List.append_nil] at hhead
    exact hsource.append (Or.inr hhead) a.namesOr_text

theorem ListedTable.namesOr_text (l : ListedTable) : NamesOr ["AS".toList] l.text :=
  ((l.item.namesOr_text.blank_append l.after.2).cons (by decide)).blank_append l.before.2

/-- The words of a condition are names. -/
theorem Condition.namesOr_text (ks : List Text) (c : Condition) : NamesOr ks c.text := by
  intro w hw
  obtain ⟨x, hx, rfl⟩ := List.mem_map.mp hw
  obtain ⟨⟨⟨u, v, htext, -⟩, hword⟩, hne⟩ := isRun_of_mem_wordStarts hx
  refine Or.inr ⟨⟨_, hne, fun d hd => ?_, c.not_reserved _ hw⟩, rfl⟩
  have hmem : d ∈ c.text := by
    rw [htext]
    simp [hd]
  rcases c.chars d hmem with h | rfl | rfl | h
  · exact h
  · exact absurd (hword '.' hd) (by decide)
  · exact absurd (hword '=' hd) (by decide)
  · exact absurd (hword d hd) (by simp [isWordChar_eq_false_of_isSpace h])

theorem OnPart.namesOr_text (o : OnPart) : NamesOr ["ON".toList] o.text :=
  ((o.condition.namesOr_text _).word_append (by decide) List.mem_cons_self o.after).blank_append o.before.2.2

theorem JoinKind.isWord (k : JoinKind) : IsWord k.keyword := by
  cases k <;> decide

theorem JoinKind.keyword_reserved (k : JoinKind) : k.keyword.lower ∈ reservedWords := by
  cases k <;> decide

/-- The words before `JOIN`. -/
def JoinKind.keywords : List Text :=
  [left, right, full, inner, cross, natural].map keyword

theorem JoinKind.keyword_mem (k : JoinKind) : k.keyword ∈ keywords := by
  cases k <;> decide

namespace JoinedTable

theorem namesOr_kindText (j : JoinedTable) : NamesOr JoinKind.keywords j.kindText := by
  rw [kindText]
  cases j.kind with
  | none => exact namesOr_nil _
  | some k =>
    have h := (namesOr_nil JoinKind.keywords).word_append k.1.isWord k.1.keyword_mem k.2
    rwa [List.append_nil] at h

theorem apart_kindText (j : JoinedTable) (r : Text) : Apart j.kindText r := by
  rw [kindText]
  cases j.kind with
  | none => exact Or.inl rfl
  | some k =>
    rw [Apart, Option.elim_some, List.getLast?_append_of_ne_nil _ k.2.2.1]
    exact k.2.apart_word r

theorem namesOr_onText (j : JoinedTable) : NamesOr ["ON".toList] j.onText := by
  rw [onText]
  cases j.onPart with
  | none => exact namesOr_nil _
  | some o => exact o.namesOr_text

end JoinedTable

/-! ### Targets -/

namespace TableItem

/-- A name or a parenthesis comes first. -/
theorem exists_cons (i : TableItem) : ∃ c v, i.source = c :: v ∧ isSpace c = false := by
  cases i with
  | table item =>
    obtain ⟨c, v, hname, hc⟩ := item.exists_cons
    exact ⟨c, v, hname, isSpace_eq_false_of_isNameChar hc⟩
  | group inside aliasPart => exact ⟨'(', _, rfl, by decide⟩

theorem head?_isSpace (i : TableItem) (r : Text) : (i.text ++ r).head?.any isSpace = false := by
  obtain ⟨c, v, hi, hc⟩ := i.exists_cons
  rw [text, hi]
  exact hc

theorem trimStart_append (i : TableItem) {w : Text} (hw : IsBlank w) (r : Text) :
    trimStart (w ++ (i.text ++ r)) = i.text ++ r :=
  dropWhile_append_stop hw (i.head?_isSpace r)

end TableItem

namespace ListedTable

theorem trimStart_append (l : ListedTable) (r : Text) :
    trimStart (l.text ++ r) = ',' :: (l.after.1 ++ (l.item.text ++ r)) := by
  have := dropWhile_append_stop (w := l.before.1) (r := ',' :: (l.after.1 ++ (l.item.text ++ r)))
    l.before.2 (show isSpace ',' = false by decide)
  simpa [text, trimStart] using this

theorem head?_any (l : ListedTable) {p : Char → Bool} (hp : ∀ c, isSpace c = true → p c = false)
    (hcomma : p ',' = false) (r : Text) : (l.text ++ r).head?.any p = false := by
  obtain ⟨⟨before, hbefore⟩, after, item⟩ := l
  cases before with
  | nil => exact hcomma
  | cons c v => exact hp c (hbefore c List.mem_cons_self)

end ListedTable

namespace Target

/-- What a table is registered by. -/
def entry (t : Target) : Option Text × Option Text := (t.name, t.properAlias)

/-- The text ends the list that stands before it: it is empty, or a reserved word comes next. -/
inductive EndsList : Text → Prop where
  /-- Nothing comes next. -/
  | nil : EndsList []
  /-- A reserved word comes next, and it is not `AS`. -/
  | word (g : Gap) {w r : Text} (hw : Text.IsWord w) (hreserved : w.lower ∈ reservedWords)
      (has : Text.isKeyword "AS".toList w = false) (hr : r.head?.any Text.isNameChar = false) :
      EndsList (g.1 ++ (w ++ r))

theorem EndsList.head?_any {r : Text} (h : EndsList r) {p : Char → Bool}
    (hp : ∀ c, Text.isSpace c = true → p c = false) : r.head?.any p = false := by
  cases h with
  | nil => rfl
  | word g _ _ _ _ => exact g.head?_any hp _

theorem EndsList.apart {r : Text} (h : EndsList r) (u : Text) : Apart u r :=
  Or.inr (h.head?_any fun _ => isWordChar_eq_false_of_isSpace)

theorem EndsList.afterComma?_eq_none {r : Text} (h : EndsList r) : afterComma? r = none := by
  refine afterComma?_of_head?_ne ?_
  cases h with
  | nil => simp [Text.trimStart]
  | @word g w r hw _ _ _ =>
    rw [trimStart_gap_append g hw]
    obtain ⟨c, v, rfl⟩ := List.exists_cons_of_ne_nil hw.1
    have hc : c ≠ ',' := by
      rintro rfl
      exact absurd (hw.2 ',' List.mem_cons_self) (by decide)
    simpa using hc

/-- The item is read off, and an alias is looked for behind it. -/
theorem read?_source_append (i : TableItem) {r : Text} (hr : r.head?.any isPathChar = false) :
    read? (i.source ++ r) = some (withAlias i.name r) := by
  cases i with
  | table item =>
    rw [TableItem.source, read?, readNamed?, readName?_name_append item hr]
    rfl
  | group inside aliasPart =>
    have hgroup : (TableItem.group inside aliasPart).source ++ r = '(' :: (inside.1 ++ ')' :: r) := by
      simp [TableItem.source]
    have hname : readName? ('(' :: (inside.1 ++ ')' :: r)) = none := by
      have hparen : isNameChar '(' = false := by decide
      simp [readName?, hparen]
    rw [hgroup, read?, readNamed?, hname, afterGroup?_group inside.2]
    rfl

/-- An item with an alias is read off as it stands. -/
theorem read?_text_append_of_alias {i : TableItem} {a : AliasPart} (ha : i.aliasPart = some a) {r : Text}
    (hr : r.head?.any isNameChar = false) : read? (i.text ++ r) = some (i.target, r) := by
  have htail := a.head?_any (fun _ => isPathChar_eq_false_of_isSpace) r
  rw [TableItem.text, ha, Option.elim_some, List.append_assoc, read?_source_append i htail, withAlias,
    readAlias?_text_append a hr, TableItem.target, ha, Option.map_some]

/-- Without an alias the word behind it is taken for one. -/
theorem read?_text_append_of_no_alias {i : TableItem} (ha : i.aliasPart = none) {r : Text}
    (hr : r.head?.any isPathChar = false) : read? (i.text ++ r) = some (withAlias i.name r) := by
  rw [TableItem.text, ha, Option.elim_none, List.append_nil, read?_source_append i hr]

/-- The item behind which a list ends is read off. What is taken for its alias is its alias or
reserved, and no comma follows. -/
theorem exists_read?_text_append (i : TableItem) {r : Text} (hr : EndsList r) :
    ∃ t rest, read? (i.text ++ r) = some (t, rest) ∧ t.entry = i.target.entry ∧
      (t.aliasName.isSome ∧ t.properAlias = none ∨ afterComma? rest = none) := by
  cases ha : i.aliasPart with
  | some a =>
    have hname := hr.head?_any fun _ => Text.isNameChar_eq_false_of_isSpace
    exact ⟨_, _, read?_text_append_of_alias ha hname, rfl, Or.inr hr.afterComma?_eq_none⟩
  | none =>
    have hpath := hr.head?_any fun _ => Text.isPathChar_eq_false_of_isSpace
    have htarget : i.target = ⟨i.name, none⟩ := by rw [TableItem.target, ha, Option.map_none]
    rw [read?_text_append_of_no_alias ha hpath, htarget]
    cases hr with
    | nil => exact ⟨_, _, rfl, rfl, Or.inr rfl⟩
    | @word g w r hw hreserved has hr =>
      have halias : readAlias? (g.1 ++ (w ++ r)) = some (w, r) := by
        rw [readAlias?, readSpacedName?_gap_append g hw hr]
        simp only [has, Bool.false_eq_true, if_false]
      have hproper : (Target.mk i.name (some w)).properAlias = none := by
        simp [properAlias, hreserved]
      rw [withAlias, halias]
      exact ⟨_, _, rfl, congrArg (Prod.mk _) hproper, Or.inl ⟨rfl, hproper⟩⟩

theorem readList_last (i : TableItem) {r : Text} (hr : EndsList r) (n : Nat) :
    (readList (n + 1) (i.text ++ r)).map entry = [i.target.entry] := by
  obtain ⟨t, rest, hread, hentry, hends⟩ := exists_read?_text_append i hr
  rw [readList, hread, ← hentry]
  simp only
  split_ifs with h
  · rfl
  · rw [hends.resolve_left h]
    rfl

/-- The alias of an item is no reserved word. -/
theorem properAlias_target (i : TableItem) : i.target.properAlias = i.target.aliasName := by
  rw [TableItem.target, properAlias]
  cases i.aliasPart with
  | none => rfl
  | some a => simp [a.name.not_reserved]

/-- An item of a list is read off before a comma, and the list goes on behind it. -/
theorem readList_listed (i : TableItem) (l : ListedTable) (r : Text) (n : Nat) :
    readList (n + 1) (i.text ++ (l.text ++ r)) = i.target :: readList n (l.item.text ++ r) := by
  have hread : read? (i.text ++ (l.text ++ r)) = some (i.target, l.text ++ r) := by
    cases ha : i.aliasPart with
    | some a =>
      exact read?_text_append_of_alias ha
        (l.head?_any (fun _ => Text.isNameChar_eq_false_of_isSpace) (by decide) r)
    | none =>
      have hcomma : Text.isNameChar ',' = false := by decide
      have hpath := l.head?_any (fun _ => Text.isPathChar_eq_false_of_isSpace) (by decide) r
      rw [read?_text_append_of_no_alias ha hpath, withAlias, readAlias?, readSpacedName?,
        l.trimStart_append]
      simp [hcomma, TableItem.target, ha]
  have hproper : ¬ (i.target.aliasName.isSome = true ∧ i.target.properAlias = none) := by
    rw [properAlias_target]
    simp +contextual [Option.isSome_iff_ne_none]
  have hcomma : afterComma? (l.text ++ r) = some (l.item.text ++ r) := by
    rw [afterComma?, l.trimStart_append]
    exact congrArg some (l.item.trimStart_append l.after.2 r)
  rw [readList, hread]
  simp only [hproper, if_false, hcomma]

/-- A list is read off up to its end. -/
theorem readList_text_append (ls : List ListedTable) (i : TableItem) {r : Text} (hr : EndsList r) {n : Nat}
    (hn : ls.length < n) :
    (readList n (i.text ++ (ls.flatMap (·.text) ++ r))).map entry =
      (i :: ls.map (·.item)).map (·.target.entry) := by
  induction ls generalizing i n with
  | nil =>
    obtain ⟨n, rfl⟩ : ∃ k, n = k + 1 := ⟨n - 1, by simp at hn; omega⟩
    exact readList_last i hr n
  | cons l ls ih =>
    obtain ⟨n, rfl⟩ : ∃ k, n = k + 1 := ⟨n - 1, by omega⟩
    rw [List.flatMap_cons, List.append_assoc, readList_listed, List.map_cons,
      ih l.item (by simpa using hn)]
    rfl

end Target

/-! ### Scanning a statement -/

namespace Text

theorem afterKeywords?_word_append {k : Text} (hk : isKeyword k k = true) (hword : IsWord k) (g : Gap)
    {r : Text} (hr : r.head?.any isSpace = false) (ks : List Text) :
    afterKeywords? (k :: ks) (k ++ (g.1 ++ r)) = afterKeywords? ks r := by
  have hgap : (g.1 ++ r).head?.any isWordChar = false :=
    g.head?_any (fun _ => isWordChar_eq_false_of_isSpace) r
  have hspace : (g.1 ++ r).head?.any isSpace = true := by
    obtain ⟨c, v, hg, hc, -⟩ := g.2.exists_cons
    rw [hg]
    exact hc
  have htrim : trimStart (g.1 ++ r) = r := dropWhile_append_stop g.2.2 hr
  simp only [afterKeywords?, firstWord, afterWord, takeWhile_append_stop hword.2 hgap,
    dropWhile_append_stop hword.2 hgap, hk, hspace, htrim, Bool.and_self, if_true]

end Text

namespace Resolution

open Text

theorem targetsAt_eq_nil {t : Text} (hfrom : isKeyword "FROM".toList t.firstWord = false)
    (hjoin : isKeyword "JOIN".toList t.firstWord = false) : targetsAt t = [] := by
  simp only [targetsAt, afterKeywords?, hfrom, hjoin, Bool.false_and, Bool.false_eq_true, if_false]

/-- A text without `FROM` and `JOIN` names no target. -/
theorem targets_append {u r : Text} (h : Apart u r)
    (hfrom : ∀ w ∈ words u, isKeyword "FROM".toList w = false)
    (hjoin : ∀ w ∈ words u, isKeyword "JOIN".toList w = false) : targets (u ++ r) = targets r := by
  rw [targets, wordStarts_append h, List.flatMap_append, List.flatMap_map]
  have hnil : u.wordStarts.flatMap (fun x => targetsAt (x ++ r)) = [] := by
    refine List.flatMap_eq_nil_iff.mpr fun x hx => ?_
    have hw : x.firstWord ∈ words u := List.mem_map_of_mem hx
    refine targetsAt_eq_nil ?_ ?_ <;> rw [firstWord_append h hx]
    · exact hfrom _ hw
    · exact hjoin _ hw
  rw [hnil]
  rfl

theorem targets_append_of_namesOr {ks : List Text} {u r : Text} (h : Apart u r) (hu : NamesOr ks u)
    (hks : ∀ w ∈ ks, isKeyword "FROM".toList w = false ∧ isKeyword "JOIN".toList w = false) :
    targets (u ++ r) = targets r :=
  targets_append h (hu.isKeyword_eq_false (by decide) fun w hw => (hks w hw).1)
    (hu.isKeyword_eq_false (by decide) fun w hw => (hks w hw).2)

theorem targets_gap_append (g : Gap) (r : Text) : targets (g.1 ++ r) = targets r := by
  have hgap : NamesOr [] g.1 := namesOr_blank g.2.2
  exact targets_append_of_namesOr (g.apart_word r) hgap fun _ h => absurd h List.not_mem_nil

/-- Nor do names and aliases. -/
theorem targets_names_append {u r : Text} (h : Apart u r) (hu : NamesOr ["AS".toList] u) :
    targets (u ++ r) = targets r :=
  targets_append_of_namesOr h hu (by decide)

theorem targets_word_append {w r : Text} (hw : IsWord w) (h : Apart w r) :
    targets (w ++ r) = targetsAt (w ++ r) ++ targets r := by
  rw [targets, wordStarts_append h, wordStarts_of_word hw]
  rfl

theorem targetsAt_from (g : Gap) {r : Text} (hr : r.head?.any isSpace = false) :
    targetsAt ("FROM".toList ++ (g.1 ++ r)) = Target.readList (r.length + 1) r := by
  rw [targetsAt, afterKeywords?_word_append (by decide) (by decide) g hr]
  rfl

theorem targetsAt_join (g : Gap) {r : Text} (hr : r.head?.any isSpace = false) :
    targetsAt ("JOIN".toList ++ (g.1 ++ r)) = (Target.read? r).toList.map (·.1) := by
  have hfrom : afterKeywords? ["FROM".toList] ("JOIN".toList ++ (g.1 ++ r)) = none := by
    have hgap := g.head?_any (fun _ => isWordChar_eq_false_of_isSpace) r
    have hword : isKeyword "FROM".toList "JOIN".toList = false := by decide
    have hjoin : IsWord "JOIN".toList := by decide
    have hfirst : firstWord ("JOIN".toList ++ (g.1 ++ r)) = "JOIN".toList :=
      takeWhile_append_stop hjoin.2 hgap
    rw [afterKeywords?, hfirst, hword]
    rfl
  rw [targetsAt, hfrom, afterKeywords?_word_append (by decide) (by decide) g hr]
  rfl

end Resolution
/-! ### Scanning a clause -/

open Resolution

namespace JoinedTable

/-- A join goes on behind its item with a reserved word, and the joins that follow do. -/
theorem endsList_onText_append (j : JoinedTable) {r : Text} (hr : Target.EndsList r) :
    Target.EndsList (j.onText ++ r) := by
  rw [onText]
  cases j.onPart with
  | none => exact hr
  | some o =>
    have := Target.EndsList.word o.before (w := "ON".toList) (r := o.after.1 ++ (o.condition.text ++ r))
      (by decide) (by decide) (by decide)
      (o.after.head?_any (fun _ => isNameChar_eq_false_of_isSpace) _)
    simpa [OnPart.text] using this

/-- A join starts with a reserved word. -/
theorem endsList_text_append (j : JoinedTable) (r : Text) : Target.EndsList (j.text ++ r) := by
  have hgap : ∀ (g : Gap) s, (g.1 ++ s).head?.any isNameChar = false := fun g =>
    g.head?_any fun _ => isNameChar_eq_false_of_isSpace
  rw [text, kindText]
  cases j.kind with
  | none =>
    have := Target.EndsList.word j.before (w := "JOIN".toList)
      (r := j.after.1 ++ (j.item.text ++ (j.onText ++ r))) (by decide) (by decide) (by decide)
      (hgap _ _)
    simpa using this
  | some k =>
    have := Target.EndsList.word j.before (w := k.1.keyword)
      (r := k.2.1 ++ ("JOIN".toList ++ (j.after.1 ++ (j.item.text ++ (j.onText ++ r))))) k.1.isWord
      k.1.keyword_reserved (by cases k.1 <;> decide) (hgap _ _)
    simpa using this

/-- A join names its item. -/
theorem targets_text_append (j : JoinedTable) {r : Text} (hr : Target.EndsList r) :
    (targets (j.text ++ r)).map Target.entry = j.item.target.entry :: (targets r).map Target.entry := by
  have hon := j.endsList_onText_append hr
  have htext : j.text ++ r = j.before.1 ++ (j.kindText ++
      ("JOIN".toList ++ (j.after.1 ++ (j.item.text ++ (j.onText ++ r))))) := by
    simp [text]
  have hkind : ∀ s, targets (j.kindText ++ s) = targets s :=
    fun s => targets_append_of_namesOr (j.apart_kindText s) j.namesOr_kindText (by decide)
  have hitem : targets (j.after.1 ++ (j.item.text ++ (j.onText ++ r))) = targets r := by
    rw [targets_gap_append, targets_append_of_namesOr (hon.apart _) j.item.namesOr_text (by decide),
      targets_append_of_namesOr (hr.apart _) j.namesOr_onText (by decide)]
  obtain ⟨t, rest, hread, hentry, -⟩ := Target.exists_read?_text_append j.item hon
  rw [htext, targets_gap_append, hkind, targets_word_append (by decide) (j.after.apart _ _),
    targetsAt_join _ (j.item.head?_isSpace _), hread, hitem, List.map_append, ← hentry]
  rfl

end JoinedTable

namespace TableClause

theorem endsList_joined (js : List JoinedTable) : Target.EndsList (js.flatMap (·.text)) := by
  cases js with
  | nil => exact .nil
  | cons j js => exact j.endsList_text_append _

theorem targets_joined (js : List JoinedTable) :
    (targets (js.flatMap (·.text))).map Target.entry = js.map (·.item.target.entry) := by
  induction js with
  | nil => rfl
  | cons j js ih =>
    rw [List.flatMap_cons, j.targets_text_append (endsList_joined js), ih]
    rfl

/-- A list, or what ends it, goes on no word. -/
theorem apart_listed (ls : List ListedTable) (u : Text) {r : Text} (hr : Target.EndsList r) :
    Apart u (ls.flatMap (·.text) ++ r) := by
  cases ls with
  | nil => exact hr.apart u
  | cons l ls =>
    rw [List.flatMap_cons, List.append_assoc]
    exact Or.inr (l.head?_any (fun _ => isWordChar_eq_false_of_isSpace) (by decide) _)

theorem namesOr_listed (ls : List ListedTable) : NamesOr ["AS".toList] (ls.flatMap (·.text)) := by
  induction ls with
  | nil => exact namesOr_nil _
  | cons l ls ih =>
    have happart := apart_listed ls l.text .nil
    rw [List.append_nil] at happart
    exact l.namesOr_text.append happart ih

theorem length_le_length_listed (ls : List ListedTable) :
    ls.length ≤ (ls.flatMap (·.text)).length := by
  induction ls with
  | nil => exact Nat.le_refl 0
  | cons l ls ih =>
    have hl : 0 < l.text.length := by
      rw [ListedTable.text, List.length_append, List.length_cons]
      omega
    rw [List.flatMap_cons, List.length_append, List.length_cons]
    omega

/-- **The scan finds what was written**: behind a text without `FROM` and `JOIN`, the
targets of a clause are its items, in order. -/
theorem targets_text (q : TableClause) {u : Text} (hu : NamesOr ks u)
    (hks : ∀ w ∈ ks, isKeyword "FROM".toList w = false ∧ isKeyword "JOIN".toList w = false) :
    (targets (u ++ q.text)).map Target.entry = q.items.map (·.target.entry) := by
  have hjoined := targets_joined q.joined
  have hends := endsList_joined q.joined
  rw [text, items]
  generalize q.joined.flatMap (·.text) = r at hjoined hends ⊢
  have hfront : targets (u ++ (q.before.1 ++ ("FROM".toList ++ (q.after.1 ++
      (q.first.text ++ (q.listed.flatMap (·.text) ++ r)))))) =
      targets ("FROM".toList ++ (q.after.1 ++ (q.first.text ++ (q.listed.flatMap (·.text) ++ r)))) := by
    rw [targets_append_of_namesOr (q.before.apart _ _) hu hks, targets_gap_append]
  have hitems : targets (q.after.1 ++ (q.first.text ++ (q.listed.flatMap (·.text) ++ r))) =
      targets r := by
    rw [targets_gap_append, targets_names_append (apart_listed q.listed _ hends) q.first.namesOr_text,
      targets_names_append (hends.apart _) (namesOr_listed q.listed)]
  have hfuel : q.listed.length < (q.first.text ++ (q.listed.flatMap (·.text) ++ r)).length + 1 := by
    have := length_le_length_listed q.listed
    simp only [List.length_append]
    omega
  rw [hfront, targets_word_append (by decide) (q.after.apart _ _),
    targetsAt_from _ (q.first.head?_isSpace _), hitems, List.map_append, hjoined,
    Target.readList_text_append q.listed q.first hends hfuel]
  simp

/-- The words of a clause are its names and some keywords. -/
def keywords : List Text :=
  ["AS".toList, "FROM".toList, "JOIN".toList, "ON".toList] ++ JoinKind.keywords

theorem namesOr_join (j : JoinedTable) : NamesOr keywords j.text := by
  have hkind : NamesOr keywords j.kindText := j.namesOr_kindText.mono (by decide)
  have hitem : NamesOr keywords j.item.text := j.item.namesOr_text.mono (by decide)
  have hon : NamesOr keywords j.onText := j.namesOr_onText.mono (by decide)
  have happart : Apart j.item.text j.onText := by
    simpa only [List.append_nil] using (j.endsList_onText_append .nil).apart j.item.text
  have hjoin := (hitem.append happart hon).word_append (k := "JOIN".toList) (by decide) (by decide) j.after
  exact (hkind.append (j.apart_kindText _) hjoin).blank_append j.before.2.2

theorem namesOr_joined (js : List JoinedTable) : NamesOr keywords (js.flatMap (·.text)) := by
  induction js with
  | nil => exact namesOr_nil _
  | cons j js ih => exact (namesOr_join j).append ((endsList_joined js).apart _) ih

theorem namesOr_text (q : TableClause) : NamesOr keywords q.text := by
  have hfirst : NamesOr keywords q.first.text := q.first.namesOr_text.mono (by decide)
  have hlisted : NamesOr keywords (q.listed.flatMap (·.text)) :=
    (namesOr_listed q.listed).mono (by decide)
  have hends := endsList_joined q.joined
  have hitems : NamesOr keywords
      (q.first.text ++ (q.listed.flatMap (·.text) ++ q.joined.flatMap (·.text))) :=
    hfirst.append (apart_listed q.listed _ hends)
      (hlisted.append (hends.apart _) (namesOr_joined q.joined))
  exact (hitems.word_append (by decide) (by decide) q.after).blank_append q.before.2.2

end TableClause

end SqlAssist
