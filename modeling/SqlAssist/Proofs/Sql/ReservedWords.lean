import SqlAssist.Proofs.Document.WordRuns
import SqlAssist.Proofs.Sql.Bindings
import SqlAssist.Proofs.Sql.FromItem
import SqlAssist.Proofs.Sql.TargetNames
import SqlAssist.Sql.Paren
import SqlAssist.Sql.Statement

/-!
# Reserved words among the tables

A reserved word is no alias, so the clause that goes on behind a table is never taken
for one. It can be the name of a table all the same: names are read as they stand, and
where one is still missing the next word is taken for it
(`reserved_words_taken_for_tables`).

**`reserved_words_name_tables`** says that this is all: a key that is a reserved word
is the bare name of a table, and that name stands in the text in the place of a table,
right behind a keyword or a comma of a list (`StandsForTable`).
-/

namespace SqlAssist

/-! ### Places of names -/

namespace Text

/-- The text starts with the keywords, each with white space behind it, and goes on with the rest. -/
inductive StartsWith : List Text → Text → Text → Prop where
  /-- No keyword. -/
  | nil (r : Text) : StartsWith [] r r
  /-- A keyword in front. -/
  | cons {k w y r : Text} {ks : List Text} (g : Gap) (hk : isKeyword k w = true)
      (h : StartsWith ks y r) : StartsWith (k :: ks) (w ++ (g.1 ++ y)) r

theorem startsWith_of_afterKeywords? {ks : List Text} {t r : Text} (h : afterKeywords? ks t = some r) :
    StartsWith ks t r := by
  induction ks generalizing t with
  | nil => exact Option.some.inj h ▸ .nil t
  | cons k ks ih =>
    rw [afterKeywords?] at h
    split_ifs at h with hk
    obtain ⟨hword, hspace⟩ := Bool.and_eq_true_iff.mp hk
    have hgap : IsGap ((afterWord t).takeWhile isSpace) := by
      refine ⟨fun hnil => ?_, fun c hc => List.mem_takeWhile_imp hc⟩
      cases ht : afterWord t with
      | nil => simp [ht] at hspace
      | cons c r =>
        have hc : isSpace c = true := by simpa [ht] using hspace
        simp [ht, hc] at hnil
    have hsplit : firstWord t ++ ((afterWord t).takeWhile isSpace ++ trimStart (afterWord t)) = t := by
      rw [trimStart, List.takeWhile_append_dropWhile, firstWord, afterWord,
        List.takeWhile_append_dropWhile]
    have := StartsWith.cons ⟨_, hgap⟩ hword (ih h)
    rwa [hsplit] at this

end Text

/-- The text goes on with the rest behind the keywords, the first of which starts a word. -/
def GoesOnBehind (ks : List Text) (t r : Text) : Prop :=
  ∃ u x, t = u ++ x ∧ u.getLast?.any Text.isWordChar = false ∧ Text.StartsWith ks x r

/-- The name can be read in the text right behind the keywords. -/
def StandsBehind (ks : List Text) (t name : Text) : Prop :=
  ∃ r rest, GoesOnBehind ks t r ∧ Target.readName? r = some (name, rest)

/-- The name can be read in the text behind a comma. -/
def StandsBehindComma (t name : Text) : Prop :=
  ∃ u r rest, ∃ w : Blank, t = u ++ ',' :: (w.1 ++ r) ∧ Target.readName? r = some (name, rest)

/-- The keywords that the name of a table stands behind. -/
def tableKeywords : List (List Text) :=
  [["FROM".toList], ["JOIN".toList], ["UPDATE".toList], ["DELETE".toList, "FROM".toList]]

/-- The name stands in the text in the place of a table: behind keywords, or behind a comma further
on from a `FROM`. -/
def StandsForTable (t name : Text) : Prop :=
  (∃ ks ∈ tableKeywords, StandsBehind ks t name) ∨
    ∃ r, GoesOnBehind ["FROM".toList] t r ∧ StandsBehindComma r name

theorem StandsBehindComma.append_left {t name : Text} (h : StandsBehindComma t name) (v : Text) :
    StandsBehindComma (v ++ t) name := by
  obtain ⟨u, r, rest, w, rfl, hname⟩ := h
  exact ⟨v ++ u, r, rest, w, (List.append_assoc v u _).symm, hname⟩

namespace Target

variable {t rest name : Text} {g : Target}

theorem name_withAlias (name? : Option Text) (t : Text) : (withAlias name? t).1.name = name? := by
  rw [withAlias]
  split <;> rfl

/-- The name of a target stands at its start. -/
theorem exists_readName?_of_read? (h : read? t = some (g, rest)) (hname : g.name = some name) :
    ∃ r, readName? t = some (name, r) := by
  rw [read?] at h
  split at h
  · next e =>
    obtain ⟨⟨n, r⟩, hread, hg⟩ := Option.map_eq_some_iff.mp (e.trans h)
    change withAlias (some n) r = (g, rest) at hg
    have hn := name_withAlias (some n) r
    rw [hg, hname] at hn
    exact ⟨r, Option.some.inj hn ▸ hread⟩
  · obtain ⟨r, -, hg⟩ := Option.map_eq_some_iff.mp h
    have hn := name_withAlias none r
    rw [hg, hname] at hn
    cases hn

theorem exists_of_afterComma? {r : Text} (h : afterComma? t = some r) :
    ∃ u, ∃ w : Blank, t = u ++ ',' :: (w.1 ++ r) := by
  rw [afterComma?] at h
  split at h
  · next s hs =>
    obtain rfl := Option.some.inj h
    refine ⟨t.takeWhile Text.isSpace, ⟨s.takeWhile Text.isSpace, fun c hc => List.mem_takeWhile_imp hc⟩, ?_⟩
    have hsplit : t.takeWhile Text.isSpace ++ t.trimStart = t := List.takeWhile_append_dropWhile
    rw [Text.trimStart, List.takeWhile_append_dropWhile, ← hs, hsplit]
  · cases h

/-- The names of a list stand at its start and behind its commas. -/
theorem standsBehindComma_of_mem_readList {n : Nat} (h : g ∈ readList n t) (hname : g.name = some name) :
    (∃ r, readName? t = some (name, r)) ∨ StandsBehindComma t name := by
  induction n generalizing t with
  | zero => exact absurd h List.not_mem_nil
  | succ n ih =>
    rw [readList] at h
    split at h
    · exact absurd h List.not_mem_nil
    · next first rest e =>
      have hfirst : g = first → (∃ r, readName? t = some (name, r)) ∨ StandsBehindComma t name := by
        rintro rfl
        exact Or.inl (exists_readName?_of_read? e hname)
      split_ifs at h
      · exact hfirst (List.mem_singleton.mp h)
      · split at h
        · next r hr =>
          rcases List.mem_cons.mp h with h | h
          · exact hfirst h
          · obtain ⟨u, w, hrest⟩ := exists_of_afterComma? hr
            obtain ⟨v, rfl⟩ := (read?_isRead e).2
            refine Or.inr (StandsBehindComma.append_left ?_ v)
            rcases ih h with ⟨r', hr'⟩ | hcomma
            · exact ⟨u, r, r', w, hrest, hr'⟩
            · rw [hrest]
              have := hcomma.append_left (u ++ ',' :: w.1)
              simpa using this
        · exact hfirst (List.mem_singleton.mp h)

end Target

namespace Resolution

open Text

variable {t name : Text} {g : Target}

theorem goesOnBehind_of_mem_wordStarts {ks : List Text} {x r : Text} (hx : x ∈ t.wordStarts)
    (hr : afterKeywords? ks x = some r) : GoesOnBehind ks t r := by
  obtain ⟨u, ht, -, hu, -⟩ := exists_of_mem_wordStartsFrom hx
  exact ⟨u, x, ht, hu, startsWith_of_afterKeywords? hr⟩

theorem standsForTable_of_mem_targets (hg : g ∈ targets t) (hname : g.name = some name) :
    StandsForTable t name := by
  obtain ⟨x, hx, hg⟩ := List.mem_flatMap.mp hg
  rw [targetsAt] at hg
  split at hg
  · next _ _ hr =>
    have hfrom := goesOnBehind_of_mem_wordStarts hx hr
    rcases Target.standsBehindComma_of_mem_readList hg hname with ⟨rest, hread⟩ | hcomma
    · exact Or.inl ⟨_, by decide, _, rest, hfrom, hread⟩
    · exact Or.inr ⟨_, hfrom, hcomma⟩
  · next _ _ hr =>
    obtain ⟨⟨first, rest⟩, hfirst, rfl⟩ := List.mem_map.mp hg
    obtain ⟨s, hread⟩ := Target.exists_readName?_of_read? (Option.mem_toList.mp hfirst) hname
    exact Or.inl ⟨_, by decide, _, s, goesOnBehind_of_mem_wordStarts hx hr, hread⟩
  · exact absurd hg List.not_mem_nil

theorem standsBehind_of_updated? (hg : updated? t = some g) (hname : g.name = some name) :
    StandsBehind ["UPDATE".toList] t name := by
  obtain ⟨r, hr, hfirst⟩ := List.exists_of_findSome?_eq_some hg
  obtain ⟨x, hx, hr⟩ := List.mem_filterMap.mp hr
  obtain ⟨⟨first, rest⟩, hread, rfl⟩ := Option.map_eq_some_iff.mp hfirst
  have hread? : Target.read? r = some (first, rest) := by
    rw [Target.read?, hread]
  obtain ⟨s, hs⟩ := Target.exists_readName?_of_read? hread? hname
  exact ⟨r, s, goesOnBehind_of_mem_wordStarts hx hr, hs⟩

theorem standsBehind_of_firstName? {ks : List Text} (h : firstName? ks t = some name) :
    StandsBehind ks t name := by
  obtain ⟨r, hr, hname⟩ := List.exists_of_findSome?_eq_some h
  obtain ⟨x, hx, hr⟩ := List.mem_filterMap.mp hr
  obtain ⟨⟨first, rest⟩, hread, rfl⟩ := Option.map_eq_some_iff.mp hname
  exact ⟨r, rest, goesOnBehind_of_mem_wordStarts hx hr, hread⟩

/-- The names that stand for tables stand in their places. -/
theorem standsForTable_of_mem_tableNames (h : name ∈ tableNames t) : StandsForTable t name := by
  rcases mem_tableNames_iff.mp h with ⟨g, hg, hname⟩ | h
  · rcases List.mem_append.mp hg with hg | hg
    · exact standsForTable_of_mem_targets hg hname
    · exact Or.inl ⟨_, by decide, standsBehind_of_updated? (Option.mem_toList.mp hg) hname⟩
  · exact Or.inl ⟨_, by decide, standsBehind_of_firstName? h⟩

theorem not_reserved_of_properAlias {a : Text} (h : g.properAlias = some a) : a.lower ∉ reservedWords := by
  have hfree := Option.filter_eq_some_iff.mp h
  simpa using hfree.2

/-- What is bound to a reserved word is a table of that name. -/
theorem exists_of_reserved_mem_bindings {k : Text} {ref : TableRef} (hk : k.lower ∈ reservedWords)
    (h : (k, ref) ∈ bindings t) : ∃ name ∈ tableNames t, ref = .ofName name ∧ ref.table = k := by
  rcases mem_bindings_iff.mp h with ⟨name, hname, href, htable⟩ | ⟨g, -, -, halias⟩
  · exact ⟨name, hname, href.symm, htable⟩
  · exact absurd hk (not_reserved_of_properAlias halias)

/-- **Reserved words only name tables.** No reserved word is an alias. A reserved word, in
any case of letters, is a key exactly if it is the bare name of a table, and stands for a
table of that name then, never for the result of a subquery. The names of tables stand in
the text right behind `FROM`, `JOIN`, `UPDATE` or `DELETE FROM`, or behind a comma further
on from a `FROM`; the name of what is updated stands right behind `UPDATE`, and that of
what is inserted into right behind `INSERT INTO`. -/
theorem reserved_words_name_tables (t : Text) :
    (∀ k : Text, k.lower ∈ reservedWords →
      (k ∈ OrderedMap.keys (ofText t).tables ↔ ∃ name ∈ tableNames t, (TableRef.ofName name).table = k) ∧
        ∀ ref, (ofText t).tables.get? k = some ref →
          ref.derived = false ∧ ∃ name ∈ tableNames t, ref = .ofName name ∧ ref.table = k) ∧
      (∀ name ∈ tableNames t, StandsForTable t name) ∧
      (∀ ref, (ofText t).updateTarget = some ref →
        ∃ name, ref = .ofName name ∧ StandsBehind ["UPDATE".toList] t name) ∧
      ∀ ref, (ofText t).insertTarget = some ref →
        ∃ name, ref = .ofName name ∧ StandsBehind ["INSERT".toList, "INTO".toList] t name := by
  refine ⟨fun k hk => ⟨⟨fun h => ?_, ?_⟩, fun ref h => ?_⟩, fun name => standsForTable_of_mem_tableNames,
    fun ref h => ?_, fun ref h => ?_⟩
  · obtain ⟨ref, hmem⟩ := mem_keys_ofText_iff.mp h
    obtain ⟨name, hname, rfl, htable⟩ := exists_of_reserved_mem_bindings hk hmem
    exact ⟨name, hname, htable⟩
  · rintro ⟨name, hname, htable⟩
    exact mem_keys_ofText_iff.mpr ⟨_, mem_bindings_iff.mpr (Or.inl ⟨name, hname, rfl, htable⟩)⟩
  · obtain ⟨name, hname, rfl, htable⟩ := exists_of_reserved_mem_bindings hk (mem_bindings_of_get? h)
    exact ⟨TableRef.derived_ofName name, name, hname, rfl, htable⟩
  · obtain ⟨g, hg, href⟩ := Option.bind_eq_some_iff.mp h
    obtain ⟨name, hname, rfl⟩ := Option.map_eq_some_iff.mp href
    exact ⟨name, rfl, standsBehind_of_updated? hg hname⟩
  · obtain ⟨name, hname, rfl⟩ := Option.map_eq_some_iff.mp h
    exact ⟨name, rfl, standsBehind_of_firstName? hname⟩

theorem reserved_words_name_tables_before_alias :
    "WHERE".toList ∈ OrderedMap.keys (ofText "SELECT A FROM WHERE B".toList).tables ∧
      StandsForTable "SELECT A FROM WHERE B".toList "WHERE".toList := by
  obtain ⟨hkeys, hplaces, -⟩ := reserved_words_name_tables "SELECT A FROM WHERE B".toList
  have hname : "WHERE".toList ∈ tableNames "SELECT A FROM WHERE B".toList := by decide
  exact ⟨(hkeys "WHERE".toList (by decide)).1.mpr ⟨_, hname, by decide⟩, hplaces _ hname⟩

/-- The text is as a level's text is when its tables are read: in capitals, with its literals and its
groups blanked. -/
def IsLevelText (t : Text) : Prop :=
  t.upper = t ∧ Literal.blank t = t ∧ Paren.maskGroups t = t

instance (t : Text) : Decidable (IsLevelText t) :=
  inferInstanceAs (Decidable (_ ∧ _ ∧ _))

/-- Where the name of a table is still missing, the reserved word behind is taken for it. -/
theorem reserved_words_taken_for_tables :
    (IsLevelText "SELECT * FROM WHERE ".toList ∧ Text.lower "WHERE".toList ∈ reservedWords ∧
      OrderedMap.keys (ofText "SELECT * FROM WHERE ".toList).tables = ["WHERE".toList]) ∧
    (IsLevelText "WHEN MATCHED THEN UPDATE SET ".toList ∧ Text.lower "SET".toList ∈ reservedWords ∧
      (ofText "WHEN MATCHED THEN UPDATE SET ".toList).updateTarget = some { table := "SET".toList }) ∧
    (IsLevelText "INSERT INTO SELECT ".toList ∧ Text.lower "SELECT".toList ∈ reservedWords ∧
      (ofText "INSERT INTO SELECT ".toList).insertTarget = some { table := "SELECT".toList }) := by
  decide +kernel

end Resolution

end SqlAssist
