import SqlAssist.Document.Scan
import SqlAssist.Proofs.Document.Lint
import SqlAssist.Proofs.Text.WordCapitals

/-!
# The places of tokens and warnings

The scans of a document look at its lines as they are seen outside comments and literals. These are
as many lines, of the same lengths, with spaces in some places (`Document.Lexer.forall₂_maskedLines`).
So what is found in them stands in the lines of the document: a token stands where a name of the
catalog is written, and a warning tells where its keyword is. **`Document.scans_fit_lines`** says so,
that tokens come in the order of their places, and that each whole name of the catalog has one.

It does not matter here what is taken for a comment. Whatever lexer is used, its lexemes only have to
make up the text (`Document.Lexer`).

Names are found from left to right, and where a run of name characters has ended they are found as if
the line started there (`SemanticToken.namesFrom_append`). A name need not be a whole run: in `1a` the
name `a` is found, as no name starts with a digit.
-/

namespace SqlAssist

open Text

/-! ### Masked lines -/

namespace Document

/-- A way to cut texts into lexemes. -/
structure Lexer where
  /-- The lexemes of a text, each with its kind. -/
  lexemes : Text → List (Lexicon.Kind × Text)
  /-- They make up the text. -/
  join_lexemes : ∀ t, (lexemes t).flatMap Prod.snd = t

namespace Lexer

variable {x : Lexer} {t : Text} {lines : List Text}

/-- A lexeme as its kind lets it be seen. -/
def seen (p : Lexicon.Kind × Text) : Text :=
  if p.1 = .code then p.2 else blank p.2

/-- The text with its comments blanked. -/
def mask (x : Lexer) (t : Text) : Text :=
  if Comment.hasMarker t then (x.lexemes t).flatMap seen else t

/-- The lines with comments and the contents of literals blanked. -/
def maskedLines (x : Lexer) (lines : List Text) : List Text :=
  (keepBreaks (join ['\n'] lines) (Literal.blank (x.mask (join ['\n'] lines)))).split '\n'

/-- The characters of a text as lexemes of their own. -/
def singles (kinds : List Lexicon.Kind) (t : Text) : List (Lexicon.Kind × Text) :=
  List.zipWith (fun kind c => (kind, [c])) kinds t

theorem flatMap_singles {kinds : List Lexicon.Kind} (h : kinds.length = t.length) :
    (singles kinds t).flatMap Prod.snd = t := by
  induction t generalizing kinds with
  | nil => rw [singles, List.zipWith_nil_right, List.flatMap_nil]
  | cons c t ih =>
    obtain ⟨kind, kinds, rfl⟩ := List.exists_cons_of_length_eq_add_one h
    exact congrArg (c :: ·) (ih (Nat.succ.inj h))

theorem flatMap_seen_singles (kinds : List Lexicon.Kind) (t : Text) :
    (singles kinds t).flatMap seen = List.zipWith Comment.maskChar kinds t := by
  induction t generalizing kinds with
  | nil => rw [singles, List.zipWith_nil_right, List.zipWith_nil_right, List.flatMap_nil]
  | cons c t ih =>
    cases kinds with
    | nil => rfl
    | cons kind kinds =>
      have hseen : seen (kind, [c]) = [Comment.maskChar kind c] := by
        rw [seen, Comment.maskChar]
        split_ifs <;> rfl
      exact congrArg₂ (· ++ ·) hseen (ih kinds)

/-- The lexer of the lexical rules of SQL. -/
def ofLexicon : Lexer where
  lexemes t := singles (Lexicon.kinds t) t
  join_lexemes _ := flatMap_singles (Lexicon.length_kindsFrom ..)

theorem mask_ofLexicon (t : Text) : ofLexicon.mask t = Comment.mask t := by
  rw [mask, Comment.mask]
  exact congrArg (if Comment.hasMarker t then · else t) (flatMap_seen_singles (Lexicon.kinds t) t)

theorem maskedLines_ofLexicon (lines : List Text) :
    ofLexicon.maskedLines lines = Document.maskedLines lines := by
  rw [maskedLines, mask_ofLexicon, Document.maskedLines]

theorem isShown_seen (p : Lexicon.Kind × Text) : IsShown (seen p) p.2 := by
  rw [seen]
  split_ifs
  · exact .refl p.2
  · refine List.forall₂_map_left_iff.mpr (List.forall₂_same.mpr fun c _ => ?_)
    rw [blankChar]
    split_ifs
    · exact Or.inl rfl
    · exact Or.inr rfl

theorem isShown_mask (x : Lexer) (t : Text) : IsShown (x.mask t) t := by
  have hlexemes : ∀ ps : List (Lexicon.Kind × Text),
      IsShown (ps.flatMap seen) (ps.flatMap Prod.snd) := by
    intro ps
    induction ps with
    | nil => exact .nil
    | cons p ps ih => exact List.rel_append (isShown_seen p) ih
  rw [mask]
  split_ifs
  · have h := hlexemes (x.lexemes t)
    rwa [x.join_lexemes] at h
  · exact .refl t

/-- The masked lines are as many as the lines, of the same lengths, and only differ by spaces. -/
theorem forall₂_maskedLines (x : Lexer) (hlines : lines ≠ []) (hfeed : ∀ l ∈ lines, '\n' ∉ l) :
    List.Forall₂ IsShown (x.maskedLines lines) lines := by
  have hblank : IsShown (Literal.blank (x.mask (join ['\n'] lines))) (join ['\n'] lines) :=
    (isShown_blank _).trans (x.isShown_mask _)
  have h := (sameFeeds_keepBreaks hblank).forall₂_split (isShown_keepBreaks hblank)
  rwa [split_join hlines hfeed] at h

end Lexer

variable {α : Type} {f : Nat → Text → List α} {masked : List Text} {a : α} {n : Nat} {m : Text}

/-- What `f` finds in masked lines, given each of them and its number counted from zero. -/
def findIn (f : Nat → Text → List α) (masked : List Text) : List α :=
  masked.zipIdx.flatMap fun p => f p.2 p.1

theorem mem_findIn_iff : a ∈ findIn f masked ↔ ∃ n m, masked[n]? = some m ∧ a ∈ f n m := by
  rw [findIn, List.mem_flatMap]
  constructor
  · rintro ⟨⟨m, n⟩, hm, ha⟩
    exact ⟨n, m, List.mem_zipIdx_iff_getElem?.mp hm, ha⟩
  · rintro ⟨n, m, hm, ha⟩
    exact ⟨(m, n), List.mem_zipIdx_iff_getElem?.mpr hm, ha⟩

/-- What is ordered in each line and from line to line is ordered. -/
theorem pairwise_findIn {R : α → α → Prop} (hline : ∀ n m, (f n m).Pairwise R)
    (hlines : ∀ n m n' m', n < n' → ∀ a ∈ f n m, ∀ b ∈ f n' m', R a b) (masked : List Text) :
    (findIn f masked).Pairwise R := by
  have hnumbers : masked.zipIdx.Pairwise fun p q => p.2 < q.2 := by
    rw [← List.pairwise_map (f := Prod.snd) (R := (· < ·)), List.zipIdx_map_snd]
    exact List.pairwise_lt_range'
  rw [findIn, List.pairwise_flatMap]
  exact ⟨fun p _ => hline p.2 p.1, hnumbers.imp fun {p q} hlt => hlines p.2 p.1 q.2 q.1 hlt⟩

/-- A masked line shows the line of the document with its number. -/
theorem exists_of_getElem?_masked {lines : List Text} (h : List.Forall₂ IsShown masked lines)
    (hm : masked[n]? = some m) : ∃ l, lines[n]? = some l ∧ IsShown m l := by
  obtain ⟨hn, rfl⟩ := List.getElem?_eq_some_iff.mp hm
  have hn' : n < lines.length := h.length_eq ▸ hn
  exact ⟨lines[n], List.getElem?_eq_getElem hn', h.get hn hn'⟩

end Document

/-! ### Names in a line -/

namespace SemanticToken

variable {b : Bool} {offset start : Nat} {c : Char} {t u v w : Text} {p : Nat × Text}

theorem isNameChar_of_startsName (h : startsName c = true) : isNameChar c = true :=
  Bool.or_eq_true_iff.mpr (Or.inl (Bool.and_eq_true_iff.mp h).1)

theorem exists_of_mem_namesFrom (h : (start, w) ∈ namesFrom b offset t) :
    ∃ u v, t = u ++ w ++ v ∧ start = offset + u.length ∧ w ≠ [] ∧ ∀ c ∈ w, isNameChar c = true := by
  induction t generalizing b offset with
  | nil => exact absurd h List.not_mem_nil
  | cons c t ih =>
    have hnext : ∀ b', (start, w) ∈ namesFrom b' (offset + 1) t →
        ∃ u v, c :: t = u ++ w ++ v ∧ start = offset + u.length ∧ w ≠ [] ∧
          ∀ c ∈ w, isNameChar c = true := by
      intro b' hmem
      obtain ⟨u, v, rfl, hstart, hw⟩ := ih hmem
      refine ⟨c :: u, v, rfl, ?_, hw⟩
      rw [hstart, List.length_cons, Nat.add_assoc, Nat.add_comm 1]
    rw [namesFrom] at h
    split_ifs at h with _ hc
    · exact hnext true h
    · rcases List.mem_cons.mp h with he | h
      · obtain ⟨rfl, rfl⟩ := Prod.mk.inj he
        refine ⟨[], t.dropWhile isNameChar, ?_, rfl, List.cons_ne_nil c _, ?_⟩
        · rw [List.nil_append, List.cons_append, List.takeWhile_append_dropWhile]
        · exact List.forall_mem_cons.mpr
            ⟨isNameChar_of_startsName hc, fun d hd => List.mem_takeWhile_imp hd⟩
      · exact hnext true h
    · exact hnext false h

/-- Within a name no other name starts. -/
theorem le_of_mem_namesFrom_true (h : p ∈ namesFrom true offset t) :
    offset + (t.takeWhile isNameChar).length ≤ p.1 := by
  induction t generalizing offset with
  | nil => exact absurd h List.not_mem_nil
  | cons c t ih =>
    by_cases hc : isNameChar c = true
    · rw [namesFrom, if_pos (by simp [hc])] at h
      have := ih h
      rw [List.takeWhile_cons_of_pos hc, List.length_cons]
      omega
    · obtain ⟨u, -, -, hstart, -⟩ := exists_of_mem_namesFrom h
      rw [List.takeWhile_cons_of_neg hc, List.length_nil, hstart]
      omega

theorem pairwise_namesFrom (b : Bool) (offset : Nat) (t : Text) :
    (namesFrom b offset t).Pairwise fun p q => p.1 + p.2.length ≤ q.1 := by
  induction t generalizing b offset with
  | nil => exact .nil
  | cons c t ih =>
    rw [namesFrom]
    split_ifs
    · exact ih true _
    · refine List.pairwise_cons.mpr ⟨fun q hq => ?_, ih true _⟩
      have := le_of_mem_namesFrom_true hq
      rw [List.length_cons]
      omega
    · exact ih false _

/-- Behind a character that is in no name the names are found as if the text started there. -/
theorem namesFrom_append (hu : u ≠ []) (hlast : u.getLast?.any isNameChar = false) (b : Bool)
    (offset : Nat) (t : Text) :
    namesFrom b offset (u ++ t) = namesFrom b offset u ++ namesFrom false (offset + u.length) t := by
  induction u generalizing b offset with
  | nil => exact absurd rfl hu
  | cons c u ih =>
    cases u with
    | nil =>
      have hc : isNameChar c = false := hlast
      have hstart : startsName c = false :=
        Bool.eq_false_iff.mpr fun h => Bool.eq_false_iff.mp hc (isNameChar_of_startsName h)
      simp [namesFrom, hc, hstart]
    | cons d u =>
      -- The three ways to go on behind the first character agree, since its name ends within `u`.
      have hrest := ih (List.cons_ne_nil d u) hlast
      have hlength : offset + 1 + (d :: u).length = offset + (c :: d :: u).length := by
        rw [List.length_cons, List.length_cons, List.length_cons]
        omega
      have htake := takeWhile_append_of_getLast? (List.cons_ne_nil d u) hlast t
      rw [List.cons_append, namesFrom, namesFrom, hrest, hrest, htake, hlength]
      split_ifs
      · rfl
      · rfl
      · rfl

/-- A whole run of name characters is found if a name can start with its first one. -/
theorem mem_namesFrom_of_isRun (h : IsRun isNameChar t start w) (hw : w.head?.any startsName = true) :
    (start, w) ∈ namesFrom false 0 t := by
  obtain ⟨⟨u, v, rfl, rfl, hu, hv⟩, hall⟩ := h
  -- The run starts where the text does or behind a character that is in no name.
  have hfirst : (u.length, w) ∈ namesFrom false u.length (w ++ v) := by
    cases w with
    | nil => cases hw
    | cons c w =>
      have hc : startsName c = true := hw
      rw [List.cons_append, namesFrom, if_neg (by simp), if_pos hc,
        takeWhile_append_stop (fun d hd => hall d (List.mem_cons_of_mem c hd)) hv]
      exact List.mem_cons_self
  rw [List.append_assoc]
  cases hnil : u with
  | nil => rwa [hnil] at hfirst
  | cons d r =>
    rw [← hnil, namesFrom_append (by rw [hnil]; exact List.cons_ne_nil d r) hu, Nat.zero_add]
    exact List.mem_append_right _ hfirst

/-! ### Names of the catalog -/

variable {i : CatalogIndex} {k : TokenType}

/-- The names of the catalog that a type of tokens stands for. -/
def namesOf (i : CatalogIndex) : TokenType → List Text
  | .schema => i.schemas.map (·.name)
  | .table => (i.schemas.flatMap (·.tables)).map (·.name)
  | .column => (Schema.allColumns i.schemas).map (·.2.2)

/-- The word is a name of the type, whatever its case. -/
def Names (i : CatalogIndex) (w : Text) (k : TokenType) : Prop :=
  ∃ name ∈ namesOf i k, name.upper = w.upper

instance (i : CatalogIndex) (w : Text) (k : TokenType) : Decidable (Names i w k) :=
  inferInstanceAs (Decidable (∃ name ∈ namesOf i k, name.upper = w.upper))

/-- The type is the first one that the word is a name of. -/
def NamesFirst (i : CatalogIndex) (w : Text) (k : TokenType) : Prop :=
  Names i w k ∧ ∀ j, j.code < k.code → ¬ Names i w j

theorem NamesFirst.unique {j : TokenType} (h : NamesFirst i w j) (h' : NamesFirst i w k) :
    j = k := by
  have hle : ¬ j.code < k.code := fun hlt => h'.2 j hlt h.1
  have hge : ¬ k.code < j.code := fun hlt => h.2 k hlt h'.1
  revert hle hge
  cases j <;> cases k <;> decide

theorem lookup_map_upper (l : List Text) (k : TokenType) (w : Text) :
    (l.map fun name => (name.upper, k)).lookup w.upper =
      if ∃ name ∈ l, name.upper = w.upper then some k else none := by
  induction l with
  | nil => simp
  | cons name l ih =>
    rw [List.map_cons, List.lookup_cons, ih]
    by_cases hname : name.upper = w.upper
    · simp [hname]
    · have hbeq : (w.upper == name.upper) = false := beq_eq_false_iff_ne.mpr (Ne.symm hname)
      simp [hname, hbeq]

theorem lookup_namesOf (i : CatalogIndex) (k : TokenType) (w : Text) :
    ((namesOf i k).map fun name => (name.upper, k)).lookup w.upper =
      if Names i w k then some k else none :=
  lookup_map_upper (namesOf i k) k w

theorem typeOf?_eq (i : CatalogIndex) (w : Text) :
    typeOf? i w = if Names i w .schema then some .schema else if Names i w .table then some .table
      else if Names i w .column then some .column else none := by
  have hnames : names i = ((namesOf i .schema).map fun name => (name.upper, TokenType.schema)) ++
      ((namesOf i .table).map fun name => (name.upper, TokenType.table)) ++
      (namesOf i .column).map fun name => (name.upper, TokenType.column) := by
    simp only [names, namesOf, List.map_map, List.map_flatMap]
    rfl
  rw [typeOf?, hnames, List.lookup_append, List.lookup_append, lookup_namesOf, lookup_namesOf,
    lookup_namesOf]
  split_ifs <;> rfl

theorem typeOf?_eq_some_iff : typeOf? i w = some k ↔ NamesFirst i w k := by
  have hfirst : ∀ j, NamesFirst i w j → (some j = some k ↔ NamesFirst i w k) := fun j hj =>
    ⟨fun h => Option.some.inj h ▸ hj, fun h => congrArg some (hj.unique h)⟩
  rw [typeOf?_eq]
  split_ifs with hschema htable hcolumn
  · exact hfirst .schema ⟨hschema, fun j hj => absurd hj (Nat.not_lt_zero _)⟩
  · refine hfirst .table ⟨htable, fun j hj => ?_⟩
    cases j with
    | schema => exact hschema
    | table => exact absurd hj (by decide)
    | column => exact absurd hj (by decide)
  · refine hfirst .column ⟨hcolumn, fun j hj => ?_⟩
    cases j with
    | schema => exact hschema
    | table => exact htable
    | column => exact absurd hj (by decide)
  · refine iff_of_false nofun fun h => ?_
    cases k with
    | schema => exact hschema h.1
    | table => exact htable h.1
    | column => exact hcolumn h.1

theorem exists_typeOf? (h : Names i w k) : ∃ j, typeOf? i w = some j := by
  rw [typeOf?_eq]
  split_ifs with hschema htable hcolumn
  · exact ⟨_, rfl⟩
  · exact ⟨_, rfl⟩
  · exact ⟨_, rfl⟩
  · cases k with
    | schema => exact absurd h hschema
    | table => exact absurd h htable
    | column => exact absurd h hcolumn

/-! ### Tokens of a document -/

/-- A token stands in front of another one and ends before it. -/
def Precedes (a b : SemanticToken) : Prop :=
  a.line < b.line ∨ a.line = b.line ∧ a.start < b.start ∧ a.start + a.length ≤ b.start

/-- Two tokens share a character. -/
def Overlaps (a b : SemanticToken) : Prop :=
  a.line = b.line ∧ a.start < b.start + b.length ∧ b.start < a.start + a.length

instance (a : SemanticToken) : DecidablePred (Overlaps a) := fun b =>
  inferInstanceAs (Decidable (a.line = b.line ∧ a.start < b.start + b.length ∧
    b.start < a.start + a.length))

/-- A token stands in a line of the document, on a word that is a name of its type and of none that
counts before it. -/
def IsPlaced (i : CatalogIndex) (lines : List Text) (t : SemanticToken) : Prop :=
  ∃ (n start length : Nat) (l : Text), lines[n]? = some l ∧
    (t.line = n ∧ t.start = start ∧ t.length = length) ∧ 0 < length ∧ start + length ≤ l.length ∧
    NamesFirst i (l.slice start (start + length)) t.type

variable {n : Nat} {x y : SemanticToken} {lines masked : List Text}

theorem mem_inLine_iff :
    x ∈ inLine i n t ↔ ∃ start w k, (start, w) ∈ namesFrom false 0 t ∧ NamesFirst i w k ∧
      x = ⟨n, start, w.length, k⟩ := by
  rw [inLine, List.mem_filterMap]
  constructor
  · rintro ⟨⟨start, w⟩, hmem, hx⟩
    obtain ⟨k, hk, rfl⟩ := Option.map_eq_some_iff.mp hx
    exact ⟨start, w, k, hmem, typeOf?_eq_some_iff.mp hk, rfl⟩
  · rintro ⟨start, w, k, hmem, hk, rfl⟩
    exact ⟨(start, w), hmem, by rw [typeOf?_eq_some_iff.mpr hk]; rfl⟩

theorem line_of_mem_inLine (h : x ∈ inLine i n t) : x.line = n := by
  obtain ⟨_, _, _, -, -, rfl⟩ := mem_inLine_iff.mp h
  rfl

theorem pairwise_inLine (i : CatalogIndex) (n : Nat) (t : Text) :
    (inLine i n t).Pairwise Precedes := by
  have hnames : (namesFrom false 0 t).Pairwise fun p q =>
      p.1 < q.1 ∧ p.1 + p.2.length ≤ q.1 := by
    refine (pairwise_namesFrom false 0 t).imp_of_mem fun {p q} hp _ hle => ⟨?_, hle⟩
    obtain ⟨-, -, -, -, hne, -⟩ := exists_of_mem_namesFrom hp
    have := List.length_pos_of_ne_nil hne
    omega
  refine hnames.filterMap _ fun p q ⟨hlt, hle⟩ a ha b hb => ?_
  obtain ⟨_, -, rfl⟩ := Option.map_eq_some_iff.mp ha
  obtain ⟨_, -, rfl⟩ := Option.map_eq_some_iff.mp hb
  exact Or.inr ⟨rfl, Int.ofNat_lt.mpr hlt, Int.ofNat_le.mpr hle⟩

theorem pairwise_findIn_inLine (i : CatalogIndex) (masked : List Text) :
    (Document.findIn (inLine i) masked).Pairwise Precedes := by
  refine Document.pairwise_findIn (pairwise_inLine i) (fun n m n' m' hlt a ha b hb => ?_) masked
  refine Or.inl ?_
  rw [line_of_mem_inLine ha, line_of_mem_inLine hb]
  exact Int.ofNat_lt.mpr hlt

theorem isPlaced_of_mem (h : List.Forall₂ IsShown masked lines)
    (hx : x ∈ Document.findIn (inLine i) masked) : IsPlaced i lines x := by
  obtain ⟨n, m, hm, hx⟩ := Document.mem_findIn_iff.mp hx
  obtain ⟨start, w, k, hmem, hk, rfl⟩ := mem_inLine_iff.mp hx
  obtain ⟨l, hl, hshown⟩ := Document.exists_of_getElem?_masked h hm
  obtain ⟨u, v, rfl, hstart, hne, hall⟩ := exists_of_mem_namesFrom hmem
  obtain rfl : start = u.length := by rw [hstart, Nat.zero_add]
  refine ⟨n, u.length, w.length, l, hl, ⟨rfl, rfl, rfl⟩, List.length_pos_of_ne_nil hne,
    hshown.add_length_le, ?_⟩
  rwa [hshown.slice_eq hall (by decide)]

theorem Precedes.not_overlaps (h : Precedes x y) : ¬ Overlaps x y := by
  rintro ⟨hline, -, hend⟩
  rcases h with h | ⟨-, -, h⟩ <;> omega

theorem Precedes.not_overlaps_symm (h : Precedes x y) : ¬ Overlaps y x := by
  rintro ⟨hline, hend, -⟩
  rcases h with h | ⟨-, -, h⟩ <;> omega

/-- Of tokens in order only the token itself overlaps with it. -/
theorem filter_overlaps {ts : List SemanticToken} (h : ts.Pairwise Precedes) (hx : x ∈ ts)
    (hpos : 0 < x.length) : ts.filter (fun y => decide (Overlaps x y)) = [x] := by
  obtain ⟨before, after, rfl⟩ := List.append_of_mem hx
  obtain ⟨-, hafter, hbefore⟩ := List.pairwise_append.mp h
  have hself : Overlaps x x := ⟨rfl, by omega, by omega⟩
  have hnone : before.filter (fun y => decide (Overlaps x y)) = [] :=
    List.filter_eq_nil_iff.mpr fun y hy => by
      simpa using (hbefore y hy x List.mem_cons_self).not_overlaps_symm
  have hnone' : after.filter (fun y => decide (Overlaps x y)) = [] :=
    List.filter_eq_nil_iff.mpr fun y hy => by
      simpa using ((List.pairwise_cons.mp hafter).1 y hy).not_overlaps
  rw [List.filter_append, List.filter_cons_of_pos (by simpa using hself), hnone, hnone',
    List.nil_append]

/-- A whole name of the catalog gets one token. -/
theorem filter_overlaps_of_isRun {m : Text} (hm : masked[n]? = some m)
    (hrun : IsRun isNameChar m start w) (hw : w.head?.any startsName = true) (hk : Names i w k) :
    ∃ j, NamesFirst i w j ∧
      (Document.findIn (inLine i) masked).filter
          (fun y => decide (Overlaps ⟨n, start, w.length, j⟩ y)) = [⟨n, start, w.length, j⟩] := by
  obtain ⟨j, hj⟩ := exists_typeOf? hk
  have hfirst := typeOf?_eq_some_iff.mp hj
  refine ⟨j, hfirst, filter_overlaps (pairwise_findIn_inLine i masked) ?_ ?_⟩
  · exact Document.mem_findIn_iff.mpr
      ⟨n, m, hm, mem_inLine_iff.mpr ⟨start, w, j, mem_namesFrom_of_isRun hrun hw, hfirst, rfl⟩⟩
  · cases w with
    | nil => cases hw
    | cons c w => exact Int.natCast_pos.mpr (Nat.succ_pos _)

end SemanticToken

/-! ### Warnings of a document -/

namespace Warning

variable {w : Warning} {lines masked : List Text}

/-- A warning tells the place of its keyword in a line of the document. -/
def IsPlaced (lines : List Text) (w : Warning) : Prop :=
  ∃ l, 0 < w.line ∧ lines[w.line - 1]? = some l ∧
    (0 < w.column ∧ w.column ≤ w.endColumn ∧ w.endColumn ≤ l.length + 1) ∧
    w.keyword ∈ keywords ∧ (l.slice (w.column - 1) (w.endColumn - 1)).upper = w.keyword

/-- A word that is not allowed is a keyword in capitals. -/
theorem upper_eq_of_isKeyword {k r : Text} (hk : k ∈ keywords) (hr : isKeyword k r = true) :
    r.upper = k := by
  have hplain : ∀ k ∈ keywords, IsPlainKeyword k ∧ 'I' ∉ k := by decide
  obtain ⟨hk, hdotted⟩ := hplain k hk
  refine (isKeyword_iff_upper_eq hk fun hmem => hdotted ?_).mp hr
  rw [← beq_iff_eq.mp hr]
  exact List.mem_map.mpr ⟨'İ', hmem, by decide⟩

theorem exists_of_mem_inLine {n : Nat} {m : Text} (h : w ∈ inLine n m) :
    ∃ u r v k, m = u ++ r ++ v ∧ (∀ c ∈ r, isWordChar c = true) ∧ k ∈ keywords ∧
      isKeyword k r = true ∧ w = ⟨n + 1, u.length + 1, u.length + 1 + r.length, k⟩ := by
  obtain ⟨x, hx, hfind⟩ := List.mem_filterMap.mp h
  obtain ⟨k, hk, rfl⟩ := Option.map_eq_some_iff.mp hfind
  obtain ⟨hmem, hword⟩ := find?_isKeyword_iff.mp hk
  obtain ⟨⟨⟨u, v, hsplit, hoffset, -⟩, hall⟩, -⟩ := isRun_of_mem_wordStarts hx
  have hlength : k.length = (firstWord x).length := by
    rw [← beq_iff_eq.mp hword, List.length_map]
  refine ⟨u, firstWord x, v, k, hsplit, hall, hmem, hword, ?_⟩
  rw [hoffset, ← hlength]

theorem isPlaced_of_mem (h : List.Forall₂ IsShown masked lines)
    (hw : w ∈ Document.findIn inLine masked) : IsPlaced lines w := by
  obtain ⟨n, m, hm, hw⟩ := Document.mem_findIn_iff.mp hw
  obtain ⟨l, hl, hshown⟩ := Document.exists_of_getElem?_masked h hm
  obtain ⟨u, r, v, k, rfl, hall, hmem, hword, rfl⟩ := exists_of_mem_inLine hw
  have hend : u.length + 1 + r.length = u.length + r.length + 1 := Nat.add_right_comm ..
  refine ⟨l, Nat.succ_pos n, hl, ⟨Nat.succ_pos _, Nat.le_add_right _ _, ?_⟩, hmem, ?_⟩
  · rw [hend]
    exact Nat.succ_le_succ hshown.add_length_le
  · rw [hend, Nat.add_sub_cancel, Nat.add_sub_cancel, hshown.slice_eq hall (by decide)]
    exact upper_eq_of_isKeyword hmem hword

end Warning

/-! ### Scans of a document -/

namespace Document

open SemanticToken

/-- Tokens and warnings that were found in masked lines fit the lines of the document. -/
structure FitLines (i : CatalogIndex) (lines masked : List Text) (tokens : List SemanticToken)
    (warnings : List Warning) : Prop where
  /-- There are as many masked lines, of the same lengths, that only differ by spaces. -/
  shown : List.Forall₂ IsShown masked lines
  /-- Each token stands on a name of the catalog in its line. -/
  placed : ∀ x ∈ tokens, SemanticToken.IsPlaced i lines x
  /-- Tokens come in the order of their places and do not overlap. -/
  ordered : tokens.Pairwise Precedes
  /-- Where a whole run of name characters is a name of the catalog, there is one token, and no
  other one overlaps with it. -/
  complete : ∀ (n start : Nat) (m w : Text) (k : TokenType), masked[n]? = some m →
    IsRun isNameChar m start w → w.head?.any startsName = true → Names i w k →
    ∃ j, NamesFirst i w j ∧ tokens.filter
      (fun y => decide (Overlaps ⟨n, start, w.length, j⟩ y)) = [⟨n, start, w.length, j⟩]
  /-- Each warning tells the place of its keyword. -/
  warned : ∀ w ∈ warnings, Warning.IsPlaced lines w

theorem fitLines_findIn (i : CatalogIndex) {lines masked : List Text}
    (h : List.Forall₂ IsShown masked lines) :
    FitLines i lines masked (findIn (SemanticToken.inLine i) masked)
      (findIn Warning.inLine masked) where
  shown := h
  placed := fun _ hx => SemanticToken.isPlaced_of_mem h hx
  ordered := pairwise_findIn_inLine i masked
  complete := fun _ _ _ _ _ hm hrun hw hk => filter_overlaps_of_isRun hm hrun hw hk
  warned := fun _ hw => Warning.isPlaced_of_mem h hw

/-- **The places that scans tell** are true ones, also with any other lexer whose lexemes make up the
text. -/
theorem scans_fit_lines (i : CatalogIndex) (lines : List Text) (hlines : lines ≠ [])
    (hfeed : ∀ l ∈ lines, '\n' ∉ l) :
    FitLines i lines (maskedLines lines) (SemanticToken.scan i lines) (Warning.scan lines) ∧
      ∀ x : Lexer, FitLines i lines (x.maskedLines lines)
        (findIn (SemanticToken.inLine i) (x.maskedLines lines))
        (findIn Warning.inLine (x.maskedLines lines)) := by
  have hfit : ∀ x : Lexer, FitLines i lines (x.maskedLines lines)
      (findIn (SemanticToken.inLine i) (x.maskedLines lines))
      (findIn Warning.inLine (x.maskedLines lines)) := fun x =>
    fitLines_findIn i (x.forall₂_maskedLines hlines hfeed)
  refine ⟨?_, hfit⟩
  have h := hfit .ofLexicon
  rwa [Lexer.maskedLines_ofLexicon] at h

/-- A literal that goes on in the second line. Outside it a name is that of a schema and of its table,
and that of a column with a dollar sign behind it. -/
theorem scans_fit_lines_across_literal :
    FitLines (.build [⟨"A".toList, [⟨"A".toList, ["A$".toList]⟩]⟩] [])
      ["SELECT 'a".toList, "a', a$ FROM a".toList, "DROP 1a -- a".toList]
      ["SELECT ' ".toList, " ', a$ FROM a".toList, "DROP 1a     ".toList]
      [⟨1, 4, 2, .column⟩, ⟨1, 12, 1, .schema⟩, ⟨2, 6, 1, .schema⟩]
      [⟨3, 1, 5, "DROP".toList⟩] := by
  have h := (scans_fit_lines (.build [⟨"A".toList, [⟨"A".toList, ["A$".toList]⟩]⟩] [])
    ["SELECT 'a".toList, "a', a$ FROM a".toList, "DROP 1a -- a".toList] (by decide) (by decide)).1
  have hmasked : maskedLines ["SELECT 'a".toList, "a', a$ FROM a".toList, "DROP 1a -- a".toList] =
      ["SELECT ' ".toList, " ', a$ FROM a".toList, "DROP 1a     ".toList] := by decide +kernel
  have htokens : SemanticToken.scan (.build [⟨"A".toList, [⟨"A".toList, ["A$".toList]⟩]⟩] [])
      ["SELECT 'a".toList, "a', a$ FROM a".toList, "DROP 1a -- a".toList] =
        [⟨1, 4, 2, .column⟩, ⟨1, 12, 1, .schema⟩, ⟨2, 6, 1, .schema⟩] := by decide +kernel
  have hwarnings : Warning.scan ["SELECT 'a".toList, "a', a$ FROM a".toList,
      "DROP 1a -- a".toList] = [⟨3, 1, 5, "DROP".toList⟩] := by decide +kernel
  rwa [hmasked, htokens, hwarnings] at h

end Document

end SqlAssist
