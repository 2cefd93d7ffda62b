import SqlAssist.CommandLine.Run
import SqlAssist.Proofs.Document.WordRuns
import SqlAssist.Proofs.Sql.FinalBreak
import SqlAssist.Proofs.Store.FoundFile
import SqlAssist.Proofs.Text.Lines
import Mathlib.Data.List.Sort

/-!
# What lint reports

A keyword that is not allowed is forbidden where it stands outside comments and literals
(`Warning.IsForbiddenAt`). A report about a text tells of each such place once, in text order, with
its line and column (`Warning.IsReport`).

The warnings about a text are found line by line. The lines end with more characters than a line
feed, and comments are looked for after they have been joined again with line feeds: so the warnings
are a report about the text with its line ends written alike (`Warning.isReport_warnings`). Where
only line feeds end lines, that is the text itself, and **`lint_reports`** says what is printed and
how the command ends. Any other character that ends a line makes it go wrong: a comment may end too
early, and lines are counted that the file does not have (`lint_form_feed`).
-/

namespace SqlAssist

open Text

/-! ### What is seen of a text -/

section Seen

variable {m t u : Text}

/-- What is seen of a text is a part of its characters, with spaces in place of the others. -/
def IsShown (m t : Text) : Prop :=
  List.Forall₂ (fun d c => d = c ∨ d = ' ') m t

theorem IsShown.refl (t : Text) : IsShown t t :=
  List.forall₂_same.mpr fun _ _ => Or.inl rfl

theorem IsShown.trans (h : IsShown m t) (h' : IsShown t u) : IsShown m u := by
  induction h generalizing u with
  | nil => exact h'
  | cons hd _ ih =>
    cases h' with
    | cons hc hrest =>
      refine .cons ?_ (ih hrest)
      rcases hd with rfl | rfl
      · exact hc
      · exact Or.inr rfl

theorem IsShown.eq_of_forall_ne (h : IsShown m t) (hspace : ∀ c ∈ m, c ≠ ' ') : m = t := by
  induction h with
  | nil => rfl
  | cons hd _ ih =>
    obtain ⟨hne, hrest⟩ := List.forall_mem_cons.mp hspace
    rw [hd.resolve_right hne, ih hrest]

/-- What is seen stands in the text itself where the spaces would show. -/
theorem IsShown.slice_eq {u w v : Text} {p : Char → Bool} (h : IsShown (u ++ w ++ v) t)
    (hall : ∀ c ∈ w, p c = true) (hspace : p ' ' = false) :
    t.slice u.length (u.length + w.length) = w := by
  rw [List.append_assoc] at h
  have hpiece := List.forall₂_take w.length (List.forall₂_drop u.length h)
  rw [List.drop_left, List.take_left] at hpiece
  rw [slice, Nat.add_sub_cancel_left]
  refine (IsShown.eq_of_forall_ne hpiece fun c hc e => ?_).symm
  have hc := hall c hc
  rw [e, hspace] at hc
  cases hc

theorem IsShown.add_length_le {u w v : Text} (h : IsShown (u ++ w ++ v) t) :
    u.length + w.length ≤ t.length := by
  rw [← h.length_eq, List.length_append, List.length_append]
  exact Nat.le_add_right _ _

theorem isShown_zipWith_maskChar {kinds : List Lexicon.Kind} (h : kinds.length = t.length) :
    IsShown (List.zipWith Comment.maskChar kinds t) t := by
  induction t generalizing kinds with
  | nil =>
    rw [List.zipWith_nil_right]
    exact .nil
  | cons c t ih =>
    obtain ⟨kind, kinds, rfl⟩ := List.exists_cons_of_length_eq_add_one h
    exact .cons (Comment.maskChar_eq kind c) (ih (Nat.succ.inj h))

theorem isShown_mask (t : Text) : IsShown (Comment.mask t) t := by
  rw [Comment.mask_eq_maskFrom]
  exact isShown_zipWith_maskChar (Lexicon.length_kindsFrom ..)

theorem isShown_blank (t : Text) : IsShown (Literal.blank t) t :=
  Literal.forall₂_blankFrom Literal.isState_none t

/-- Outside comments and literals a text is seen as it is. -/
theorem isShown_blank_mask (t : Text) : IsShown (Literal.blank (Comment.mask t)) t :=
  (isShown_blank _).trans (isShown_mask t)

end Seen

namespace Document

variable {m t : Text}

/-- The lines of a masked text are those of the text. -/
theorem sameFeeds_keepBreaks (h : IsShown m t) : SameFeeds (keepBreaks t m) t := by
  induction h with
  | nil => exact .nil
  | @cons d c _ _ hd _ ih =>
    refine .cons ?_ ih
    dsimp only
    split_ifs with hbreak
    · rfl
    · rcases hd with rfl | rfl
      · rfl
      · have hc : c ≠ '\n' := fun e => hbreak (e ▸ rfl)
        simp [hc]

theorem isShown_keepBreaks (h : IsShown m t) : IsShown (keepBreaks t m) t := by
  induction h with
  | nil => exact .nil
  | cons hd _ ih =>
    refine .cons ?_ ih
    dsimp only
    split_ifs
    · exact Or.inl rfl
    · exact hd

/-- Its words are those that are seen. -/
theorem sameWords_keepBreaks (h : IsShown m t) : SameWords (keepBreaks t m) m := by
  induction h with
  | nil => exact .nil
  | @cons d c _ _ hd _ ih =>
    refine .cons ?_ ih
    dsimp only
    split_ifs with hbreak
    · have hc := isWordChar_eq_false_of_isSpace (isSpace_of_isLineBreak hbreak)
      refine Or.inr ⟨hc, ?_⟩
      rcases hd with rfl | rfl
      · exact hc
      · decide
    · exact Or.inl rfl

/-- The text whose lines are looked at: what is seen of it, with its line breaks. -/
def masked (t : Text) : Text :=
  keepBreaks t (Literal.blank (Comment.mask t))

theorem sameFeeds_masked (t : Text) : SameFeeds (masked t) t :=
  sameFeeds_keepBreaks (isShown_blank_mask t)

theorem sameWords_masked (t : Text) : SameWords (masked t) (Literal.blank (Comment.mask t)) :=
  sameWords_keepBreaks (isShown_blank_mask t)

end Document

namespace Warning

variable {t l r w : Text} {i : Nat} {k : Text} {ws : List Warning}

/-! ### Keywords in their places -/

/-- The keywords of a text that are not allowed, each with the offset where it starts. -/
def keywordsIn (t : Text) : List (Nat × Text) :=
  t.wordStarts.filterMap fun rest =>
    (keywords.find? (isKeyword · rest.firstWord)).map (t.length - rest.length, ·)

/-- A word is one keyword at most. -/
theorem find?_isKeyword_iff :
    keywords.find? (isKeyword · w) = some k ↔ k ∈ keywords ∧ isKeyword k w = true := by
  constructor
  · intro h
    exact ⟨List.mem_of_find?_eq_some h, List.find?_some (p := (isKeyword · w)) h⟩
  · rintro ⟨hk, hw⟩
    cases hfind : keywords.find? (isKeyword · w) with
    | none => exact absurd hw (List.find?_eq_none.mp hfind k hk)
    | some k' =>
      have hw' : isKeyword k' w = true := List.find?_some (p := (isKeyword · w)) hfind
      rw [← beq_iff_eq.mp hw, ← beq_iff_eq.mp hw']

theorem ne_nil_of_isKeyword (hk : k ∈ keywords) (hw : isKeyword k w = true) : w ≠ [] := by
  rintro rfl
  have hne : ∀ k ∈ keywords, k ≠ [] := by decide
  exact hne k hk (beq_iff_eq.mp hw).symm

theorem mem_keywordsIn_iff :
    (i, k) ∈ keywordsIn t ↔
      k ∈ keywords ∧ ∃ w, IsRun isWordChar t i w ∧ isKeyword k w = true := by
  rw [keywordsIn, List.mem_filterMap]
  constructor
  · rintro ⟨x, hx, hfind⟩
    obtain ⟨k', hk, he⟩ := Option.map_eq_some_iff.mp hfind
    obtain ⟨rfl, rfl⟩ := Prod.mk.inj he
    obtain ⟨hmem, hw⟩ := find?_isKeyword_iff.mp hk
    exact ⟨hmem, firstWord x, (isRun_of_mem_wordStarts hx).1, hw⟩
  · rintro ⟨hk, w, hrun, hw⟩
    obtain ⟨x, hx, rfl, rfl⟩ := exists_mem_wordStarts hrun (ne_nil_of_isKeyword hk hw)
    exact ⟨x, hx, by rw [find?_isKeyword_iff.mpr ⟨hk, hw⟩]; rfl⟩

theorem pairwise_keywordsIn (t : Text) : (keywordsIn t).Pairwise (·.1 < ·.1) := by
  have hstarts : t.wordStarts.Pairwise fun x y => t.length - x.length < t.length - y.length := by
    refine (pairwise_wordStarts t).imp_of_mem fun {x y} hx _ hlt => ?_
    have hle := (suffix_of_mem_wordStarts hx).1.length_le
    omega
  refine hstarts.filterMap _ fun x y hlt p hp q hq => ?_
  obtain ⟨_, -, rfl⟩ := Option.map_eq_some_iff.mp hp
  obtain ⟨_, -, rfl⟩ := Option.map_eq_some_iff.mp hq
  exact hlt

theorem offset_le_of_mem_keywordsIn {p : Nat × Text} (hp : p ∈ keywordsIn t) : p.1 ≤ t.length := by
  obtain ⟨x, -, hx⟩ := List.mem_filterMap.mp hp
  obtain ⟨_, -, rfl⟩ := Option.map_eq_some_iff.mp hx
  exact Nat.sub_le _ _

/-! ### From line to line -/

/-- The keywords of a text are those of its first line and those behind it. -/
theorem keywordsIn_append_feed (l r : Text) :
    keywordsIn (l ++ '\n' :: r) =
      keywordsIn l ++ (keywordsIn r).map fun p => (l.length + 1 + p.1, p.2) := by
  have hfeed : isWordChar '\n' = false := by decide
  have hapart : Apart l ('\n' :: r) := Or.inr hfeed
  have hrest : wordStarts ('\n' :: r) = wordStarts r :=
    wordStartsFrom_no_word_append (List.cons_ne_nil '\n' []) (by simpa using hfeed) false r
  rw [keywordsIn, wordStarts_append hapart, hrest, List.filterMap_append, List.filterMap_map,
    keywordsIn, keywordsIn, List.map_filterMap]
  refine congrArg₂ (· ++ ·) (List.filterMap_congr fun x hx => ?_)
    (List.filterMap_congr fun x hx => ?_)
  · have hlength : (l ++ '\n' :: r).length - (x ++ '\n' :: r).length = l.length - x.length := by
      rw [List.length_append, List.length_append]
      omega
    rw [Function.comp_apply, firstWord_append hapart hx, hlength]
  · have hle := (suffix_of_mem_wordStarts hx).1.length_le
    have hlength : (l ++ '\n' :: r).length - x.length = l.length + 1 + (r.length - x.length) := by
      rw [List.length_append, List.length_cons]
      omega
    rw [Option.map_map, hlength]
    rfl

/-- The warning about a keyword at an offset of a text. -/
def ofPlace (t : Text) (p : Nat × Text) : Warning where
  line := lineAt t p.1
  column := columnAt t p.1
  endColumn := columnAt t p.1 + p.2.length
  keyword := p.2

/-- The warning a number of lines further down. -/
def below (n : Nat) (w : Warning) : Warning :=
  { w with line := n + w.line }

theorem inLine_eq (h : '\n' ∉ l) (n : Nat) :
    inLine n l = (keywordsIn l).map fun p => below n (ofPlace l p) := by
  rw [inLine, keywordsIn, List.map_filterMap]
  refine List.filterMap_congr fun x _ => ?_
  rw [Option.map_map]
  refine congrArg (Option.map · _) (funext fun k => ?_)
  simp only [Function.comp_apply, below, ofPlace, lineAt_of_not_mem h, columnAt_of_not_mem h]

/-- Going through the lines of a text meets its keywords in their places. -/
theorem flatMap_inLine (t : Text) (n : Nat) :
    ((t.split '\n').zipIdx n).flatMap (fun p => inLine p.2 p.1) =
      (keywordsIn t).map fun p => below n (ofPlace t p) := by
  induction t using lineInduction generalizing n with
  | last l hl =>
    rw [split_of_not_mem hl, List.zipIdx_singleton, List.flatMap_singleton, inLine_eq hl]
  | line l r hl ih =>
    rw [split_append_cons hl, List.zipIdx_cons, List.flatMap_cons, ih, inLine_eq hl,
      keywordsIn_append_feed, List.map_append, List.map_map]
    refine congrArg₂ (· ++ ·) (List.map_congr_left fun p hp => ?_)
      (List.map_congr_left fun p hp => ?_)
    · have hle := offset_le_of_mem_keywordsIn hp
      rw [ofPlace, ofPlace, lineAt_append hle, columnAt_append hle]
    · simp only [Function.comp_apply, below, ofPlace, lineAt_append_feed hl, columnAt_append_feed]
      congr 1
      omega

/-! ### Reports -/

/-- A keyword that is not allowed stands in the text from the offset on, outside comments and
literals. -/
def IsForbiddenAt (t : Text) (i : Nat) (k : Text) : Prop :=
  k ∈ keywords ∧ ∃ w, IsRun isWordChar (Literal.blank (Comment.mask t)) i w ∧ isKeyword k w = true

/-- The warnings tell of each forbidden keyword of the text once, in text order. -/
def IsReport (t : Text) (ws : List Warning) : Prop :=
  ∃ places : List (Nat × Text), places.Pairwise (·.1 < ·.1) ∧
    (∀ i k, (i, k) ∈ places ↔ IsForbiddenAt t i k) ∧ ws = places.map (ofPlace t)

/-- There is one report about a text. -/
theorem IsReport.unique {vs : List Warning} (hv : IsReport t vs) (hw : IsReport t ws) :
    vs = ws := by
  obtain ⟨ps, hps, hps', rfl⟩ := hv
  obtain ⟨qs, hqs, hqs', rfl⟩ := hw
  have hirrefl : Std.Irrefl fun p q : Nat × Text => p.1 < q.1 := ⟨fun p => Nat.lt_irrefl p.1⟩
  have hantisymm : Std.Antisymm fun p q : Nat × Text => p.1 < q.1 :=
    ⟨fun _ _ h h' => absurd h' (Nat.lt_asymm h)⟩
  have hmem : ∀ p, p ∈ ps ↔ p ∈ qs := fun p => (hps' p.1 p.2).trans (hqs' p.1 p.2).symm
  rw [hps.eq_of_mem_iff hqs hmem]

/-- Nothing is reported about a text without forbidden keywords, and only about such a text. -/
theorem IsReport.ne_nil_iff (hw : IsReport t ws) : ws ≠ [] ↔ ∃ i k, IsForbiddenAt t i k := by
  obtain ⟨ps, -, hps, rfl⟩ := hw
  rw [Ne, List.map_eq_nil_iff, List.eq_nil_iff_forall_not_mem, not_forall, Prod.exists]
  simp only [not_not, hps]

/-- What is found in some lines is a report about the lines joined. -/
theorem isReport_scan (ls : List Text) : IsReport (join ['\n'] ls) (scan ls) := by
  refine ⟨keywordsIn (Document.masked (join ['\n'] ls)), pairwise_keywordsIn _, fun i k => ?_, ?_⟩
  · rw [mem_keywordsIn_iff, IsForbiddenAt]
    simp only [(Document.sameWords_masked _).isRun_iff]
  · refine (flatMap_inLine (Document.masked (join ['\n'] ls)) 0).trans ?_
    refine List.map_congr_left fun p _ => ?_
    simp only [below, ofPlace, (Document.sameFeeds_masked _).lineAt_eq,
      (Document.sameFeeds_masked _).columnAt_eq, Nat.zero_add]

/-- Behind a line feed at the end of a text nothing is seen but the line feed or a space. -/
theorem exists_blank_mask_append_feed (h : '\r' ∉ t) :
    ∃ c, isWordChar c = false ∧
      Literal.blank (Comment.mask (t ++ ['\n'])) = Literal.blank (Comment.mask t) ++ [c] := by
  rw [Comment.mask_append_feed h, Literal.blank,
    Literal.blankFrom_append Literal.isState_none _ rfl]
  cases Literal.openQuoteFrom none (Comment.mask t) with
  | none => exact ⟨'\n', by decide, rfl⟩
  | some q =>
    refine ⟨if '\n' = q then '\n' else ' ', ?_, rfl⟩
    split_ifs
    · decide
    · decide

theorem isForbiddenAt_append_feed (h : '\r' ∉ t) :
    IsForbiddenAt (t ++ ['\n']) i k ↔ IsForbiddenAt t i k := by
  obtain ⟨c, hc, hseen⟩ := exists_blank_mask_append_feed h
  rw [IsForbiddenAt, hseen]
  refine and_congr_right fun hk => exists_congr fun w => and_congr_left fun hw => ?_
  exact isRun_concat_iff hc (ne_nil_of_isKeyword hk hw)

theorem IsForbiddenAt.offset_le (h : IsForbiddenAt t i k) : i ≤ t.length := by
  obtain ⟨-, w, ⟨⟨u, v, hsplit, rfl, -⟩, -⟩, -⟩ := h
  rw [← (isShown_blank_mask t).length_eq, hsplit, List.length_append, List.length_append]
  omega

/-- A line feed at the end of a text starts no line for the report. -/
theorem IsReport.append_feed (h : '\r' ∉ t) (hw : IsReport t ws) : IsReport (t ++ ['\n']) ws := by
  obtain ⟨places, hordered, hplaces, rfl⟩ := hw
  refine ⟨places, hordered, fun i k => ?_, List.map_congr_left fun p hp => ?_⟩
  · rw [hplaces, isForbiddenAt_append_feed h]
  · have hle := ((hplaces p.1 p.2).mp hp).offset_le
    rw [ofPlace, ofPlace, lineAt_append hle, columnAt_append hle]

/-- The warnings about a text are a report about it with its line ends written alike. -/
theorem isReport_warnings (h : '\r' ∉ t) : IsReport (evenBreaks t) (CommandLine.warnings t) := by
  have hscan := isReport_scan t.lines
  rw [join_lines h] at hscan
  by_cases hlast : (evenBreaks t).getLast? = some '\n'
  · obtain ⟨u, hu⟩ := List.getLast?_eq_some_iff.mp hlast
    have hreturn : '\r' ∉ u := fun hmem =>
      return_not_mem_evenBreaks t (hu ▸ List.mem_append_left _ hmem)
    rw [hu, dropFinalBreak_concat] at hscan
    rw [hu]
    exact hscan.append_feed hreturn
  · rwa [dropFinalBreak_of_getLast?_ne hlast] at hscan

end Warning

namespace CommandLine

open Warning

variable {w : World} {file t : Text} {ws : List Warning}

/-! ### The command -/

/-- A text that has been read has no carriage returns. -/
theorem return_not_mem_of_readText (h : (readText w file).result = .ok t) : '\r' ∉ t := by
  have hdecoded : ∀ bytes, (Report.ofExcept .encoding (Utf8.decode bytes) >>= fun u =>
      (pure u.unifyBreaks : Report Text)).result = .ok t → '\r' ∉ t := by
    intro bytes h
    obtain ⟨u, -, h⟩ := Report.exists_of_bind_eq_ok h
    obtain rfl := Except.ok.inj h
    exact return_not_mem_unifyBreaks u
  rw [readText] at h
  split_ifs at h
  · obtain ⟨bytes, -, h⟩ := Report.exists_of_bind_eq_ok h
    exact hdecoded bytes h
  · obtain ⟨bytes, -, h⟩ := Report.exists_of_bind_eq_ok h
    exact hdecoded bytes h

/-- The command prints the warnings in the format that was asked for, and fails if there are any. -/
structure Prints (file : Text) (format : Format) (ws : List Warning) (o : Outcome) : Prop where
  /-- The records of the warnings are printed, or lines that name the file. -/
  output : o.output = (Output.inFormat format (.array (ws.map Warning.record))
    (lintLines (if file = ['-'] then "<stdin>".toList else file) ws)).text
  /-- Nothing goes to standard error. -/
  errors : o.errors = []
  /-- The exit code tells whether there are warnings. -/
  code : o.code = if ws = [] then 0 else 1

theorem prints_lint (h : (readText w file).result = .ok t) (format : Format) (verbose : Bool) :
    Prints file format (warnings t) (.ofReport verbose ((Command.lint file format).run w)) := by
  let o : Output := .inFormat format (.array ((warnings t).map Warning.record))
    (lintLines (if file = ['-'] then "<stdin>".toList else file) (warnings t))
  have hresult : ((Command.lint file format).run w).result =
      .ok { o with hasComplaints := !(warnings t).isEmpty } := by
    rw [Command.run, lint, Report.result_bind h]
    rfl
  rw [Outcome.ofReport, hresult]
  refine ⟨rfl, rfl, ?_⟩
  cases warnings t with
  | nil => rfl
  | cons v vs => rfl

/-- **What lint reports**: the warnings are a report about the text that was read, with its line
ends written alike, and the command fails if there is anything to report. Where only line feeds end
lines, that is the text itself. -/
theorem lint_reports (h : (readText w file).result = .ok t) (format : Format) (verbose : Bool) :
    ∃ ws, Prints file format ws (.ofReport verbose ((Command.lint file format).run w)) ∧
      IsReport (evenBreaks t) ws ∧
      ((∀ c ∈ t, endsLine c = true → c = '\n') → IsReport t ws ∧
        ((Outcome.ofReport verbose ((Command.lint file format).run w)).code = 1 ↔
          ∃ i k, IsForbiddenAt t i k)) := by
  have hprints := prints_lint h format verbose
  have hreport := isReport_warnings (return_not_mem_of_readText h)
  refine ⟨warnings t, hprints, hreport, fun hbreaks => ?_⟩
  rw [evenBreaks_of_forall hbreaks] at hreport
  refine ⟨hreport, ?_⟩
  rw [← hreport.ne_nil_iff, hprints.code]
  split_ifs with hnil
  · simp [hnil]
  · simp [hnil]

/-- A world in which a text is the standard input. -/
def World.ofInput (t : Text) : World where
  site := { directory := ⟨[], []⟩ }
  disk := {}
  input := Utf8.encode t

/-- A keyword in the second line of a text that ends with a line feed. -/
theorem lint_reports_second_line :
    ∃ ws, Prints ['-'] .json ws (.ofReport false ((Command.lint ['-'] .json).run
        (.ofInput "SELECT 1;\ndrop TABLE T\n".toList))) ∧
      IsReport "SELECT 1;\ndrop TABLE T\n".toList ws := by
  have hread : (readText (.ofInput "SELECT 1;\ndrop TABLE T\n".toList) ['-']).result =
      .ok "SELECT 1;\ndrop TABLE T\n".toList := rfl
  obtain ⟨ws, hprints, -, hreport⟩ := lint_reports hread .json false
  exact ⟨ws, hprints, (hreport (by decide)).1⟩

/-- Behind a form feed a line comment is taken to have ended, and what it says is reported although
nothing is forbidden; and a form feed counts as the end of a line that the text does not have. -/
theorem lint_form_feed :
    ((Outcome.ofReport false ((Command.lint ['-'] .text).run
        (.ofInput "-- a\x0cDROP TABLE T".toList))).code = 1 ∧
      ¬ ∃ i k, IsForbiddenAt "-- a\x0cDROP TABLE T".toList i k) ∧
    (warnings "SELECT 1\x0c\nDROP TABLE T".toList = [⟨3, 1, 5, "DROP".toList⟩] ∧
      ¬ IsReport "SELECT 1\x0c\nDROP TABLE T".toList
        (warnings "SELECT 1\x0c\nDROP TABLE T".toList)) := by
  have hseen : Literal.blank (Comment.mask "-- a\x0cDROP TABLE T".toList) =
      List.replicate 17 ' ' := by decide
  have hwarnings : warnings "SELECT 1\x0c\nDROP TABLE T".toList =
      [⟨3, 1, 5, "DROP".toList⟩] := by decide
  refine ⟨⟨rfl, ?_⟩, hwarnings, ?_⟩
  · rintro ⟨i, k, hk, w, ⟨⟨u, v, hsplit, -⟩, hall⟩, hw⟩
    obtain ⟨c, hc⟩ := List.exists_mem_of_ne_nil w (ne_nil_of_isKeyword hk hw)
    have hspace : c = ' ' := by
      refine List.eq_of_mem_replicate (n := 17) ?_
      rw [← hseen, hsplit]
      exact List.mem_append_left _ (List.mem_append_right _ hc)
    exact absurd (hall c hc) (by rw [hspace]; decide)
  · rintro ⟨places, -, -, hplaces⟩
    have hmem : (⟨3, 1, 5, "DROP".toList⟩ : Warning) ∈
        places.map (ofPlace "SELECT 1\x0c\nDROP TABLE T".toList) := by
      rw [← hplaces, hwarnings]
      exact List.mem_cons_self
    obtain ⟨p, -, hp⟩ := List.mem_map.mp hmem
    have hline : lineAt "SELECT 1\x0c\nDROP TABLE T".toList p.1 = 3 := congrArg Warning.line hp
    have hle := lineAt_le "SELECT 1\x0c\nDROP TABLE T".toList p.1
    rw [hline] at hle
    exact absurd hle (by decide)

end CommandLine

end SqlAssist
