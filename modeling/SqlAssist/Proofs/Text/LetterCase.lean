import SqlAssist.Proofs.Text.Characters
import Mathlib.Data.List.TakeWhile

/-!
# The case of ASCII letters

`capitals` puts the ASCII letters of a text in capitals and keeps all else; two texts that differ in
the case of ASCII letters only have the same capitals (`SameLetters`). A property of characters
that does not tell small letters from capitals (`IgnoresCase`) is checked for the small letters
alone. Of every scan of a text there is one lemma here: what it finds in the capitals are the
capitals of what it finds, and a test has the same outcome. Upper case and the comparison with
keywords go further than `capitals` and do not see it.
-/

namespace SqlAssist.Text

variable {α : Type} {c d : Char} {s t : Text}

/-- The text with its ASCII letters in capitals. -/
def capitals (t : Text) : Text :=
  t.map Char.toUpper

/-- The texts differ in the case of ASCII letters only. -/
def SameLetters (s t : Text) : Prop := s.capitals = t.capitals

instance (s t : Text) : Decidable (SameLetters s t) := inferInstanceAs (Decidable (_ = _))

/-! ### Characters -/

/-- The small letters of ASCII. -/
def smallLetters : List Char :=
  "abcdefghijklmnopqrstuvwxyz".toList

/-- What is said of a character does not depend on the case of an ASCII letter. -/
def IgnoresCase (f : Char → α) : Prop := ∀ c, f c.toUpper = f c

theorem toUpper_of_not_mem (h : c ∉ smallLetters) : c.toUpper = c := by
  refine dif_neg fun ⟨hlow, hhigh⟩ => h ?_
  have hcode : c.toNat - 97 < 26 := by
    have hlow : 97 ≤ c.toNat := hlow
    have hhigh : c.toNat ≤ 122 := hhigh
    omega
  have hall : ∀ n < 26, Char.ofNat (97 + n) ∈ smallLetters := by decide
  have := hall _ hcode
  have hlow : 97 ≤ c.toNat := hlow
  rwa [Nat.add_sub_cancel' hlow, Char.ofNat_toNat] at this

/-- Only small letters have to be checked. -/
theorem ignoresCase_of_forall {f : Char → α} (h : ∀ c ∈ smallLetters, f c.toUpper = f c) :
    IgnoresCase f := by
  intro c
  by_cases hc : c ∈ smallLetters
  · exact h c hc
  · rw [toUpper_of_not_mem hc]

theorem toUpper_eq_iff (hd : d.isAlpha = false) : c.toUpper = d ↔ c = d := by
  by_cases hc : c ∈ smallLetters
  · have hletters : ∀ c ∈ smallLetters, c.isAlpha = true ∧ c.toUpper.isAlpha = true := by decide
    obtain ⟨hsmall, hcapital⟩ := hletters c hc
    constructor
    · rintro rfl
      exact absurd (hcapital.symm.trans hd) (by decide)
    · rintro rfl
      exact absurd (hsmall.symm.trans hd) (by decide)
  · rw [toUpper_of_not_mem hc]

theorem any_map_toUpper {p : Char → Bool} (hp : IgnoresCase p) (c : Option Char) :
    (c.map Char.toUpper).any p = c.any p := by
  cases c with
  | none => rfl
  | some c => exact hp c

/-- What the tables say of a small letter they say of its capital. -/
theorem tables_of_mem_smallLetters : ∀ c ∈ smallLetters, isWordChar c.toUpper = isWordChar c ∧
    isSpace c.toUpper = isSpace c ∧ upperChar c.toUpper = upperChar c := by
  decide

theorem ignoresCase_isWordChar : IgnoresCase isWordChar :=
  ignoresCase_of_forall fun c hc => (tables_of_mem_smallLetters c hc).1

theorem ignoresCase_isNameChar : IgnoresCase isNameChar := fun c => by
  simp only [isNameChar, ignoresCase_isWordChar c, toUpper_eq_iff (d := '$') rfl]

theorem ignoresCase_isPathChar : IgnoresCase isPathChar := fun c => by
  simp only [isPathChar, ignoresCase_isNameChar c, toUpper_eq_iff (d := '.') rfl]

theorem ignoresCase_isSpace : IgnoresCase isSpace :=
  ignoresCase_of_forall fun c hc => (tables_of_mem_smallLetters c hc).2.1

theorem ignoresCase_upperChar : IgnoresCase upperChar :=
  ignoresCase_of_forall fun c hc => (tables_of_mem_smallLetters c hc).2.2

theorem ignoresCase_letterKey : IgnoresCase letterKey :=
  ignoresCase_of_forall (by decide)

theorem ignoresCase_blankChar : IgnoresCase blankChar :=
  ignoresCase_of_forall (by decide)

@[simp] theorem toUpper_blankChar (c : Char) : (blankChar c).toUpper = blankChar c := by
  rw [blankChar]
  split_ifs with h
  · rcases (Bool.or_eq_true _ _).mp h with h | h
    · rw [of_decide_eq_true h]
      rfl
    · rw [of_decide_eq_true h]
      rfl
  · rfl

/-! ### Parts of a text -/

@[simp] theorem capitals_cons (c : Char) (t : Text) : capitals (c :: t) = c.toUpper :: t.capitals := rfl

@[simp] theorem capitals_append (s t : Text) : capitals (s ++ t) = s.capitals ++ t.capitals :=
  List.map_append

@[simp] theorem length_capitals (t : Text) : t.capitals.length = t.length := List.length_map _

@[simp] theorem capitals_eq_nil_iff : t.capitals = [] ↔ t = [] := List.map_eq_nil_iff

@[simp] theorem isEmpty_capitals (t : Text) : t.capitals.isEmpty = t.isEmpty := List.isEmpty_map

@[simp] theorem reverse_capitals (t : Text) : t.capitals.reverse = capitals t.reverse :=
  List.map_reverse.symm

@[simp] theorem take_capitals (n : Nat) (t : Text) : t.capitals.take n = capitals (t.take n) :=
  List.map_take.symm

@[simp] theorem drop_capitals (n : Nat) (t : Text) : t.capitals.drop n = capitals (t.drop n) :=
  List.map_drop.symm

theorem slice_capitals (t : Text) (start stop : Nat) :
    t.capitals.slice start stop = capitals (t.slice start stop) := by
  simp [slice]

section Runs

variable {p : Char → Bool}

theorem any_head?_capitals (hp : IgnoresCase p) (t : Text) :
    t.capitals.head?.any p = t.head?.any p := by
  rw [capitals, List.head?_map, any_map_toUpper hp]

theorem any_getLast?_capitals (hp : IgnoresCase p) (t : Text) :
    t.capitals.getLast?.any p = t.getLast?.any p := by
  rw [capitals, List.getLast?_map, any_map_toUpper hp]

theorem all_capitals (hp : IgnoresCase p) (t : Text) : t.capitals.all p = t.all p := by
  rw [capitals, List.all_map]
  exact congrArg t.all (funext hp)

theorem takeWhile_capitals (hp : IgnoresCase p) (t : Text) :
    t.capitals.takeWhile p = capitals (t.takeWhile p) := by
  rw [capitals, List.takeWhile_map]
  exact congrArg (fun p => capitals (t.takeWhile p)) (funext hp)

theorem dropWhile_capitals (hp : IgnoresCase p) (t : Text) :
    t.capitals.dropWhile p = capitals (t.dropWhile p) := by
  rw [capitals, List.dropWhile_map]
  exact congrArg (fun p => capitals (t.dropWhile p)) (funext hp)

theorem takeWhileEnd_capitals (hp : IgnoresCase p) (t : Text) :
    t.capitals.takeWhileEnd p = capitals (t.takeWhileEnd p) := by
  rw [takeWhileEnd, reverse_capitals, takeWhile_capitals hp, reverse_capitals]
  rfl

theorem dropWhileEnd_capitals (hp : IgnoresCase p) (t : Text) :
    t.capitals.dropWhileEnd p = capitals (t.dropWhileEnd p) := by
  rw [dropWhileEnd, reverse_capitals, dropWhile_capitals hp, reverse_capitals]
  rfl

end Runs

/-! ### Characters that are no letters -/

theorem firstOffset_capitals (hd : d.isAlpha = false) (t : Text) :
    firstOffset d t.capitals = firstOffset d t := by
  have hp : IgnoresCase fun c => decide (c ≠ d) := fun c =>
    decide_eq_decide.mpr (not_congr (toUpper_eq_iff hd))
  rw [firstOffset, takeWhile_capitals hp, length_capitals]
  rfl

theorem lastOffset_capitals (hd : d.isAlpha = false) (t : Text) :
    lastOffset d t.capitals = lastOffset d t := by
  induction t with
  | nil => rfl
  | cons c t ih => simp only [capitals_cons, lastOffset, ih, toUpper_eq_iff hd]

theorem split_capitals (hd : d.isAlpha = false) (t : Text) :
    split d t.capitals = (split d t).map capitals := by
  induction t with
  | nil => rfl
  | cons c t ih =>
    simp only [capitals_cons, split, ih, toUpper_eq_iff hd]
    by_cases hc : c = d
    · rw [if_pos hc, if_pos hc]
      rfl
    · rw [if_neg hc, if_neg hc]
      cases split d t <;> rfl

theorem isPrefixOf_capitals {p : Text} (hp : ∀ d ∈ p, d.isAlpha = false) (t : Text) :
    p.isPrefixOf t.capitals = p.isPrefixOf t := by
  induction p generalizing t with
  | nil => rfl
  | cons d p ih =>
    obtain ⟨hd, hp⟩ := List.forall_mem_cons.mp hp
    cases t with
    | nil => rfl
    | cons c t =>
      have hc : (d == c.toUpper) = (d == c) := by
        rw [Bool.eq_iff_iff, beq_iff_eq, beq_iff_eq, eq_comm, toUpper_eq_iff hd, eq_comm]
      rw [capitals_cons, List.isPrefixOf, List.isPrefixOf, hc, ih hp]

theorem hasInfix_capitals {p : Text} (hp : ∀ d ∈ p, d.isAlpha = false) (t : Text) :
    hasInfix p t.capitals = hasInfix p t := by
  induction t with
  | nil => rfl
  | cons c t ih =>
    rw [capitals_cons, hasInfix, hasInfix, ih, ← capitals_cons, isPrefixOf_capitals hp]

@[simp] theorem dropFinalBreak_capitals (t : Text) :
    dropFinalBreak t.capitals = capitals t.dropFinalBreak := by
  have hlast : t.capitals.getLast? = some '\n' ↔ t.getLast? = some '\n' := by
    rw [capitals, List.getLast?_map, Option.map_eq_some_iff]
    simp only [toUpper_eq_iff (d := '\n') rfl, exists_eq_right]
  simp only [dropFinalBreak, hlast]
  split_ifs
  · exact List.map_dropLast.symm
  · rfl

/-! ### White space and words -/

@[simp] theorem trimStart_capitals (t : Text) : t.capitals.trimStart = capitals t.trimStart :=
  dropWhile_capitals ignoresCase_isSpace t

@[simp] theorem trim_capitals (t : Text) : t.capitals.trim = capitals t.trim := by
  rw [trim, trimStart_capitals]
  exact dropWhileEnd_capitals ignoresCase_isSpace _

theorem collapseFrom_capitals (inRun : Bool) (t : Text) :
    collapseFrom inRun t.capitals = capitals (collapseFrom inRun t) := by
  induction t generalizing inRun with
  | nil => rfl
  | cons c t ih =>
    rw [capitals_cons, collapseFrom, collapseFrom, ignoresCase_isSpace c, ih, ih]
    split_ifs <;> rfl

@[simp] theorem collapseSpace_capitals (t : Text) : t.capitals.collapseSpace = capitals t.collapseSpace :=
  collapseFrom_capitals false t

@[simp] theorem firstWord_capitals (t : Text) : t.capitals.firstWord = capitals t.firstWord :=
  takeWhile_capitals ignoresCase_isWordChar t

@[simp] theorem afterWord_capitals (t : Text) : t.capitals.afterWord = capitals t.afterWord :=
  dropWhile_capitals ignoresCase_isWordChar t

theorem wordStartsFrom_capitals (inWord : Bool) (t : Text) :
    wordStartsFrom inWord t.capitals = (wordStartsFrom inWord t).map capitals := by
  induction t generalizing inWord with
  | nil => rfl
  | cons c t ih =>
    rw [capitals_cons, wordStartsFrom, wordStartsFrom, ignoresCase_isWordChar c, ih, ih]
    split_ifs <;> rfl

@[simp] theorem wordStarts_capitals (t : Text) : t.capitals.wordStarts = t.wordStarts.map capitals :=
  wordStartsFrom_capitals false t

@[simp] theorem isKeyword_capitals (k w : Text) : isKeyword k w.capitals = isKeyword k w := by
  rw [isKeyword, isKeyword, capitals, List.map_map]
  exact congrArg (· == k) (List.map_congr_left fun c _ => ignoresCase_letterKey c)

@[simp] theorem afterKeywords?_capitals (ks : List Text) (t : Text) :
    afterKeywords? ks t.capitals = (afterKeywords? ks t).map capitals := by
  induction ks generalizing t with
  | nil => rfl
  | cons k ks ih =>
    simp only [afterKeywords?, firstWord_capitals, afterWord_capitals, isKeyword_capitals,
      any_head?_capitals ignoresCase_isSpace, trimStart_capitals, ih]
    split_ifs <;> rfl

@[simp] theorem afterEachKeywords_capitals (ks : List Text) (t : Text) :
    afterEachKeywords ks t.capitals = (afterEachKeywords ks t).map capitals := by
  rw [afterEachKeywords, wordStarts_capitals, List.filterMap_map, afterEachKeywords, List.map_filterMap]
  exact List.filterMap_congr fun x _ => afterKeywords?_capitals ks x

@[simp] theorem lastPath_capitals (t : Text) : t.capitals.lastPath = capitals t.lastPath := by
  rw [lastPath, dropFinalBreak_capitals, takeWhileEnd_capitals ignoresCase_isPathChar]
  rfl

/-! ### Upper case -/

@[simp] theorem upper_capitals (t : Text) : t.capitals.upper = t.upper := by
  rw [upper, capitals, List.flatMap_map]
  exact List.flatMap_congr fun c _ => ignoresCase_upperChar c

theorem SameLetters.upper_eq (h : SameLetters s t) : s.upper = t.upper := by
  rw [← upper_capitals s, h, upper_capitals]

end SqlAssist.Text
